import Precedents.Proofs.Formula.Exchange

/-!
# Formulas put together

A formula without a fault is read the same with a separator and any other text behind it, and inside
parentheses, braces or a function call. What follows a separator is read as if it stood alone, so
the reading of the whole is told from the readings of its parts, with the places moved
(`read_composed`).
-/

namespace Precedents

/-- The stretch as it lies `n` bytes further on. -/
def Formula.Span.after (n : Nat) (s : Formula.Span) : Formula.Span := ⟨n + s.start, n + s.stop⟩

/-- The reference as it lies `n` bytes further on. -/
def Formula.Located.after (n : Nat) (l : Formula.Located) : Formula.Located :=
  ⟨l.reference, l.first.after n, l.second.map (·.after n)⟩

/-- The fault as it lies `n` bytes further on. -/
def Formula.ParseError.after (n : Nat) (e : Formula.ParseError) : Formula.ParseError :=
  ⟨n + e.position, e.cause⟩

namespace Formula

variable {ctx ctx' : Context} {c : Char} {t x z : List Char} {ps qs : List Piece} {f : String}

/-! ## Places -/

lemma locate_append (o : Nat) (ps qs : List Piece) :
    locate o (ps ++ qs) = locate o ps ++ locate (o + width (texts ps)) qs := by
  induction ps generalizing o with
  | nil => rfl
  | cons p ps ih =>
    rw [texts_cons, width_append, ← Nat.add_assoc]
    cases p with
    | plain t => exact ih _
    | reference r => exact congrArg (r.locate o :: ·) (ih _)

/-- Beginning further on moves all places. -/
lemma locate_add (n o : Nat) (ps : List Piece) :
    locate (n + o) ps = (locate o ps).map (·.after n) := by
  induction ps generalizing o with
  | nil => rfl
  | cons p ps ih =>
    cases p with
    | plain t =>
      rw [locate, locate, Nat.add_assoc]
      exact ih _
    | reference r =>
      rw [locate, locate, Nat.add_assoc, ih, List.map_cons]
      refine congrArg (· :: _) ?_
      simp only [Reference.locate, Located.after, Span.after, Option.map_map, Nat.add_assoc]
      rfl

/-- Pieces that are no references have no places. -/
lemma locate_plain (o : Nat) (ls : List (List Char)) : locate o (ls.map .plain) = [] := by
  induction ls generalizing o with
  | nil => rfl
  | cons l ls ih => exact ih _

/-- Blanks and an equals sign at the beginning leave the references of a formula where they are. -/
lemma located_read (f : String) : (read f).located = (readFrom .start f.toList).located := by
  obtain ⟨l, r, hr, hf⟩ := read_eq f
  have hl : locate 0 (l.map fun c => Piece.plain [c]) = [] := by
    have h := locate_plain 0 (l.map fun c => [c])
    rwa [List.map_map] at h
  rw [hr, hf, Reading.located, Reading.located, locate_append, hl, texts_singles]
  rfl

/-- Blanks and an equals sign at the beginning leave the fault of a formula where it is. -/
lemma error?_read (f : String) : (read f).error? = (readFrom .start f.toList).error? := by
  obtain ⟨l, r, hr, hf⟩ := read_eq f
  have hp : (read f).position = (readFrom .start f.toList).position := by
    rw [hr, hf, Reading.position, Reading.position, List.flatMap_append]
    exact congrArg (fun t => width (t ++ _)) (texts_singles l).symm
  rw [Reading.error?, Reading.error?, hp, hr, hf]
  rfl

/-! ## Formulas without a fault -/

/-- A formula without a fault is a passage that leaves nothing open. -/
lemma exists_passes (h : (read f).fault = none) :
    ∃ ps ctx', f.toList = texts ps ∧ Passes .start ps [] ctx' ∧ ctx'.plain = .start ∧
      (read f).located = locate 0 ps := by
  obtain ⟨l, r, hr, hf⟩ := read_eq f
  rw [hr] at h
  rw [show r.fault = none from h] at hf
  obtain ⟨ht, ctx', hp, hparens, hbraces⟩ := passes_of_readFrom hf
  refine ⟨_, ctx', ht, hp, ?_, ?_⟩
  · rw [Context.plain, hparens, hbraces]
    rfl
  · rw [located_read, hf]
    rfl

/-- A formula whose text is a passage has no fault, and its references stand where the passage has
them. -/
lemma located_of_passes (ht : f.toList = texts ps) (h : Passes .start ps [] ctx')
    (hctx : ctx'.plain = .start) :
    (read f).error? = none ∧ (read f).located = locate 0 ps := by
  have hread := h.readFrom
  have hnil : readFrom ctx' [] = ⟨[], none⟩ :=
    readFrom_nil (congrArg Context.parens hctx) (congrArg Context.braces hctx)
  rw [List.append_nil, ← ht, hnil, List.append_nil] at hread
  rw [error?_read, located_read, hread]
  exact ⟨rfl, rfl⟩

/-- What follows a passage does not matter if it is exchanged for the end of the text. -/
lemma Passes.follow (h : Passes ctx ps [] ctx') (hx : Exchanges [] x)
    (he : ∀ pre t post, ps = pre ++ .plain t :: post → endsInNumber t = true →
      leadsExponent (texts post ++ x) = true → leadsExponent (texts post) = true) :
    Passes ctx ps x ctx' := by
  refine (h.rewrite ?_).1
  clear h
  induction ps with
  | nil => exact .nil hx
  | cons p ps ih =>
    refine .cons ?_ ?_ (ih ?_)
    · cases p with
      | plain t => exact .plain
      | reference r => exact .moved (.refl r.area)
    · rintro t rfl
      rw [List.append_nil]
      exact he [] t ps rfl
    · rintro pre t post rfl
      exact he (p :: pre) t post rfl

/-- Whether a text ends like a number that has lost its exponent. -/
def EndsInExponent (text : List Char) : Prop :=
  ∃ l d e, text = l ++ [d, e] ∧ inNumber d = true ∧ (e = 'e' ∨ e = 'E')

/-- Characters by which no piece in front of them is taken on. -/
def isDelimiter (c : Char) : Bool := endings.all (fun p => !p c) && c != '\'' && c != ':'

/-- A delimiter ends everything that can be open, and begins neither a quoted name nor a corner. -/
lemma isDelimiter_iff :
    isDelimiter c = true ↔ (∀ p ∈ endings, p c = false) ∧ c ≠ '\'' ∧ c ≠ ':' := by
  simp only [isDelimiter, Bool.and_eq_true, List.all_eq_true, Bool.not_eq_true', bne_iff_ne,
    and_assoc]

/-- What stands before a delimiter can be exchanged. -/
lemma exchanges_delimiter (h : isDelimiter c = true) (z : List Char) : Exchanges [] (c :: z) := by
  obtain ⟨hends, hquote, hne⟩ := isDelimiter_iff.1 h
  have hcolon : leadsWith (· == ':') (c :: z) = false := beq_false_of_ne hne
  have hword : inWord c = false := hends inWord (by simp [endings])
  have hstart : startsWord c = false := by
    rw [Bool.eq_false_iff]
    intro hs
    rw [inWord_of_startsWord hs] at hword
    exact absurd hword (by simp)
  refine ⟨?_, alike_colon_of_leadsWith (fun _ => hword) hstart (beq_false_of_ne hquote)⟩
  exact {
    ends := fun p hp _ => hends p hp
    opens := fun ho => absurd ho Bool.false_ne_true
    range := fun _ => leadsRange_of_leadsWith hcolon
    span := fun _ => spanEnd?_of_leadsWith hcolon
    corner := fun _ _ => corner?_of_leadsWith hcolon }

/-- A passage to the end of the text is one in front of a delimiter. -/
lemma Passes.delimit (h : Passes ctx ps [] ctx') (hc : isDelimiter c = true)
    (hs : c = '+' ∨ c = '-' → ¬EndsInExponent (texts ps)) (z : List Char) :
    Passes ctx ps (c :: z) ctx' := by
  have hends := (isDelimiter_iff.1 hc).1
  have hdigit : c.isDigit = false := hends Char.isDigit (by simp [endings])
  apply h.follow (exchanges_delimiter hc z)
  rintro pre t post rfl ht he
  rw [← List.append_nil (texts post)]
  refine leadsExponent_append ?_ ?_ ?_ he
  · intro h
    exact absurd (hdigit.symm.trans h) (by simp)
  · intro e hpost hexp h
    rw [leadsSigned_cons] at h
    split at h
    case isFalse => exact absurd (hdigit.symm.trans h) (by simp)
    case isTrue hsign =>
      -- Only here the sign would go on with the number that the formula ends in.
      obtain ⟨d, hd, hnumber⟩ := (Option.any_eq_true _ _).1 ht
      obtain ⟨l, rfl⟩ := List.getLast?_eq_some_iff.1 hd
      refine absurd ⟨texts pre ++ l, d, e, ?_, hnumber, hexp⟩ (hs hsign)
      simp [texts_append, texts_cons, Piece.text, hpost]
  · intro _ h
    obtain ⟨rfl | rfl, -⟩ := leadsExponent_cons.1 h
    · exact absurd (hends inErrorTail (by simp [endings])) (by decide)
    · exact absurd (hends inErrorTail (by simp [endings])) (by decide)

/-! ## Separators and enclosures -/

/-- The marks that separate a formula from any text behind it. -/
def separators : List Char := [',', ';', '*', '^', '&', '=', '<', '>']

/-- The characters that separate a formula from any text behind it. A sign does not where it would
be taken for that of an exponent. -/
inductive Separates (f : String) : Char → Prop where
  | mark {c : Char} : c ∈ separators → Separates f c
  | blank {c : Char} : Text.isBlank c = true → Separates f c
  | sign {c : Char} : c = '+' ∨ c = '-' → ¬EndsInExponent f.toList → Separates f c

/-- What may stand around a formula: parentheses, braces, or a call of a function. -/
inductive Encloses : String → String → Prop where
  | parens : Encloses "(" ")"
  | braces : Encloses "\x7b" "\x7d"
  | call {w : String} : IsWord w.toList → Encloses (w ++ "(") ")"

/-- A blank is a delimiter. -/
lemma isDelimiter_of_isBlank (h : Text.isBlank c = true) : isDelimiter c = true := by
  -- The letters and digits are kept away from the blanks by their tables, the marks one by one.
  have hne : c ∉ signs ++ ['.', '_', '\\', '$', '!', '?', '/', ':'] :=
    not_mem_of_all (by decide) h
  simp only [signs, List.cons_append, List.nil_append, List.mem_cons, List.not_mem_nil, or_false,
    not_or] at hne
  have hletter := isLetter_of_isBlank h
  have hnumeral := isNumeral_of_isBlank h
  have halpha := isAlpha_of_isBlank h
  have hdigit := isDigit_of_isBlank h
  simp [isDelimiter, endings, inErrorTail, inErrorLiteral, inNumber, inWord, continuesName,
    Char.isAlphanum, hletter, hnumeral, halpha, hdigit, hne]

/-- What separates two formulas is a delimiter and a piece of its own. -/
lemma Separates.isDelimiter (h : Separates f c) :
    Formula.isDelimiter c = true ∧ isOther c = true := by
  have marks : (separators ++ ['+', '-']).all
      (fun d => Formula.isDelimiter d && isOther d) = true := by decide
  have hmark : c ∈ separators ++ ['+', '-'] → Formula.isDelimiter c = true ∧ isOther c = true :=
    fun hc => Bool.and_eq_true_iff.1 (List.all_eq_true.1 marks c hc)
  cases h with
  | mark hc => exact hmark (List.mem_append_left _ hc)
  | blank hb => exact ⟨isDelimiter_of_isBlank hb, isOther_of_isBlank hb⟩
  | sign hc => exact hmark (List.mem_append_right _ (by simpa using hc))

/-- A sign separates only what does not end in an exponent. -/
lemma Separates.not_endsInExponent (h : Separates f c) (hs : c = '+' ∨ c = '-') :
    ¬EndsInExponent f.toList := by
  cases h with
  | mark hc => rcases hs with rfl | rfl <;> exact absurd hc (by decide)
  | blank hb => rcases hs with rfl | rfl <;> exact absurd hb (by decide)
  | sign _ he => exact he

/-- What may stand in front of a formula opens what the character behind it closes. -/
lemma Encloses.passes {opening closing : String} (h : Encloses opening closing) :
    ∃ ls : List (List Char), ∃ m n, ∃ c, opening.toList = ls.flatten ∧ closing.toList = [c] ∧
      isDelimiter c = true ∧ ¬(c = '+' ∨ c = '-') ∧
      (∀ x, Passes .start (ls.map .plain) x (Context.start.deepen m n)) ∧
      ∀ ctx : Context, ctx.plain = .start → Skips (ctx.deepen m n) [c] [] .start := by
  have hclose : ∀ ctx : Context, ctx.plain = .start → Skips (ctx.deepen 1 0) [')'] [] .start := by
    intro ctx hctx
    have h : Skips (ctx.deepen 1 0) [')'] [] _ := .closeParen (Nat.succ_ne_zero _)
    rwa [← hctx]
  have hclose' : ∀ ctx : Context, ctx.plain = .start → Skips (ctx.deepen 0 1) ['}'] [] .start := by
    intro ctx hctx
    have h : Skips (ctx.deepen 0 1) ['}'] [] _ := .closeBrace (Nat.succ_ne_zero _)
    rwa [← hctx]
  cases h with
  | parens =>
    refine ⟨[['(']], 1, 0, ')', rfl, rfl, by decide, by decide, ?_, hclose⟩
    exact fun x => .skip .openParen .nil
  | braces =>
    refine ⟨[['{']], 0, 1, '}', rfl, rfl, by decide, by decide, ?_, hclose'⟩
    exact fun x => .skip .openBrace .nil
  | @call w hw =>
    refine ⟨[w.toList, ['(']], 1, 0, ')', by simp, rfl, by decide, by decide, ?_, hclose⟩
    exact fun x => .skip (.call hw) (.skip .openParen .nil)

/-! ## Composed formulas -/

/-- Behind a passage that leaves nothing open a text is read as if it stood alone. -/
lemma read_append {g : String} (h : Passes .start ps g.toList .start) (ht : f.toList = texts ps) :
    (read (f ++ g)).located =
        locate 0 ps ++ (read g).located.map (·.after f.utf8ByteSize) ∧
      (read (f ++ g)).error? = (read g).error?.map (·.after f.utf8ByteSize) := by
  have hread := h.readFrom
  rw [← ht, ← String.toList_append] at hread
  have hwidth : width (texts ps) = f.utf8ByteSize := by rw [← ht, width_toList]
  constructor
  · rw [located_read, located_read, hread, Reading.located, Reading.located, locate_append,
      Nat.zero_add, hwidth, ← locate_add, Nat.add_zero]
  · have hpos : (readFrom .start (f ++ g).toList).position =
        f.utf8ByteSize + (readFrom .start g.toList).position := by
      rw [hread, Reading.position, ← hwidth]
      exact (congrArg width (texts_append _ _)).trans (width_append _ _)
    rw [error?_read, error?_read, Reading.error?, Reading.error?, hpos, hread, Option.map_map]
    rfl

/-- A formula without a fault is read the same in front of a separator, and what follows the
separator is read as if it stood alone. Inside parentheses, braces and calls a formula without a
fault is read the same and has no fault. -/
theorem read_composed {f : String} (h : (read f).fault = none) :
    (∀ (s : Char) (g : String), Separates f s →
      (read (f ++ String.singleton s ++ g)).located =
          (read f).located ++
            (read g).located.map (·.after (f ++ String.singleton s).utf8ByteSize) ∧
        (read (f ++ String.singleton s ++ g)).error? =
          (read g).error?.map (·.after (f ++ String.singleton s).utf8ByteSize)) ∧
      ∀ opening closing, Encloses opening closing →
        (read (opening ++ f ++ closing)).error? = none ∧
          (read (opening ++ f ++ closing)).located =
            (read f).located.map (·.after opening.utf8ByteSize) := by
  obtain ⟨ps, ctx', ht, hp, hctx, hl⟩ := exists_passes h
  constructor
  · intro s g hs
    have hfront : Passes .start ps (s :: g.toList) ctx' :=
      hp.delimit hs.isDelimiter.1 (fun hsign => ht ▸ hs.not_endsInExponent hsign) g.toList
    have hsep : Passes ctx' [.plain [s]] g.toList .start := by
      rw [← hctx]
      exact .skip (.other hs.isDelimiter.2) .nil
    have happ : (f ++ String.singleton s).toList = texts (ps ++ [.plain [s]]) := by
      rw [String.toList_append, String.toList_singleton, ht, texts_append]
      rfl
    have hread := read_append (hfront.append hsep) happ
    rw [locate_append, ← hl] at hread
    simpa [locate] using hread
  · intro opening closing henc
    obtain ⟨ls, m, n, c, hopen, hclose, hc, hsign, hbefore, hafter⟩ := henc.passes
    -- The formula is passed as it stands alone, then as it stands between what encloses it.
    have hbehind : Passes .start ps [c] ctx' := hp.delimit hc (fun hs => absurd hs hsign) []
    have hin : Passes (Context.start.deepen m n) (ps ++ [.plain [c]]) [] .start := by
      refine Passes.append ?_ (.skip (hafter ctx' hctx) .nil)
      exact hbehind.deepen
    have hpass : Passes .start (ls.map .plain ++ (ps ++ [.plain [c]])) [] .start :=
      (hbefore _).append hin
    have happ : (opening ++ f ++ closing).toList =
        texts (ls.map .plain ++ (ps ++ [.plain [c]])) := by
      rw [String.toList_append, String.toList_append, hopen, hclose, ht, texts_append,
        texts_append, texts_map_plain, List.append_assoc]
      rfl
    have hread := hpass.readFrom
    rw [List.append_nil, ← happ, readFrom_nil rfl rfl] at hread
    have hwidth : width (texts (ls.map .plain)) = opening.utf8ByteSize := by
      rw [texts_map_plain, ← hopen, width_toList]
    constructor
    · rw [error?_read, hread]
      rfl
    · rw [located_read, hread, hl, Reading.located, List.append_nil, locate_append, locate_plain,
        locate_append, hwidth, Nat.zero_add, ← Nat.add_zero opening.utf8ByteSize, locate_add]
      simp [locate]

/-- A formula that ends like a number without its exponent, in front of a comma and in a call. -/
theorem read_composed_number :
    (read "=A1+2E").fault = none ∧ Separates "=A1+2E" ',' ∧ Encloses "IF(" ")" ∧
      (read ("=A1+2E" ++ String.singleton ',' ++ "-5&'x'!B2)")).located =
        (read "=A1+2E").located ++ (read "-5&'x'!B2)").located.map
          (·.after ("=A1+2E" ++ String.singleton ',').utf8ByteSize) ∧
      (read ("IF(" ++ "=A1+2E" ++ ")")).error? = none := by
  have h : (read "=A1+2E").fault = none := by decide +kernel
  have hs : Separates "=A1+2E" ',' := .mark (by decide)
  have letters : ['F'].all inWord = true := by decide
  have hw : IsWord "IF".toList := ⟨'I', ['F'], rfl, by decide, List.all_eq_true.1 letters⟩
  have hc : Encloses "IF(" ")" := .call hw
  obtain ⟨hseparated, henclosed⟩ := read_composed h
  exact ⟨h, hs, hc, (hseparated _ _ hs).1, (henclosed _ _ hc).1⟩

end Formula

end Precedents
