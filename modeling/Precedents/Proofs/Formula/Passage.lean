import Precedents.Formula.Token
import Precedents.Proofs.Formula.Grammar

/-!
# Passages

A passage is a run of the reader over a list of pieces, one step of the grammar for each, which ends
in front of some text (`Passes`). `Passes.readFrom` says that the reader follows every passage, and
`passes_of_readFrom` that a reading without a fault is one. The blanks and the equals sign that a
formula begins with are pieces of their own here; `read_eq` says what `read` makes of them.
-/

namespace Precedents.Formula

variable {ctx ctx' next : Context} {t text x : List Char} {ps qs : List Piece}

/-! ## The text of pieces -/

/-- The characters of some pieces. -/
def texts (ps : List Piece) : List Char := ps.flatMap Piece.text

lemma texts_cons (p : Piece) (ps : List Piece) : texts (p :: ps) = p.text ++ texts ps := rfl

lemma texts_append (ps qs : List Piece) : texts (ps ++ qs) = texts ps ++ texts qs :=
  List.flatMap_append

lemma texts_map_plain (ls : List (List Char)) : texts (ls.map .plain) = ls.flatten := by
  induction ls with
  | nil => rfl
  | cons l ls ih => rw [List.map_cons, texts_cons, ih]; rfl

lemma texts_singles (l : List Char) : texts (l.map fun c => .plain [c]) = l := by
  simp [texts, List.flatMap_map, Piece.text]

lemma width_append (t x : List Char) : width (t ++ x) = width t + width x := by
  induction t with
  | nil => exact (Nat.zero_add _).symm
  | cons c t ih => rw [List.cons_append, width, width, ih, Nat.add_assoc]

lemma width_toList (s : String) : width s.toList = s.utf8ByteSize := by
  rw [← String.size_toByteArray, ← String.ofList_toList (s := s), String.toByteArray_ofList,
    String.toList_ofList, List.utf8Encode, List.size_toByteArray]
  induction s.toList with
  | nil => rfl
  | cons c cs ih =>
    rw [List.flatMap_cons, List.length_append, String.length_utf8EncodeChar, ← ih]
    rfl

/-! ## One piece of a reading -/

/-- What is passed over is a plain piece, ahead of what is read behind it. -/
lemma readFrom_upTo (h : step ctx text = .skip x next) :
    readFrom ctx text = (readFrom next x).cons (.plain (upTo text x)) := by
  rw [readFrom]
  split
  case h_1 e => exact absurd (e.symm.trans h) (by simp)
  case h_2 rest next' e =>
    obtain ⟨rfl, rfl⟩ := Step.skip.inj (e.symm.trans h)
    rfl
  case h_3 e => exact absurd (e.symm.trans h) (by simp)

/-- A text that is passed over is a plain piece, ahead of what is read behind it. -/
lemma readFrom_skip (h : step ctx (t ++ x) = .skip x next) :
    readFrom ctx (t ++ x) = (readFrom next x).cons (.plain t) := by
  rw [readFrom_upTo h, upTo_append_self]

/-- A reference that is found stands ahead of what is read behind it. -/
lemma readFrom_found {r : Reference} (h : step ctx text = .found r x) :
    readFrom ctx text = (readFrom ctx.plain x).cons (.reference r) := by
  rw [readFrom]
  split
  case h_1 e => exact absurd (e.symm.trans h) (by simp)
  case h_2 e => exact absurd (e.symm.trans h) (by simp)
  case h_3 r' rest e =>
    obtain ⟨rfl, rfl⟩ := Step.found.inj (e.symm.trans h)
    rfl

/-- Where the step stops, nothing is read. -/
lemma readFrom_stop {fault : Option Cause} (h : step ctx text = .stop fault) :
    readFrom ctx text = ⟨[], fault⟩ := by
  rw [readFrom]
  split
  case h_1 e => rw [Step.stop.inj (e.symm.trans h)]
  case h_2 e => exact absurd (e.symm.trans h) (by simp)
  case h_3 e => exact absurd (e.symm.trans h) (by simp)

lemma readFrom_nil (hp : ctx.parens = 0) (hb : ctx.braces = 0) :
    readFrom ctx [] = ⟨[], none⟩ := by
  apply readFrom_stop
  rw [step, hp, hb]
  rfl

/-! ## Passages -/

/-- The pieces are read one after another in front of a text, from one context to another. -/
inductive Passes : Context → List Piece → List Char → Context → Prop where
  | nil {ctx : Context} {x : List Char} : Passes ctx [] x ctx
  | skip {ctx next ctx' : Context} {t x : List Char} {ps : List Piece} :
    Skips ctx t (texts ps ++ x) next → Passes next ps x ctx' → Passes ctx (.plain t :: ps) x ctx'
  | found {ctx ctx' : Context} {r : Reference} {x : List Char} {ps : List Piece} :
    Finds ctx r (texts ps ++ x) → Passes ctx.plain ps x ctx' →
    Passes ctx (.reference r :: ps) x ctx'

/-- A passage goes on where another ends. -/
lemma Passes.append (h : Passes ctx ps (texts qs ++ x) next) (h' : Passes next qs x ctx') :
    Passes ctx (ps ++ qs) x ctx' := by
  generalize e : texts qs ++ x = y at h
  induction h with
  | nil => exact h'
  | skip hs _ ih =>
    subst e
    rw [← List.append_assoc, ← texts_append] at hs
    exact .skip hs (ih h' rfl)
  | found hf _ ih =>
    subst e
    rw [← List.append_assoc, ← texts_append] at hf
    exact .found hf (ih h' rfl)

/-- A reading follows every passage. -/
theorem Passes.readFrom (h : Passes ctx ps x ctx') :
    readFrom ctx (texts ps ++ x) =
      ⟨ps ++ (Formula.readFrom ctx' x).pieces, (Formula.readFrom ctx' x).fault⟩ := by
  induction h with
  | nil => rfl
  | skip hs _ ih =>
    rw [texts_cons, List.append_assoc]
    exact (readFrom_skip hs.step).trans (congrArg (Reading.cons _) ih)
  | found hf _ ih =>
    rw [texts_cons, List.append_assoc]
    exact (readFrom_found hf.step).trans (congrArg (Reading.cons _) ih)

/-- A reading without a fault is a passage to the end that leaves nothing open. -/
theorem passes_of_readFrom (h : readFrom ctx text = ⟨ps, none⟩) :
    text = texts ps ∧ ∃ ctx', Passes ctx ps [] ctx' ∧ ctx'.parens = 0 ∧ ctx'.braces = 0 := by
  -- Along the reading: each step is a piece of the grammar in front of the text that is read next.
  fun_induction readFrom ctx text generalizing ps with
  | case1 ctx text fault e =>
    obtain ⟨rfl, rfl⟩ := Reading.mk.inj h
    have hg := step_grammatical ctx text
    rw [e] at hg
    obtain ⟨rfl, hp, hb⟩ := hg rfl
    exact ⟨rfl, ctx, .nil, hp, hb⟩
  | case2 ctx text rest next e _ ih =>
    have hg := step_grammatical ctx text
    rw [e] at hg
    obtain ⟨t, rfl, hs⟩ := hg
    obtain ⟨rfl, hfault⟩ := Reading.mk.inj h
    have hrest : readFrom next rest = ⟨(readFrom next rest).pieces, none⟩ := by rw [← hfault]
    obtain ⟨hrest, ctx', hp, hopen⟩ := ih hrest
    rw [upTo_append_self, texts_cons, ← hrest]
    refine ⟨rfl, ctx', .skip ?_ hp, hopen⟩
    rwa [List.append_nil, ← hrest]
  | case3 ctx text r rest e _ ih =>
    have hg := step_grammatical ctx text
    rw [e] at hg
    obtain ⟨rfl, hf⟩ := hg
    obtain ⟨rfl, hfault⟩ := Reading.mk.inj h
    have hrest : readFrom ctx.plain rest = ⟨(readFrom ctx.plain rest).pieces, none⟩ := by
      rw [← hfault]
    obtain ⟨hrest, ctx', hp, hopen⟩ := ih hrest
    rw [texts_cons, ← hrest]
    refine ⟨rfl, ctx', .found ?_ hp, hopen⟩
    rwa [List.append_nil, ← hrest]

/-! ## Readings that end in a fault -/

/-- What a piece is by the grammar. -/
def Piece.Grammatical : Piece → Prop
  | plain t => ∃ ctx z next, Skips ctx t z next
  | reference r => ∃ ctx z, Finds ctx r z

/-- Every piece is one of the grammar, whether or not a fault follows. -/
theorem grammatical_of_mem_readFrom {p : Piece} (h : p ∈ (readFrom ctx text).pieces) :
    p.Grammatical := by
  fun_induction readFrom ctx text with
  | case1 => exact absurd h List.not_mem_nil
  | case2 ctx text rest next e _ ih =>
    have hg := step_grammatical ctx text
    rw [e] at hg
    obtain ⟨t, rfl, hs⟩ := hg
    rw [upTo_append_self] at h
    cases List.mem_cons.1 h with
    | inl hp => exact hp ▸ ⟨ctx, rest, next, hs⟩
    | inr hp => exact ih hp
  | case3 ctx text r rest e _ ih =>
    have hg := step_grammatical ctx text
    rw [e] at hg
    cases List.mem_cons.1 h with
    | inl hp => exact hp ▸ ⟨ctx, rest, hg.2⟩
    | inr hp => exact ih hp

/-- The pieces make up what was read of a text. -/
lemma texts_readFrom (ctx : Context) (text : List Char) :
    texts (readFrom ctx text).pieces <+: text := by
  fun_induction readFrom ctx text with
  | case1 ctx text => exact List.nil_prefix
  | case2 ctx text rest next e _ ih =>
    have hpieces := (List.prefix_append_right_inj (upTo text rest)).2 ih
    rw [upTo_append (advances_of_skip e).1] at hpieces
    exact hpieces
  | case3 ctx text r rest e _ ih =>
    have hpieces := (List.prefix_append_right_inj r.text).2 ih
    rw [(advances_of_found e).1] at hpieces
    exact hpieces

/-! ## Passages inside parentheses and braces -/

/-- The context with more parentheses and braces open around it. -/
def Context.deepen (ctx : Context) (parens braces : Nat) : Context :=
  { ctx with parens := ctx.parens + parens, braces := ctx.braces + braces }

variable {m n : Nat}

lemma Qualifies.deepen {l : List Char} {q : Qualifier} (h : Qualifies ctx l q) :
    Qualifies (ctx.deepen m n) l q := by
  cases h with
  | sheet hw => exact .sheet hw
  | span hw hv => exact .span hw hv
  | quoted hq => exact .quoted hq

lemma Skips.deepen (h : Skips ctx t x next) : Skips (ctx.deepen m n) t x (next.deepen m n) := by
  cases h with
  | string hw hz => exact .string hw hz
  | errorLiteral hw => exact .errorLiteral hw
  | openParen =>
    have h : Skips (ctx.deepen m n) ['('] x _ := .openParen
    rwa [show (ctx.deepen m n).parens + 1 = ctx.parens + 1 + m from Nat.add_right_comm ..] at h
  | closeParen hp =>
    have h : Skips (ctx.deepen m n) [')'] x _ :=
      .closeParen (Nat.ne_of_gt (Nat.add_pos_left (Nat.pos_of_ne_zero hp) m))
    rwa [show (ctx.deepen m n).parens - 1 = ctx.parens - 1 + m from
      Nat.sub_add_comm (Nat.pos_of_ne_zero hp)] at h
  | openBrace =>
    have h : Skips (ctx.deepen m n) ['{'] x _ := .openBrace
    rwa [show (ctx.deepen m n).braces + 1 = ctx.braces + 1 + n from Nat.add_right_comm ..] at h
  | closeBrace hb =>
    have h : Skips (ctx.deepen m n) ['}'] x _ :=
      .closeBrace (Nat.ne_of_gt (Nat.add_pos_left (Nat.pos_of_ne_zero hb) n))
    rwa [show (ctx.deepen m n).braces - 1 = ctx.braces - 1 + n from
      Nat.sub_add_comm (Nat.pos_of_ne_zero hb)] at h
  | brackets hw => exact .brackets hw
  | number hc hw => exact .number hc hw
  | word hw hz hbang hspan hm => exact .word hw hz hbang hspan hm
  | qualified hl ht => exact .qualified hl.deepen ht
  | other hc => exact .other hc

lemma Finds.deepen {r : Reference} (h : Finds ctx r x) : Finds (ctx.deepen m n) r x := by
  cases h with
  | bare ha hz hc => exact .bare ha hz hc
  | qualified hl ha hz hc => exact .qualified hl.deepen ha hz hc

lemma Passes.deepen (h : Passes ctx ps x ctx') :
    Passes (ctx.deepen m n) ps x (ctx'.deepen m n) := by
  induction h with
  | nil => exact .nil
  | skip hs _ ih => exact .skip hs.deepen ih
  | found hf _ ih => exact .found hf.deepen ih

/-! ## What a formula begins with -/

/-- Blanks are passed over one at a time. -/
lemma isOther_of_isBlank {c : Char} (h : Text.isBlank c = true) : isOther c = true := by
  have hne : c ∉ signs ++ ['.', '_', '\\', '$'] := not_mem_of_all (by decide) h
  simp only [List.mem_append, List.mem_cons, List.not_mem_nil, or_false, not_or] at hne
  simp [isOther, inNumber, startsWord, isLetter_of_isBlank h, isDigit_of_isBlank h, hne]

/-- Characters that are passed over one at a time make a passage. -/
lemma passes_others {l : List Char} (h : ∀ c ∈ l, isOther c = true) (x : List Char) :
    Passes .start (l.map fun c => .plain [c]) x .start := by
  induction l with
  | nil => exact .nil
  | cons c l ih =>
    have hs : Skips .start [c] (texts (l.map fun c => .plain [c]) ++ x) .start :=
      .other (h c List.mem_cons_self)
    exact .skip hs (ih fun d hd => h d (List.mem_cons_of_mem c hd))

/-- In front of the body stand blanks and at most an equals sign. -/
lemma body_lead (text : List Char) :
    ∃ l, text = l ++ body text ∧ ∀ c ∈ l, Text.isBlank c = true ∨ c = '=' := by
  obtain ⟨l, hs, -, hl⟩ := dropWhile_split Text.isBlank text
  unfold body Text.trimLeft
  split
  case h_1 cs e =>
    refine ⟨l ++ ['='], ?_, ?_⟩
    · rw [List.append_assoc, List.singleton_append, ← e]
      exact hs
    · intro c hc
      rcases List.mem_append.1 hc with hc | hc
      · exact .inl (hl c hc)
      · exact .inr (List.mem_singleton.1 hc)
  case h_2 => exact ⟨l, hs, fun c hc => .inl (hl c hc)⟩

/-- In front of the body stand characters that are passed over one at a time. -/
lemma body_split (text : List Char) :
    ∃ l, text = l ++ body text ∧ ∀ c ∈ l, isOther c = true := by
  obtain ⟨l, hs, hl⟩ := body_lead text
  refine ⟨l, hs, fun c hc => ?_⟩
  cases hl c hc with
  | inl hb => exact isOther_of_isBlank hb
  | inr he =>
    subst he
    decide

/-- A formula is read with what it begins with in one piece. -/
lemma read_split (f : String) :
    ∃ l, f.toList = l ++ body f.toList ∧ (∀ c ∈ l, isOther c = true) ∧
      read f = (readFrom .start (body f.toList)).cons (.plain l) := by
  obtain ⟨l, hs, hl⟩ := body_split f.toList
  refine ⟨l, hs, hl, ?_⟩
  have hu := upTo_append_self l (body f.toList)
  rw [← hs] at hu
  rw [read, hu]

/-- The reading of a formula is that of its whole text, with what it begins with in one piece. -/
lemma read_eq (f : String) :
    ∃ (l : List Char) (r : Reading), read f = r.cons (.plain l) ∧
      readFrom .start f.toList = ⟨(l.map fun c => .plain [c]) ++ r.pieces, r.fault⟩ := by
  obtain ⟨l, hs, hl, hread⟩ := read_split f
  refine ⟨l, readFrom .start (body f.toList), hread, ?_⟩
  have h := (passes_others hl (body f.toList)).readFrom
  rwa [texts_singles, ← hs] at h

/-- A formula has the references that are read from its beginning. -/
lemma references_read (f : String) :
    (read f).references = (readFrom .start f.toList).references := by
  obtain ⟨l, r, hr, hf⟩ := read_eq f
  have hl : (l.map fun c => Piece.plain [c]).filterMap Piece.reference? = [] := by
    simp [Piece.reference?]
  rw [hr, hf, Reading.references, Reading.references, List.filterMap_append, hl]
  rfl

/-- A formula has the fault that is read from its beginning. -/
lemma fault_read (f : String) : (read f).fault = (readFrom .start f.toList).fault := by
  obtain ⟨l, r, hr, hf⟩ := read_eq f
  rw [hr, hf]
  rfl

/-- A formula whose text is a passage has no fault, and its references are those of the passage. -/
theorem read_of_passes {f : String} (ht : f.toList = texts ps) (h : Passes .start ps [] ctx')
    (hctx : ctx'.plain = .start) :
    (read f).fault = none ∧ (read f).references = ps.filterMap Piece.reference? := by
  have hread := h.readFrom
  have hnil : readFrom ctx' [] = ⟨[], none⟩ :=
    readFrom_nil (congrArg Context.parens hctx) (congrArg Context.braces hctx)
  rw [List.append_nil, ← ht, hnil, List.append_nil] at hread
  rw [fault_read, references_read, hread]
  exact ⟨rfl, rfl⟩

/-- What a formula reads whose text is a passage are the tokens of the references passed. -/
lemma tokenize_of_passes {f : String} {find : String → Option Nat} {current : Nat}
    (ht : f.toList = texts ps) (h : Passes .start ps [] ctx') (hctx : ctx'.plain = .start) :
    tokenize find current f =
      (ps.filterMap Piece.reference?).filterMap (·.token? find current) := by
  obtain ⟨hfault, hrefs⟩ := read_of_passes ht h hctx
  rw [tokenize, hfault]
  exact congrArg (List.filterMap _) hrefs

end Precedents.Formula
