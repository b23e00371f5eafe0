import Precedents.Proofs.Formula.Area

/-!
# The grammar of steps

What one step over a formula can do, said once. `Skips ctx t z next` lists the texts `t` that are
passed over in front of `z`, `Finds ctx r z` the references that are found there. Both speak of `z`
only through the few characters by which the end of the piece is known, so that later proofs may put
another text behind a piece without looking at `step` again. `Skips.step` and `Finds.step` say that
every such piece is read; `step_grammatical` says that nothing else is.
-/

namespace Precedents.Formula

variable {ctx next : Context} {c : Char} {text l t v w y z : List Char}

/-! ## Characters -/

/-- The characters that begin something that is neither a word nor a number. -/
def signs : List Char := ['"', '#', '(', ')', '{', '}', '[', ']', '\'']

/-- Characters that are passed over one at a time. -/
def isOther (c : Char) : Bool := !signs.contains c && !inNumber c && !startsWord c

/-- No word begins with a sign. -/
lemma not_mem_signs_of_startsWord (h : startsWord c = true) : c ∉ signs := by
  have words : signs.all (!startsWord ·) = true := by decide
  exact not_mem_of_all words h

/-- No number has a sign in it. -/
lemma not_mem_signs_of_inNumber (h : inNumber c = true) : c ∉ signs := by
  have numbers : signs.all (!inNumber ·) = true := by decide
  exact not_mem_of_all numbers h

lemma step_cons (h : c ∉ signs) (cs : List Char) :
    step ctx (c :: cs) =
      if inNumber c then .skip (afterNumber cs) ctx.plain
      else if startsWord c then stepWord ctx c cs
      else .skip cs ctx.plain := by
  rw [step]
  all_goals
    rintro rfl
    exact h (by decide)

/-- A number is passed over as a whole. -/
lemma step_of_inNumber (h : inNumber c = true) (cs : List Char) :
    step ctx (c :: cs) = .skip (afterNumber cs) ctx.plain := by
  rw [step_cons (not_mem_signs_of_inNumber h), if_pos h]

/-- What a word begins with begins a word. -/
lemma step_of_startsWord (h : startsWord c = true) (cs : List Char) :
    step ctx (c :: cs) = stepWord ctx c cs := by
  rw [step_cons (not_mem_signs_of_startsWord h), if_pos h, inNumber_of_startsWord h,
    if_neg Bool.false_ne_true]

/-- Another character is passed over alone. -/
lemma step_of_isOther (h : isOther c = true) (cs : List Char) :
    step ctx (c :: cs) = .skip cs ctx.plain := by
  simp only [isOther, Bool.and_eq_true, Bool.not_eq_true'] at h
  have hs : c ∉ signs := by
    intro hc
    rw [List.contains_iff_mem.2 hc] at h
    exact Bool.false_ne_true h.1.1.symm
  rw [step_cons hs, h.1.2, h.2, if_neg Bool.false_ne_true, if_neg Bool.false_ne_true]

/-- An apostrophe begins a quoted name. -/
lemma step_apostrophe (cs : List Char) : step ctx ('\'' :: cs) = stepQuoted ctx cs := rfl

/-! ## Qualifiers -/

/-- The texts in front of an area, with the exclamation mark, and what they qualify it by. -/
inductive Qualifies (ctx : Context) : List Char → Qualifier → Prop where
  | sheet {w : List Char} : IsWord w →
    Qualifies ctx (w ++ ['!'])
      (if ctx.afterBracket then .external else .sheet (String.ofList w))
  | span {w v : List Char} : IsWord w → IsWord v →
    Qualifies ctx (w ++ ':' :: (v ++ ['!']))
      (if ctx.afterBracket then .external else .span (String.ofList w) (String.ofList v))
  | quoted {w name : List Char} : quotedName w = some (name, []) →
    Qualifies ctx ('\'' :: (w ++ ['!'])) (.ofQuoted name)

/-- Behind a colon, a word with an exclamation mark ends a span. -/
lemma spanEnd?_word (h : IsWord w) (z : List Char) :
    spanEnd? (':' :: (w ++ '!' :: z)) = some (w, z) := by
  have hz : leadsWith inWord ('!' :: z) = false := rfl
  rw [spanEnd?, if_pos (h.leadsWith_append _), h.dropWhile hz, takeWhile_append h.inWord hz]
  rfl

/-- Behind a colon, a word without an exclamation mark ends no span. -/
lemma spanEnd?_word_none (hw : ∀ d ∈ w, inWord d = true) (hz : leadsWith inWord z = false)
    (h : leadsWith (· == '!') z = false) : spanEnd? (':' :: (w ++ z)) = none := by
  rw [spanEnd?, dropWhile_append hw hz]
  split
  · split
    · exact absurd h.symm Bool.false_ne_true
    · rfl
  · rfl

/-- Without a colon there is no span. -/
lemma spanEnd?_of_leadsWith (h : leadsWith (· == ':') z = false) : spanEnd? z = none := by
  unfold spanEnd?
  split
  · exact absurd h.symm Bool.false_ne_true
  · rfl

/-- What ends a span is a colon, a word and an exclamation mark. -/
lemma spanEnd?_split {last : List Char} (h : spanEnd? text = some (last, z)) :
    text = ':' :: (last ++ '!' :: z) ∧ IsWord last := by
  unfold spanEnd? at h
  split at h
  case h_2 => simp at h
  case h_1 cs =>
    split at h
    case isFalse => simp at h
    case isTrue hlead =>
      obtain ⟨w, hs, ht, hw⟩ := dropWhile_split inWord cs
      split at h
      case h_2 => simp at h
      case h_1 after e =>
        obtain ⟨rfl, rfl⟩ := Prod.mk.inj (Option.some.inj h)
        rw [e] at hs
        obtain ⟨c, ds, rfl, hc⟩ := exists_cons_of_leadsWith hlead
        rw [List.takeWhile_cons_of_pos (inWord_of_startsWord hc)] at ht ⊢
        refine ⟨congrArg (':' :: ·) (ht ▸ hs), c, _, rfl, hc, ?_⟩
        exact fun d hd => hw d (ht ▸ List.mem_cons_of_mem c hd)

/-- At a qualifier the step goes on with what is qualified. -/
lemma Qualifies.step {q : Qualifier} (h : Qualifies ctx l q) (z : List Char) :
    Formula.step ctx (l ++ z) = stepQualified ctx q (l ++ z) z := by
  cases h with
  | quoted hq =>
    have hq : quotedName _ = _ := quotedName_append (z := '!' :: z) hq rfl
    simp only [List.cons_append, List.append_assoc, List.nil_append, step_apostrophe, stepQuoted,
      hq]
  | @sheet w hw =>
    obtain ⟨c, cs, rfl, hc, hcs⟩ := hw
    have hz : leadsWith inWord ('!' :: z) = false := rfl
    simp only [List.cons_append, List.append_assoc, List.nil_append, step_of_startsWord hc,
      stepWord, dropWhile_append hcs hz, takeWhile_append hcs hz]
  | @span w v hw hv =>
    obtain ⟨c, cs, rfl, hc, hcs⟩ := hw
    have hz : leadsWith inWord (':' :: (v ++ '!' :: z)) = false := rfl
    simp only [List.cons_append, List.append_assoc, List.nil_append, step_of_startsWord hc,
      stepWord, dropWhile_append hcs hz, takeWhile_append hcs hz, spanEnd?_word hv]
    rfl

/-! ## What a qualifier stands before when it is no area -/

/-- Whether the text goes on with a colon and another word. -/
def leadsRange : List Char → Bool
  | ':' :: cs => leadsWith inWord cs
  | _ => false

/-- Whole columns or rows, or a name, in front of `z`. -/
inductive NamesTail : List Char → List Char → Prop where
  | one {w z : List Char} : w ≠ [] → (∀ d ∈ w, inWord d = true) → leadsWith inWord z = false →
    leadsRange z = false → NamesTail w z
  | range {w v z : List Char} : w ≠ [] → (∀ d ∈ w, inWord d = true) → v ≠ [] →
    (∀ d ∈ v, inWord d = true) → leadsWith inWord z = false → NamesTail (w ++ ':' :: v) z

/-- Behind the names stands what they are in front of. -/
lemma NamesTail.after (h : NamesTail t z) : afterNames (t ++ z) = z := by
  cases h with
  | one hne hw hz hr =>
    rw [afterNames, dropWhile_append hw hz]
    split
    case h_1 cs => rw [if_neg]; rw [show leadsWith inWord cs = false from hr]; simp
    case h_2 => rfl
  | @range w v z hne hw hne' hv hz =>
    have hc : leadsWith inWord (':' :: (v ++ z)) = false := rfl
    have hl : leadsWith inWord (v ++ z) = true := by
      obtain ⟨d, ds, e⟩ := List.exists_cons_of_ne_nil hne'
      rw [leadsWith_append hne', e]
      exact hv d (e ▸ List.mem_cons_self)
    simp only [afterNames, List.append_assoc, List.cons_append, dropWhile_append hw hc, hl, if_true,
      dropWhile_append hv hz]

/-- What a word leads is names and what is behind them. -/
lemma namesTail_split (h : leadsWith inWord text = true) :
    ∃ t, text = t ++ afterNames text ∧ NamesTail t (afterNames text) := by
  obtain ⟨w, hs, -, hw⟩ := dropWhile_split inWord text
  have hne := ne_nil_of_dropWhile h hs
  have hz := leadsWith_dropWhile inWord text
  unfold afterNames
  split
  case h_1 cs e =>
    rw [e] at hs hz
    split
    case isTrue hl =>
      obtain ⟨v, hs', -, hv⟩ := dropWhile_split inWord cs
      refine ⟨w ++ ':' :: v, ?_, .range hne hw (ne_nil_of_dropWhile hl hs') hv
        (leadsWith_dropWhile _ _)⟩
      rw [List.append_assoc, List.cons_append, ← hs']
      exact hs
    case isFalse hl => exact ⟨w, hs, .one hne hw hz (Bool.eq_false_iff.2 hl)⟩
  case h_2 hcolon =>
    refine ⟨w, hs, .one hne hw hz ?_⟩
    unfold leadsRange
    split
    · next cs e => exact absurd e (hcolon cs)
    · rfl

/-- What stands behind a qualifier in front of `z` and is no area. -/
inductive Remnant : List Char → List Char → Prop where
  | error {w z : List Char} : ErrorTail w z → Remnant ('#' :: w) z
  | names {t z : List Char} : NamesTail t z → mention? (t ++ z) = none → Remnant t z

/-- A remnant behind a qualifier is passed over with it. -/
lemma Remnant.step {q : Qualifier} (h : Remnant t z) (text : List Char) :
    stepQualified ctx q text (t ++ z) = .skip z ctx.plain := by
  cases h with
  | @error w z he =>
    have hn : area? q.single? ('#' :: (w ++ z)) = none :=
      area?_eq_none_iff.2 (mention?_of_leadsWith rfl)
    unfold stepQualified
    simp only [List.cons_append, hn, he.after]
  | names ht hm =>
    have hn : area? q.single? (t ++ z) = none := area?_eq_none_iff.2 hm
    have hafter := ht.after
    obtain ⟨c, cs, e, hc⟩ : ∃ c cs, t ++ z = c :: cs ∧ inWord c = true := by
      apply exists_cons_of_leadsWith
      cases ht with
      | one hne hw =>
        obtain ⟨d, ds, rfl⟩ := List.exists_cons_of_ne_nil hne
        exact hw d List.mem_cons_self
      | range hne hw =>
        obtain ⟨d, ds, rfl⟩ := List.exists_cons_of_ne_nil hne
        exact hw d List.mem_cons_self
    have hhash : c ≠ '#' := by
      rintro rfl
      exact absurd hc (by decide)
    rw [e] at hn hafter ⊢
    unfold stepQualified
    simp only [hn, if_pos hc, hafter]

/-- What is passed over behind a qualifier is a remnant. -/
lemma stepQualified_skip {q : Qualifier} (h : stepQualified ctx q text y = .skip z next) :
    ∃ t, y = t ++ z ∧ Remnant t z ∧ next = ctx.plain := by
  unfold stepQualified at h
  split at h
  case h_1 => exact absurd h (by simp)
  case h_2 hn =>
    have hn := area?_eq_none_iff.1 hn
    split at h
    case h_1 cs _ =>
      obtain ⟨rfl, rfl⟩ := Step.skip.inj h
      obtain ⟨w, hs, hw⟩ := errorTail_split cs
      exact ⟨'#' :: w, congrArg ('#' :: ·) hs, .error hw, rfl⟩
    case h_2 c cs _ hn =>
      split at h
      case isTrue hc =>
        obtain ⟨rfl, rfl⟩ := Step.skip.inj h
        have hc : leadsWith inWord (c :: cs) = true := hc
        obtain ⟨t, hs, ht⟩ := namesTail_split hc
        exact ⟨t, hs, .names ht (hs ▸ hn), rfl⟩
      case isFalse => exact absurd h (by simp)
    case h_3 => exact absurd h (by simp)

/-! ## Pieces -/

/-- The texts that a step passes over in front of `z`. -/
inductive Skips (ctx : Context) : List Char → List Char → Context → Prop where
  | string {w z : List Char} : afterString w = some [] → leadsWith (· == '"') z = false →
    Skips ctx ('"' :: w) z ctx.plain
  | errorLiteral {w z : List Char} : ErrorTail w z → Skips ctx ('#' :: w) z ctx.plain
  | openParen {z : List Char} :
    Skips ctx ['('] z { ctx.plain with parens := ctx.parens + 1 }
  | closeParen {z : List Char} : ctx.parens ≠ 0 →
    Skips ctx [')'] z { ctx.plain with parens := ctx.parens - 1 }
  | openBrace {z : List Char} :
    Skips ctx ['{'] z { ctx.plain with braces := ctx.braces + 1 }
  | closeBrace {z : List Char} : ctx.braces ≠ 0 →
    Skips ctx ['}'] z { ctx.plain with braces := ctx.braces - 1 }
  | brackets {w z : List Char} : afterBrackets 0 w = some [] →
    Skips ctx ('[' :: w) z { ctx with afterBracket := true }
  | number {c : Char} {w z : List Char} : inNumber c = true → NumberTail w z →
    Skips ctx (c :: w) z ctx.plain
  | word {w z : List Char} : IsWord w → leadsWith inWord z = false →
    leadsWith (· == '!') z = false → spanEnd? z = none → mention? (w ++ z) = none →
    Skips ctx w z ctx.plain
  | qualified {q : Qualifier} {l t z : List Char} : Qualifies ctx l q → Remnant t z →
    Skips ctx (l ++ t) z ctx.plain
  | other {c : Char} {z : List Char} : isOther c = true → Skips ctx [c] z ctx.plain

/-- The references that a step finds in front of `z`. -/
inductive Finds (ctx : Context) : Reference → List Char → Prop where
  | bare {a : Area} {z : List Char} : IsArea none a → leadsWith continuesName z = false →
    (a.second = none → corner? none z = none ∧ spanEnd? z = none) → Finds ctx ⟨none, [], a⟩ z
  | qualified {q : Qualifier} {l : List Char} {a : Area} {z : List Char} : Qualifies ctx l q →
    IsArea q.single? a → leadsWith continuesName z = false →
    (a.second = none → corner? q.single? z = none) → Finds ctx ⟨some q, l, a⟩ z

/-- A reference that is found is to an area. -/
lemma Finds.isArea {r : Reference} (h : Finds ctx r z) : ∃ name, IsArea name r.area := by
  cases h with
  | bare ha => exact ⟨_, ha⟩
  | qualified _ ha => exact ⟨_, ha⟩

/-- The first mention of an area on no sheet in particular is not the first sheet of a span. -/
lemma IsArea.spanEnd? {a : Area} {rest : List Char} (h : IsArea none a)
    (hz : leadsWith continuesName z = false) (hspan : a.second = none → Formula.spanEnd? z = none)
    (happ : a.text ++ z = a.first.text ++ rest) : Formula.spanEnd? rest = none := by
  obtain ⟨m, second⟩ := a
  rw [Area.text, List.append_assoc] at happ
  have hrest := List.append_cancel_left happ
  cases second with
  | none => exact hrest ▸ hspan rfl
  | some k =>
    obtain ⟨lead, hj, hr, hm⟩ := h.2 k rfl
    cases hr with
    | sheet hs => cases hs
    | nothing =>
      -- Behind the colon stands the second mention, and no exclamation mark follows it.
      have hrest : k.joint ++ k.mention.text ++ z = rest := hrest
      rw [← hrest, hj, List.cons_append, List.nil_append, List.cons_append]
      apply spanEnd?_word_none hm.isWord.inWord (leadsWith_inWord hz)
      exact leadsWith_of_imp (fun d hd => by simp [continuesName, beq_iff_eq.1 hd]) hz

/-- Behind the first mention of an area there is neither a parenthesis nor a qualifier. -/
lemma stepWord_of_continuesName {cs : List Char} (hcs : ∀ d ∈ cs, inWord d = true)
    (hz : leadsWith continuesName z = false) :
    stepWord ctx c (cs ++ z) = match spanEnd? z with
      | some (last, after) =>
        stepQualified ctx (if ctx.afterBracket then .external
          else .span (String.ofList (c :: cs)) (String.ofList last)) (c :: (cs ++ z)) after
      | none => stepUnqualified ctx (c :: (cs ++ z)) z := by
  have hw := leadsWith_inWord hz
  simp only [stepWord, dropWhile_append hcs hw, takeWhile_append hcs hw]
  split
  case h_1 => exact absurd hz.symm Bool.false_ne_true
  case h_2 => exact absurd hz.symm Bool.false_ne_true
  case h_3 => rfl

/-- The name of a function is passed over. -/
lemma Skips.call (hw : IsWord w) : Skips ctx w ('(' :: z) ctx.plain :=
  .word hw rfl rfl rfl (mention?_of_continuesName hw.inWord rfl rfl)

/-- What the grammar passes over is passed over. -/
theorem Skips.step (h : Skips ctx t z next) : step ctx (t ++ z) = .skip z next := by
  cases h with
  | string hw hz =>
    have hw := afterString_append hw hz
    simp only [List.cons_append, Formula.step, hw]
  | errorLiteral hw => simp only [List.cons_append, Formula.step, hw.after]
  | openParen => rfl
  | closeParen hp => exact if_neg hp
  | openBrace => rfl
  | closeBrace hb => exact if_neg hb
  | brackets hw =>
    have hw := afterBrackets_append hw z
    simp only [List.cons_append, Formula.step, hw]
  | number hc hw => rw [List.cons_append, step_of_inNumber hc, hw.after]
  | @word w z hw hz hbang hspan hm =>
    obtain ⟨c, cs, rfl, hc, hcs⟩ := hw
    have ha : area? none (c :: (cs ++ z)) = none := area?_eq_none_iff.2 hm
    simp only [List.cons_append, step_of_startsWord hc, stepWord, dropWhile_append hcs hz]
    split
    case h_1 => exact absurd hbang.symm Bool.false_ne_true
    case h_2 => rfl
    case h_3 => simp only [hspan, stepUnqualified, ha]
  | qualified hl ht => rw [List.append_assoc, hl.step, ht.step]
  | other hc => exact step_of_isOther hc z

lemma Skips.ne_nil (h : Skips ctx t z next) : t ≠ [] := by
  rintro rfl
  exact Nat.lt_irrefl _ (advances_of_skip h.step).2

/-- What the grammar finds is found. -/
theorem Finds.step {r : Reference} (h : Finds ctx r z) :
    Formula.step ctx (r.text ++ z) = .found r z := by
  cases h with
  | @qualified q l a z hl ha hz hc =>
    have ha : area? q.single? (a.text ++ z) = some (a, z) := area?_iff.2 ⟨rfl, ha, hz, hc⟩
    rw [Reference.text, List.append_assoc, hl.step]
    unfold stepQualified
    simp only [ha, upTo_append_self]
  | @bare a z ha hz hc =>
    have hfound : area? none (a.text ++ z) = some (a, z) :=
      area?_iff.2 ⟨rfl, ha, hz, fun h => (hc h).1⟩
    obtain ⟨rest, happ, hrest⟩ := ha.split hz
    have hspan := ha.spanEnd? hz (fun h => (hc h).2) happ
    obtain ⟨c, cs, e, hstart, hcs⟩ := ha.1.isWord
    rw [happ, e, List.cons_append] at hfound
    rw [Reference.text, List.nil_append, happ, e, List.cons_append, step_of_startsWord hstart,
      stepWord_of_continuesName hcs hrest, hspan]
    simp only [stepUnqualified, hfound]

/-! ## Every step -/

/-- What a step is by the grammar: the end of a text with nothing left open, a fault, or a piece. -/
def Step.Grammatical (ctx : Context) (text : List Char) : Step → Prop
  | stop fault => fault = none → text = [] ∧ ctx.parens = 0 ∧ ctx.braces = 0
  | skip z next => ∃ t, text = t ++ z ∧ Skips ctx t z next
  | found r z => text = r.text ++ z ∧ Finds ctx r z

/-- A fault is grammatical. -/
lemma Step.grammatical_fault {cause : Cause} : (Step.stop (some cause)).Grammatical ctx text :=
  nofun

/-- What follows a qualifier is an area, a remnant or a fault. -/
lemma stepQualified_grammatical {q : Qualifier} (h : Qualifies ctx l q) (z : List Char) :
    (stepQualified ctx q (l ++ z) z).Grammatical ctx (l ++ z) := by
  cases e : stepQualified ctx q (l ++ z) z with
  | stop fault =>
    unfold stepQualified at e
    rintro rfl
    -- Every stop behind a qualifier is a fault.
    repeat' split at e
    all_goals exact absurd e (by simp)
  | skip z' next =>
    obtain ⟨t, rfl, ht, rfl⟩ := stepQualified_skip e
    exact ⟨l ++ t, (List.append_assoc _ _ _).symm, .qualified h ht⟩
  | found r z' =>
    unfold stepQualified at e
    split at e
    case h_1 a rest ha =>
      obtain ⟨rfl, rfl⟩ := Step.found.inj e
      obtain ⟨rfl, ha, hz, hc⟩ := area?_iff.1 ha
      rw [upTo_append_self]
      exact ⟨(List.append_assoc _ _ _).symm, .qualified h ha hz hc⟩
    case h_2 =>
      repeat' split at e
      all_goals exact absurd e (by simp)

/-- A word without a qualifier is an area or no reference at all. -/
lemma stepUnqualified_grammatical (hw : IsWord w) (hz : leadsWith inWord z = false)
    (hbang : leadsWith (· == '!') z = false) (hspan : spanEnd? z = none) :
    (stepUnqualified ctx (w ++ z) z).Grammatical ctx (w ++ z) := by
  unfold stepUnqualified
  split
  case h_1 a rest ha =>
    obtain ⟨happ, ha, hrest, hc⟩ := area?_iff.1 ha
    refine ⟨happ, .bare ha hrest ?_⟩
    intro hsecond
    refine ⟨hc hsecond, ?_⟩
    have hm : mention? (w ++ z) = some (a.first, rest) := by
      refine mention?_iff.2 ⟨?_, ha.1, hrest⟩
      rw [happ, Area.text, hsecond, List.append_nil]
    obtain ⟨-, rfl⟩ := eq_of_mention?_word hw.inWord hz hm
    exact hspan
  case h_2 hm => exact ⟨w, rfl, .word hw hz hbang hspan (area?_eq_none_iff.1 hm)⟩

/-- A word is a qualifier, the name of a function, an area or no reference at all. -/
lemma stepWord_grammatical (hc : startsWord c = true) (cs : List Char) :
    (stepWord ctx c cs).Grammatical ctx (c :: cs) := by
  obtain ⟨ds, hs, ht, hds⟩ := dropWhile_split inWord cs
  have hw : IsWord (c :: ds) := ⟨c, ds, rfl, hc, hds⟩
  have hz := leadsWith_dropWhile inWord cs
  have hs : c :: cs = (c :: ds) ++ cs.dropWhile inWord := congrArg (c :: ·) hs
  simp only [stepWord, ht]
  split
  case h_1 after e =>
    have happ : c :: cs = (c :: ds) ++ ['!'] ++ after := by rw [hs, e]; simp
    rw [happ]
    exact stepQualified_grammatical (.sheet hw) after
  case h_2 after e =>
    rw [e] at hs ⊢
    exact ⟨c :: ds, hs, .call hw⟩
  case h_3 hbang _ =>
    split
    case h_1 last after e =>
      obtain ⟨e, hlast⟩ := spanEnd?_split e
      have happ : c :: cs = (c :: ds) ++ ':' :: (last ++ ['!']) ++ after := by rw [hs, e]; simp
      rw [happ]
      exact stepQualified_grammatical (.span hw hlast) after
    case h_2 e =>
      rw [hs]
      refine stepUnqualified_grammatical hw hz ?_ e
      cases e : cs.dropWhile inWord with
      | nil => rfl
      | cons d es => exact beq_false_of_ne fun hd => hbang es (by rw [e, hd])

/-- The step at a quoted name is grammatical. -/
lemma stepQuoted_grammatical (cs : List Char) :
    (stepQuoted ctx cs).Grammatical ctx ('\'' :: cs) := by
  unfold stepQuoted
  split
  case h_1 => exact Step.grammatical_fault
  case h_2 name rest e =>
    obtain ⟨w, rfl, hw, -⟩ := quotedName_split e
    have happ : '\'' :: (w ++ '!' :: rest) = '\'' :: (w ++ ['!']) ++ rest := by simp
    rw [happ]
    exact stepQualified_grammatical (.quoted hw) rest
  case h_3 => exact Step.grammatical_fault

/-- Every step takes a piece of the grammar off the text, or stops. -/
theorem step_grammatical (ctx : Context) (text : List Char) :
    (step ctx text).Grammatical ctx text := by
  unfold step
  split
  -- The end of the text: nothing may be open there.
  case h_1 =>
    split
    · exact Step.grammatical_fault
    · split
      · exact Step.grammatical_fault
      · exact fun _ => ⟨rfl, by omega, by omega⟩
  case h_2 cs =>
    split
    case h_1 rest e =>
      obtain ⟨w, rfl, hw, hz⟩ := afterString_split e
      exact ⟨'"' :: w, rfl, .string hw hz⟩
    case h_2 => exact Step.grammatical_fault
  case h_3 cs =>
    obtain ⟨w, hs, hw⟩ := errorTail_split cs
    exact ⟨'#' :: w, congrArg ('#' :: ·) hs, .errorLiteral hw⟩
  case h_4 => exact ⟨['('], rfl, .openParen⟩
  case h_5 =>
    split
    · exact Step.grammatical_fault
    · next hp => exact ⟨[')'], rfl, .closeParen hp⟩
  case h_6 => exact ⟨['{'], rfl, .openBrace⟩
  case h_7 =>
    split
    · exact Step.grammatical_fault
    · next hb => exact ⟨['}'], rfl, .closeBrace hb⟩
  case h_8 cs =>
    split
    case h_1 rest e =>
      obtain ⟨w, rfl, hw⟩ := afterBrackets_split e
      exact ⟨'[' :: w, rfl, .brackets hw⟩
    case h_2 => exact Step.grammatical_fault
  case h_9 => exact Step.grammatical_fault
  case h_10 cs => exact stepQuoted_grammatical cs
  -- No sign: a number, a word or another character.
  case h_11 c cs hquote hhash hopen hclose hopen' hclose' hbracket hbracket' hmark =>
    split
    case isTrue hc =>
      obtain ⟨w, hs, hw⟩ := numberTail_split cs
      exact ⟨c :: w, congrArg (c :: ·) hs, .number hc hw⟩
    case isFalse hn =>
      split
      case isTrue hc => exact stepWord_grammatical hc cs
      case isFalse hw =>
        refine ⟨[c], rfl, .other ?_⟩
        have hs : c ∉ signs := by
          simp only [signs, List.mem_cons, List.not_mem_nil, or_false, not_or]
          exact ⟨hquote, hhash, hopen, hclose, hopen', hclose', hbracket, hbracket', hmark⟩
        simp [isOther, hs, hn, hw]

end Precedents.Formula
