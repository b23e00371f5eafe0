import Precedents.Formula.Token
import Precedents.Proofs.Formula.Composition

/-!
# Which sheet an address is on

An address is on the sheet of its formula exactly if no exclamation mark stands before it. The marks
that are passed over are the exception: one that stands alone, and one that an error literal ends in
(`Stray`). What follows them is read as if they were not there, so that in `#REF!A1`, which names a
sheet that is gone, the address is taken for one on the sheet of the formula
(`qualifier_behind_error_literal`). `qualifier_eq_none_iff` says that there is no other exception,
also in formulas that have a fault further on.
-/

namespace Precedents.Formula

variable {ctx next : Context} {t u v w z l : List Char} {r : Reference} {a : Area} {q : Qualifier}
variable {name : Option String} {p : Piece} {ps qs as bs : List Piece}

/-! ## How lexemes end -/

lemma getLast?_append_of_ne_nil (h : t ≠ []) : (l ++ t).getLast? = t.getLast? := by
  obtain ⟨c, cs, rfl⟩ := List.exists_cons_of_ne_nil h
  rw [List.getLast?_append, List.getLast?_cons]
  rfl

/-- A string ends with a quotation mark. -/
lemma getLast?_of_afterString (h : afterString w = some []) : w.getLast? = some '"' := by
  fun_induction afterString w with
  | case1 => simp at h
  | case2 cs ih =>
    rw [List.getLast?_cons_cons, List.getLast?_cons, ih h]
    rfl
  | case3 cs =>
    obtain rfl := Option.some.inj h
    rfl
  | case4 c cs _ _ ih =>
    rw [List.getLast?_cons, ih h]
    rfl

/-- Brackets end with a closing bracket. -/
lemma getLast?_of_afterBrackets {depth : Nat} (h : afterBrackets depth w = some []) :
    w.getLast? = some ']' := by
  fun_induction afterBrackets depth w with
  | case1 => simp at h
  | case2 depth cs ih =>
    rw [List.getLast?_cons, ih h]
    rfl
  | case3 cs =>
    obtain rfl := Option.some.inj h
    rfl
  | case4 cs depth ih =>
    rw [List.getLast?_cons, ih h]
    rfl
  | case5 depth c cs ih =>
    rw [List.getLast?_cons_cons, List.getLast?_cons, ih h]
    rfl
  | case6 depth c cs _ _ _ ih =>
    rw [List.getLast?_cons, ih h]
    rfl

/-- No exclamation mark stands in a word. -/
lemma bang_not_mem_of_inWord (h : ∀ d ∈ w, inWord d = true) : '!' ∉ w := by
  intro hmem
  exact absurd (h _ hmem) (by decide)

/-- No exclamation mark stands inside an error literal. -/
lemma bang_not_mem_of_inErrorLiteral (h : ∀ d ∈ w, inErrorLiteral d = true) : '!' ∉ w := by
  intro hmem
  exact absurd (h _ hmem) (by decide)

/-- No exclamation mark stands in a number. -/
lemma NumberTail.bang_not_mem (h : NumberTail w z) : '!' ∉ w := by
  have number : ∀ {w : List Char}, (∀ d ∈ w, inNumber d = true) → '!' ∉ w := by
    intro w hw hmem
    exact absurd (hw _ hmem) (by decide)
  cases h with
  | plain hw => exact number hw
  | @exponent w sign digits z c hw hc hs hne hd hz =>
    have hdigits : '!' ∉ digits := fun hmem => absurd (hd _ hmem) (by decide)
    have hsign : '!' ∉ sign := by rcases hs with rfl | rfl | rfl <;> decide
    have hexp : '!' ≠ c := by rcases hc with rfl | rfl <;> decide
    simp only [List.mem_append, List.mem_cons, not_or]
    exact ⟨number hw, hexp, hsign, hdigits⟩

/-- No exclamation mark stands in names. -/
lemma NamesTail.bang_not_mem (h : NamesTail t z) : '!' ∉ t := by
  cases h with
  | one _ hw => exact bang_not_mem_of_inWord hw
  | range _ hw _ hv =>
    simp only [List.mem_append, List.mem_cons, not_or]
    exact ⟨bang_not_mem_of_inWord hw, by decide, bang_not_mem_of_inWord hv⟩

/-- An error literal that ends in an exclamation mark has none before it. -/
lemma ErrorTail.bang (h : ErrorTail w z) (he : ('#' :: w).getLast? = some '!') :
    ∃ v, w = v ++ ['!'] ∧ ∀ d ∈ v, inErrorLiteral d = true := by
  cases h with
  | @closed w z c hw hc =>
    rw [← List.cons_append, List.getLast?_concat] at he
    obtain rfl := Option.some.inj he
    exact ⟨w, rfl, hw⟩
  | bare hw =>
    cases List.mem_cons.1 (List.mem_of_getLast? he) with
    | inl hc => exact absurd hc (by decide)
    | inr hc => exact absurd hc (bang_not_mem_of_inErrorLiteral hw)

/-! ## How pieces end -/

/-- The texts that are passed over and end in an exclamation mark: the mark alone, and error
literals, also behind a qualifier. -/
inductive Stray : List Char → Prop where
  | mark : Stray ['!']
  | errorLiteral {v : List Char} : (∀ d ∈ v, inErrorLiteral d = true) → Stray ('#' :: (v ++ ['!']))
  | qualified {ctx : Context} {q : Qualifier} {l v : List Char} : Qualifies ctx l q →
    (∀ d ∈ v, inErrorLiteral d = true) → Stray (l ++ '#' :: (v ++ ['!']))

/-- A piece that is skipped and ends with an exclamation mark is a stray one. -/
lemma Skips.stray (h : Skips ctx t z next) (he : t.getLast? = some '!') : Stray t := by
  have hmem := List.mem_of_getLast? he
  -- Of all that is passed over, only three kinds can end with an exclamation mark.
  cases h with
  | string hw =>
    rw [List.getLast?_cons, getLast?_of_afterString hw] at he
    exact absurd he (by decide)
  | errorLiteral hw =>
    obtain ⟨v, rfl, hv⟩ := hw.bang he
    exact .errorLiteral hv
  | openParen => exact absurd he (by decide)
  | closeParen => exact absurd he (by decide)
  | openBrace => exact absurd he (by decide)
  | closeBrace => exact absurd he (by decide)
  | brackets hw =>
    rw [List.getLast?_cons, getLast?_of_afterBrackets hw] at he
    exact absurd he (by decide)
  | number hc hw =>
    cases List.mem_cons.1 hmem with
    | inl hb => exact absurd (hb ▸ hc) (by decide)
    | inr hb => exact absurd hb hw.bang_not_mem
  | word hw => exact absurd hmem (bang_not_mem_of_inWord hw.inWord)
  | @qualified q l t z hl ht =>
    cases ht with
    | @error w z hw =>
      rw [getLast?_append_of_ne_nil (List.cons_ne_nil _ _)] at he
      obtain ⟨v, rfl, hv⟩ := hw.bang he
      exact .qualified hl hv
    | names ht hm =>
      have hne : t ≠ [] := by
        cases ht with
        | one hne => exact hne
        | range hne => exact List.append_ne_nil_of_left_ne_nil hne _
      rw [getLast?_append_of_ne_nil hne] at he
      exact absurd (List.mem_of_getLast? he) ht.bang_not_mem
  | other hc =>
    obtain rfl := Option.some.inj he
    exact .mark

/-- A qualifier ends with its exclamation mark. -/
lemma Qualifies.getLast? (h : Qualifies ctx l q) : l.getLast? = some '!' := by
  cases h with
  | sheet _ => exact List.getLast?_concat
  | span _ _ =>
    rw [← List.cons_append, ← List.append_assoc]
    exact List.getLast?_concat
  | quoted _ =>
    rw [← List.cons_append]
    exact List.getLast?_concat

/-- No exclamation mark stands in a mention. -/
lemma IsMention.bang_not_mem {m : Mention} (h : IsMention m) : '!' ∉ m.text :=
  bang_not_mem_of_inWord h.isWord.inWord

/-- An area ends in a mention. -/
lemma IsArea.getLast? (h : IsArea name a) : a.text.getLast? ≠ some '!' := by
  obtain ⟨m, second⟩ := a
  intro he
  cases second with
  | none =>
    rw [Area.text, List.append_nil] at he
    exact h.1.bang_not_mem (List.mem_of_getLast? he)
  | some k =>
    obtain ⟨-, -, -, hm⟩ := h.2 k rfl
    have happ : Area.text ⟨m, some k⟩ = m.text ++ k.joint ++ k.mention.text :=
      (List.append_assoc _ _ _).symm
    rw [happ, getLast?_append_of_ne_nil hm.isWord.ne_nil] at he
    exact hm.bang_not_mem (List.mem_of_getLast? he)

lemma IsArea.text_ne_nil (h : IsArea name a) : a.text ≠ [] :=
  List.append_ne_nil_of_left_ne_nil h.1.isWord.ne_nil _

/-- A piece that ends in an exclamation mark is passed over. -/
lemma Piece.Grammatical.stray (h : p.Grammatical) (he : p.text.getLast? = some '!') :
    ∃ t, p = .plain t ∧ Stray t := by
  cases p with
  | plain t =>
    obtain ⟨ctx, z, next, hs⟩ := h
    exact ⟨t, rfl, hs.stray he⟩
  | reference r =>
    obtain ⟨ctx, z, hf⟩ := h
    obtain ⟨name, ha⟩ := hf.isArea
    rw [Piece.text, Reference.text, getLast?_append_of_ne_nil ha.text_ne_nil] at he
    exact absurd he ha.getLast?

/-! ## Pieces of a reading -/

/-- No piece ends inside another. -/
lemma eq_nil_of_inside (h : as ++ bs = ps ++ p :: qs) (ht : texts as = texts ps ++ u)
    (hp : p.text = u ++ v) (hu : u ≠ []) : v = [] := by
  have happ : ps ++ p :: qs = ps ++ [p] ++ qs := by simp
  have htexts : texts (ps ++ [p]) = texts ps ++ (u ++ v) := by
    rw [texts_append, texts_cons, hp]
    simp [texts]
  cases List.prefix_or_prefix_of_prefix (h ▸ List.prefix_append as bs)
      (happ ▸ List.prefix_append (ps ++ [p]) qs) with
  | inl hpre =>
    cases List.prefix_concat_iff.1 hpre with
    | inl he =>
      rw [he, htexts] at ht
      simpa using ht
    | inr hpre =>
      obtain ⟨rest, rfl⟩ := hpre
      rw [texts_append, List.append_assoc] at ht
      have hlen := congrArg List.length ht
      simp at hlen
      exact absurd hlen.2 hu
  | inr hpre =>
    obtain ⟨rest, rfl⟩ := hpre
    rw [texts_append, htexts, List.append_assoc] at ht
    have ht := List.append_cancel_left ht
    rw [List.append_assoc] at ht
    have ht := List.self_eq_append_right.1 ht.symm
    exact (List.append_eq_nil_iff.1 ht).1

/-- Whether a text that a formula begins with ends in an exclamation mark that is passed over. -/
def Reading.StraysBefore (r : Reading) (before : List Char) : Prop :=
  ∃ ps t qs, r.pieces = ps ++ .plain t :: qs ∧ texts ps ++ t = before ∧ Stray t

/-- Pieces whose text ends in an exclamation mark end in one that is passed over. -/
lemma exists_stray (h : ∀ p ∈ ps, p.text.getLast? = some '!' → ∃ t, p = .plain t ∧ Stray t)
    (he : (texts ps).getLast? = some '!') :
    ∃ qs t rs, ps = qs ++ .plain t :: rs ∧ texts qs ++ t = texts ps ∧ Stray t := by
  induction ps using List.reverseRecOn with
  | nil => exact absurd he (by simp [texts])
  | append_singleton ps p ih =>
    have htext : texts (ps ++ [p]) = texts ps ++ p.text := by
      rw [texts_append, texts_cons]
      simp [texts]
    rw [htext] at he ⊢
    -- A piece without characters may stand behind the one that ends in the mark.
    by_cases hne : p.text = []
    · rw [hne, List.append_nil] at he ⊢
      obtain ⟨qs, t, rs, rfl, ht, hs⟩ := ih (fun p hp => h p (List.mem_append_left _ hp)) he
      exact ⟨qs, t, rs ++ [p], by simp, ht, hs⟩
    · rw [getLast?_append_of_ne_nil hne] at he
      obtain ⟨t, rfl, ht⟩ := h p (List.mem_append_right _ List.mem_cons_self) he
      exact ⟨ps, t, [], rfl, rfl, ht⟩

/-- A reference that is located is one of the pieces, at the offset to which the pieces before it
add up. -/
lemma mem_locate {o : Nat} {k : Located} (h : k ∈ locate o ps) :
    ∃ qs r rs, ps = qs ++ .reference r :: rs ∧ k = r.locate (o + width (texts qs)) := by
  induction ps generalizing o with
  | nil => exact absurd h List.not_mem_nil
  | cons p ps ih =>
    have tail : k ∈ locate (o + width p.text) ps →
        ∃ qs r rs, p :: ps = qs ++ .reference r :: rs ∧ k = r.locate (o + width (texts qs)) := by
      intro h
      obtain ⟨qs, r, rs, rfl, rfl⟩ := ih h
      refine ⟨p :: qs, r, rs, rfl, ?_⟩
      rw [texts_cons, width_append, Nat.add_assoc]
    cases p with
    | plain t => exact tail h
    | reference r =>
      cases List.mem_cons.1 h with
      | inl he => exact ⟨[], r, ps, rfl, he⟩
      | inr h => exact tail h

/-- The pieces of a formula, the first of which is what it begins with. -/
lemma grammatical_of_mem_read {f : String} (hp : p ∈ (read f).pieces) :
    (∃ t, p = .plain t ∧ '!' ∉ t) ∨ p.Grammatical := by
  obtain ⟨lead, hs, -, hread⟩ := read_split f
  rw [hread] at hp
  cases List.mem_cons.1 hp with
  | inr hp => exact .inr (grammatical_of_mem_readFrom hp)
  | inl hp =>
    obtain ⟨lead', hs', hlead⟩ := body_lead f.toList
    obtain rfl := List.append_cancel_right (hs.symm.trans hs')
    refine .inl ⟨lead, hp, fun hmem => ?_⟩
    cases hlead _ hmem with
    | inl hb => exact absurd hb (by decide)
    | inr he => exact absurd he (by decide)

/-- A piece of a formula that ends with an exclamation mark is a stray one. -/
lemma stray_of_mem_read {f : String} (hp : p ∈ (read f).pieces)
    (he : p.text.getLast? = some '!') : ∃ t, p = .plain t ∧ Stray t := by
  cases grammatical_of_mem_read hp with
  | inl hp =>
    obtain ⟨t, rfl, ht⟩ := hp
    exact absurd (List.mem_of_getLast? he) ht
  | inr hp => exact hp.stray he

lemma texts_read (f : String) : texts (read f).pieces <+: f.toList := by
  obtain ⟨lead, hs, -, hread⟩ := read_split f
  have hrest := texts_readFrom .start (body f.toList)
  rw [hread]
  exact (List.prefix_append_right_inj lead).2 hrest |>.trans (hs ▸ List.prefix_rfl)

/-! ## Qualifiers -/

/-- The token of a reference with a qualifier does not depend on the sheet of the formula. -/
lemma token?_of_qualifier (h : r.qualifier ≠ none) (find : String → Option Nat)
    (current current' : Nat) : r.token? find current = r.token? find current' := by
  obtain ⟨q, hq⟩ := Option.ne_none_iff_exists'.1 h
  simp only [Reference.token?, hq]

/-- What stands before the area of a reference is its qualifier with an exclamation mark, or
nothing. -/
lemma Finds.lead (h : Finds ctx r z) :
    (r.qualifier = none ∧ r.lead = []) ∨ (r.qualifier ≠ none ∧ r.lead.getLast? = some '!') := by
  cases h with
  | bare => exact .inl ⟨rfl, rfl⟩
  | qualified hl => exact .inr ⟨Option.some_ne_none _, hl.getLast?⟩

/-- A reference has no qualifier, and so is on the sheet of its formula, exactly if its first
address has no exclamation mark before it, or one that is passed over. -/
theorem qualifier_eq_none_iff {f : String} {k : Located} (h : k ∈ (read f).located) :
    ∃ before after, f.toList = before ++ (k.reference.area.first.text ++ after) ∧
      width before = k.first.start ∧
      (k.reference.qualifier = none ↔
        before.getLast? ≠ some '!' ∨ (read f).StraysBefore before) ∧
      (before.getLast? = some '!' → ¬ (read f).StraysBefore before →
        ∀ find current current',
          k.reference.token? find current = k.reference.token? find current') := by
  obtain ⟨ps, r, qs, hpieces, rfl⟩ := mem_locate h
  have hmem : .reference r ∈ (read f).pieces := hpieces ▸ List.mem_append_right _ List.mem_cons_self
  obtain ⟨ctx, z, hf⟩ : (Piece.reference r).Grammatical := by
    cases grammatical_of_mem_read hmem with
    | inl hp =>
      obtain ⟨t, hp, -⟩ := hp
      exact absurd hp (by simp)
    | inr hp => exact hp
  obtain ⟨name, ha⟩ := hf.isArea
  -- What matters is the last character in front of the address: the end of a lead, if there is one,
  -- and otherwise the end of an earlier piece.
  have hiff : r.qualifier = none ↔
      (texts ps ++ r.lead).getLast? ≠ some '!' ∨ (read f).StraysBefore (texts ps ++ r.lead) := by
    cases hf.lead with
    | inl hbare =>
      obtain ⟨hq, hlead⟩ := hbare
      have hps : ∀ p ∈ ps, p.text.getLast? = some '!' → ∃ t, p = .plain t ∧ Stray t :=
        fun p hp => stray_of_mem_read (hpieces ▸ List.mem_append_left _ hp)
      refine iff_of_true hq (Classical.or_iff_not_imp_left.2 fun he => ?_)
      rw [hlead, List.append_nil] at he ⊢
      obtain ⟨qs', t, rs, rfl, ht, hs⟩ := exists_stray hps (not_not.1 he)
      exact ⟨qs', t, rs ++ .reference r :: qs, by rw [hpieces]; simp, ht, hs⟩
    | inr hqualified =>
      obtain ⟨hq, hlead⟩ := hqualified
      have hne : r.lead ≠ [] := by
        intro hnil
        rw [hnil] at hlead
        exact absurd hlead (by simp)
      refine iff_of_false hq (not_or.2 ⟨fun hlast => hlast ?_, ?_⟩)
      · rw [getLast?_append_of_ne_nil hne, hlead]
      · -- The text before the address ends inside the reference, where no piece ends.
        rintro ⟨ps', t, qs', hpieces', ht, -⟩
        have happ : ps' ++ [.plain t] ++ qs' = ps ++ .reference r :: qs := by
          rw [← hpieces, hpieces']
          simp
        refine ha.text_ne_nil (eq_nil_of_inside happ ?_ rfl hne)
        rw [texts_append, ← ht]
        simp [texts, Piece.text]
  obtain ⟨rest, hrest⟩ := texts_read f
  obtain ⟨second, hsecond⟩ : ∃ second, r.area.text = r.area.first.text ++ second := ⟨_, rfl⟩
  have htext : f.toList =
      texts ps ++ r.lead ++ (r.area.first.text ++ (second ++ (texts qs ++ rest))) := by
    rw [← hrest, hpieces, texts_append, texts_cons, Piece.text, Reference.text, hsecond]
    simp only [List.append_assoc]
  refine ⟨texts ps ++ r.lead, _, htext, ?_, hiff, ?_⟩
  · rw [width_append]
    exact congrArg (· + width r.lead) (Nat.zero_add _).symm
  · intro he hs
    apply token?_of_qualifier
    intro hq
    exact (hiff.1 hq).elim (fun hne => hne he) hs

/-- In front of a fault a reference with a qualifier is found as one, and the sheet that is repeated
behind the colon of an area belongs to it. -/
theorem qualifier_eq_none_iff_repeated :
    ∃ k ∈ (read "=B2+Data!A1:Data!C3)").located, k.first = ⟨9, 11⟩ ∧ ∃ before after,
      "=B2+Data!A1:Data!C3)".toList = before ++ (k.reference.area.first.text ++ after) ∧
      width before = k.first.start ∧
      (k.reference.qualifier = none ↔ before.getLast? ≠ some '!' ∨
        (read "=B2+Data!A1:Data!C3)").StraysBefore before) := by
  obtain ⟨k, hk, hfirst⟩ : ∃ k ∈ (read "=B2+Data!A1:Data!C3)").located, k.first = ⟨9, 11⟩ := by
    decide +kernel
  obtain ⟨before, after, htext, hwidth, hiff, -⟩ := qualifier_eq_none_iff hk
  exact ⟨k, hk, hfirst, before, after, htext, hwidth, hiff⟩

/-- Behind an error literal an address is taken for one on the sheet of the formula, although an
exclamation mark stands before it. -/
theorem qualifier_behind_error_literal :
    ∃ k ∈ (read "=#REF!A1").located, k.reference.qualifier = none ∧
      "=#REF!A1".toList = "=#REF!".toList ++ (k.reference.area.first.text ++ []) ∧
      width "=#REF!".toList = k.first.start ∧ "=#REF!".toList.getLast? = some '!' := by
  decide +kernel

end Precedents.Formula
