import Precedents.Formula.Translation
import Precedents.Proofs.Formula.Passage

/-!
# Exchanging what follows a piece

Two texts are alike if a piece in front of the one may stand in front of the other (`Alike`): all
that a piece asks of what follows it carries over. Since a colon is passed over alone, the texts are
exchanged together with a colon in front of them (`Exchanges`). A piece keeps what it is in front of
texts that are exchanged, and what it makes up with them is exchanged again. So a passage stays one
when some of its addresses move, when some of its references are lost, and when another text follows
it (`Passes.rewrite`).
-/

namespace Precedents.Formula

variable {ctx ctx' next : Context} {c c' : Char} {l t w x x' y y' z z' : List Char}
variable {name : Option String} {q : Qualifier} {o : Option Qualifier} {a a' : Area} {r : Reference}

/-! ## Texts that are alike -/

/-- The kinds of characters by which the end of a piece is known. -/
def endings : List (Char → Bool) :=
  [(· == '"'), (· == '!'), inErrorTail, inNumber, Char.isDigit, inWord, continuesName]

/-- Characters that make a name of the word in front of them. -/
def opensName (c : Char) : Bool := c == '(' || c == '!' || c == '['

/-- What may stand in front of `z` may stand in front of `z'`. -/
structure Alike (z z' : List Char) : Prop where
  ends : ∀ p ∈ endings, leadsWith p z = false → leadsWith p z' = false
  opens : leadsWith opensName z = true → leadsWith opensName z' = true
  range : leadsRange z = false → leadsRange z' = false
  span : spanEnd? z = none → spanEnd? z' = none
  corner : ∀ name, corner? name z = none → corner? name z' = none

/-- What may stand in front of `z`, or in front of a colon and `z`, may do so with `z'`. -/
def Exchanges (z z' : List Char) : Prop := Alike z z' ∧ Alike (':' :: z) (':' :: z')

lemma Alike.refl (z : List Char) : Alike z z := ⟨fun _ _ => id, id, id, id, fun _ => id⟩

/-- Without a colon no range goes on. -/
lemma leadsRange_of_leadsWith (h : leadsWith (· == ':') z = false) : leadsRange z = false := by
  unfold leadsRange
  split
  · exact absurd h.symm Bool.false_ne_true
  · rfl

/-- Without a colon there is no second corner. -/
lemma corner?_of_leadsWith (h : leadsWith (· == ':') z = false) : corner? name z = none := by
  unfold corner?
  split
  · exact absurd h.symm Bool.false_ne_true
  · rfl

/-- A qualifier begins with a word or with a quote. -/
lemma afterSameQualifier_of_leadsWith {s : String} (h : leadsWith startsWord z = false)
    (hq : leadsWith (· == '\'') z = false) : afterSameQualifier s z = none := by
  cases z with
  | nil => rfl
  | cons c cs =>
    rw [afterSameQualifier]
    · rw [if_neg]
      exact ne_true_of_eq_false h
    · rintro rfl
      exact Bool.false_ne_true hq.symm

/-- A word without an exclamation mark behind it is no qualifier. -/
lemma afterSameQualifier_word {s : String} (hw : IsWord w) (hz : leadsWith inWord z = false)
    (hbang : leadsWith (· == '!') z = false) : afterSameQualifier s (w ++ z) = none := by
  rw [Option.eq_none_iff_forall_ne_some]
  intro y hy
  obtain ⟨l, again, e, hn, -⟩ := afterSameQualifier_split hy
  cases hn with
  | bare hl =>
    obtain ⟨-, rfl⟩ := run_unique e hw.inWord hz hl.inWord rfl
    exact Bool.false_ne_true hbang.symm
  | quoted =>
    have h := hw.leadsWith_append z
    rw [e] at h
    exact absurd (show startsWord '\'' = true from h) (by decide)

/-- There is no second corner after a colon if there is no mention, neither there nor behind the
name of the sheet. -/
lemma corner?_colon :
    corner? name (':' :: z) = none ↔
      mention? z = none ∧
        ∀ y, (name.bind fun s => afterSameQualifier s z) = some y → mention? y = none := by
  rw [corner?]
  cases hm : mention? z with
  | some m => simp
  | none =>
    cases name with
    | none => simp
    | some s =>
      cases ha : afterSameQualifier s z with
      | none => simp [ha]
      | some y => cases hy : mention? y <;> simp [ha, hy]

/-- Texts are alike if their first characters are. -/
lemma alike_of_head (hends : ∀ p ∈ endings, p c = false → p c' = false)
    (hopens : opensName c = true → opensName c' = true) (hc : c' ≠ ':') :
    Alike (c :: z) (c' :: z') := by
  have hcolon : leadsWith (· == ':') (c' :: z') = false := beq_false_of_ne hc
  exact {
    ends := hends
    opens := hopens
    range := fun _ => leadsRange_of_leadsWith hcolon
    span := fun _ => spanEnd?_of_leadsWith hcolon
    corner := fun _ _ => corner?_of_leadsWith hcolon }

lemma alike_cons (hc : c ≠ ':') : Alike (c :: z) (c :: z') :=
  alike_of_head (fun _ _ h => h) id hc

/-- What makes texts alike behind a colon. -/
lemma alike_colon (hword : leadsWith inWord z = false → leadsWith inWord z' = false)
    (hspan : spanEnd? (':' :: z) = none → spanEnd? (':' :: z') = none)
    (hcorner : ∀ name, corner? name (':' :: z) = none → corner? name (':' :: z') = none) :
    Alike (':' :: z) (':' :: z') where
  ends _ _ h := h
  opens h := h
  range := hword
  span := hspan
  corner := hcorner

/-- Behind a colon there is neither a span nor a corner if no word and no quoted name follows. -/
lemma alike_colon_of_leadsWith (hword : leadsWith inWord z = false → leadsWith inWord z' = false)
    (hs : leadsWith startsWord z' = false) (hq : leadsWith (· == '\'') z' = false) :
    Alike (':' :: z) (':' :: z') := by
  apply alike_colon hword
  · intro _
    rw [spanEnd?, hs, if_neg Bool.false_ne_true]
  · intro name _
    refine corner?_colon.2 ⟨mention?_of_leadsWith hs, ?_⟩
    intro y hy
    obtain ⟨s, -, hy⟩ := Option.bind_eq_some_iff.1 hy
    rw [afterSameQualifier_of_leadsWith hs hq] at hy
    exact absurd hy (by simp)

/-- A text that begins with a sign is exchanged for any other that begins with it. -/
lemma exchanges_cons (hs : startsWord c = false) (hq : c ≠ '\'') (hc : c ≠ ':') :
    Exchanges (c :: z) (c :: z') :=
  ⟨alike_cons hc, alike_colon_of_leadsWith id hs (beq_false_of_ne hq)⟩

/-- What can be exchanged can be exchanged behind a colon. -/
lemma exchanges_colon (h : Exchanges z z') : Exchanges (':' :: z) (':' :: z') :=
  ⟨h.2, alike_colon_of_leadsWith id rfl rfl⟩

/-! ## Pieces that are no references -/

/-- A text that can end a name is exchanged for one that can. -/
lemma Alike.continuesName (h : Alike z z') (hz : leadsWith inWord z = false)
    (hz' : leadsWith Formula.continuesName z' = false) :
    leadsWith Formula.continuesName z = false := by
  have hopens : leadsWith opensName z = false := by
    rw [Bool.eq_false_iff]
    intro ho
    have hn : leadsWith opensName z' = false := by
      apply leadsWith_of_imp _ hz'
      intro c hc
      simp only [opensName, Bool.or_eq_true] at hc
      rcases hc with (hc | hc) | hc <;> simp [Formula.continuesName, hc]
    rw [h.opens ho] at hn
    exact Bool.false_ne_true hn.symm
  cases z with
  | nil => rfl
  | cons c cs =>
    have hc : inWord c = false := hz
    have ho : opensName c = false := hopens
    change Formula.continuesName c = false
    rw [opensName] at ho
    rw [Formula.continuesName, hc, Bool.false_or, ho]

/-- Names that are no address are none in front of a text like it. -/
lemma NamesTail.mention? (h : NamesTail t z) (hz : Alike z z')
    (hm : Formula.mention? (t ++ z) = none) : Formula.mention? (t ++ z') = none := by
  cases h with
  | one hne hw hend =>
    exact mention?_word_none hw (hz.ends inWord (by simp [endings]) hend)
      (hz.continuesName hend) hm
  | range hne hw =>
    rw [List.append_assoc, List.cons_append] at hm ⊢
    exact mention?_word_none hw rfl (fun _ => rfl) hm

/-- What a qualifier stands before is the same in front of texts that are alike. -/
lemma Remnant.exchange (h : Remnant t z) (hz : Alike z z') : Remnant t z' := by
  cases h with
  | error he =>
    cases he with
    | closed hw hc => exact .error (.closed hw hc)
    | bare hw hend => exact .error (.bare hw (hz.ends inErrorTail (by simp [endings]) hend))
  | names ht hm =>
    refine .names ?_ (ht.mention? hz hm)
    cases ht with
    | one hne hw hend hr =>
      exact .one hne hw (hz.ends inWord (by simp [endings]) hend) (hz.range hr)
    | range hne hw hne' hv hend =>
      exact .range hne hw hne' hv (hz.ends inWord (by simp [endings]) hend)

/-- Whether the last character of a text is one of a number. -/
def endsInNumber (t : List Char) : Bool := t.getLast?.any inNumber

lemma endsInNumber_cons (h : ∀ d ∈ c :: w, inNumber d = true) : endsInNumber (c :: w) = true := by
  rw [endsInNumber, List.getLast?_eq_some_getLast (List.cons_ne_nil c w), Option.any_some]
  exact h _ (List.getLast_mem _)

/-- What is passed over in front of one text is passed over in front of another that is alike. Only
an exponent may be taken for the end of a number that it has not been before. -/
lemma Skips.exchange (h : Skips ctx t z next) (hz : Alike z z')
    (he : endsInNumber t = true → leadsExponent z' = true → leadsExponent z = true) :
    Skips ctx t z' next := by
  cases h with
  | string hw hend => exact .string hw (hz.ends _ (by simp [endings]) hend)
  | errorLiteral hw =>
    cases hw with
    | closed hw hc => exact .errorLiteral (.closed hw hc)
    | bare hw hend => exact .errorLiteral (.bare hw (hz.ends inErrorTail (by simp [endings]) hend))
  | openParen => exact .openParen
  | closeParen hp => exact .closeParen hp
  | openBrace => exact .openBrace
  | closeBrace hb => exact .closeBrace hb
  | brackets hw => exact .brackets hw
  | @number c w z hc hw =>
    refine .number hc ?_
    cases hw with
    | plain hw hend hexp =>
      refine .plain hw (hz.ends inNumber (by simp [endings]) hend) ?_
      -- The only kind of piece that a change behind it may lengthen: an exponent may come up.
      have hlast : endsInNumber (c :: w) = true := by
        apply endsInNumber_cons
        intro d hd
        rcases List.mem_cons.1 hd with rfl | hd
        · exact hc
        · exact hw d hd
      rw [Bool.eq_false_iff]
      intro h
      rw [he hlast h] at hexp
      exact Bool.false_ne_true hexp.symm
    | exponent hw hexp hs hne hd hend =>
      exact .exponent hw hexp hs hne hd (hz.ends Char.isDigit (by simp [endings]) hend)
  | word hw hend hbang hspan hm =>
    have hend' := hz.ends inWord (by simp [endings]) hend
    have hbang' := hz.ends (· == '!') (by simp [endings]) hbang
    exact .word hw hend' hbang' (hz.span hspan)
      (mention?_word_none hw.inWord hend' (hz.continuesName hend) hm)
  | qualified hl ht => exact .qualified hl (ht.exchange hz)
  | other hc => exact .other hc

/-- A qualifier is one name, or two words with a colon between them. -/
lemma Qualifies.names (h : Qualifies ctx l q) :
    (∃ n again, l = n ++ ['!'] ∧ Names n again) ∨
      ∃ w v, l = w ++ ':' :: (v ++ ['!']) ∧ IsWord w ∧ IsWord v := by
  cases h with
  | sheet hw => exact .inl ⟨_, _, rfl, .bare hw⟩
  | span hw hv => exact .inr ⟨_, _, rfl, hw, hv⟩
  | quoted hq => exact .inl ⟨_, _, rfl, .quoted hq⟩

/-- A qualifier begins like a word, or with a quote. -/
lemma Qualifies.head (h : Qualifies ctx l q) :
    ∃ c cs, l = c :: cs ∧ (startsWord c = true ∨ c = '\'') := by
  cases h with
  | sheet hw =>
    obtain ⟨c, cs, rfl, hc, -⟩ := hw
    exact ⟨c, _, rfl, .inl hc⟩
  | span hw =>
    obtain ⟨c, cs, rfl, hc, -⟩ := hw
    exact ⟨c, _, rfl, .inl hc⟩
  | quoted => exact ⟨'\'', _, rfl, .inr rfl⟩

/-- No word begins with a colon. -/
lemma ne_colon_of_startsWord (h : startsWord c = true) : c ≠ ':' := by
  rintro rfl
  exact absurd h (by decide)

/-- Behind a colon a qualifier may be the end of a span, or name the sheet of an area again. What
follows it matters only to an area. -/
lemma Qualifies.exchanges (h : Qualifies ctx l q) (hm : mention? y = none → mention? y' = none) :
    Exchanges (l ++ y) (l ++ y') := by
  obtain ⟨c, cs, hl, hc⟩ := h.head
  have hcolon : c ≠ ':' := by
    rcases hc with hc | rfl
    · exact ne_colon_of_startsWord hc
    · decide
  refine ⟨by rw [hl]; exact alike_cons hcolon, alike_colon (by rw [hl]; exact id) ?_ ?_⟩
  · intro hspan
    cases h with
    | sheet hw =>
      rw [List.append_assoc, List.singleton_append, spanEnd?_word hw] at hspan
      exact absurd hspan (by simp)
    | span hw =>
      rw [List.append_assoc, List.cons_append]
      exact spanEnd?_word_none hw.inWord rfl rfl
    | quoted => rfl
  · intro name hcorner
    obtain ⟨hnone, hagain⟩ := corner?_colon.1 hcorner
    rcases h.names with ⟨n, again, rfl, hn⟩ | ⟨w, v, rfl, hw, -⟩
    · -- One name may be that of the sheet. Then the area is decided by the mention behind it.
      simp only [List.append_assoc, List.singleton_append] at hagain ⊢
      refine corner?_colon.2 ⟨hn.mention? y', ?_⟩
      intro z hz
      obtain ⟨s, rfl, hs⟩ := Option.bind_eq_some_iff.1 hz
      rw [hn.afterSameQualifier] at hs
      split at hs
      case isFalse => exact absurd hs (by simp)
      case isTrue hlower =>
        obtain rfl := Option.some.inj hs
        apply hm
        apply hagain
        rw [Option.bind_some, hn.afterSameQualifier, if_pos hlower]
    · simp only [List.append_assoc, List.cons_append] at hnone ⊢
      refine corner?_colon.2 ⟨mention?_word_none hw.inWord rfl (fun _ => rfl) hnone, ?_⟩
      intro z hz
      obtain ⟨s, -, hs⟩ := Option.bind_eq_some_iff.1 hz
      rw [afterSameQualifier_word (z := ':' :: _) hw rfl rfl] at hs
      exact absurd hs (by simp)

/-- What stands behind a qualifier and is no area is none in front of any text that is alike. -/
lemma Remnant.mention? (h : Remnant t z) : Formula.mention? (t ++ z) = none := by
  cases h with
  | error => exact mention?_of_leadsWith rfl
  | names _ hm => exact hm

/-- No word begins with what a number is made of. -/
lemma startsWord_of_inNumber (h : inNumber c = true) : startsWord c = false := by
  rw [Bool.eq_false_iff]
  intro hc
  rw [inNumber_of_startsWord hc] at h
  exact Bool.false_ne_true h

/-- A piece that is passed over makes up with what follows it a text that is exchanged again. -/
lemma Skips.exchanges (h : Skips ctx t z next) (hz : Exchanges z z') :
    Exchanges (t ++ z) (t ++ z') := by
  cases h with
  | string => exact exchanges_cons rfl (by decide) (by decide)
  | errorLiteral => exact exchanges_cons rfl (by decide) (by decide)
  | openParen => exact exchanges_cons rfl (by decide) (by decide)
  | closeParen => exact exchanges_cons rfl (by decide) (by decide)
  | openBrace => exact exchanges_cons rfl (by decide) (by decide)
  | closeBrace => exact exchanges_cons rfl (by decide) (by decide)
  | brackets => exact exchanges_cons rfl (by decide) (by decide)
  | number hc =>
    apply exchanges_cons (startsWord_of_inNumber hc)
    · rintro rfl; exact absurd hc (by decide)
    · rintro rfl; exact absurd hc (by decide)
  | @word w z hw hend hbang hspan hm =>
    have hend' := hz.1.ends inWord (by simp [endings]) hend
    have hbang' := hz.1.ends (· == '!') (by simp [endings]) hbang
    have hm' : mention? (t ++ z') = none :=
      mention?_word_none hw.inWord hend' (hz.1.continuesName hend) hm
    obtain ⟨c, cs, hcs, hc, -⟩ := id hw
    refine ⟨by rw [hcs]; exact alike_cons (ne_colon_of_startsWord hc),
      alike_colon (by rw [hcs]; exact id) ?_ ?_⟩
    · -- Behind a colon a word would end a span or name a sheet again, but for the missing mark.
      intro _
      exact spanEnd?_word_none hw.inWord hend' hbang'
    · intro name _
      refine corner?_colon.2 ⟨hm', ?_⟩
      intro y hy
      obtain ⟨s, -, hs⟩ := Option.bind_eq_some_iff.1 hy
      rw [afterSameQualifier_word hw hend' hbang'] at hs
      exact absurd hs (by simp)
  | qualified hl ht =>
    rw [List.append_assoc, List.append_assoc]
    exact hl.exchanges fun _ => (ht.exchange hz.1).mention?
  | @other c z hc =>
    by_cases hcolon : c = ':'
    · subst hcolon
      exact exchanges_colon hz
    · simp only [isOther, Bool.and_eq_true, Bool.not_eq_true'] at hc
      refine exchanges_cons hc.2 ?_ hcolon
      rintro rfl
      exact absurd hc.1.1 (by decide)

/-! ## References that move -/

/-- A mention stands where another has stood, with its mark if that one has one. -/
def Mention.Moves (m m' : Mention) : Prop :=
  IsMention m → IsMention m' ∧ (leadsWith (· == '$') m.text = true →
    leadsWith (· == '$') m'.text = true)

/-- The mentions of an area move, and what stands between them stays. -/
inductive Area.Moves : Area → Area → Prop where
  | one {m m' : Mention} : m.Moves m' → Area.Moves ⟨m, none⟩ ⟨m', none⟩
  | two {m m' k k' : Mention} {joint : List Char} : m.Moves m' → k.Moves k' →
    Area.Moves ⟨m, some ⟨joint, k⟩⟩ ⟨m', some ⟨joint, k'⟩⟩

lemma Mention.Moves.refl (m : Mention) : m.Moves m := fun h => ⟨h, id⟩

lemma Area.Moves.refl (a : Area) : a.Moves a := by
  obtain ⟨m, second⟩ := a
  cases second with
  | none => exact .one (.refl m)
  | some k => exact .two (.refl m) (.refl k.mention)

/-- The first corner of an area moves with it. -/
lemma Area.Moves.first (h : a.Moves a') : a.first.Moves a'.first := by
  cases h with
  | one hm => exact hm
  | two hm => exact hm

/-- What an area has moved to is an area. -/
lemma Area.Moves.isArea (h : a.Moves a') (ha : IsArea name a) : IsArea name a' := by
  cases h with
  | one hm => exact ⟨(hm ha.1).1, nofun⟩
  | @two m m' k k' joint hm hk =>
    obtain ⟨lead, hj, hr, hmention⟩ := ha.2 _ rfl
    refine ⟨(hm ha.1).1, ?_⟩
    rintro _ ⟨⟩
    exact ⟨lead, hj, hr, (hk hmention).1⟩

/-- A single cell does not come of a range. -/
lemma Area.Moves.second (h : a.Moves a') (ha : a'.second = none) : a.second = none := by
  cases h with
  | one => rfl
  | two => exact absurd ha (by simp)

/-- A reference that has moved is found where it has been. -/
lemma Finds.moved (h : Finds ctx ⟨o, l, a⟩ z) (ha : a.Moves a') (hz : Alike z z') :
    Finds ctx ⟨o, l, a'⟩ z' := by
  cases h with
  | bare harea hend hc =>
    refine .bare (ha.isArea harea) (hz.ends continuesName (by simp [endings]) hend) ?_
    intro hsecond
    obtain ⟨hcorner, hspan⟩ := hc (ha.second hsecond)
    exact ⟨hz.corner _ hcorner, hz.span hspan⟩
  | qualified hl harea hend hc =>
    refine .qualified hl (ha.isArea harea) (hz.ends continuesName (by simp [endings]) hend) ?_
    intro hsecond
    exact hz.corner _ (hc (ha.second hsecond))

/-- A written address begins with a dollar sign or a letter. -/
lemma IsMention.head {m : Mention} (h : IsMention m) :
    ∃ c cs, m.text = c :: cs ∧ startsWord c = true ∧ (c = '$' ∨ c.isAlpha = true) := by
  obtain ⟨s, hs, -⟩ := mention?_split h
  obtain ⟨l, ls, e⟩ := List.exists_cons_of_ne_nil s.letters_ne
  have hl : l.isAlpha = true := s.isAlpha l (e ▸ List.mem_cons_self)
  rw [hs, Spelling.text, List.append_assoc, List.append_assoc, e]
  cases s.colFixed with
  | true => exact ⟨'$', _, rfl, by decide, .inl rfl⟩
  | false => exact ⟨l, _, rfl, startsWord_of_isAlpha hl, .inr hl⟩

/-- What cannot go on with a letter cannot go on with what a word begins with. -/
lemma endings_of_isAlpha (hc : c.isAlpha = true) (hc' : startsWord c' = true) :
    ∀ p ∈ endings, p c = false → p c' = false := by
  have hword : inWord c = true := inWord_of_startsWord (startsWord_of_isAlpha hc)
  have hsigns := not_mem_signs_of_startsWord hc'
  have hnumber := inNumber_of_startsWord hc'
  intro p hp h
  simp only [endings, List.mem_cons, List.not_mem_nil, or_false] at hp
  rcases hp with rfl | rfl | rfl | rfl | rfl | rfl | rfl
  · apply beq_false_of_ne
    rintro rfl
    exact hsigns (by decide)
  · apply beq_false_of_ne
    rintro rfl
    exact absurd hc' (by decide)
  · simp [inErrorTail, inErrorLiteral, Char.isAlphanum, hc] at h
  · exact hnumber
  · rw [inNumber, Bool.or_eq_false_iff] at hnumber
    exact hnumber.1
  · rw [hword] at h
    exact absurd h (by simp)
  · rw [continuesName_of_inWord hword] at h
    exact absurd h (by simp)

/-- What a word begins with opens nothing behind a name. -/
lemma opensName_of_startsWord (h : startsWord c = true) : opensName c = false := by
  rw [Bool.eq_false_iff]
  intro ho
  simp only [opensName, Bool.or_eq_true, beq_iff_eq] at ho
  rcases ho with (rfl | rfl) | rfl <;> exact absurd h (by decide)

/-- Texts that begin with a mention and with what it has moved to are alike. -/
lemma alike_mention {m m' : Mention} (h : m.Moves m') (hm : IsMention m) :
    Alike (m.text ++ y) (m'.text ++ y') := by
  obtain ⟨hm', hmark⟩ := h hm
  obtain ⟨c, cs, e, hstart, hc⟩ := hm.head
  obtain ⟨c', cs', e', hstart', -⟩ := hm'.head
  rw [e, e'] at hmark
  rw [e, e']
  refine alike_of_head ?_ ?_ (ne_colon_of_startsWord hstart')
  · rcases hc with rfl | hc
    · rw [beq_iff_eq.1 (hmark rfl)]
      exact fun _ _ h => h
    · exact endings_of_isAlpha hc hstart'
  · intro ho
    rw [opensName_of_startsWord hstart] at ho
    exact absurd ho (by simp)

/-- An area makes up with what follows it a text that is exchanged when the area moves. -/
lemma Finds.exchanges_moved (h : Finds ctx ⟨o, l, a⟩ z) (ha : a.Moves a') (hz : Alike z z') :
    Exchanges (l ++ a.text ++ z) (l ++ a'.text ++ z') := by
  have h' := h.moved ha hz
  rw [List.append_assoc, List.append_assoc]
  cases h with
  | qualified hl harea hend =>
    obtain ⟨rest, hm⟩ := harea.mention? hend
    apply hl.exchanges
    intro hnone
    exact absurd (hm.symm.trans hnone) (by simp)
  | bare harea hend =>
    cases h' with
    | bare harea' hend' =>
    obtain ⟨rest, e, hrest⟩ := harea.split hend
    obtain ⟨rest', e', hrest'⟩ := harea'.split hend'
    have hm : mention? (a.text ++ z) = some (a.first, rest) := mention?_iff.2 ⟨e, harea.1, hrest⟩
    rw [List.nil_append, List.nil_append, e, e']
    refine ⟨alike_mention ha.first harea.1, alike_colon ?_ ?_ ?_⟩
    · intro hword
      obtain ⟨c, cs, ec, hc, -⟩ := harea.1.head
      rw [ec] at hword
      exact absurd ((inWord_of_startsWord hc).symm.trans hword) (by simp)
    · intro _
      apply spanEnd?_word_none harea'.1.isWord.inWord (leadsWith_inWord hrest')
      exact leadsWith_of_imp (fun d hd => by simp [continuesName, beq_iff_eq.1 hd]) hrest'
    · intro name hcorner
      rw [← e] at hcorner
      exact absurd (hm.symm.trans (corner?_colon.1 hcorner).1) (by simp)

/-- The error value for a lost reference is passed over where the reference has been found. -/
lemma Finds.lost (h : Finds ctx r z) (z' : List Char) :
    Skips ctx (r.lead ++ lostReference) z' ctx.plain := by
  have letters : ['R', 'E', 'F'].all inErrorLiteral = true := by decide
  have hlost : ErrorTail (['R', 'E', 'F'] ++ ['!']) z' :=
    .closed (List.all_eq_true.1 letters) (.inl rfl)
  cases h with
  | bare => exact .errorLiteral hlost
  | qualified hl => exact .qualified hl (.error hlost)

/-- A reference makes up with what follows it a text that is exchanged when it is lost. -/
lemma Finds.exchanges_lost (h : Finds ctx r z) :
    Exchanges (r.text ++ z) (r.lead ++ lostReference ++ z') := by
  rw [Reference.text, List.append_assoc, List.append_assoc]
  cases h with
  | qualified hl harea hend =>
    obtain ⟨rest, hm⟩ := harea.mention? hend
    apply hl.exchanges
    intro hnone
    exact absurd (hm.symm.trans hnone) (by simp)
  | bare harea hend =>
    obtain ⟨rest, e, -⟩ := harea.split hend
    obtain ⟨c, cs, ec, hc, -⟩ := harea.1.head
    rw [List.nil_append, List.nil_append, e, ec]
    refine ⟨alike_of_head ?_ ?_ (by decide), alike_colon_of_leadsWith (fun _ => rfl) rfl rfl⟩
    · have hash : ∀ p ∈ endings, p '#' = false := by decide
      exact fun p hp _ => hash p hp
    · intro ho
      rw [opensName_of_startsWord hc] at ho
      exact absurd ho (by simp)

/-! ## Passages that are rewritten -/

/-- What a piece may turn into where the addresses of a formula move. -/
inductive Turns : Piece → Piece → Prop where
  | plain {t : List Char} : Turns (.plain t) (.plain t)
  | moved {o : Option Qualifier} {l : List Char} {a a' : Area} : a.Moves a' →
    Turns (.reference ⟨o, l, a⟩) (.reference ⟨o, l, a'⟩)
  | lost {r : Reference} : Turns (.reference r) (.plain (r.lead ++ lostReference))

/-- Pieces in front of a text turn into pieces in front of another. No exponent may come to stand
behind a number. -/
inductive Rewrites : List Piece → List Char → List Piece → List Char → Prop where
  | nil {x x' : List Char} : Exchanges x x' → Rewrites [] x [] x'
  | cons {p p' : Piece} {ps ps' : List Piece} {x x' : List Char} : Turns p p' →
    (∀ t, p = .plain t → endsInNumber t = true → leadsExponent (texts ps' ++ x') = true →
      leadsExponent (texts ps ++ x) = true) →
    Rewrites ps x ps' x' → Rewrites (p :: ps) x (p' :: ps') x'

/-- A passage that is rewritten is a passage. -/
theorem Passes.rewrite {ps ps' : List Piece} (h : Passes ctx ps x ctx')
    (hr : Rewrites ps x ps' x') :
    Passes ctx ps' x' ctx' ∧ Exchanges (texts ps ++ x) (texts ps' ++ x') := by
  -- From the end of the passage on: that the rest is exchanged is what the piece before it needs.
  induction h generalizing ps' with
  | nil =>
    cases hr with
    | nil hx => exact ⟨.nil, hx⟩
  | skip hs _ ih =>
    cases hr with
    | cons ht he hr =>
      obtain ⟨hp, hx⟩ := ih hr
      cases ht with
      | plain =>
        refine ⟨.skip (hs.exchange hx.1 (he _ rfl)) hp, ?_⟩
        rw [texts_cons, texts_cons, List.append_assoc, List.append_assoc]
        exact hs.exchanges hx
  | found hf _ ih =>
    cases hr with
    | cons ht _ hr =>
      obtain ⟨hp, hx⟩ := ih hr
      rw [texts_cons, texts_cons, List.append_assoc, List.append_assoc]
      cases ht with
      | moved ha => exact ⟨.found (hf.moved ha hx.1) hp, hf.exchanges_moved ha hx.1⟩
      | lost => exact ⟨.skip (hf.lost _) hp, hf.exchanges_lost⟩

end Precedents.Formula
