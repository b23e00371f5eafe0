import Precedents.Formula.Step

/-!
# Steps advance

Every step that does not stop leaves less text than it was taken on, and what it leaves is the end
of that text. The lemmas follow the functions that read a piece, from the smallest up;
`step_advances` puts them together.
-/

namespace Precedents.Formula

/-- What a step owes to the text it was taken on: it leaves less of it, and what it leaves is its
end. -/
def Step.Advances (text : List Char) : Step → Prop
  | stop _ => True
  | skip rest _ => rest <:+ text ∧ rest.length < text.length
  | found r rest => r.text ++ rest = text ∧ rest.length < text.length

/-- Behind a mark, if there is one, stands the end of the text. -/
theorem takeMark_suffix (text : List Char) : (Address.takeMark text).2 <:+ text := by
  unfold Address.takeMark
  split
  · exact List.suffix_cons _ _
  · exact List.suffix_rfl

/-- A text that leads with a kind of character gets shorter where these are dropped. -/
theorem dropWhile_lt {p : Char → Bool} {text : List Char} (h : leadsWith p text = true) :
    (text.dropWhile p).length < text.length := by
  cases text with
  | nil => simp [leadsWith] at h
  | cons c cs =>
    have h : p c = true := h
    rw [List.dropWhile_cons_of_pos h]
    exact Nat.lt_succ_of_le (List.dropWhile_suffix p).length_le

theorem mention?_append {text rest : List Char} {m : Mention}
    (h : mention? text = some (m, rest)) : m.text ++ rest = text ∧ rest.length < text.length := by
  simp only [mention?] at h
  split at h
  case isTrue => simp at h
  case isFalse hne =>
    split at h
    case h_2 => simp at h
    case h_1 address _ =>
      obtain ⟨rfl, rfl⟩ := Prod.mk.inj (Option.some.inj h)
      simp only [Bool.or_eq_true, Bool.not_eq_true', not_or, Bool.not_eq_false] at hne
      have hs := (takeMark_suffix _).trans
        ((List.dropWhile_suffix Char.isAlpha).trans (takeMark_suffix text))
      exact ⟨upTo_append ((List.dropWhile_suffix _).trans hs),
        Nat.lt_of_lt_of_le (dropWhile_lt hne.1.2) hs.length_le⟩

/-- What is left behind a repeated qualifier is the end of the text. -/
theorem afterSameQualifier_suffix {name : String} {text rest : List Char}
    (h : afterSameQualifier name text = some rest) : rest <:+ text := by
  simp only [afterSameQualifier] at h
  split at h
  case h_2 => simp at h
  case h_1 again after he =>
    split at h
    case isFalse => simp at h
    case isTrue =>
      obtain rfl := Option.some.inj h
      have hs : '!' :: after <:+ text := by
        split at he
        · simp at he
        · exact (quotedName_suffix he).trans (List.suffix_cons _ _)
        · split at he
          · obtain ⟨-, he⟩ := Prod.mk.inj (Option.some.inj he)
            exact he ▸ (List.dropWhile_suffix _).trans (List.suffix_cons _ _)
          · simp at he
      exact (List.suffix_cons _ _).trans hs

theorem corner?_append {name : Option String} {text rest : List Char} {corner : Corner}
    (h : corner? name text = some (corner, rest)) :
    corner.joint ++ corner.mention.text ++ rest = text ∧ rest.length < text.length := by
  unfold corner? at h
  split at h
  case h_2 => simp at h
  case h_1 cs =>
    split at h
    case h_1 m r hm =>
      obtain ⟨rfl, rfl⟩ := Prod.mk.inj (Option.some.inj h)
      obtain ⟨hm, hlt⟩ := mention?_append hm
      exact ⟨by simp [hm], Nat.lt_succ_of_lt hlt⟩
    case h_2 =>
      simp only [Option.bind_eq_bind, Option.bind_eq_some_iff] at h
      obtain ⟨sheet, -, again, hs, ⟨m, r⟩, hm, he⟩ := h
      obtain ⟨rfl, rfl⟩ := Prod.mk.inj (Option.some.inj he)
      obtain ⟨hm, hlt⟩ := mention?_append hm
      have hs := (afterSameQualifier_suffix hs).trans (List.suffix_cons ':' cs)
      refine ⟨?_, Nat.lt_of_lt_of_le hlt hs.length_le⟩
      simp only [List.append_assoc, hm, upTo_append hs]

theorem area?_append {name : Option String} {text rest : List Char} {area : Area}
    (h : area? name text = some (area, rest)) :
    area.text ++ rest = text ∧ rest.length < text.length := by
  unfold area? at h
  split at h
  case h_1 => simp at h
  case h_2 m r hm =>
    obtain ⟨hm, hlt⟩ := mention?_append hm
    split at h
    case h_1 corner r' hc =>
      obtain ⟨rfl, rfl⟩ := Prod.mk.inj (Option.some.inj h)
      obtain ⟨hc, hlt'⟩ := corner?_append hc
      exact ⟨by simpa [Area.text, hc] using hm, Nat.lt_trans hlt' hlt⟩
    case h_2 =>
      obtain ⟨rfl, rfl⟩ := Prod.mk.inj (Option.some.inj h)
      exact ⟨by simpa [Area.text] using hm, hlt⟩

/-- What is left behind one name or two is the end of the text. -/
theorem afterNames_suffix (text : List Char) : afterNames text <:+ text := by
  have h := List.dropWhile_suffix inWord (l := text)
  unfold afterNames
  split
  case h_1 cs e =>
    split
    · exact (List.dropWhile_suffix _).trans ((List.suffix_cons ':' cs).trans (e ▸ h))
    · exact e ▸ h
  case h_2 => exact h

/-- A step that has passed a qualifier goes on from there, or not at all. -/
theorem stepQualified_advances {ctx : Context} {q : Qualifier} {text rest : List Char}
    (hs : rest <:+ text) (hlt : rest.length < text.length) :
    (stepQualified ctx q text rest).Advances text := by
  unfold stepQualified
  split
  case h_1 area r ha =>
    obtain ⟨ha, hlt'⟩ := area?_append ha
    refine ⟨?_, Nat.lt_trans hlt' hlt⟩
    simp only [Reference.text, List.append_assoc, ha, upTo_append hs]
  case h_2 =>
    split
    case h_1 cs _ =>
      have h := (afterErrorLiteral_suffix cs).trans (List.suffix_cons '#' cs)
      exact ⟨h.trans hs, Nat.lt_of_le_of_lt h.length_le hlt⟩
    case h_2 c cs _ _ =>
      split
      · have h := afterNames_suffix (c :: cs)
        exact ⟨h.trans hs, Nat.lt_of_le_of_lt h.length_le hlt⟩
      · trivial
    case h_3 => trivial

/-- A step that has passed a word without a qualifier goes on behind the area or behind the word. -/
theorem stepUnqualified_advances {ctx : Context} {text rest : List Char}
    (hs : rest <:+ text) (hlt : rest.length < text.length) :
    (stepUnqualified ctx text rest).Advances text := by
  unfold stepUnqualified
  split
  case h_1 area r ha =>
    obtain ⟨ha, hlt'⟩ := area?_append ha
    exact ⟨by simpa [Reference.text] using ha, hlt'⟩
  case h_2 => exact ⟨hs, hlt⟩

/-- What is left behind the second name of a span is the end of the text. -/
theorem spanEnd?_suffix {text last rest : List Char} (h : spanEnd? text = some (last, rest)) :
    rest <:+ text := by
  unfold spanEnd? at h
  split at h
  case h_2 => simp at h
  case h_1 cs =>
    split at h
    case isFalse => simp at h
    case isTrue =>
      split at h
      case h_2 => simp at h
      case h_1 after he =>
        obtain ⟨-, rfl⟩ := Prod.mk.inj (Option.some.inj h)
        have he : '!' :: after <:+ cs := he ▸ List.dropWhile_suffix _
        exact ((List.suffix_cons _ _).trans he).trans (List.suffix_cons _ _)

/-- A step at a word leaves less text. -/
theorem stepWord_advances (ctx : Context) (c : Char) (cs : List Char) :
    (stepWord ctx c cs).Advances (c :: cs) := by
  have hs : cs.dropWhile inWord <:+ c :: cs :=
    (List.dropWhile_suffix _).trans (List.suffix_cons _ _)
  have hlt : (cs.dropWhile inWord).length < (c :: cs).length :=
    Nat.lt_succ_of_le (List.dropWhile_suffix inWord (l := cs)).length_le
  simp only [stepWord]
  split
  case h_1 after he =>
    have ha : after <:+ cs.dropWhile inWord := he ▸ List.suffix_cons _ _
    exact stepQualified_advances (ha.trans hs) (Nat.lt_of_le_of_lt ha.length_le hlt)
  case h_2 => exact ⟨hs, hlt⟩
  case h_3 =>
    split
    case h_1 last after he =>
      have ha := spanEnd?_suffix he
      exact stepQualified_advances (ha.trans hs) (Nat.lt_of_le_of_lt ha.length_le hlt)
    case h_2 => exact stepUnqualified_advances hs hlt

/-- A step at a quoted name leaves less text. -/
theorem stepQuoted_advances (ctx : Context) (cs : List Char) :
    (stepQuoted ctx cs).Advances ('\'' :: cs) := by
  unfold stepQuoted
  split
  case h_1 => trivial
  case h_2 name rest he =>
    have hs : rest <:+ cs := (List.suffix_cons '!' rest).trans (quotedName_suffix he)
    exact stepQualified_advances (hs.trans (List.suffix_cons _ _)) (Nat.lt_succ_of_le hs.length_le)
  case h_3 => trivial

/-- Leaving the end of the tail of a text is an advance. -/
theorem Step.advances_skip {c : Char} {cs rest : List Char} {next : Context} (h : rest <:+ cs) :
    (Step.skip rest next).Advances (c :: cs) :=
  ⟨h.trans (List.suffix_cons _ _), Nat.lt_succ_of_le h.length_le⟩

/-- Every step that does not stop leaves less text, so reading ends. -/
theorem step_advances (ctx : Context) (text : List Char) : (step ctx text).Advances text := by
  unfold step
  split
  case h_1 => repeat' split
              all_goals trivial
  case h_2 cs =>
    split
    case h_1 rest h => exact Step.advances_skip (afterString_suffix h)
    case h_2 => trivial
  case h_3 cs => exact Step.advances_skip (afterErrorLiteral_suffix cs)
  case h_4 => exact Step.advances_skip List.suffix_rfl
  case h_5 =>
    split
    · trivial
    · exact Step.advances_skip List.suffix_rfl
  case h_6 => exact Step.advances_skip List.suffix_rfl
  case h_7 =>
    split
    · trivial
    · exact Step.advances_skip List.suffix_rfl
  case h_8 cs =>
    split
    case h_1 rest h => exact Step.advances_skip (afterBrackets_suffix h)
    case h_2 => trivial
  case h_9 => trivial
  case h_10 cs => exact stepQuoted_advances ctx cs
  -- No sign: a number, a word or another character.
  case h_11 c cs _ _ _ _ _ _ _ _ _ =>
    split
    · exact Step.advances_skip (afterNumber_suffix cs)
    · split
      · exact stepWord_advances ctx c cs
      · exact Step.advances_skip List.suffix_rfl

/-- A step that skips something leaves a shorter end of the text. -/
theorem advances_of_skip {ctx next : Context} {text rest : List Char}
    (h : step ctx text = .skip rest next) : rest <:+ text ∧ rest.length < text.length := by
  have hadv := step_advances ctx text
  rwa [h] at hadv

/-- A reference that a step finds and what is left behind it make up the text. -/
theorem advances_of_found {ctx : Context} {text rest : List Char} {r : Reference}
    (h : step ctx text = .found r rest) :
    r.text ++ rest = text ∧ rest.length < text.length := by
  have hadv := step_advances ctx text
  rwa [h] at hadv

end Precedents.Formula
