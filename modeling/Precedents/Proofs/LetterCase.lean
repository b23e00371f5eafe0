import Precedents.Proofs.Address
import Precedents.Text.Lowercase

/-!
# The case of Latin letters

Two texts are the same but for the case of Latin letters exactly if they are equal in small letters
(`Text.small_eq_small_iff`). So what does not depend on the case is told by how it behaves when
capitals are made small: kinds of characters stay (`Caseless`), runs of a kind are made small in
their place, and addresses and the lowercase of a text come out the same.
-/

namespace Precedents

variable {c d : Char} {p : Char → Bool} {s t text : List Char}

/-! ## Characters -/

/-- Whether two characters are equal but for the case of a Latin letter. -/
def SameLetter (c d : Char) : Prop :=
  c = d ∨ c.isAlpha = true ∧ d.isAlpha = true ∧ c.toLower = d.toLower

/-- Whether two texts are equal but for the case of Latin letters. -/
def SameLetters (s t : String) : Prop := List.Forall₂ SameLetter s.toList t.toList

/-- A kind of characters that does not tell capitals from small letters. -/
def Caseless (p : Char → Bool) : Prop := ∀ c, p c.toLower = p c

/-- What is no capital letter stays what it is. -/
lemma toLower_of_not_isUpper (h : c.isUpper = false) : c.toLower = c := by
  rw [Char.toLower, dif_neg]
  intro hc
  rw [Char.isUpper, decide_eq_false_iff_not] at h
  exact h hc

/-- What is the same for the capitals and the small letters does not depend on the case. -/
lemma apply_toLower {α : Type} {f : Char → α}
    (h : ∀ k < 26, f (Char.ofNat (97 + k)) = f (Char.ofNat (65 + k))) (c : Char) :
    f c.toLower = f c := by
  cases hc : c.isUpper with
  | false => rw [toLower_of_not_isUpper hc]
  | true =>
    simp only [Char.isUpper, decide_eq_true_eq, ge_iff_le, UInt32.le_iff_toNat_le] at hc
    have hc : 65 ≤ c.toNat ∧ c.toNat ≤ 90 := hc
    obtain ⟨k, hk⟩ := Nat.exists_eq_add_of_le hc.1
    have small : ∀ k < 26, (Char.ofNat (65 + k)).toLower = Char.ofNat (97 + k) := by decide
    have e : c = Char.ofNat (65 + k) := by rw [← hk, Char.ofNat_toNat]
    rw [e, small k (by omega), h k (by omega)]

lemma caseless_isAlpha : Caseless Char.isAlpha := apply_toLower (by decide)

lemma caseless_isDigit : Caseless Char.isDigit := apply_toLower (by decide)

lemma caseless_isBlank : Caseless Text.isBlank := apply_toLower (by decide)

/-- A character that is no letter stands for itself in every case. -/
lemma toLower_eq_iff (hd : d.isAlpha = false) : c.toLower = d ↔ c = d := by
  cases hc : c.isUpper with
  | false => rw [toLower_of_not_isUpper hc]
  | true =>
    have hc : c.isAlpha = true := by rw [Char.isAlpha, hc, Bool.true_or]
    refine iff_of_false ?_ ?_
    · rintro rfl
      rw [caseless_isAlpha, hc] at hd
      exact absurd hd (by simp)
    · rintro rfl
      rw [hc] at hd
      exact absurd hd (by simp)

/-- No other character becomes a given one that is no letter. -/
lemma toLower_ne (hc : c ≠ d) (hd : d.isAlpha = false) : c.toLower ≠ d :=
  fun h => hc ((toLower_eq_iff hd).1 h)

/-- A character is the one looked for, or it is not and does not become it in small letters. -/
lemma eq_or_toLower_ne (c : Char) (hd : d.isAlpha = false) : c = d ∨ c ≠ d ∧ c.toLower ≠ d := by
  by_cases hc : c = d
  · exact .inl hc
  · exact .inr ⟨hc, toLower_ne hc hd⟩

lemma caseless_beq (hd : d.isAlpha = false) : Caseless (· == d) := by
  intro c
  rw [Bool.eq_iff_iff, beq_iff_eq, beq_iff_eq]
  exact toLower_eq_iff hd

/-- Characters are the same letter if they are the same in lowercase. -/
lemma sameLetter_iff : SameLetter c d ↔ c.toLower = d.toLower := by
  constructor
  · rintro (rfl | ⟨-, -, h⟩)
    · rfl
    · exact h
  · intro h
    by_cases hc : c.isAlpha = true
    · refine .inr ⟨hc, ?_, h⟩
      rw [← caseless_isAlpha d, ← h, caseless_isAlpha]
      exact hc
    · -- No letter is made small from a character that is none.
      have hupper : ∀ {e : Char}, e.isAlpha = false → e.toLower = e := by
        intro e he
        rw [Char.isAlpha, Bool.or_eq_false_iff] at he
        exact toLower_of_not_isUpper he.1
      have hc : c.isAlpha = false := Bool.eq_false_iff.2 hc
      have hd : d.isAlpha = false := by rw [← caseless_isAlpha d, ← h, caseless_isAlpha, hc]
      rw [hupper hc, hupper hd] at h
      exact .inl h

/-! ## Texts -/

namespace Text

/-- The characters of a text with its Latin capitals made small. -/
def small (text : List Char) : List Char := text.map Char.toLower

lemma small_cons (c : Char) (text : List Char) : small (c :: text) = c.toLower :: small text := rfl

lemma small_append (s t : List Char) : small (s ++ t) = small s ++ small t := List.map_append

lemma length_small (text : List Char) : (small text).length = text.length := List.length_map _

lemma isEmpty_small (text : List Char) : (small text).isEmpty = text.isEmpty := List.isEmpty_map

/-- Texts are equal in small letters exactly if they are equal but for the case of letters. -/
lemma small_eq_small_iff : small s = small t ↔ List.Forall₂ SameLetter s t := by
  induction s generalizing t with
  | nil =>
    cases t with
    | nil => exact iff_of_true rfl .nil
    | cons d t => exact iff_of_false (by simp [small]) nofun
  | cons c s ih =>
    cases t with
    | nil => exact iff_of_false (by simp [small]) nofun
    | cons d t =>
      rw [small_cons, small_cons, List.cons.injEq, List.forall₂_cons, sameLetter_iff]
      exact and_congr_right fun _ => ih

lemma takeWhile_small (hp : Caseless p) (text : List Char) :
    (small text).takeWhile p = small (text.takeWhile p) := by
  rw [small, List.takeWhile_map, funext (f := p ∘ Char.toLower) hp]
  rfl

lemma dropWhile_small (hp : Caseless p) (text : List Char) :
    (small text).dropWhile p = small (text.dropWhile p) := by
  rw [small, List.dropWhile_map, funext (f := p ∘ Char.toLower) hp]
  rfl

lemma trim_small (text : List Char) : trim (small text) = small (trim text) := by
  simp only [trim, trimLeft, trimRight, dropWhile_small caseless_isBlank]
  rw [small, ← List.map_reverse]
  change ((small _).dropWhile isBlank).reverse = _
  rw [dropWhile_small caseless_isBlank, small, small, List.map_reverse]

/-- Digits have no case, and a text of digits has no letters. -/
lemma digits?_small (text : List Char) : digits? (small text) = digits? text := by
  have hall : (small text).all Char.isDigit = text.all Char.isDigit := by
    rw [small, List.all_map, funext (f := Char.isDigit ∘ Char.toLower) caseless_isDigit]
  rw [digits?, digits?, hall, isEmpty_small]
  split
  case isTrue => rfl
  case isFalse h =>
    have hdigits : ∀ c ∈ text, c.toLower = c := by
      intro c hc
      have hd : c.isDigit = true := by
        simp only [Bool.or_eq_true, Bool.not_eq_true', not_or, Bool.not_eq_false] at h
        exact List.all_eq_true.1 h.2 c hc
      have ha := isAlpha_of_isDigit hd
      rw [Char.isAlpha, Bool.or_eq_false_iff] at ha
      exact toLower_of_not_isUpper ha.1
    rw [small, List.map_congr_left hdigits, List.map_id']

/-! ## The lowercase of a text -/

/-- Whether a text comes to a letter does not depend on the case. -/
lemma meetsCased_small (text : List Char) : meetsCased (small text) = meetsCased text := by
  have ignorable : Caseless isCaseIgnorable := apply_toLower (by decide)
  have cased : Caseless isCased := apply_toLower (by decide)
  unfold meetsCased
  rw [dropWhile_small ignorable]
  cases text.dropWhile isCaseIgnorable with
  | nil => rfl
  | cons c cs => exact cased c

/-- The lowercase of a text is that of the text in small letters. -/
lemma lowerAfter_small (before text : List Char) :
    lowerAfter (small before) (small text) = lowerAfter before text := by
  induction text generalizing before with
  | nil => rfl
  | cons c cs ih =>
    have hbetween : lowerBetween (small before) c.toLower (small cs) =
        lowerBetween before c cs := by
      have hsigma : c.toLower = 'Σ' ↔ c = 'Σ' := toLower_eq_iff (by decide)
      have hdotted : c.toLower = 'İ' ↔ c = 'İ' := toLower_eq_iff (by decide)
      have hlower : lowerChar c.toLower = lowerChar c := apply_toLower (by decide) c
      simp only [lowerBetween, hsigma, hdotted, hlower, meetsCased_small]
    rw [small_cons, lowerAfter, lowerAfter, hbetween]
    exact congrArg (_ ++ ·) (ih (c :: before))

/-- The text with its Latin capitals made small. -/
def uncapitalized (s : String) : String := String.ofList (small s.toList)

/-- A text without capitals has the same lowercase. -/
lemma lowercase_uncapitalized (s : String) : lowercase (uncapitalized s) = lowercase s := by
  rw [lowercase, uncapitalized, String.toList_ofList]
  exact congrArg String.ofList (lowerAfter_small [] s.toList)

/-- A string loses its capitals character by character. -/
lemma uncapitalized_ofList (cs : List Char) :
    uncapitalized (String.ofList cs) = String.ofList (small cs) := by
  rw [uncapitalized, String.toList_ofList]

/-- Texts are the same without capitals if they have the same letters. -/
lemma uncapitalized_eq_iff {s t : String} :
    uncapitalized s = uncapitalized t ↔ SameLetters s t := by
  rw [SameLetters, ← small_eq_small_iff, uncapitalized, uncapitalized, String.ofList_inj]

end Text

/-! ## Addresses -/

/-- Two results that are the same but for what is wrong. -/
lemma cases_of_toOption {ε α : Type} {x y : Except ε α} (h : x.toOption = y.toOption) :
    (∃ a, x = .ok a ∧ y = .ok a) ∨ ∃ e e', x = .error e ∧ y = .error e' := by
  cases x with
  | error e =>
    cases y with
    | error e' => exact .inr ⟨e, e', rfl, rfl⟩
    | ok b => exact absurd h nofun
  | ok a =>
    cases y with
    | error e' => exact absurd h nofun
    | ok b =>
      obtain rfl : a = b := Option.some.inj h
      exact .inl ⟨a, rfl, rfl⟩

lemma lettersValue_small (cs : List Char) : lettersValue (Text.small cs) = lettersValue cs := by
  have hvalue : ∀ c : Char, letterValue c.toLower = letterValue c := apply_toLower (by decide)
  simp only [lettersValue, Text.small, List.foldl_map, hvalue]

/-- Letters name the same column in small letters, if they name one. -/
lemma columnOfLetters_small (h : ∀ c ∈ text, c.isAlpha = true) :
    (columnOfLetters (Text.small text)).toOption = (columnOfLetters text).toOption := by
  have hsmall : ∀ c ∈ Text.small text, c.isAlpha = true := by
    intro c hc
    obtain ⟨d, hd, rfl⟩ := List.mem_map.1 hc
    rw [caseless_isAlpha]
    exact h d hd
  by_cases hne : text = []
  · rw [hne]
    rfl
  by_cases hlen : text.length ≤ 3
  · have hne' : Text.small text ≠ [] := fun he => hne (List.map_eq_nil_iff.1 he)
    rw [columnOfLetters_of_isAlpha hne hlen h,
      columnOfLetters_of_isAlpha hne' (Text.length_small text ▸ hlen) hsmall, lettersValue_small]
  · -- Too many letters are no column in either case.
    have hlt : 3 < text.length := Nat.lt_of_not_le hlen
    rw [columnOfLetters_long h hlt, columnOfLetters_long hsmall (Text.length_small text ▸ hlt)]
    rfl

namespace Address

lemma takeMark_small (text : List Char) :
    takeMark (Text.small text) = ((takeMark text).1, Text.small (takeMark text).2) := by
  cases text with
  | nil => rfl
  | cons c cs =>
    obtain rfl | ⟨hc, hc'⟩ := eq_or_toLower_ne (d := '$') c (by decide)
    · rfl
    · simp [takeMark, Text.small, hc, hc']

/-- An address is read from its text in either case. -/
lemma ofChars_small (text : List Char) :
    (ofChars (Text.small text)).toOption = (ofChars text).toOption := by
  have hletters : ∀ c ∈ (takeMark text).2.takeWhile Char.isAlpha, c.isAlpha = true :=
    List.all_eq_true.1 List.all_takeWhile
  have hcol := cases_of_toOption (columnOfLetters_small hletters)
  simp only [ofChars, takeMark_small, Text.takeWhile_small caseless_isAlpha,
    Text.dropWhile_small caseless_isAlpha, Text.isEmpty_small, Text.digits?_small]
  generalize (takeMark text).2.takeWhile Char.isAlpha = letters at hcol ⊢
  generalize takeMark ((takeMark text).2.dropWhile Char.isAlpha) = digits
  by_cases he : letters.isEmpty = true
  · rw [if_pos he, if_pos he]
    rfl
  rw [if_neg he, if_neg he]
  -- Either both texts have a column, and then the same, or neither has one.
  obtain ⟨col, hsmall, hcol⟩ | ⟨e, e', hsmall, hcol⟩ := hcol
  · rw [hsmall, hcol]
    cases Text.digits? digits.2 with
    | none => rfl
    | some n => cases n <;> rfl
  · rw [hsmall, hcol]
    rfl

/-- A text is the same address in small letters, if it is one. -/
lemma parse_small (text : List Char) :
    (parse (String.ofList (Text.small text))).toOption = (parse (String.ofList text)).toOption := by
  rw [parse, parse, String.toList_ofList, String.toList_ofList, Text.trim_small]
  exact ofChars_small (Text.trim text)

end Address

end Precedents
