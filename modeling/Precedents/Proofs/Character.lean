import Mathlib
import Precedents.Text.Blank
import Precedents.Text.Letter
import Precedents.Text.Numeral

/-!
# Kinds of characters

How the kinds of characters exclude each other: letters and digits within ASCII, and blanks against
the characters of words in any script, whose tables lie apart.
-/

namespace Precedents

/-- What is of some kind is none of some characters that are not. -/
lemma not_mem_of_all {p : Char → Bool} {l : List Char} {c : Char} (h : l.all (!p ·) = true)
    (hc : p c = true) : c ∉ l := by
  intro hmem
  have hn := List.all_eq_true.1 h c hmem
  rw [hc] at hn
  exact Bool.false_ne_true hn

lemma isAlpha_iff_toNat {c : Char} :
    c.isAlpha = true ↔ (65 ≤ c.toNat ∧ c.toNat ≤ 90) ∨ (97 ≤ c.toNat ∧ c.toNat ≤ 122) := by
  simp only [Char.isAlpha, Char.isUpper, Char.isLower, Bool.or_eq_true, Bool.and_eq_true,
    decide_eq_true_eq, ge_iff_le, UInt32.le_iff_toNat_le]
  exact Iff.rfl

lemma isDigit_iff_toNat {c : Char} : c.isDigit = true ↔ 48 ≤ c.toNat ∧ c.toNat ≤ 57 :=
  Char.isDigit_iff_toNat

/-- The characters of ASCII are the first 128, so what is said of them can be checked one by one. -/
lemma exists_ofNat {c : Char} (h : c.toNat < 128) : ∃ n < 128, Char.ofNat n = c :=
  ⟨c.toNat, h, Char.ofNat_toNat c⟩

lemma isDigit_of_isAlpha {c : Char} (h : c.isAlpha = true) : c.isDigit = false := by
  rw [isAlpha_iff_toNat] at h
  rw [Bool.eq_false_iff, ne_eq, isDigit_iff_toNat]
  omega

lemma isAlpha_of_isDigit {c : Char} (h : c.isDigit = true) : c.isAlpha = false := by
  rw [Bool.eq_false_iff, ne_eq]
  intro ha
  rw [isDigit_of_isAlpha ha] at h
  exact Bool.false_ne_true h

/-- Within ASCII the blanks end before the dollar sign. -/
lemma isBlank_of_toNat {c : Char} (h : 36 ≤ c.toNat) (h' : c.toNat < 128) :
    Text.isBlank c = false := by
  rw [Bool.eq_false_iff, ne_eq]
  intro hb
  simp only [Text.isBlank, Text.Charset.covers, Text.blanks, List.any_cons, List.any_nil,
    Bool.or_eq_true, Bool.and_eq_true, decide_eq_true_eq, Bool.or_false] at hb
  omega

/-- Whether every range of one set lies before or after every range of another. -/
def apart (s t : Text.Charset) : Bool :=
  s.all fun r => t.all fun r' => r'.2 < r.1 || r.2 < r'.1

/-- A character of one set is not in another that lies apart from it. -/
lemma covers_of_apart {s t : Text.Charset} {c : Char} (h : apart s t = true)
    (hc : s.covers c = true) : t.covers c = false := by
  simp only [apart, List.all_eq_true, Bool.or_eq_true, decide_eq_true_eq] at h
  simp only [Text.Charset.covers, List.any_eq_true, Bool.and_eq_true, decide_eq_true_eq] at hc
  obtain ⟨r, hr, hle, hge⟩ := hc
  rw [Text.Charset.covers, List.any_eq_false]
  intro r' hr' hin
  rw [Bool.and_eq_true, decide_eq_true_eq, decide_eq_true_eq] at hin
  have := h r hr r' hr'
  omega

lemma isAlpha_of_isBlank {c : Char} (h : Text.isBlank c = true) : c.isAlpha = false := by
  rw [Bool.eq_false_iff, ne_eq, isAlpha_iff_toNat]
  intro hc
  rw [isBlank_of_toNat (by omega) (by omega)] at h
  exact Bool.false_ne_true h

lemma isLetter_of_isBlank {c : Char} (h : Text.isBlank c = true) : Text.isLetter c = false := by
  have letters : apart Text.blanks Text.letters = true := by decide +kernel
  unfold Text.isLetter
  split
  case isTrue => exact isAlpha_of_isBlank h
  case isFalse => exact covers_of_apart letters h

lemma isDigit_of_isBlank {c : Char} (h : Text.isBlank c = true) : c.isDigit = false := by
  rw [Bool.eq_false_iff, ne_eq, isDigit_iff_toNat]
  intro hc
  rw [isBlank_of_toNat (by omega) (by omega)] at h
  exact Bool.false_ne_true h

lemma isNumeral_of_isBlank {c : Char} (h : Text.isBlank c = true) : Text.isNumeral c = false := by
  have numerals : apart Text.blanks Text.numerals = true := by decide +kernel
  unfold Text.isNumeral
  split
  case isTrue => exact isDigit_of_isBlank h
  case isFalse => exact covers_of_apart numerals h

end Precedents
