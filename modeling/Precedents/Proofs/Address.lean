import Precedents.Address
import Precedents.Proofs.Character

/-!
# Addresses read back

What an address is written with is read as that address. `lettersValue_columnNumeral` and
`digits?_toDigits` say so of the two numerals; `Spelling` gathers the parts that every text of the
shape of an address has, and `Spelling.ofChars` computes what such a text is read as. The main
results are `Address.ofChars_chars` (a written address is read back) and `Address.chars_inj` (no two
addresses are written alike).
-/

namespace Precedents

/-! ## Column letters -/

/-- The capital letters count from one on. -/
lemma letterValue_ofNat {k : Nat} (h : k < 26) :
    letterValue (Char.ofNat ('A'.toNat + k)) = k + 1 := by
  have values : ∀ k < 26, letterValue (Char.ofNat ('A'.toNat + k)) = k + 1 := by decide
  exact values k h

lemma lettersValue_concat (cs : List Char) (c : Char) :
    lettersValue (cs ++ [c]) = 26 * lettersValue cs + letterValue c := by
  simp [lettersValue, List.foldl_append]

/-- The numeral in column letters has the value that it is written for. -/
lemma lettersValue_columnNumeral (n : Nat) : lettersValue (columnNumeral n) = n := by
  induction n using columnNumeral.induct with
  | case1 => simp [columnNumeral, lettersValue]
  | case2 n hn ih =>
    rw [columnNumeral, if_neg hn, lettersValue_concat, ih, letterValue_ofNat (by omega)]
    omega

/-- The letters of a column are capitals. -/
lemma isUpper_of_mem_columnNumeral {n : Nat} {c : Char} (h : c ∈ columnNumeral n) :
    c.isUpper = true := by
  induction n using columnNumeral.induct with
  | case1 => simp [columnNumeral] at h
  | case2 n hn ih =>
    rw [columnNumeral, if_neg hn, List.mem_append, List.mem_singleton] at h
    have capitals : ∀ k < 26, (Char.ofNat ('A'.toNat + k)).isUpper = true := by decide
    rcases h with h | rfl
    · exact ih h
    · exact capitals _ (by omega)

/-- A number below a power of 26 needs no more letters than its exponent. -/
lemma length_columnNumeral_le {n k : Nat} (h : n < 26 ^ k) : (columnNumeral n).length ≤ k := by
  induction k generalizing n with
  | zero =>
    obtain rfl : n = 0 := by omega
    simp [columnNumeral]
  | succ k ih =>
    rw [columnNumeral]
    split
    · exact Nat.zero_le _
    · rw [List.length_append]
      exact Nat.succ_le_succ (ih (by rw [Nat.pow_succ] at h; omega))

/-- The letters of a column are ASCII letters. -/
lemma isAlpha_of_mem_columnLetters {col : Nat} {c : Char} (h : c ∈ columnLetters col) :
    c.isAlpha = true := by
  rw [Char.isAlpha, isUpper_of_mem_columnNumeral h, Bool.true_or]

lemma columnLetters_ne_nil (col : Nat) : columnLetters col ≠ [] := by
  intro h
  have hv := lettersValue_columnNumeral (col + 1)
  rw [show columnNumeral (col + 1) = [] from h] at hv
  exact Nat.succ_ne_zero col hv.symm

/-- An ASCII letter is one byte, its code. -/
lemma utf8EncodeChar_of_isAlpha {c : Char} (h : c.isAlpha = true) :
    String.utf8EncodeChar c = [c.val.toUInt8] := by
  apply String.utf8EncodeChar_eq_singleton
  rw [isAlpha_iff_toNat] at h
  rw [Char.utf8Size_eq_one_iff, UInt32.le_iff_toNat_le]
  change c.toNat ≤ 127
  omega

/-- An ASCII letter is had back from its byte. -/
lemma ofUInt8_of_isAlpha {c : Char} (h : c.isAlpha = true) : Char.ofUInt8 c.val.toUInt8 = c := by
  rw [isAlpha_iff_toNat] at h
  apply Char.ext
  apply UInt32.toNat.inj
  have hb : c.val.toUInt8.toNat = c.toNat % 256 := UInt32.toNat_toUInt8 _
  change c.val.toUInt8.toUInt32.toNat = c.toNat
  rw [UInt8.toNat_toUInt32, hb]
  omega

/-- ASCII letters are as many bytes, their codes. -/
lemma flatMap_utf8EncodeChar_of_isAlpha {cs : List Char} (h : ∀ c ∈ cs, c.isAlpha = true) :
    cs.flatMap String.utf8EncodeChar = cs.map (·.val.toUInt8) := by
  induction cs with
  | nil => rfl
  | cons c cs ih =>
    rw [List.flatMap_cons, utf8EncodeChar_of_isAlpha (h c List.mem_cons_self),
      ih fun d hd => h d (List.mem_cons_of_mem c hd)]
    rfl

/-- What one to three letters are read as: their value, counted from zero, if the grid has it. -/
lemma columnOfLetters_of_isAlpha {letters : List Char} (hne : letters ≠ [])
    (hl : letters.length ≤ 3) (h : ∀ c ∈ letters, c.isAlpha = true) :
    columnOfLetters letters =
      if columnLimit ≤ lettersValue letters - 1
        then .error (.columnBeyondGrid (lettersValue letters - 1))
        else .ok (lettersValue letters - 1) := by
  -- Letters take one byte each, so that their bytes are counted and looked at in their place.
  have hf : (letters.map (·.val.toUInt8)).find? (fun b => !(Char.ofUInt8 b).isAlpha) = none := by
    rw [List.find?_eq_none]
    intro b hb
    obtain ⟨c, hc, rfl⟩ := List.mem_map.1 hb
    rw [ofUInt8_of_isAlpha (h c hc), h c hc]
    exact Bool.false_ne_true
  have hn : ¬3 < (letters.map (·.val.toUInt8)).length := by
    rw [List.length_map]
    omega
  simp only [columnOfLetters, flatMap_utf8EncodeChar_of_isAlpha h, List.isEmpty_map,
    List.isEmpty_iff, if_neg hne, if_neg hn, hf]
  rfl

/-- More than three letters are no column. -/
lemma columnOfLetters_long {letters : List Char} (h : ∀ c ∈ letters, c.isAlpha = true)
    (hlong : 3 < letters.length) : columnOfLetters letters =
      .error (.malformedAddress (.longLetters (String.ofList letters))) := by
  have hne : letters ≠ [] := List.ne_nil_of_length_pos (Nat.lt_trans (by decide) hlong)
  have hbytes : 3 < (letters.map (·.val.toUInt8)).length := by rwa [List.length_map]
  simp only [columnOfLetters, flatMap_utf8EncodeChar_of_isAlpha h, List.isEmpty_map,
    List.isEmpty_iff, if_neg hne, if_pos hbytes]
  rfl

/-- The letters of a column of the grid are read as that column. -/
lemma columnOfLetters_columnLetters {col : Nat} (h : col < columnLimit) :
    columnOfLetters (columnLetters col) = .ok col := by
  have hv : lettersValue (columnLetters col) - 1 = col := by
    rw [columnLetters, lettersValue_columnNumeral, Nat.add_sub_cancel]
  have hl : (columnLetters col).length ≤ 3 := by
    apply length_columnNumeral_le
    rw [columnLimit] at h
    omega
  rw [columnOfLetters_of_isAlpha (columnLetters_ne_nil col) hl
    fun c hc => isAlpha_of_mem_columnLetters hc, hv, if_neg (by omega)]

/-- Letters are only read as columns of the grid. -/
lemma lt_of_columnOfLetters {letters : List Char} {col : Nat}
    (h : columnOfLetters letters = .ok col) : col < columnLimit := by
  simp only [columnOfLetters] at h
  split at h
  case isTrue => cases h
  case isFalse =>
    split at h
    case isTrue => cases h
    case isFalse =>
      split at h
      case h_1 => cases h
      case h_2 =>
        split at h
        case isTrue => cases h
        case isFalse hlt =>
          obtain rfl := Except.ok.inj h
          exact Nat.lt_of_not_le hlt

/-- The decimal digits of a number are read as that number. -/
lemma digits?_toDigits (n : Nat) : Text.digits? (Nat.toDigits 10 n) = some n := by
  have hall : (Nat.toDigits 10 n).all Char.isDigit = true := by
    rw [List.all_eq_true]
    exact fun c hc => Nat.isDigit_of_mem_toDigits (by decide) (by decide) hc
  have hne : (Nat.toDigits 10 n).isEmpty = false := by
    rw [Bool.eq_false_iff, ne_eq, List.isEmpty_iff]
    exact Nat.toDigits_ne_nil
  rw [Text.digits?, hall, hne]
  exact congrArg some Nat.ofDigitChars_ten_toDigits

/-- A text without blanks is not trimmed. -/
lemma Text.trim_of_isBlank {text : List Char} (h : ∀ c ∈ text, Text.isBlank c = false) :
    Text.trim text = text := by
  have keep : ∀ cs : List Char, (∀ c ∈ cs, Text.isBlank c = false) →
      cs.dropWhile Text.isBlank = cs := by
    intro cs h
    cases cs with
    | nil => rfl
    | cons c cs =>
      apply List.dropWhile_cons_of_neg
      rw [h c List.mem_cons_self]
      exact Bool.false_ne_true
  rw [Text.trim, Text.trimLeft, keep _ h, Text.trimRight,
    keep _ fun c hc => h c (List.mem_reverse.1 hc), List.reverse_reverse]

/-! ## Spellings -/

/-- The mark in front of a part of an address, if the part is fixed. -/
def mark (fixed : Bool) : List Char := if fixed then ['$'] else []

/-- The parts of a text of the shape of an address. -/
structure Spelling where
  colFixed : Bool
  letters : List Char
  rowFixed : Bool
  digits : List Char
  letters_ne : letters ≠ []
  digits_ne : digits ≠ []
  isAlpha : ∀ c ∈ letters, c.isAlpha = true
  isDigit : ∀ c ∈ digits, c.isDigit = true

/-- A mark is taken off what does not begin with one itself. -/
lemma takeMark_mark {fixed : Bool} {c : Char} (h : c ≠ '$') (cs : List Char) :
    Address.takeMark (mark fixed ++ c :: cs) = (fixed, c :: cs) := by
  cases fixed with
  | true => rfl
  | false =>
    change Address.takeMark (c :: cs) = (false, c :: cs)
    unfold Address.takeMark
    split
    case h_1 e => exact absurd (List.cons.inj e).1 h
    case h_2 => rfl

/-- A letter or a digit is no mark. -/
lemma ne_dollar_of_isAlphanum {c : Char} (h : c.isAlpha = true ∨ c.isDigit = true) : c ≠ '$' := by
  rintro rfl
  revert h
  decide

namespace Spelling

/-- The text of a spelling. -/
def text (s : Spelling) : List Char := mark s.colFixed ++ s.letters ++ mark s.rowFixed ++ s.digits

/-- The mark of the column is what a spelling begins with. -/
lemma takeMark_text (s : Spelling) (z : List Char) :
    Address.takeMark (s.text ++ z) =
      (s.colFixed, s.letters ++ (mark s.rowFixed ++ (s.digits ++ z))) := by
  obtain ⟨c, cs, e⟩ := List.exists_cons_of_ne_nil s.letters_ne
  have hc : c.isAlpha = true := s.isAlpha c (e ▸ List.mem_cons_self)
  simp only [text, e, List.append_assoc, List.cons_append]
  exact takeMark_mark (ne_dollar_of_isAlphanum (.inl hc)) _

/-- No letter stands in front of the row. -/
lemma dropWhile_digits (s : Spelling) (z : List Char) :
    (mark s.rowFixed ++ (s.digits ++ z)).dropWhile Char.isAlpha =
      mark s.rowFixed ++ (s.digits ++ z) := by
  obtain ⟨d, ds, e⟩ := List.exists_cons_of_ne_nil s.digits_ne
  have hd : d.isAlpha = false := isAlpha_of_isDigit (s.isDigit d (e ▸ List.mem_cons_self))
  rw [e]
  cases s.rowFixed with
  | true => rfl
  | false => exact List.dropWhile_cons_of_neg (by rw [hd]; exact Bool.false_ne_true)

/-- The letters of a spelling are all that stand in front of its row. -/
lemma dropWhile_letters (s : Spelling) (z : List Char) :
    (s.letters ++ (mark s.rowFixed ++ (s.digits ++ z))).dropWhile Char.isAlpha =
      mark s.rowFixed ++ (s.digits ++ z) := by
  rw [List.dropWhile_append_of_pos s.isAlpha, s.dropWhile_digits]

/-- The letters of a spelling are taken as what they are. -/
lemma takeWhile_letters (s : Spelling) (z : List Char) :
    (s.letters ++ (mark s.rowFixed ++ (s.digits ++ z))).takeWhile Char.isAlpha = s.letters := by
  have h := List.takeWhile_append_dropWhile (p := Char.isAlpha)
    (l := s.letters ++ (mark s.rowFixed ++ (s.digits ++ z)))
  rw [s.dropWhile_letters] at h
  exact List.append_cancel_right h

/-- The mark of the row is what stands in front of its digits. -/
lemma takeMark_digits (s : Spelling) (z : List Char) :
    Address.takeMark (mark s.rowFixed ++ (s.digits ++ z)) = (s.rowFixed, s.digits ++ z) := by
  obtain ⟨d, ds, e⟩ := List.exists_cons_of_ne_nil s.digits_ne
  rw [e]
  exact takeMark_mark (ne_dollar_of_isAlphanum (.inr (s.isDigit d (e ▸ List.mem_cons_self)))) _

/-- No blank stands in a spelling. -/
lemma isBlank_of_mem (s : Spelling) {c : Char} (h : c ∈ s.text) : Text.isBlank c = false := by
  have hm : ∀ fixed, c ∈ mark fixed → c = '$' := by
    intro fixed hc
    cases fixed with
    | true => exact List.mem_singleton.1 hc
    | false => exact absurd hc List.not_mem_nil
  simp only [text, List.mem_append] at h
  rcases h with ((h | h) | h) | h
  · rw [hm _ h]; decide
  · have h := isAlpha_iff_toNat.1 (s.isAlpha c h)
    exact isBlank_of_toNat (by omega) (by omega)
  · rw [hm _ h]; decide
  · have h := isDigit_iff_toNat.1 (s.isDigit c h)
    exact isBlank_of_toNat (by omega) (by omega)

/-- What a text of the shape of an address is read as: the column of its letters and the row of its
digits, where the grid has them. -/
theorem ofChars (s : Spelling) :
    Address.ofChars s.text = (do
      let col ← columnOfLetters s.letters
      match Text.digitsValue s.digits with
      | 0 => throw (.malformedAddress (.rowZero (String.ofList s.text)))
      | row + 1 =>
        if rowLimit ≤ row then throw (.rowBeyondGrid (min row (Text.limit32 - 1)))
        else pure ⟨row, col, s.rowFixed, s.colFixed⟩) := by
  have ht := s.takeMark_text []
  have hl := s.takeWhile_letters []
  have hd := s.dropWhile_letters []
  have hm := s.takeMark_digits []
  have hne : s.letters.isEmpty = false := by simpa using s.letters_ne
  have hds : Text.digits? s.digits = some (Text.digitsValue s.digits) := by
    have hall : s.digits.all Char.isDigit = true := by
      rw [List.all_eq_true]
      exact s.isDigit
    have hne : s.digits.isEmpty = false := by simpa using s.digits_ne
    rw [Text.digits?, hall, hne]
    rfl
  rw [List.append_nil] at ht hl hd hm
  simp only [Address.ofChars, ht, hl, hd, hm, hne, List.append_nil, hds]
  rw [if_neg Bool.false_ne_true]
  cases columnOfLetters s.letters with
  | error e => rfl
  | ok col => cases Text.digitsValue s.digits <;> rfl

/-- What a spelling is read as lies on the grid, and its column is fixed if the spelling says so. -/
lemma of_ofChars (s : Spelling) {a : Address} (h : Address.ofChars s.text = .ok a) :
    a.InGrid ∧ a.colFixed = s.colFixed := by
  rw [s.ofChars] at h
  cases hcol : columnOfLetters s.letters with
  | error e =>
    rw [hcol] at h
    cases h
  | ok col =>
    rw [hcol] at h
    simp only [bind, Except.bind] at h
    split at h
    case h_1 => cases h
    case h_2 row _ =>
      split at h
      case isTrue => cases h
      case isFalse hrow =>
        obtain rfl := Except.ok.inj h
        exact ⟨⟨Nat.lt_of_not_le hrow, lt_of_columnOfLetters hcol⟩, rfl⟩

/-- Trimming leaves a spelling as it is. -/
lemma trim_text (s : Spelling) : Text.trim s.text = s.text :=
  Text.trim_of_isBlank fun _ => s.isBlank_of_mem

/-- A spelling is read without trimming. -/
lemma parse (s : Spelling) : Address.parse (String.ofList s.text) = Address.ofChars s.text := by
  rw [Address.parse, String.toList_ofList, s.trim_text]

/-- A spelling is cut into its parts in one way only. -/
lemma parts_of_text_eq {s s' : Spelling} (h : s.text = s'.text) :
    s.colFixed = s'.colFixed ∧ s.letters = s'.letters ∧
      s.rowFixed = s'.rowFixed ∧ s.digits = s'.digits := by
  have ht := s.takeMark_text []
  rw [h, s'.takeMark_text [], Prod.mk.injEq] at ht
  have hl := s.takeWhile_letters []
  rw [← ht.2, s'.takeWhile_letters] at hl
  have hd := s.dropWhile_letters []
  rw [← ht.2, s'.dropWhile_letters] at hd
  have hm := s.takeMark_digits []
  rw [← hd, s'.takeMark_digits, Prod.mk.injEq, List.append_nil, List.append_nil] at hm
  exact ⟨ht.1.symm, hl.symm, hm.1.symm, hm.2.symm⟩

end Spelling

namespace Address

/-- The parts of the text that an address is written with. -/
def spelling (a : Address) : Spelling where
  colFixed := a.colFixed
  letters := columnLetters a.col
  rowFixed := a.rowFixed
  digits := Nat.toDigits 10 (a.row + 1)
  letters_ne := columnLetters_ne_nil a.col
  digits_ne := Nat.toDigits_ne_nil
  isAlpha := fun _ h => isAlpha_of_mem_columnLetters h
  isDigit := fun _ h => Nat.isDigit_of_mem_toDigits (by decide) (by decide) h

/-- The spelling of an address is the text that is written for it. -/
lemma text_spelling (a : Address) : a.spelling.text = a.chars := rfl

/-- A written address of the grid is read back. -/
theorem ofChars_chars {a : Address} (h : a.InGrid) : ofChars a.chars = .ok a := by
  have hv : Text.digitsValue (Nat.toDigits 10 (a.row + 1)) = a.row + 1 :=
    Nat.ofDigitChars_ten_toDigits
  rw [← text_spelling, Spelling.ofChars]
  simp only [spelling, columnOfLetters_columnLetters h.2, hv]
  change (if rowLimit ≤ a.row then _ else _) = _
  rw [if_neg (Nat.not_le_of_lt h.1)]
  rfl

/-- The text of an address of the grid is read as that address. -/
theorem parse_render {a : Address} (h : a.InGrid) : parse a.render = .ok a := by
  rw [render, ← text_spelling, Spelling.parse, text_spelling, ofChars_chars h]

lemma chars_ne_nil (a : Address) : a.chars ≠ [] := by
  intro h
  exact Nat.toDigits_ne_nil (List.append_eq_nil_iff.1 h).2

/-- No two addresses are written alike, on the grid or off it. -/
theorem chars_inj {a b : Address} (h : a.chars = b.chars) : a = b := by
  have htext : a.spelling.text = b.spelling.text := h
  obtain ⟨hcf, hl, hrf, hd⟩ := Spelling.parts_of_text_eq htext
  have hcol : a.col + 1 = b.col + 1 := by
    rw [← lettersValue_columnNumeral (a.col + 1), ← lettersValue_columnNumeral (b.col + 1)]
    exact congrArg lettersValue hl
  have hrow : a.row + 1 = b.row + 1 := by
    rw [← Nat.ofDigitChars_ten_toDigits (n := a.row + 1),
      ← Nat.ofDigitChars_ten_toDigits (n := b.row + 1)]
    exact congrArg (Nat.ofDigitChars 10 · 0) hd
  cases a
  cases b
  simp_all [spelling]

end Address

end Precedents
