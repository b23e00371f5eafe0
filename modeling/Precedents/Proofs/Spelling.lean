import Precedents.Proofs.Formula.Area

/-!
# Texts that are addresses

What a text is read as, told from its shape alone: `Address.Reads` has one case for the spelling of
an address and one for each fault, in the order in which faults are reported, and
`Address.ofChars_eq_iff` says that a text is read as these cases say. An address is written again as
its text was spelled, in capitals and without leading zeros in the row (`Spelling.chars_address`).
-/

namespace Precedents

open Formula

variable {c : Char} {letters digits rest text : List Char} {fixed : Bool}

/-! ## Letters -/

/-- A letter is one from A to Z as a capital. -/
lemma toUpper_of_isAlpha (h : c.isAlpha = true) :
    65 ≤ c.toUpper.toNat ∧ c.toUpper.toNat ≤ 90 := by
  have hc := isAlpha_iff_toNat.1 h
  have ascii : ∀ n < 128, (Char.ofNat n).isAlpha = true →
      65 ≤ (Char.ofNat n).toUpper.toNat ∧ (Char.ofNat n).toUpper.toNat ≤ 90 := by decide
  obtain ⟨n, hn, rfl⟩ := exists_ofNat (show c.toNat < 128 by omega)
  exact ascii n hn h

/-- Letters have a value from 1 on. -/
lemma lettersValue_pos (h : letters ≠ []) : 0 < lettersValue letters := by
  obtain ⟨cs, c, rfl⟩ := (List.eq_nil_or_concat' letters).resolve_left h
  rw [lettersValue_concat, letterValue]
  omega

/-- Letters are the numeral of their value in capitals. -/
lemma columnNumeral_lettersValue (h : ∀ c ∈ letters, c.isAlpha = true) :
    columnNumeral (lettersValue letters) = letters.map Char.toUpper := by
  induction letters using List.reverseRecOn with
  | nil => simp [lettersValue, columnNumeral]
  | append_singleton cs c ih =>
    have hc := toUpper_of_isAlpha (h c (by simp))
    have hcs := ih fun d hd => h d (by simp [hd])
    have hvalue : letterValue c = c.toUpper.toNat - 65 + 1 := rfl
    have hquotient : (26 * lettersValue cs + letterValue c - 1) / 26 = lettersValue cs := by omega
    have hletter : 'A'.toNat + (26 * lettersValue cs + letterValue c - 1) % 26 =
        c.toUpper.toNat := by
      change 65 + _ = _
      omega
    rw [lettersValue_concat, columnNumeral, if_neg (by omega), hquotient, hcs, hletter,
      Char.ofNat_toNat, List.map_append, List.map_singleton]

/-! ## Digits -/

lemma digitsValue_concat (cs : List Char) (c : Char) :
    Text.digitsValue (cs ++ [c]) = 10 * Text.digitsValue cs + (c.toNat - 48) := by
  simp [Text.digitsValue]

/-- A digit is the character of its value. -/
lemma digitChar_toNat (h : c.isDigit = true) : Nat.digitChar (c.toNat - 48) = c := by
  have hc := isDigit_iff_toNat.1 h
  apply Char.toNat_inj.1
  rw [Nat.toNat_digitChar_of_lt_ten (by omega)]
  omega

/-- Digits are zeros, or without the leading ones they are the numeral of their value. -/
lemma dropWhile_zeros (h : ∀ c ∈ digits, c.isDigit = true) :
    digits.dropWhile (· == '0') =
      if Text.digitsValue digits = 0 then [] else Nat.toDigits 10 (Text.digitsValue digits) := by
  induction digits using List.reverseRecOn with
  | nil => rfl
  | append_singleton cs c ih =>
    have hc : c.isDigit = true := h c (by simp)
    have hcs := ih fun d hd => h d (by simp [hd])
    have hbounds := isDigit_iff_toNat.1 hc
    have hnumeral : Nat.toDigits 10 (c.toNat - 48) = [c] := by
      rw [Nat.toDigits_of_lt_base (by omega), digitChar_toNat hc]
    rw [digitsValue_concat, List.dropWhile_append, hcs]
    by_cases hv : Text.digitsValue cs = 0
    · rw [if_pos hv, hv, List.isEmpty_nil, if_pos rfl, Nat.mul_zero, Nat.zero_add, hnumeral]
      by_cases hzero : c.toNat - 48 = 0
      · obtain rfl : c = '0' := by
          apply Char.toNat_inj.1
          change c.toNat = 48
          omega
        rfl
      · rw [if_neg hzero, List.dropWhile_cons_of_neg]
        rw [beq_iff_eq]
        rintro rfl
        exact hzero rfl
    · have hne : (Nat.toDigits 10 (Text.digitsValue cs)).isEmpty = false := by
        rw [Bool.eq_false_iff, ne_eq, List.isEmpty_iff]
        exact Nat.toDigits_ne_nil
      rw [if_neg hv, hne, if_neg Bool.false_ne_true, if_neg (by omega), ← hnumeral,
        Nat.toDigits_append_toDigits (by decide) (Nat.pos_of_ne_zero hv) (by omega)]

/-! ## What a text is read as -/

/-- What stands behind the letters of an address: digits, with a mark if the row is fixed. -/
def IsRow (rest : List Char) : Prop :=
  ∃ fixed digits, rest = mark fixed ++ digits ∧ digits ≠ [] ∧ ∀ c ∈ digits, c.isDigit = true

namespace Spelling

/-- Whether the letters name a column of the grid. -/
def HasColumn (s : Spelling) : Prop := s.letters.length ≤ 3 ∧ lettersValue s.letters ≤ columnLimit

/-- The number of the row, which is counted from 1. -/
def rowNumber (s : Spelling) : Nat := Text.digitsValue s.digits

/-- The address that is spelled. -/
def address (s : Spelling) : Address :=
  ⟨s.rowNumber - 1, lettersValue s.letters - 1, s.rowFixed, s.colFixed⟩

end Spelling

namespace Address

/-- What a text without blanks around it is read as, by its shape. The column is looked at before
what stands behind its letters, and that before the number of the row. -/
inductive Reads : List Char → Except Error Address → Prop where
  | noLetters {text : List Char} : leadsWith Char.isAlpha (takeMark text).2 = false →
    Reads text (.error (.malformedAddress (.noLetters (String.ofList text))))
  | longLetters {fixed : Bool} {letters rest : List Char} : 3 < letters.length →
    (∀ c ∈ letters, c.isAlpha = true) → leadsWith Char.isAlpha rest = false →
    Reads (mark fixed ++ (letters ++ rest))
      (.error (.malformedAddress (.longLetters (String.ofList letters))))
  | columnBeyond {fixed : Bool} {letters rest : List Char} : letters ≠ [] → letters.length ≤ 3 →
    (∀ c ∈ letters, c.isAlpha = true) → leadsWith Char.isAlpha rest = false →
    columnLimit < lettersValue letters →
    Reads (mark fixed ++ (letters ++ rest)) (.error (.columnBeyondGrid (lettersValue letters - 1)))
  | badRow {fixed : Bool} {letters rest : List Char} : letters ≠ [] → letters.length ≤ 3 →
    (∀ c ∈ letters, c.isAlpha = true) → leadsWith Char.isAlpha rest = false →
    lettersValue letters ≤ columnLimit → ¬IsRow rest →
    Reads (mark fixed ++ (letters ++ rest))
      (.error (.malformedAddress (.badRow (String.ofList (mark fixed ++ (letters ++ rest))))))
  | rowZero {s : Spelling} : s.HasColumn → s.rowNumber = 0 →
    Reads s.text (.error (.malformedAddress (.rowZero (String.ofList s.text))))
  | rowBeyond {s : Spelling} : s.HasColumn → rowLimit < s.rowNumber →
    Reads s.text (.error (.rowBeyondGrid (min (s.rowNumber - 1) (Text.limit32 - 1))))
  | address {s : Spelling} : s.HasColumn → 0 < s.rowNumber → s.rowNumber ≤ rowLimit →
    Reads s.text (.ok s.address)

/-- A mark in front of letters is taken, if there is one. -/
lemma takeMark_letters (hne : letters ≠ []) (halpha : ∀ c ∈ letters, c.isAlpha = true) :
    takeMark (mark fixed ++ (letters ++ rest)) = (fixed, letters ++ rest) := by
  obtain ⟨l, ls, rfl⟩ := List.exists_cons_of_ne_nil hne
  exact takeMark_mark (ne_dollar_of_isAlphanum (.inl (halpha l List.mem_cons_self))) _

/-- What a text that begins with letters is read as: their column comes first. -/
lemma ofChars_letters (hne : letters ≠ []) (halpha : ∀ c ∈ letters, c.isAlpha = true)
    (hrest : leadsWith Char.isAlpha rest = false) :
    ofChars (mark fixed ++ (letters ++ rest)) = (do
      let col ← columnOfLetters letters
      match Text.digits? (takeMark rest).2 with
      | none => throw (.malformedAddress
          (.badRow (String.ofList (mark fixed ++ (letters ++ rest)))))
      | some 0 => throw (.malformedAddress
          (.rowZero (String.ofList (mark fixed ++ (letters ++ rest)))))
      | some (row + 1) =>
        if rowLimit ≤ row then throw (.rowBeyondGrid (min row (Text.limit32 - 1)))
        else pure ⟨row, col, (takeMark rest).1, fixed⟩) := by
  have he : letters.isEmpty = false := by simpa using hne
  simp only [ofChars, takeMark_letters hne halpha, takeWhile_append halpha hrest,
    dropWhile_append halpha hrest, he]
  exact if_neg Bool.false_ne_true

/-- What is no row has no digits. -/
lemma digits?_eq_none (h : ¬IsRow rest) : Text.digits? (takeMark rest).2 = none := by
  rw [Text.digits?, if_pos]
  by_contra hdigits
  simp only [Bool.or_eq_true, Bool.not_eq_true', not_or, Bool.not_eq_false, Bool.not_eq_true,
    List.isEmpty_eq_false_iff] at hdigits
  exact h ⟨_, _, (mark_append_takeMark rest).symm, hdigits.1, List.all_eq_true.1 hdigits.2⟩

end Address

namespace Spelling

/-- What is read where the letters name a column is decided by the number of the row. -/
lemma ofChars_of_hasColumn (s : Spelling) (h : s.HasColumn) :
    Address.ofChars s.text =
      if s.rowNumber = 0 then .error (.malformedAddress (.rowZero (String.ofList s.text)))
      else if rowLimit < s.rowNumber then
        .error (.rowBeyondGrid (min (s.rowNumber - 1) (Text.limit32 - 1)))
      else .ok s.address := by
  have hpos := lettersValue_pos s.letters_ne
  have hle := h.2
  rw [s.ofChars, columnOfLetters_of_isAlpha s.letters_ne h.1 s.isAlpha, if_neg (by omega),
    address, rowNumber]
  cases Text.digitsValue s.digits with
  | zero => rfl
  | succ row =>
    rw [if_neg (Nat.succ_ne_zero row), Nat.add_sub_cancel]
    change (if rowLimit ≤ row then _ else _) = _
    by_cases hrow : rowLimit ≤ row
    · rw [if_pos hrow, if_pos (Nat.lt_succ_of_le hrow)]
      rfl
    · rw [if_neg hrow, if_neg (by omega)]
      rfl

end Spelling

namespace Address

variable {r : Except Error Address}

/-- A text is read as its shape says. -/
lemma Reads.ofChars (h : Reads text r) : Address.ofChars text = r := by
  cases h with
  | noLetters h =>
    have hrun := takeWhile_append (w := []) nofun h
    rw [List.nil_append] at hrun
    simp only [Address.ofChars, hrun]
    rfl
  | longLetters hlong halpha hrest =>
    have hne := List.ne_nil_of_length_pos (Nat.lt_trans (by decide) hlong)
    rw [ofChars_letters hne halpha hrest, columnOfLetters_long halpha hlong]
    rfl
  | columnBeyond hne hlen halpha hrest hbeyond =>
    rw [ofChars_letters hne halpha hrest, columnOfLetters_of_isAlpha hne hlen halpha,
      if_pos (by omega)]
    rfl
  | badRow hne hlen halpha hrest hle hrow =>
    have hpos := lettersValue_pos hne
    rw [ofChars_letters hne halpha hrest, columnOfLetters_of_isAlpha hne hlen halpha,
      if_neg (by omega), digits?_eq_none hrow]
    rfl
  | @rowZero s hcol hzero => rw [s.ofChars_of_hasColumn hcol, if_pos hzero]
  | @rowBeyond s hcol hbeyond =>
    rw [s.ofChars_of_hasColumn hcol, if_neg (Nat.ne_of_gt (Nat.zero_lt_of_lt hbeyond)),
      if_pos hbeyond]
  | @address s hcol hpos hle =>
    rw [s.ofChars_of_hasColumn hcol, if_neg (Nat.ne_of_gt hpos), if_neg (Nat.not_lt_of_le hle)]

/-- Every text has one of the shapes. -/
lemma exists_reads (text : List Char) : ∃ r, Reads text r := by
  cases hlead : leadsWith Char.isAlpha (takeMark text).2 with
  | false => exact ⟨_, .noLetters hlead⟩
  | true =>
    obtain ⟨letters, hsplit, -, halpha⟩ := dropWhile_split Char.isAlpha (takeMark text).2
    have hne := ne_nil_of_dropWhile hlead hsplit
    have hrest := leadsWith_dropWhile Char.isAlpha (takeMark text).2
    generalize (takeMark text).2.dropWhile Char.isAlpha = rest at hsplit hrest
    rw [← mark_append_takeMark text, hsplit]
    -- From here on the cases are tried in the order of `Reads`.
    by_cases hlong : 3 < letters.length
    · exact ⟨_, .longLetters hlong halpha hrest⟩
    have hlen := Nat.le_of_not_lt hlong
    by_cases hbeyond : columnLimit < lettersValue letters
    · exact ⟨_, .columnBeyond hne hlen halpha hrest hbeyond⟩
    have hle := Nat.le_of_not_lt hbeyond
    by_cases hrow : IsRow rest
    · obtain ⟨rowFixed, digits, rfl, hne', hdigits⟩ := hrow
      let s : Spelling := ⟨(takeMark text).1, letters, rowFixed, digits, hne, hne', halpha, hdigits⟩
      have hs : s.HasColumn := ⟨hlen, hle⟩
      have htext : mark (takeMark text).1 ++ (letters ++ (mark rowFixed ++ digits)) = s.text := by
        simp [Spelling.text, s]
      rw [htext]
      by_cases hzero : s.rowNumber = 0
      · exact ⟨_, .rowZero hs hzero⟩
      by_cases hbeyond : rowLimit < s.rowNumber
      · exact ⟨_, .rowBeyond hs hbeyond⟩
      · exact ⟨_, .address hs (Nat.pos_of_ne_zero hzero) (Nat.le_of_not_lt hbeyond)⟩
    · exact ⟨_, .badRow hne hlen halpha hrest hle hrow⟩

/-- A text is read as the one shape that it has says. -/
theorem ofChars_eq_iff : Address.ofChars text = r ↔ Reads text r := by
  refine ⟨?_, Reads.ofChars⟩
  rintro rfl
  obtain ⟨r, hr⟩ := exists_reads text
  exact hr.ofChars ▸ hr

/-! ## Addresses and faults -/

/-- The text spells an address of the grid. -/
def Spells (text : List Char) (a : Address) : Prop :=
  ∃ s : Spelling, text = s.text ∧ s.HasColumn ∧ 0 < s.rowNumber ∧ s.rowNumber ≤ rowLimit ∧
    a = s.address

/-- The text begins with letters, not more than three, of a column beyond the grid. -/
def LeavesColumns (text : List Char) (col : Nat) : Prop :=
  ∃ fixed letters rest, text = mark fixed ++ (letters ++ rest) ∧ letters ≠ [] ∧
    letters.length ≤ 3 ∧ (∀ c ∈ letters, c.isAlpha = true) ∧ leadsWith Char.isAlpha rest = false ∧
    columnLimit < lettersValue letters ∧ col = lettersValue letters - 1

/-- The text has a column of the grid and a row beyond it, which is told as far as it fits into 32
bits. -/
def LeavesRows (text : List Char) (row : Nat) : Prop :=
  ∃ s : Spelling, text = s.text ∧ s.HasColumn ∧ rowLimit < s.rowNumber ∧
    row = if s.rowNumber < Text.limit32 then s.rowNumber - 1 else Text.limit32 - 1

variable {a : Address} {row col : Nat}

/-- A text is read as an address if it spells it. -/
lemma reads_ok_iff : Reads text (.ok a) ↔ Spells text a := by
  constructor
  · intro h
    cases h with
    | address hs hpos hle => exact ⟨_, rfl, hs, hpos, hle, rfl⟩
  · rintro ⟨s, rfl, hs, hpos, hle, rfl⟩
    exact .address hs hpos hle

/-- An address that is spelled is in the grid. -/
lemma Spells.inGrid (h : Spells text a) : a.InGrid := by
  obtain ⟨s, -, hcolumn, hpos, hrow, rfl⟩ := h
  exact ⟨Nat.sub_one_lt_of_le hpos hrow,
    Nat.sub_one_lt_of_le (lettersValue_pos s.letters_ne) hcolumn.2⟩

/-- A text is read as a column beyond the grid if it leaves the columns. -/
lemma reads_columnBeyond_iff :
    Reads text (.error (.columnBeyondGrid col)) ↔ LeavesColumns text col := by
  constructor
  · intro h
    cases h with
    | columnBeyond hne hlen halpha hrest hbeyond =>
      exact ⟨_, _, _, rfl, hne, hlen, halpha, hrest, hbeyond, rfl⟩
  · rintro ⟨fixed, letters, rest, rfl, hne, hlen, halpha, hrest, hbeyond, rfl⟩
    exact .columnBeyond hne hlen halpha hrest hbeyond

/-- A text is read as a row beyond the grid if it leaves the rows. -/
lemma reads_rowBeyond_iff :
    Reads text (.error (.rowBeyondGrid row)) ↔ LeavesRows text row := by
  have htold : ∀ n : Nat, min (n - 1) (Text.limit32 - 1) =
      if n < Text.limit32 then n - 1 else Text.limit32 - 1 := by
    intro n
    split
    · exact Nat.min_eq_left (by omega)
    · exact Nat.min_eq_right (by omega)
  constructor
  · intro h
    cases h with
    | rowBeyond hs hbeyond => exact ⟨_, rfl, hs, hbeyond, htold _⟩
  · rintro ⟨s, rfl, hs, hbeyond, rfl⟩
    rw [← htold]
    exact .rowBeyond hs hbeyond

/-- Every address of the grid is spelled by its text. -/
lemma spells_render (h : a.InGrid) : Spells a.render.toList a := by
  rw [render, String.toList_ofList]
  exact reads_ok_iff.1 (ofChars_eq_iff.1 (ofChars_chars h))

/-- Every text is an address, leaves the grid, or is malformed. -/
lemma Reads.cases_error (h : Reads text r) :
    (∃ a, r = .ok a) ∨ (∃ col, r = .error (.columnBeyondGrid col)) ∨
      (∃ row, r = .error (.rowBeyondGrid row)) ∨ ∃ flaw, r = .error (.malformedAddress flaw) := by
  cases h with
  | address => exact .inl ⟨_, rfl⟩
  | columnBeyond => exact .inr (.inl ⟨_, rfl⟩)
  | rowBeyond => exact .inr (.inr (.inl ⟨_, rfl⟩))
  | noLetters => exact .inr (.inr (.inr ⟨_, rfl⟩))
  | longLetters => exact .inr (.inr (.inr ⟨_, rfl⟩))
  | badRow => exact .inr (.inr (.inr ⟨_, rfl⟩))
  | rowZero => exact .inr (.inr (.inr ⟨_, rfl⟩))

end Address

/-! ## Written again -/

/-- A text without the zeros that its first run of digits begins with. -/
def unpadded (text : List Char) : List Char :=
  text.takeWhile (!·.isDigit) ++ (text.dropWhile (!·.isDigit)).dropWhile (· == '0')

lemma toUpper_of_isDigit (h : c.isDigit = true) : c.toUpper = c := by
  have hc := isDigit_iff_toNat.1 h
  have ascii : ∀ n < 128, (Char.ofNat n).isDigit = true →
      (Char.ofNat n).toUpper = Char.ofNat n := by decide
  obtain ⟨n, hn, rfl⟩ := exists_ofNat (show c.toNat < 128 by omega)
  exact ascii n hn h

lemma unpadded_append {lead : List Char} (hlead : ∀ c ∈ lead, c.isDigit = false)
    (hne : digits ≠ []) (hdigits : ∀ c ∈ digits, c.isDigit = true) :
    unpadded (lead ++ digits) = lead ++ digits.dropWhile (· == '0') := by
  have hrun : leadsWith (!·.isDigit) digits = false := by
    obtain ⟨d, ds, rfl⟩ := List.exists_cons_of_ne_nil hne
    exact congrArg not (hdigits d List.mem_cons_self)
  have hlead : ∀ c ∈ lead, (!c.isDigit) = true := fun c hc => congrArg not (hlead c hc)
  rw [unpadded, takeWhile_append hlead hrun, dropWhile_append hlead hrun]

namespace Spelling

/-- Only the letters of a spelling have capitals. -/
lemma map_toUpper_text (s : Spelling) :
    s.text.map Char.toUpper =
      mark s.colFixed ++ s.letters.map Char.toUpper ++ mark s.rowFixed ++ s.digits := by
  have hmark : ∀ fixed, (mark fixed).map Char.toUpper = mark fixed := by decide
  have hdigits : s.digits.map Char.toUpper = s.digits := by
    rw [List.map_congr_left fun c hc => toUpper_of_isDigit (s.isDigit c hc), List.map_id']
  rw [text, List.map_append, List.map_append, List.map_append, hmark, hmark, hdigits]

/-- An address is written as it was spelled, in capitals and without leading zeros in the row. -/
lemma chars_address (s : Spelling) (hpos : 0 < s.rowNumber) :
    s.address.chars = unpadded (s.text.map Char.toUpper) := by
  have hlead : ∀ c ∈ mark s.colFixed ++ s.letters.map Char.toUpper ++ mark s.rowFixed,
      c.isDigit = false := by
    have hmark : ∀ fixed, (mark fixed).all (!·.isDigit) = true := by decide
    simp only [List.all_eq_true, Bool.not_eq_true'] at hmark
    intro c hc
    simp only [List.mem_append, List.mem_map] at hc
    rcases hc with (hc | ⟨d, hd, rfl⟩) | hc
    · exact hmark _ c hc
    · exact isDigit_of_isAlpha (isAlpha_iff_toNat.2 (.inl (toUpper_of_isAlpha (s.isAlpha d hd))))
    · exact hmark _ c hc
  have hcol : columnLetters s.address.col = s.letters.map Char.toUpper := by
    rw [← columnNumeral_lettersValue s.isAlpha]
    exact congrArg columnNumeral (Nat.sub_add_cancel (lettersValue_pos s.letters_ne))
  have hrow : Nat.toDigits 10 (s.address.row + 1) = s.digits.dropWhile (· == '0') := by
    rw [dropWhile_zeros s.isDigit, if_neg (show Text.digitsValue s.digits ≠ 0 from
      Nat.ne_of_gt hpos)]
    exact congrArg (Nat.toDigits 10) (Nat.sub_add_cancel hpos)
  rw [map_toUpper_text, unpadded_append hlead s.digits_ne s.isDigit, Address.chars, hcol, hrow]
  rfl

end Spelling

namespace Address

/-- A text is read as an address exactly if it spells one of the grid, blanks around it aside; it is
refused for its column exactly if it begins with letters beyond the last column, for its row exactly
if only the number of the row is too great, and as malformed otherwise. An address of the grid is
read back from its text, and the text of an address that was read is what it was read from, without
the blanks around it, in capitals and without leading zeros in the row. -/
theorem parse_exact :
    (∀ s : String,
      (∀ a, parse s = .ok a ↔ Spells (Text.trim s.toList) a) ∧
      (∀ col, parse s = .error (.columnBeyondGrid col) ↔ LeavesColumns (Text.trim s.toList) col) ∧
      (∀ row, parse s = .error (.rowBeyondGrid row) ↔ LeavesRows (Text.trim s.toList) row) ∧
      ((∃ flaw, parse s = .error (.malformedAddress flaw)) ↔
        (∀ a, ¬Spells (Text.trim s.toList) a) ∧ (∀ col, ¬LeavesColumns (Text.trim s.toList) col) ∧
          ∀ row, ¬LeavesRows (Text.trim s.toList) row)) ∧
    (∀ a : Address, a.InGrid → parse a.render = .ok a) ∧
    ∀ s a, parse s = .ok a →
      a.render = String.ofList (unpadded ((Text.trim s.toList).map Char.toUpper)) := by
  -- Every outcome is one of the relation, and each text has only one.
  have hread : ∀ s r, parse s = r ↔ Reads (Text.trim s.toList) r := fun s r => ofChars_eq_iff
  refine ⟨fun s => ⟨?_, ?_, ?_, ?_⟩, fun a => parse_render, ?_⟩
  · exact fun a => (hread s _).trans reads_ok_iff
  · exact fun col => (hread s _).trans reads_columnBeyond_iff
  · exact fun row => (hread s _).trans reads_rowBeyond_iff
  · simp only [← reads_ok_iff, ← reads_columnBeyond_iff, ← reads_rowBeyond_iff, ← hread]
    constructor
    · rintro ⟨flaw, h⟩
      rw [h]
      exact ⟨nofun, nofun, nofun⟩
    · rintro ⟨hok, hcol, hrow⟩
      obtain ⟨a, h⟩ | ⟨col, h⟩ | ⟨row, h⟩ | h := ((hread s _).1 rfl).cases_error
      · exact absurd h (hok a)
      · exact absurd h (hcol col)
      · exact absurd h (hrow row)
      · exact h
  · intro s a h
    obtain ⟨sp, htext, -, hpos, -, rfl⟩ := reads_ok_iff.1 ((hread s _).1 h)
    rw [htext, ← sp.chars_address hpos, render]

/-- The last column in mixed letters, with blanks around it and zeros in front of the row; a column
beyond the grid in front of a row that there is not; and a row that does not fit into 32 bits. -/
theorem parse_exact_padded :
    let a : Address := ⟨6, 16383, true, true⟩
    a.InGrid ∧ parse a.render = .ok a ∧ parse "\t$xFd$007 " = .ok a ∧ a.render = "$XFD$7" ∧
      parse "xfe0" = .error (.columnBeyondGrid 16384) ∧
      parse "A4294967296" = .error (.rowBeyondGrid 4294967295) := by
  intro a
  obtain ⟨hparse, hback, hagain⟩ := parse_exact
  have hgrid : a.InGrid := ⟨by decide, by decide⟩
  have hread : parse "\t$xFd$007 " = .ok a := by decide +kernel
  have hletters : ['x', 'f', 'e'].all Char.isAlpha = true := by decide
  have hcolumn : LeavesColumns (Text.trim "xfe0".toList) 16384 :=
    ⟨false, ['x', 'f', 'e'], ['0'], by decide +kernel, by decide, by decide,
      List.all_eq_true.1 hletters, by decide, by decide +kernel, by decide +kernel⟩
  have hrow : LeavesRows (Text.trim "A4294967296".toList) 4294967295 :=
    ⟨(relative 4294967295 0).spelling, by decide +kernel, ⟨by decide +kernel, by decide +kernel⟩,
      by decide +kernel, by decide +kernel⟩
  refine ⟨hgrid, hback a hgrid, hread, ?_, ((hparse _).2.1 _).2 hcolumn,
    ((hparse _).2.2.1 _).2 hrow⟩
  rw [hagain _ _ hread]
  decide +kernel

end Address

end Precedents
