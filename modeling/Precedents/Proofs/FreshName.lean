import Precedents.Proofs.Growth
import Precedents.Proofs.LetterCase

/-!
# Names for new sheets

A sheet that is added without a name gets the first number that is free, counted from one more than
the number of sheets. The numbers are tried without a bound (`SearchEnds`). The search comes to an
end all the same: different numbers make different names in lowercase too, so the sheets take at
most one number each, and of one number more than there are sheets one is free
(`Sound.exists_free`). `add_least` says which name the new sheet has and what stays as it was.
-/

namespace Precedents.Workbook

variable {wb : Workbook} {m n : Nat}

/-! ## Numbered names -/

/-- Within ASCII each character is made small on its own. -/
lemma lowerAfter_of_toNat {text : List Char} (h : ∀ c ∈ text, c.toNat < 128)
    (before : List Char) : Text.lowerAfter before text = text.map Char.toLower := by
  induction text generalizing before with
  | nil => rfl
  | cons c cs ih =>
    have hc := h c List.mem_cons_self
    have hsigma : c ≠ 'Σ' := by rintro rfl; exact absurd hc (by decide)
    have hdotted : c ≠ 'İ' := by rintro rfl; exact absurd hc (by decide)
    rw [Text.lowerAfter, Text.lowerBetween, if_neg hsigma, if_neg hdotted, Text.lowerChar,
      if_pos hc, ih (fun d hd => h d (List.mem_cons_of_mem _ hd))]
    rfl

/-- A numbered name is the word and the number in decimal. -/
lemma toList_numberedName (n : Nat) :
    (numberedName n).toList = ['S', 'h', 'e', 'e', 't'] ++ Nat.toDigits 10 n := by
  change ("Sheet" ++ toString n).toList = _
  rw [String.toList_append, Nat.toString_eq_repr, Nat.toList_repr]
  rfl

/-- A number in decimal is made of digits. -/
lemma isDigit_of_mem_toDigits {c : Char} (h : c ∈ Nat.toDigits 10 n) : c.isDigit = true :=
  Nat.isDigit_of_mem_toDigits (by decide) (by decide) h

/-- A numbered name is made of letters and digits. -/
lemma isAlphanum_of_mem_numberedName {c : Char} (h : c ∈ (numberedName n).toList) :
    c.isAlphanum = true := by
  have hletters : ∀ c ∈ ['S', 'h', 'e', 'e', 't'], c.isAlphanum = true :=
    List.all_eq_true.1 (by decide)
  rw [toList_numberedName] at h
  rcases List.mem_append.1 h with hc | hc
  · exact hletters c hc
  · rw [Char.isAlphanum, isDigit_of_mem_toDigits hc, Bool.or_true]

/-- In lowercase, a numbered name keeps its number. -/
lemma toList_lowercase_numberedName (n : Nat) :
    (Text.lowercase (numberedName n)).toList =
      ['s', 'h', 'e', 'e', 't'] ++ Nat.toDigits 10 n := by
  have hsmall : ∀ c ∈ (numberedName n).toList, c.toNat < 128 := by
    intro c hc
    have hc := isAlphanum_of_mem_numberedName hc
    rw [Char.isAlphanum, Bool.or_eq_true, isAlpha_iff_toNat, isDigit_iff_toNat] at hc
    omega
  have hdigits : ∀ c ∈ Nat.toDigits 10 n, c.toLower = c := by
    intro c hc
    have ha := isAlpha_of_isDigit (isDigit_of_mem_toDigits hc)
    rw [Char.isAlpha, Bool.or_eq_false_iff] at ha
    exact toLower_of_not_isUpper ha.1
  rw [Text.lowercase, String.toList_ofList, lowerAfter_of_toNat hsmall, toList_numberedName,
    List.map_append, List.map_congr_left hdigits, List.map_id']
  rfl

/-- Different numbers make different names, also where case is ignored. -/
lemma numberedName_inj (h : SheetName.fold (numberedName m) = SheetName.fold (numberedName n)) :
    m = n := by
  have h := congrArg String.toList h
  simp only [SheetName.fold, toList_lowercase_numberedName] at h
  have hread := congrArg Text.digits? (List.append_cancel_left h)
  rw [digits?_toDigits, digits?_toDigits] at hread
  exact Option.some.inj hread

/-- A name with a number of up to 26 digits is legal. -/
lemma flaw?_numberedName (h : n < 10 ^ 26) : SheetName.flaw? (numberedName n) = none := by
  rw [SheetName.flaw?_eq_none_iff]
  refine ⟨?_, ?_, ?_⟩
  · rw [toList_numberedName]
    nofun
  · have hlen : (Nat.toDigits 10 n).length ≤ 26 :=
      (Nat.length_toDigits_le_iff (by decide) (by decide)).2 h
    rw [toList_numberedName, List.length_append]
    exact Nat.add_le_add_left hlen 5
  · intro c hc
    exact not_mem_of_all (by decide) (isAlphanum_of_mem_numberedName hc)

/-! ## The search for a free number -/

/-- Numbers are tried from one on, each after the one before it, up to the first whose name is
free. -/
inductive SearchEnds (wb : Workbook) : Nat → Nat → Prop where
  | free {n : Nat} : wb.sheetIndex? (numberedName n) = none → SearchEnds wb n n
  | taken {n m i : Nat} : wb.sheetIndex? (numberedName n) = some i → SearchEnds wb (n + 1) m →
    SearchEnds wb n m

/-- One of any numbers that are more than the sheets is free. -/
lemma Sound.exists_free (h : wb.Sound) (start : Nat) :
    ∃ n, start ≤ n ∧ n < start + (wb.sheetCount + 1) ∧
      wb.sheetIndex? (numberedName n) = none := by
  by_contra hnone
  push Not at hnone
  -- Each number leads to the sheet that has its name, and no two to the same sheet.
  have htaken : ∀ n ∈ Finset.Ico start (start + (wb.sheetCount + 1)),
      ∃ i ∈ Finset.range wb.sheetCount, wb.sheetIndex? (numberedName n) = some i := by
    intro n hn
    obtain ⟨hle, hlt⟩ := Finset.mem_Ico.1 hn
    obtain ⟨i, hi⟩ := Option.ne_none_iff_exists'.1 (hnone n hle hlt)
    exact ⟨i, Finset.mem_range.2 (h.lt_sheetCount hi), hi⟩
  choose! sheet hsheet hindex using htaken
  have hcard : (Finset.range wb.sheetCount).card <
      (Finset.Ico start (start + (wb.sheetCount + 1))).card := by
    rw [Finset.card_range, Nat.card_Ico]
    omega
  obtain ⟨m, hm, n, hn, hne, he⟩ := Finset.exists_ne_map_eq_of_card_lt_of_maps_to hcard hsheet
  have hm := (h.found _ _).1 (hindex m hm)
  have hn := (h.found _ _).1 (hindex n hn)
  rw [he, hn] at hm
  exact hne (numberedName_inj (Option.some.inj hm).symm)

/-- The first free number is among the numbers that are tried for it. -/
lemma Sound.freeNumber (h : wb.Sound) :
    wb.sheetIndex? (numberedName wb.freeNumber) = none ∧ wb.sheetCount + 1 ≤ wb.freeNumber ∧
      wb.freeNumber ≤ 2 * wb.sheetCount + 1 ∧
      ∀ m, wb.sheetCount + 1 ≤ m → m < wb.freeNumber →
        wb.sheetIndex? (numberedName m) ≠ none := by
  obtain ⟨k, hle, hlt, hfree⟩ := h.exists_free (wb.sheetCount + 1)
  let isFree n := (wb.sheetIndex? (numberedName n)).isNone
  cases hfind : (List.range' (wb.sheetCount + 1) (wb.sheetCount + 1)).find? isFree with
  | none =>
    rw [List.find?_range'_eq_none] at hfind
    have hk := hfind k hle hlt
    simp [isFree, hfree] at hk
  | some n =>
    have hn : wb.freeNumber = n := by
      rw [Workbook.freeNumber]
      exact congrArg (Option.getD · _) hfind
    rw [List.find?_range'_eq_some, List.mem_range'_1] at hfind
    obtain ⟨hfree, ⟨hle, hlt⟩, hleast⟩ := hfind
    rw [hn]
    refine ⟨Option.isNone_iff_eq_none.1 hfree, hle, by omega, fun m hm hlt he => ?_⟩
    have hm := hleast m hm hlt
    simp [isFree, he] at hm

/-- A search ends at the first free number that it comes to. -/
lemma searchEnds_of_least (hle : m ≤ n) (hfree : wb.sheetIndex? (numberedName n) = none)
    (htaken : ∀ k, m ≤ k → k < n → wb.sheetIndex? (numberedName k) ≠ none) :
    wb.SearchEnds m n := by
  induction hle using Nat.decreasingInduction with
  | self => exact .free hfree
  | of_succ m hlt ih =>
    obtain ⟨i, hi⟩ := Option.ne_none_iff_exists'.1 (htaken m le_rfl hlt)
    exact .taken hi (ih fun k hk => htaken k (by omega))

/-! ## The sheet that is added -/

/-- Whether a number is the least from one more than the number of sheets on whose name no sheet
has, in any case. -/
structure IsLeastFree (wb : Workbook) (n : Nat) : Prop where
  beyond : wb.sheetCount + 1 ≤ n
  bounded : n ≤ 2 * wb.sheetCount + 1
  free : ∀ i name, wb.sheetName? i = some name →
    Text.lowercase name ≠ Text.lowercase (numberedName n)
  least : ∀ m, wb.sheetCount + 1 ≤ m → m < n → ∃ i name, wb.sheetName? i = some name ∧
    Text.lowercase name = Text.lowercase (numberedName m)

/-- The number that is chosen is the least one that is free. -/
lemma Sound.isLeastFree (h : wb.Sound) : wb.IsLeastFree wb.freeNumber where
  beyond := h.freeNumber.2.1
  bounded := h.freeNumber.2.2.1
  free i name hn he := by
    have hi := (h.found _ i).2 (by rw [hn]; exact congrArg some he)
    have hfree : wb.byName[Text.lowercase (numberedName wb.freeNumber)]? = none := h.freeNumber.1
    cases hfree.symm.trans hi
  least m hle hlt := by
    obtain ⟨i, hi⟩ := Option.ne_none_iff_exists'.1 (h.freeNumber.2.2.2 m hle hlt)
    obtain ⟨name, hn, he⟩ := Option.map_eq_some_iff.1 ((h.found _ i).1 hi)
    exact ⟨i, name, hn, he⟩

/-- A sheet can be added without a name to every workbook that has no more sheets than a machine
word counts. The search for its number ends, at the least number from one more than the number of
sheets on that is free, which is at most twice their number and one. The sheet is empty and stands
behind the others, which stay what they were, are found as they were found, and the active sheet
stays active. -/
theorem add_least (h : wb.Reachable) (hword : wb.sheetCount < 2 ^ 64) :
    ∃ n wb', wb.SearchEnds (wb.sheetCount + 1) n ∧ wb.IsLeastFree n ∧
      numberedName n = "Sheet" ++ toString n ∧
      wb.add = .ok (wb.sheetCount, wb') ∧
      Edit.add.perform.on wb = (.ok (some wb.sheetCount), wb') ∧
      wb'.sheetCount = wb.sheetCount + 1 ∧
      wb'.sheet? wb.sheetCount = some (.empty (numberedName n)) ∧
      wb'.sheetIndex? (numberedName n) = some wb.sheetCount ∧
      (∀ i < wb.sheetCount, wb'.sheet? i = wb.sheet? i) ∧ Grows (numberedName n) wb wb' := by
  have hsound := h.sound
  obtain ⟨hfree, hle, hbound, hleast⟩ := hsound.freeNumber
  have hlegal : SheetName.flaw? (numberedName wb.freeNumber) = none :=
    flaw?_numberedName (by omega)
  have hadd : wb.add = .ok (wb.sheetCount, wb.push (.empty (numberedName wb.freeNumber))) :=
    addNamed_ok.2 ⟨hlegal, hfree, rfl, rfl⟩
  refine ⟨wb.freeNumber, _, searchEnds_of_least hle hfree hleast, hsound.isLeastFree, rfl, hadd,
    ?_, ?_, ?_, ?_, ?_, grows_push hfree⟩
  · rw [Edit.on_perform, Edit.run, hadd]
    rfl
  · exact Array.size_push _
  · rw [sheet?_push, if_pos rfl]
  · rw [sheetIndex?_push, if_pos rfl]
  · intro i hi
    rw [sheet?_push, if_neg (Nat.ne_of_lt hi)]

/-- The name that is next in number is taken in another spelling, and the one after it is given. -/
theorem add_least_skips :
    let wb := Workbook.new.after (.addNamed "sHEET3")
    wb.Reachable ∧ wb.sheetCount = 2 ∧ wb.SearchEnds 3 4 ∧ wb.IsLeastFree 4 ∧
      ∃ wb', wb.add = .ok (2, wb') ∧ wb'.sheet? 2 = some (.empty "Sheet4") := by
  intro wb
  have h : wb.Reachable := .edit _ .new
  have hwb : wb = new.push (.empty "sHEET3") := by
    apply after_addNamed (by decide)
    rw [sheetIndex?_new, if_neg (by decide +kernel)]
  have hcount : wb.sheetCount = 2 := by rw [hwb]; rfl
  have hthree : wb.sheetIndex? (numberedName 3) = some 1 := by
    rw [hwb, sheetIndex?_push, if_pos (by decide +kernel)]
    rfl
  have hfour : wb.sheetIndex? (numberedName 4) = none := by
    rw [hwb, sheetIndex?_push, if_neg (by decide +kernel), sheetIndex?_new,
      if_neg (by decide +kernel)]
  obtain ⟨n, wb', hsearch, hleast, -, hadd, -, -, hsheet, -⟩ := add_least h (by omega)
  rw [hcount] at hsearch hadd hsheet
  have hn : n = 4 := by
    cases hsearch with
    | free hfree => cases hfree.symm.trans hthree
    | taken _ hsearch =>
      cases hsearch with
      | free => rfl
      | taken htaken => cases hfour.symm.trans htaken
  subst hn
  exact ⟨h, hcount, hsearch, hleast, wb', hadd, hsheet⟩

end Precedents.Workbook
