import Precedents.SheetName
import Precedents.Formula.Token
import Precedents.Proofs.Address
import Precedents.Proofs.Formula.Lexeme

/-!
# Sheet names read back

A quoted name is read as the name that was quoted, whatever apostrophes it holds, and so the quoted
names of cells are told apart. Legal names hold neither a colon nor a bracket: a legal name between
apostrophes stands for one sheet, two of them with a colon for a span.
-/

namespace Precedents.SheetName

variable {name name' : String} {c c' : Coord} {l z : List Char}

/-- A name with its apostrophes doubled is read up to the apostrophe that closes it. -/
lemma quotedName_double (h : Formula.leadsWith (· == '\'') z = false) (l : List Char) :
    Formula.quotedName (double l ++ '\'' :: z) = some (l, z) := by
  induction l with
  | nil => exact Formula.quotedName_close h
  | cons c cs ih =>
    by_cases hc : c = '\''
    · subst hc
      rw [double, List.cons_append, List.cons_append, Formula.quotedName, ih]
      rfl
    · rw [double, List.cons_append, Formula.quotedName_cons hc, ih]
      · rfl
      · exact hc

/-- A quoted name is the name with its apostrophes doubled, between two more. -/
lemma toList_quote (name : String) :
    (quote name).toList = '\'' :: (double name.toList ++ ['\'']) := by
  rw [quote, String.toList_ofList]
  rfl

/-- A qualified name is the quoted name, an exclamation mark and the address. -/
lemma toList_qualify (name : String) (c : Coord) :
    (qualify name c).toList =
      '\'' :: (double name.toList ++ '\'' :: '!' :: c.address.chars) := by
  rw [qualify, String.toList_append, String.toList_append, toList_quote, Address.render,
    String.toList_ofList]
  simp

/-- The quoted name of a cell tells its sheet's name and its place on the sheet. -/
theorem qualify_inj (h : qualify name c = qualify name' c') :
    name = name' ∧ c.address = c'.address := by
  have h := congrArg String.toList h
  rw [toList_qualify, toList_qualify, List.cons.injEq] at h
  have hread := congrArg Formula.quotedName h.2
  rw [quotedName_double rfl, quotedName_double rfl, Option.some.injEq, Prod.mk.injEq,
    List.cons.injEq] at hread
  exact ⟨String.toList_inj.1 hread.1, Address.chars_inj hread.2.2⟩

/-! ## Legal names -/

/-- A legal name has some characters, not too many, and none of those that are forbidden. -/
theorem flaw?_eq_none_iff :
    flaw? name = none ↔
      name.toList ≠ [] ∧ name.toList.length ≤ sheetNameLimit ∧
        ∀ c ∈ name.toList, c ∉ forbidden := by
  unfold flaw?
  dsimp only
  split
  case isTrue h =>
    simp only [Bool.or_eq_true, List.isEmpty_iff, decide_eq_true_eq] at h
    constructor
    · nofun
    · rintro ⟨hne, hle, -⟩
      cases h with
      | inl hnil => exact absurd hnil hne
      | inr hlt => exact absurd hlt (Nat.not_lt_of_le hle)
  case isFalse h =>
    simp only [Bool.or_eq_true, List.isEmpty_iff, decide_eq_true_eq, not_or, Nat.not_lt] at h
    rw [Option.map_eq_none_iff, List.find?_eq_none]
    simp only [List.contains_iff_mem]
    exact ⟨fun hc => ⟨h.1, h.2, hc⟩, fun hc => hc.2.2⟩

/-- A name without a flaw has no forbidden character. -/
lemma not_mem_of_flaw? (h : flaw? name = none) {d : Char} (hd : d ∈ forbidden) :
    d ∉ name.toList := fun hmem => (flaw?_eq_none_iff.1 h).2.2 d hmem hd

/-- What has no colon is dropped on the way to one. -/
lemma dropWhile_colon (h : ':' ∉ l) (z : List Char) :
    (l ++ z).dropWhile (· != ':') = z.dropWhile (· != ':') := by
  apply List.dropWhile_append_of_pos
  intro d hd
  exact bne_iff_ne.2 fun e => h (e ▸ hd)

/-- What has no colon is taken up to the next one. -/
lemma takeWhile_colon (h : ':' ∉ l) (z : List Char) :
    (l ++ ':' :: z).takeWhile (· != ':') = l := by
  rw [List.takeWhile_append_of_pos]
  · simp
  · intro d hd
    exact bne_iff_ne.2 fun e => h (e ▸ hd)

/-- A name without a bracket and a colon, between apostrophes, stands for the sheet of that name. -/
lemma ofQuoted_sheet (hbracket : '[' ∉ name.toList) (hcolon : ':' ∉ name.toList) :
    Formula.Qualifier.ofQuoted name.toList = .sheet name := by
  have hbracket : name.toList.contains '[' = false := by
    rwa [Bool.eq_false_iff, ne_eq, List.contains_iff_mem]
  have hcolon := dropWhile_colon hcolon []
  rw [List.append_nil] at hcolon
  unfold Formula.Qualifier.ofQuoted
  rw [hbracket, if_neg Bool.false_ne_true, hcolon, String.ofList_toList]
  rfl

/-- A legal name between apostrophes stands for the sheet of that name. -/
lemma ofQuoted_name (h : flaw? name = none) :
    Formula.Qualifier.ofQuoted name.toList = .sheet name :=
  ofQuoted_sheet (not_mem_of_flaw? h (by decide)) (not_mem_of_flaw? h (by decide))

/-- Two legal names with a colon, between apostrophes, stand for the span of the two sheets. -/
lemma ofQuoted_names (h : flaw? name = none) (h' : flaw? name' = none) :
    Formula.Qualifier.ofQuoted (name ++ ":" ++ name').toList = .span name name' := by
  have happ : (name ++ ":" ++ name').toList = name.toList ++ ':' :: name'.toList := by
    simp [String.toList_append]
  have hbracket : (name ++ ":" ++ name').toList.contains '[' = false := by
    rw [Bool.eq_false_iff, ne_eq, List.contains_iff_mem, happ, List.mem_append, List.mem_cons]
    rintro (hmem | hmem | hmem)
    · exact not_mem_of_flaw? h (by decide) hmem
    · exact absurd hmem (by decide)
    · exact not_mem_of_flaw? h' (by decide) hmem
  have hcolon : ':' ∉ name.toList := not_mem_of_flaw? h (by decide)
  unfold Formula.Qualifier.ofQuoted
  rw [hbracket, if_neg Bool.false_ne_true, happ, dropWhile_colon hcolon, takeWhile_colon hcolon,
    String.ofList_toList]
  simp

end Precedents.SheetName
