import Precedents.Proofs.Formula.Passage
import Precedents.Proofs.Workbook

/-!
# What formulas read lies in the workbook

Addresses off the grid are no references, and names are looked up to sheets of the workbook. So
every token of a formula lies on sheets that exist and inside the grid (`Sound.tokens_lieIn`).
-/

namespace Precedents

variable {wb : Workbook} {a b c z : Coord} {current : Nat}

/-- Whether a cell lies on a sheet of the workbook and inside the grid. -/
def Coord.LiesIn (c : Coord) (wb : Workbook) : Prop := c.sheet < wb.sheetCount ∧ c.address.InGrid

/-- Whether both corners of a block lie in the workbook. -/
def Block.LiesIn (b : Block) (wb : Workbook) : Prop := b.first.LiesIn wb ∧ b.last.LiesIn wb

/-- A block of one cell lies in a workbook if the cell does. -/
lemma Block.liesIn_single : (single c).LiesIn wb ↔ c.LiesIn wb := and_self_iff

/-- A block lies in the workbook if and only if the corners that span it do. -/
lemma Block.liesIn_spanning : (spanning a z).LiesIn wb ↔ a.LiesIn wb ∧ z.LiesIn wb := by
  simp only [LiesIn, spanning, Coord.LiesIn, Coord.address, Address.relative, Address.InGrid]
  omega

/-- The cells of a block lie where its corners lie. -/
lemma Block.LiesIn.of_contains {b : Block} (h : b.LiesIn wb) (hc : b.contains c = true) :
    c.LiesIn wb := by
  obtain ⟨-, hsheet, hrow, hcol⟩ := h
  simp only [contains, Bool.and_eq_true, decide_eq_true_eq] at hc
  obtain ⟨⟨⟨-, hsheet'⟩, -, hrow'⟩, -, hcol'⟩ := hc
  refine ⟨Nat.lt_of_le_of_lt hsheet' hsheet, ?_, ?_⟩
  · exact Nat.lt_of_le_of_lt hrow' hrow
  · exact Nat.lt_of_le_of_lt hcol' hcol

namespace Formula

/-- Whether the cells of a token lie in the workbook. -/
def Token.LiesIn (t : Token) (wb : Workbook) : Prop := t.block.LiesIn wb

variable {ctx ctx' : Context} {x : List Char} {ps : List Piece} {r : Reference} {f : String}

/-- Every reference of a passage is to an area. -/
lemma Passes.isArea (h : Passes ctx ps x ctx') (hr : r ∈ ps.filterMap Piece.reference?) :
    ∃ name, IsArea name r.area := by
  induction h with
  | nil => exact absurd hr List.not_mem_nil
  | skip _ _ ih => exact ih hr
  | found hf _ ih =>
    cases List.mem_cons.1 hr with
    | inl he => exact he ▸ hf.isArea
    | inr hr => exact ih hr

/-- Every reference of a formula without a fault is to an area. -/
lemma isArea_of_mem_references (h : (read f).fault = none) (hr : r ∈ (read f).references) :
    ∃ name, IsArea name r.area := by
  rw [references_read] at hr
  rw [fault_read] at h
  have hread : readFrom .start f.toList = ⟨(readFrom .start f.toList).pieces, none⟩ := by rw [← h]
  obtain ⟨-, ctx', hp, -⟩ := passes_of_readFrom hread
  exact hp.isArea hr

/-- The token of an area between two sheets of the workbook lies there. -/
lemma Area.token_liesIn {area : Area} {name : Option String} {ends : Nat × Nat} (spans : Bool)
    (ha : IsArea name area) (hfirst : ends.1 < wb.sheetCount) (hlast : ends.2 < wb.sheetCount) :
    (area.token spans ends).LiesIn wb := by
  obtain ⟨m, second⟩ := area
  have hm : m.address.InGrid := ha.1.inGrid
  cases second with
  | some k =>
    obtain ⟨-, -, -, hk⟩ := ha.2 k rfl
    exact Block.liesIn_spanning.2 ⟨⟨hfirst, hm⟩, ⟨hlast, hk.inGrid⟩⟩
  | none =>
    cases spans with
    | true => exact Block.liesIn_spanning.2 ⟨⟨hfirst, hm⟩, ⟨hlast, hm⟩⟩
    | false => exact Block.liesIn_single.2 ⟨hfirst, hm⟩

/-- What the names of a qualifier are looked up to are sheets of the workbook. -/
lemma Qualifier.ends_lt {q : Qualifier} {ends : Nat × Nat} (h : wb.Sound)
    (he : q.ends? wb.sheetIndex? = some ends) :
    ends.1 < wb.sheetCount ∧ ends.2 < wb.sheetCount := by
  cases q with
  | sheet name =>
    obtain ⟨i, hi, rfl⟩ := Option.map_eq_some_iff.1 he
    exact ⟨h.lt_sheetCount hi, h.lt_sheetCount hi⟩
  | span first last =>
    obtain ⟨i, hi, he⟩ := Option.bind_eq_some_iff.1 he
    obtain ⟨j, hj, he⟩ := Option.bind_eq_some_iff.1 he
    obtain rfl := Option.some.inj he
    exact ⟨h.lt_sheetCount hi, h.lt_sheetCount hj⟩
  | external => cases he

end Formula

open Formula

namespace Workbook

/-- Whatever a formula on a sheet of the workbook reads lies in the workbook. -/
theorem Sound.tokens_lieIn (h : wb.Sound) (hc : current < wb.sheetCount) {f : String} {t : Token}
    (ht : t ∈ tokenize wb.sheetIndex? current f) : t.LiesIn wb := by
  unfold tokenize at ht
  simp only at ht
  split at ht
  case h_2 => exact absurd ht List.not_mem_nil
  case h_1 hfault =>
    obtain ⟨r, hr, hsome⟩ := List.mem_filterMap.1 ht
    obtain ⟨name, harea⟩ := isArea_of_mem_references hfault hr
    unfold Reference.token? at hsome
    split at hsome
    case h_1 =>
      obtain rfl := Option.some.inj hsome
      exact Area.token_liesIn _ harea hc hc
    case h_2 q _ =>
      obtain ⟨ends, hends, rfl⟩ := Option.map_eq_some_iff.1 hsome
      obtain ⟨hfirst, hlast⟩ := Qualifier.ends_lt h hends
      exact Area.token_liesIn _ harea hfirst hlast

/-- A cell that holds a formula lies in the workbook. -/
lemma Sound.liesIn_of_formula (h : wb.Sound) {source : String}
    (hc : wb.content c = .formula source) : c.LiesIn wb := by
  obtain ⟨ws, hs, hcell⟩ := content_eq_formula.1 hc
  exact ⟨(Array.getElem?_eq_some_iff.1 hs).1, h.inGrid _ _ _ _ hs hcell⟩

end Workbook

end Precedents
