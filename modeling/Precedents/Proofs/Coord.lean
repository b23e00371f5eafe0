import Precedents.Block
import Precedents.Proofs.Address
import Precedents.Proofs.Formula.Lexeme

/-!
# Coordinates and blocks

A coordinate is told by its sheet and its address, and both by its text. A block lists its cells in
increasing order (`Block.pairwise_cells`) and so each of them once, so that a cell is counted as
often as it belongs to the block (`Block.count_cells`).
-/

namespace Precedents

lemma Position.lt_iff {p q : Position} :
    compare p q = .lt ↔ p.row < q.row ∨ p.row = q.row ∧ p.col < q.col := by
  have h : compare p q = .lt ↔
      (compareOn Position.row p q).then (compareOn Position.col p q) = .lt := Iff.rfl
  simp only [h, compareOn, Ordering.then_eq_lt, Nat.compare_eq_lt, Nat.compare_eq_eq]

namespace Coord

variable {c d : Coord}

lemma ne_of_lt (h : c < d) : c ≠ d := by
  rintro rfl
  rcases Coord.lt_iff.1 h with h | ⟨-, h | ⟨-, h⟩⟩
  · exact Nat.lt_irrefl _ h
  · exact Nat.lt_irrefl _ h
  · exact Nat.lt_irrefl _ h

/-- Coordinates are not in order both ways. -/
lemma lt_asymm (h : c < d) : ¬d < c := by
  rw [lt_iff] at h ⊢
  omega

lemma ext_address (hs : c.sheet = d.sheet) (ha : c.address = d.address) : c = d := by
  obtain ⟨sheet, row, col⟩ := c
  obtain ⟨sheet', row', col'⟩ := d
  obtain ⟨rfl, rfl, -⟩ := Address.mk.inj ha
  obtain rfl : sheet = sheet' := hs
  rfl

lemma ext_position (hs : c.sheet = d.sheet) (hp : c.position = d.position) : c = d := by
  obtain ⟨hrow, hcol⟩ := Position.mk.inj hp
  exact ext_address hs (congrArg₂ Address.relative hrow hcol)

/-- The text of a coordinate, character by character. -/
lemma toList_render (c : Coord) :
    c.render.toList = '#' :: (Nat.toDigits 10 c.sheet ++ '!' :: c.address.chars) := by
  simp [Coord.render, Address.render, String.toList_append, toString, Nat.toList_repr]

/-- The text of a coordinate tells which it is. -/
lemma render_inj (h : c.render = d.render) : c = d := by
  have h := congrArg String.toList h
  rw [toList_render, toList_render, List.cons.injEq] at h
  have digits : ∀ n, ∀ k ∈ Nat.toDigits 10 n, k.isDigit = true :=
    fun n k hk => Nat.isDigit_of_mem_toDigits (by decide) (by decide) hk
  obtain ⟨hsheet, haddress⟩ := Formula.run_unique h.2 (digits _) rfl (digits _) rfl
  have hsheet := congrArg (Nat.ofDigitChars 10 · 0) hsheet
  simp only [Nat.ofDigitChars_ten_toDigits] at hsheet
  exact ext_address hsheet (Address.chars_inj (List.cons.inj haddress).2)

end Coord

namespace Block

/-- A block is spanned by its least and its greatest corner. -/
lemma spanning_first_last (b : Block) : spanning b.first b.last = b := by
  obtain ⟨⟨sheet, row, col⟩, ⟨sheet', row', col'⟩, hsheet, hrow, hcol⟩ := b
  simp only [spanning, Nat.min_eq_left hsheet, Nat.min_eq_left hrow, Nat.min_eq_left hcol,
    Nat.max_eq_right hsheet, Nat.max_eq_right hrow, Nat.max_eq_right hcol]

/-- A block lists its cells in increasing order. -/
theorem pairwise_cells (b : Block) : b.cells.Pairwise (· < ·) := by
  rw [cells, List.pairwise_flatMap]
  constructor
  · intro sheet _
    rw [List.pairwise_flatMap]
    constructor
    · intro row _
      rw [List.pairwise_map]
      apply (List.pairwise_lt_range' 1).imp
      intro col col' hlt
      exact Coord.lt_iff.2 (.inr ⟨rfl, .inr ⟨rfl, hlt⟩⟩)
    · apply (List.pairwise_lt_range' 1).imp
      intro row row' hlt c hc d hd
      obtain ⟨col, -, rfl⟩ := List.mem_map.1 hc
      obtain ⟨col', -, rfl⟩ := List.mem_map.1 hd
      exact Coord.lt_iff.2 (.inr ⟨rfl, .inl hlt⟩)
  · apply (List.pairwise_lt_range' 1).imp
    intro sheet sheet' hlt c hc d hd
    obtain ⟨row, -, hc⟩ := List.mem_flatMap.1 hc
    obtain ⟨row', -, hd⟩ := List.mem_flatMap.1 hd
    obtain ⟨col, -, rfl⟩ := List.mem_map.1 hc
    obtain ⟨col', -, rfl⟩ := List.mem_map.1 hd
    exact Coord.lt_iff.2 (.inl hlt)

/-- No cell of a block is listed twice. -/
theorem nodup_cells (b : Block) : b.cells.Nodup := b.pairwise_cells.imp Coord.ne_of_lt

/-- A cell is listed once if it belongs to the block, and not at all otherwise. -/
theorem count_cells (b : Block) (c : Coord) :
    b.cells.count c = if b.contains c then 1 else 0 := by
  split
  case isTrue h => exact List.count_eq_one_of_mem b.nodup_cells (mem_cells.2 h)
  case isFalse h =>
    rw [List.count_eq_zero]
    exact fun hmem => h (mem_cells.1 hmem)

end Block

end Precedents
