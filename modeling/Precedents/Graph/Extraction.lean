import Precedents.Formula.Token
import Precedents.Graph

/-!
# Graph of a workbook

Every formula of the sheets in scope is a source, and its targets are the cells that its tokens
cover. Formulas are taken sheet by sheet and row by row. Blocks that are too large for the caller
are left out as a whole.
-/

namespace Precedents

/-- Whose formulas become sources. References from them to other sheets are followed either way. -/
inductive Scope where
  | allSheets
  | activeSheet
  deriving DecidableEq

/-- What a caller may choose about a graph: the sources, and the greatest number of cells of a block
that is followed. -/
structure GraphOptions where
  scope : Scope
  maxRangeCells : Option Nat
  deriving DecidableEq

namespace GraphOptions

/-- All sheets, and blocks of any size. -/
def default : GraphOptions := ⟨.allSheets, none⟩

/-- Whether a token is followed. A single cell always is. -/
def follows (options : GraphOptions) : Formula.Token → Bool
  | .single _ => true
  | .range b => match options.maxRangeCells with
    | none => true
    | some limit => b.cellCount ≤ limit

end GraphOptions

namespace Workbook

/-- The cells that a formula at a place reads, one after another. -/
def targets (wb : Workbook) (options : GraphOptions) (place : Coord) (source : String) :
    List Coord :=
  ((Formula.tokenize wb.sheetIndex? place.sheet source).filter options.follows).flatMap (·.cells)

/-- The entry of a formula. -/
def entry (wb : Workbook) (options : GraphOptions) (formula : Coord × String) :
    String × List String :=
  (wb.qualifiedName formula.1,
    (wb.targets options formula.1 formula.2).map wb.qualifiedName)

/-- The formulas of the sheets in scope. -/
def formulasIn (wb : Workbook) : Scope → List (Coord × String)
  | .allSheets => wb.formulas
  | .activeSheet => wb.sheetFormulas wb.active

/-- The graph of a workbook. -/
def graph (wb : Workbook) (options : GraphOptions) : Graph :=
  .ofList ((wb.formulasIn options.scope).map (wb.entry options))

end Workbook

end Precedents
