import Precedents.Main
import Precedents.Folder
import Precedents.Proofs.Address
import Precedents.Proofs.LetterCase
import Precedents.Proofs.Formula.LetterCase
import Precedents.Proofs.Formula.Area
import Precedents.Proofs.Formula.Grammar
import Precedents.Proofs.Formula.Passage
import Precedents.Proofs.Formula.Exchange
import Precedents.Proofs.Formula.Composition
import Precedents.Proofs.Formula.Cursor
import Precedents.Proofs.Formula.Scanning
import Precedents.Proofs.Formula.Iteration
import Precedents.Proofs.Formula.Fault
import Precedents.Proofs.Formula.Span
import Precedents.Proofs.Formula.Moving
import Precedents.Proofs.Formula.Distance
import Precedents.Proofs.Formula.ErrorLiteral
import Precedents.Proofs.Coord
import Precedents.Proofs.SheetName
import Precedents.Proofs.Workbook
import Precedents.Proofs.Extraction
import Precedents.Proofs.Rendering
import Precedents.Proofs.Dot
import Precedents.Proofs.Formula.Attribution
import Precedents.Proofs.SheetPart
import Precedents.Proofs.SharedFormula
import Precedents.Proofs.Package
import Precedents.Proofs.Editing
import Precedents.Proofs.Locality
import Precedents.Proofs.Bounds
import Precedents.Proofs.Walk
import Precedents.Proofs.FreshName
import Precedents.Proofs.Growth
import Precedents.Proofs.Multimap
import Precedents.Proofs.CellOrder
import Precedents.Proofs.Spelling
import Precedents.Proofs.Formula.Word
import Precedents.Proofs.Formula.Quotation
import Precedents.Proofs.SameSheet
import Precedents.Proofs.BlockLimit
import Precedents.Proofs.ActiveSheet
import Precedents.Proofs.InlineString
