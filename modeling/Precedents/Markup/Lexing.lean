import Precedents.Markup.Event
import Precedents.Part

/-!
# Lexing

How bytes are cut into events. Documents are taken as they come: nothing is asked of their root, and
elements may be open at the end. But an end tag has to match the innermost open element, and
comments, sections and declarations have to be closed. Character data loses the white space at its
ends, and where nothing else is left there is no event.

The data may be damaged: then the bytes that could be had are followed by a failure instead of the
end, and nothing that only the end would have closed becomes an event.

The data arrives in pieces. Where it is cut matters only for the end of a document type, whose
inside is weighed piece by piece.
-/

namespace Precedents.Markup

/-- What the lexer works on: whether the data is whole, how many bytes are left at the start of each
piece, and the names of the open elements, the innermost first. -/
structure Setting where
  whole : Bool
  starts : List Nat
  opened : List (List UInt8)

/-- The outcome of taking one event off the data. -/
inductive Step where
  | stop (complete : Bool)
  | emit (e : Event) (opened : List (List UInt8)) (rest : List UInt8)

/-- Bytes that character data goes on with. -/
def inText (b : UInt8) : Bool := b != 0x3C

/-- Bytes that a tag without quotation marks goes on with. -/
def inMarkup (b : UInt8) : Bool := b != 0x3E

/-- The bytes up to the next `>` and those after it. Where there is none, the end of whole data ends
them too. -/
def upToClose (whole : Bool) (bytes : List UInt8) : Option (List UInt8 × List UInt8) :=
  match bytes.dropWhile inMarkup with
  | _ :: rest => some (bytes.takeWhile inMarkup, rest)
  | [] => if whole then some (bytes, []) else none

/-- The bytes up to the first `>` that closes what began, and those after it. Whether it closes is
told from the bytes before it, the nearest first. -/
def scanClose (closes : List UInt8 → Bool) (before : List UInt8) :
    List UInt8 → Option (List UInt8 × List UInt8)
  | [] => none
  | b :: bytes =>
    if b == 0x3E && closes before then some (before.reverse, bytes)
    else scanClose closes (b :: before) bytes

/-- Whether a comment ends after these bytes: two dashes that are not those it began with. -/
def closesComment : List UInt8 → Bool
  | 0x2D :: 0x2D :: before => 2 < before.length
  | _ => false

/-- Whether a literal section ends after these bytes: two brackets. -/
def closesSection : List UInt8 → Bool
  | 0x5D :: 0x5D :: _ => true
  | _ => false

/-- How many more `<` than `>` there are after a byte. -/
def depthAfter (depth : Int) (b : UInt8) : Int :=
  if b = 0x3C then depth + 1 else if b = 0x3E then depth - 1 else depth

/-- The inside of a document type and the bytes after it. It ends at the first `>` before which
every `<` of the same piece is closed: `depth` tells how many are open, `left` how many bytes are
left. -/
def scanDoctype (starts : List Nat) (left : Nat) (depth : Int) (before : List UInt8) :
    List UInt8 → Option (List UInt8 × List UInt8)
  | [] => none
  | b :: bytes =>
    let depth := if starts.contains left then 0 else depth
    if b == 0x3E && depth == 0 then some (before.reverse, bytes)
    else scanDoctype starts (left - 1) (depthAfter depth b) (b :: before) bytes

/-- Whether the bytes begin with some ASCII text, in any case. -/
def beginsWith (text : String) (bytes : List UInt8) : Bool :=
  (bytes.take text.length).map (fun b => (Char.ofUInt8 b).toLower) == text.toList.map Char.toLower

/-- The bytes after something whose inside has to be of some form. -/
def fitting? (fits : List UInt8 → Bool) : Option (List UInt8 × List UInt8) → Option (List UInt8)
  | some (inside, rest) => if fits inside then some rest else none
  | none => none

/-- Whether the inside of a document type has a name. -/
def isDoctype (inside : List UInt8) : Bool :=
  beginsWith "!DOCTYPE" inside && (inside.drop 8).any isInk

/-- The bytes after what begins with an exclamation mark. The byte after the mark tells what it is:
a comment, a literal section or a document type. -/
def afterBang? (starts : List Nat) (bytes : List UInt8) : Option (List UInt8) :=
  match bytes with
  | _ :: kind :: _ =>
    if kind = 0x2D then fitting? (beginsWith "!--") (scanClose closesComment [] bytes)
    else if kind = 0x5B then fitting? (beginsWith "![CDATA[") (scanClose closesSection [] bytes)
    else if kind = 0x44 ∨ kind = 0x64 then
      fitting? isDoctype (scanDoctype starts bytes.length 0 [] bytes)
    else none
  | _ => none

/-- Reads what begins with an exclamation mark. -/
def bangStep (s : Setting) (bytes : List UInt8) : Step :=
  match afterBang? s.starts bytes with
  | some rest => .emit .other s.opened rest
  | none => .stop false

/-- Reads what begins with a question mark, which has to end with one as well. -/
def instructionStep (s : Setting) (bytes : List UInt8) : Step :=
  match upToClose s.whole bytes with
  | some (inside, rest) =>
    if 2 < inside.length ∧ inside.getLast? = some 0x3F then .emit .other s.opened rest
    else .stop false
  | none => .stop false

/-- A name without the white space after it; a name of white space only stays. -/
def trimName (name : List UInt8) : List UInt8 :=
  match (name.reverse.dropWhile isSpace).reverse with
  | [] => name
  | trimmed => trimmed

/-- Reads an end tag; `bytes` is what follows its slash. -/
def closingStep (s : Setting) (bytes : List UInt8) : Step :=
  match upToClose s.whole bytes, s.opened with
  | some (inside, rest), innermost :: opened =>
    if trimName inside = innermost then .emit (.closing innermost) opened rest else .stop false
  | _, _ => .stop false

/-- The quotation mark that is open after a byte of a tag. -/
def quoteAfter (quote : Option UInt8) (b : UInt8) : Option UInt8 :=
  match quote with
  | some q => if b = q then none else some q
  | none => if b = 0x22 ∨ b = 0x27 then some b else none

/-- The inside of a tag and the bytes after it, where a `>` between quotation marks does not end it.
There are no bytes after it if the data ended first. -/
def tagEnd (quote : Option UInt8) : List UInt8 → List UInt8 × Option (List UInt8)
  | [] => ([], none)
  | b :: bytes =>
    if quote = none ∧ b = 0x3E then ([], some bytes)
    else
      let after := tagEnd (quoteAfter quote b) bytes
      (b :: after.1, after.2)

/-- Reads a tag that opens an element or stands for an empty one. -/
def openingStep (s : Setting) (bytes : List UInt8) : Step :=
  match tagEnd none bytes with
  | (inside, rest) =>
    if rest.isNone && !s.whole then .stop false
    else if inside.getLast? = some 0x2F then
      .emit (.empty (.ofBytes inside.dropLast)) s.opened (rest.getD [])
    else
      let tag := Tag.ofBytes inside
      .emit (.opening tag) (tag.name :: s.opened) (rest.getD [])

/-- Reads character data, which begins with a byte that is no white space. -/
def textStep (s : Setting) (bytes : List UInt8) : Step :=
  let run := bytes.takeWhile inText
  let rest := bytes.dropWhile inText
  if rest.isEmpty && !s.whole then .stop false
  else .emit (.text (decode? (run.reverse.dropWhile isSpace).reverse)) s.opened rest

/-- Takes the next event off the data. A `<` at the very end is passed over. -/
def step (s : Setting) (bytes : List UInt8) : Step :=
  match bytes.dropWhile isSpace with
  | [] => .stop s.whole
  | 0x3C :: markup => match markup with
    | [] => .stop s.whole
    | 0x21 :: _ => bangStep s markup
    | 0x3F :: _ => instructionStep s markup
    | 0x2F :: name => closingStep s name
    | _ => openingStep s markup
  | data => textStep s data

/-- What is left behind the end of a tag is no longer than what was there. -/
theorem upToClose_le {whole : Bool} {bytes inside rest : List UInt8}
    (h : upToClose whole bytes = some (inside, rest)) : rest.length ≤ bytes.length := by
  unfold upToClose at h
  split at h
  case h_1 b r e =>
    obtain ⟨-, rfl⟩ := Prod.mk.inj (Option.some.inj h)
    have := e ▸ length_dropWhile_le inMarkup bytes
    simp only [List.length_cons] at this
    omega
  case h_2 =>
    split at h
    · obtain ⟨-, rfl⟩ := Prod.mk.inj (Option.some.inj h)
      exact Nat.zero_le _
    · simp at h

/-- What is left behind a closing mark is shorter than what was there. -/
theorem scanClose_lt {closes : List UInt8 → Bool} {before bytes inside rest : List UInt8}
    (h : scanClose closes before bytes = some (inside, rest)) : rest.length < bytes.length := by
  fun_induction scanClose closes before bytes with
  | case1 => simp at h
  | case2 before b bytes _ =>
    obtain ⟨-, rfl⟩ := Prod.mk.inj (Option.some.inj h)
    exact Nat.lt_succ_self _
  | case3 before b bytes _ ih => exact Nat.lt_succ_of_lt (ih h)

/-- What is left behind a document type is shorter than what was there. -/
theorem scanDoctype_lt {starts : List Nat} {left : Nat} {depth : Int}
    {before bytes inside rest : List UInt8}
    (h : scanDoctype starts left depth before bytes = some (inside, rest)) :
    rest.length < bytes.length := by
  fun_induction scanDoctype starts left depth before bytes with
  | case1 => simp at h
  | case2 =>
    obtain ⟨-, rfl⟩ := Prod.mk.inj (Option.some.inj h)
    exact Nat.lt_succ_self _
  | case3 _ _ _ _ _ _ _ ih => exact Nat.lt_succ_of_lt (ih h)

/-- Something that fits has been found. -/
theorem fitting?_eq_some {fits : List UInt8 → Bool} {found : Option (List UInt8 × List UInt8)}
    {rest : List UInt8} (h : fitting? fits found = some rest) :
    ∃ inside, found = some (inside, rest) := by
  unfold fitting? at h
  split at h
  case h_1 inside r =>
    split at h
    · exact ⟨inside, by rw [Option.some.inj h]⟩
    · simp at h
  case h_2 => simp at h

/-- What is left behind an exclamation is shorter than what was there. -/
theorem afterBang?_lt {starts : List Nat} {bytes rest : List UInt8}
    (h : afterBang? starts bytes = some rest) : rest.length < bytes.length := by
  unfold afterBang? at h
  split at h
  · split at h
    · obtain ⟨_, h⟩ := fitting?_eq_some h
      exact scanClose_lt h
    · split at h
      · obtain ⟨_, h⟩ := fitting?_eq_some h
        exact scanClose_lt h
      · split at h
        · obtain ⟨_, h⟩ := fitting?_eq_some h
          exact scanDoctype_lt h
        · simp at h
  · simp at h

/-- What is left behind the bracket that ends a tag is shorter than what was there. -/
theorem tagEnd_lt {quote : Option UInt8} {bytes rest : List UInt8}
    (h : (tagEnd quote bytes).2 = some rest) : rest.length < bytes.length := by
  fun_induction tagEnd quote bytes with
  | case1 => simp at h
  | case2 quote b bytes _ => exact Option.some.inj h ▸ Nat.lt_succ_self _
  | case3 quote b bytes _ _ ih => exact Nat.lt_succ_of_lt (ih h)

/-- A step at an opening tag leaves no more bytes than there were. -/
theorem openingStep_le {s : Setting} {bytes rest : List UInt8} {e : Event}
    {opened : List (List UInt8)} (h : openingStep s bytes = .emit e opened rest) :
    rest.length ≤ bytes.length := by
  have hget : ((tagEnd none bytes).2.getD []).length ≤ bytes.length := by
    cases hr : (tagEnd none bytes).2 with
    | none => exact Nat.zero_le _
    | some r => exact Nat.le_of_lt (tagEnd_lt hr)
  simp only [openingStep] at h
  split at h
  · simp at h
  · split at h
    · exact (Step.emit.inj h).2.2 ▸ hget
    · exact (Step.emit.inj h).2.2 ▸ hget

/-- Every event takes bytes off the data, so lexing ends. -/
theorem step_lt {s : Setting} {bytes rest : List UInt8} {e : Event} {opened : List (List UInt8)}
    (h : step s bytes = .emit e opened rest) : rest.length < bytes.length := by
  -- Skipping blanks adds nothing, and behind them every case passes a byte of its own.
  have hle := length_dropWhile_le isSpace bytes
  unfold step at h
  split at h
  case h_1 => simp at h
  case h_2 markup he =>
    rw [he, List.length_cons] at hle
    split at h
    case h_1 => simp at h
    case h_2 =>
      unfold bangStep at h
      split at h
      case h_1 r hf =>
        obtain ⟨-, -, rfl⟩ := Step.emit.inj h
        have := afterBang?_lt hf
        omega
      case h_2 => simp at h
    case h_3 =>
      unfold instructionStep at h
      split at h
      case h_2 => simp at h
      case h_1 inside r hf =>
        split at h
        · obtain ⟨-, -, rfl⟩ := Step.emit.inj h
          have := upToClose_le hf
          omega
        · simp at h
    case h_4 name =>
      unfold closingStep at h
      split at h
      case h_2 => simp at h
      case h_1 inside r innermost opened' hf _ =>
        split at h
        · obtain ⟨-, -, rfl⟩ := Step.emit.inj h
          have := upToClose_le hf
          simp only [List.length_cons] at hle
          omega
        · simp at h
    case h_5 =>
      have := openingStep_le h
      omega
  case h_3 data hne hlt =>
    simp only [textStep] at h
    split at h
    · simp at h
    · obtain ⟨-, -, rfl⟩ := Step.emit.inj h
      -- Text is not empty, since the case of no data has been dealt with.
      generalize hd : bytes.dropWhile isSpace = data at *
      cases data with
      | nil => exact absurd rfl hne
      | cons b data =>
        have hb : inText b = true := by
          simp only [inText, bne_iff_ne, ne_eq]
          rintro rfl
          exact hlt _ rfl
        rw [List.dropWhile_cons_of_pos hb]
        have := length_dropWhile_le inText data
        simp only [List.length_cons] at hle
        omega

/-- The document that the data holds, from a place where some elements are open. -/
def lexFrom (s : Setting) (bytes : List UInt8) : Document :=
  match h : step s bytes with
  | .stop complete => ⟨[], complete⟩
  | .emit e opened rest =>
    have := step_lt h
    (lexFrom { s with opened } rest).cons e
termination_by bytes.length

/-- The data after a byte order mark. -/
def afterMark : List UInt8 → List UInt8
  | 0xEF :: 0xBB :: 0xBF :: bytes => bytes
  | bytes => bytes

/-- The document that a part holds. -/
def Document.ofPart (p : Part) : Document := lexFrom ⟨p.whole, p.starts, []⟩ (afterMark p.bytes)

end Precedents.Markup
