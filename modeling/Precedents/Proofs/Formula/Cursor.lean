import Precedents.Proofs.Formula.Passage

/-!
# Reading in place

A text may also be read by a cursor that goes through it by byte offsets, looks ahead, and steps
back where what it tried does not stand there. `Scan` is such work: it may find a fault, and it has
no answer at all where an offset lies off the text or inside a character, where a counter would go
below zero, or where a loop has not ended after as many turns as the text has bytes, and one. So an
equation that gives its answer says that none of this happens. This module has the lexemes. Each is
read in place as it is read off the front of a list of characters; where the cursor is, is told by
the text that it stands before (`Cursor.before`).
-/

namespace Precedents.Formula

variable {p : Char → Bool} {d : Char} {text rest z cs : List Char}

/-! ## Stretches of bytes -/

/-- Every character takes at least one byte. -/
lemma length_le_width (text : List Char) : text.length ≤ width text := by
  induction text with
  | nil => exact Nat.le_refl 0
  | cons d cs ih =>
    have hd := d.utf8Size_pos
    rw [List.length_cons, width]
    omega

lemma width_le (h : z <:+ text) : width z ≤ width text := by
  obtain ⟨w, rfl⟩ := h
  rw [width_append]
  exact Nat.le_add_left _ _

/-- The text from one byte offset up to another. There is none where an offset lies beyond the text
or inside a character, or where the two are the wrong way round. -/
def slice? (text : String) (start stop : Nat) : Option String :=
  if h : (⟨start⟩ : String.Pos.Raw).IsValid text ∧ (⟨stop⟩ : String.Pos.Raw).IsValid text ∧
      start ≤ stop then
    some (String.extract (text.pos ⟨start⟩ h.1) (text.pos ⟨stop⟩ h.2.1))
  else none

lemma slice?_append (a b c : String) :
    slice? (a ++ b ++ c) a.utf8ByteSize (a.utf8ByteSize + b.utf8ByteSize) = some b := by
  have hstart : (⟨a.utf8ByteSize⟩ : String.Pos.Raw).IsValid (a ++ b ++ c) :=
    String.Pos.Raw.isValid_iff_exists_append.2 ⟨a, b ++ c, String.append_assoc, rfl⟩
  have hstop : (⟨a.utf8ByteSize + b.utf8ByteSize⟩ : String.Pos.Raw).IsValid (a ++ b ++ c) :=
    String.Pos.Raw.isValid_iff_exists_append.2
      ⟨a ++ b, c, rfl, congrArg String.Pos.Raw.mk String.utf8ByteSize_append.symm⟩
  have hbytes : (a.toByteArray ++ (b.toByteArray ++ c.toByteArray)).extract
      (a.toByteArray.size + 0) (a.toByteArray.size + b.toByteArray.size) = b.toByteArray := by
    rw [ByteArray.extract_append_size_add, ByteArray.extract_append_eq_left rfl]
  rw [slice?, dif_pos ⟨hstart, hstop, Nat.le_add_right _ _⟩, Option.some_inj,
    ← String.toByteArray_inj, String.toByteArray_extract, ← hbytes, String.toByteArray_append,
    String.toByteArray_append, ByteArray.append_assoc]
  rfl

lemma width_ofList (text : List Char) : (String.ofList text).utf8ByteSize = width text := by
  rw [← width_toList, String.toList_ofList]

/-- The offset behind the beginning of a string is one at which it can be cut. -/
lemma isValid_of_toList {f : String} (h : f.toList = text ++ rest) :
    (⟨width text⟩ : String.Pos.Raw).IsValid f := by
  have hf : f = String.ofList text ++ String.ofList rest := by
    rw [← String.toList_inj, h]
    simp
  exact String.Pos.Raw.isValid_iff_exists_append.2
    ⟨_, _, hf, congrArg String.Pos.Raw.mk (width_ofList text).symm⟩

/-- Characters that stand in a text between others are the stretch at their offset. -/
lemma slice?_of_toList {f : String} (h : f.toList = text ++ (rest ++ z)) :
    slice? f (width text) (width text + width rest) = some (String.ofList rest) := by
  have hf : f = String.ofList text ++ String.ofList rest ++ String.ofList z := by
    rw [← String.toList_inj, h]
    simp
  rw [hf, ← width_ofList text, ← width_ofList rest, slice?_append]

/-! ## Cursors -/

/-- A reader that goes through a text in place: the byte offset that it has come to, how many
parentheses and braces are open, where the last bracketed text ended, and whether it is done. -/
structure Cursor where
  text : String
  pos : Nat
  parens : Nat
  braces : Nat
  bracketEnd : Option Nat
  finished : Bool

/-- Work with a cursor, which may find a fault. It has no answer where it cannot go on. -/
abbrev Scan := ExceptT ParseError (StateT Cursor Option)

namespace Cursor

variable {c : Cursor}

/-- The offset at which the end `rest` of the text begins. -/
def offset (c : Cursor) (rest : List Char) : Nat := c.text.utf8ByteSize - width rest

/-- The cursor in front of the end `rest` of its text. -/
def before (c : Cursor) (rest : List Char) : Cursor := { c with pos := c.offset rest }

@[simp] lemma text_before : (c.before rest).text = c.text := rfl

@[simp] lemma pos_before : (c.before rest).pos = c.offset rest := rfl

@[simp] lemma parens_before : (c.before rest).parens = c.parens := rfl

@[simp] lemma braces_before : (c.before rest).braces = c.braces := rfl

@[simp] lemma offset_before : (c.before rest).offset z = c.offset z := rfl

/-- The offset of an end of the text is the width of what stands in front of it. -/
lemma offset_of_toList (h : c.text.toList = text ++ rest) : c.offset rest = width text := by
  rw [offset, ← width_toList, h, width_append, Nat.add_sub_cancel]

lemma offset_append (h : rest ++ z <:+ c.text.toList) :
    c.offset z = c.offset (rest ++ z) + width rest := by
  obtain ⟨lead, hlead⟩ := h
  rw [offset_of_toList hlead.symm, offset_of_toList (hlead.symm.trans (List.append_assoc ..).symm),
    width_append]

lemma offset_cons (h : d :: cs <:+ c.text.toList) :
    c.offset cs = c.offset (d :: cs) + d.utf8Size := by
  have hwidth : c.offset cs = c.offset ([d] ++ cs) + width [d] := offset_append h
  simpa [width] using hwidth

/-- No offset lies beyond the end of the text. -/
lemma offset_le (c : Cursor) (rest : List Char) : c.offset rest ≤ c.text.utf8ByteSize :=
  Nat.sub_le _ _

lemma width_pos (h : rest ≠ []) : 0 < width rest := by
  obtain ⟨c, cs, rfl⟩ := List.exists_cons_of_ne_nil h
  exact Nat.add_pos_left c.utf8Size_pos _

/-- A shorter end of the text begins further on. -/
lemma offset_lt (h : rest <:+ c.text.toList) (hz : z <:+ rest) (hlt : z.length < rest.length) :
    c.offset rest < c.offset z := by
  obtain ⟨w, rfl⟩ := hz
  have hw : w ≠ [] := by
    rintro rfl
    exact absurd hlt (lt_irrefl _)
  rw [offset_append h]
  exact Nat.lt_add_of_pos_right (width_pos hw)

/-- Two offsets lie as far apart as the text between them is wide. -/
lemma offset_upTo (h : rest <:+ c.text.toList) (hz : z <:+ rest) :
    c.offset z = c.offset rest + width (upTo rest z) := by
  obtain ⟨w, rfl⟩ := hz
  rw [offset_append h, upTo_append_self]

/-- The slice between two offsets is the text between them. -/
lemma slice?_offset (h : rest <:+ c.text.toList) (hz : z <:+ rest) :
    slice? c.text (c.offset rest) (c.offset z) = some (String.ofList (upTo rest z)) := by
  obtain ⟨w, rfl⟩ := hz
  rw [offset_append h, upTo_append_self]
  obtain ⟨lead, hlead⟩ := h
  rw [offset_of_toList hlead.symm]
  exact slice?_of_toList hlead.symm

lemma offset_nil (c : Cursor) : c.offset [] = c.text.utf8ByteSize := Nat.sub_zero _

end Cursor

namespace Scan

variable {α β : Type} {x : Scan α} {k : α → Scan β} {a : α} {e : ParseError} {c c' : Cursor}

/-! ## Work with a cursor -/

/-- What comes of some work: the answer or the fault, and the cursor as it is left behind. -/
def on (x : Scan α) (c : Cursor) : Option (Except ParseError α × Cursor) := (x.run).run c

lemma on_pure (a : α) (c : Cursor) : (pure a : Scan α).on c = some (.ok a, c) := rfl

lemma on_get_bind {k : Cursor → Scan β} : (get >>= k).on c = (k c).on c := rfl

lemma on_modify {g : Cursor → Cursor} : (modify g : Scan Unit).on c = some (.ok (), g c) := rfl

/-- What follows goes on from the cursor that the first part leaves. -/
lemma on_bind (h : x.on c = some (.ok a, c')) : (x >>= k).on c = (k a).on c' := by
  change ((x.run).run c).bind _ = _
  rw [show (x.run).run c = _ from h]
  rfl

/-- What follows a fault is not run. -/
lemma on_bind_error (h : x.on c = some (.error e, c')) :
    (x >>= k).on c = some (.error e, c') := by
  change ((x.run).run c).bind _ = _
  rw [show (x.run).run c = _ from h]
  rfl

/-- An answer that there has to be. -/
def require (x : Option α) : Scan α := liftM x

/-- No answer. -/
def stuck : Scan α := require none

/-- How many turns a loop may take: one for every byte of the text, and one. -/
def turns : Scan Nat := do return (← get).text.utf8ByteSize + 1

lemma on_require (a : α) (c : Cursor) : (require (some a)).on c = some (.ok a, c) := rfl

/-- A loop takes as many turns as the text has bytes, and one more. -/
lemma on_turns (c : Cursor) : turns.on c = some (.ok (c.text.utf8ByteSize + 1), c) := rfl

/-- So there is a turn for every character, and one for the end of the text. -/
lemma length_le_turns (h : rest <:+ c.text.toList) : rest.length ≤ c.text.utf8ByteSize := by
  have hwidth := (length_le_width rest).trans (width_le h)
  rwa [width_toList] at hwidth

/-- A loop that has turns for all of the text has a turn for its first character. -/
lemma exists_turn {n : Nat} (hn : (d :: cs).length ≤ n) (hz : z <:+ cs) :
    ∃ m, n = m + 1 ∧ z.length ≤ m := by
  obtain ⟨m, rfl⟩ := Nat.exists_eq_add_one.2 ((Nat.zero_lt_succ _).trans_le hn)
  exact ⟨m, rfl, hz.length_le.trans (Nat.le_of_succ_le_succ hn)⟩

/-- The offset that the cursor has come to. -/
def here : Scan Nat := do return (← get).pos

/-- The text from one byte offset up to another. -/
def cut (start stop : Nat) : Scan String := do require (slice? (← get).text start stop)

/-- The character that stands so many characters further on. -/
def peekAt (n : Nat) : Scan (Option Char) := do
  let c ← get
  return (← cut c.pos c.text.utf8ByteSize).toList[n]?

/-- The next character. -/
def peek : Scan (Option Char) := peekAt 0

/-- Moves to an offset. -/
def moveTo (pos : Nat) : Scan Unit := modify fun c => { c with pos := pos }

/-- Moves behind the next character. -/
def advance : Scan Unit := do
  match ← peek with
  | some d => modify fun c => { c with pos := c.pos + d.utf8Size }
  | none => pure ()

/-- Moves behind the next character if it is of some kind. -/
def passOne (p : Char → Bool) : Scan Unit := do
  if (← peek).any p then advance

/-- Moves behind all characters of some kind, in so many turns. -/
def passIn (p : Char → Bool) : Nat → Scan Unit
  | 0 => stuck
  | n + 1 => do
    if (← peek).any p then
      advance
      passIn p n

/-- Moves behind all characters of some kind. -/
def passWhile (p : Char → Bool) : Scan Unit := do passIn p (← turns)

/-- Moves behind a word and gives it. -/
def takeWord : Scan String := do
  let start ← here
  passWhile inWord
  cut start (← here)

/-- The cursor tells the offset in front of which it stands. -/
lemma on_here (rest : List Char) :
    here.on (c.before rest) = some (.ok (c.offset rest), c.before rest) := rfl

/-- The text between two offsets is cut out. -/
lemma on_cut (h : rest <:+ c.text.toList) (hz : z <:+ rest) :
    (cut (c.offset rest) (c.offset z)).on c = some (.ok (String.ofList (upTo rest z)), c) := by
  rw [cut, on_get_bind, c.slice?_offset h hz, on_require]

/-- The cursor sees the characters ahead of it. -/
lemma on_peekAt (h : rest <:+ c.text.toList) (n : Nat) :
    (peekAt n).on (c.before rest) = some (.ok rest[n]?, c.before rest) := by
  have hall : upTo rest [] = rest := List.take_of_length_le le_rfl
  have hcut := on_cut (c := c.before rest) h List.nil_suffix
  rw [Cursor.offset_nil, Cursor.offset_before] at hcut
  rw [peekAt, on_get_bind, Cursor.pos_before, on_bind hcut, hall, String.toList_ofList, on_pure]

/-- The cursor sees the character in front of which it stands. -/
lemma on_peek (h : rest <:+ c.text.toList) :
    peek.on (c.before rest) = some (.ok rest.head?, c.before rest) := by
  rw [peek, on_peekAt h, List.head?_eq_getElem?]

/-- To ask for the kind of the first character is to ask what a text leads with. -/
lemma any_head? (p : Char → Bool) (rest : List Char) : rest.head?.any p = leadsWith p rest := by
  cases rest with
  | nil => rfl
  | cons d cs => rfl

/-- The cursor moves in front of the end that begins at an offset. -/
lemma on_moveTo (rest z : List Char) :
    (moveTo (c.offset rest)).on (c.before z) = some (.ok (), c.before rest) := rfl

/-- The cursor passes one character. -/
lemma on_advance (h : d :: cs <:+ c.text.toList) :
    advance.on (c.before (d :: cs)) = some (.ok (), c.before cs) := by
  rw [advance, on_bind (on_peek h)]
  change (modify _ : Scan Unit).on _ = _
  rw [on_modify, Cursor.before, Cursor.before, c.offset_cons h]

lemma on_advance_nil : advance.on (c.before []) = some (.ok (), c.before []) := by
  rw [advance, on_bind (on_peek List.nil_suffix)]
  rfl

/-- A character of a kind is passed, if there is one. -/
lemma on_passOne (h : rest <:+ c.text.toList) :
    (passOne p).on (c.before rest) =
      some (.ok (), c.before (if leadsWith p rest then rest.tail else rest)) := by
  rw [passOne, on_bind (on_peek h), any_head?]
  split
  case isTrue hp =>
    obtain ⟨d, cs, rfl, -⟩ := exists_cons_of_leadsWith hp
    exact on_advance h
  case isFalse => rfl

/-- A loop with turns enough passes all characters of a kind. -/
lemma on_passIn (h : rest <:+ c.text.toList) {n : Nat} (hn : rest.length ≤ n) :
    (passIn p (n + 1)).on (c.before rest) = some (.ok (), c.before (rest.dropWhile p)) := by
  induction rest generalizing n with
  | nil =>
    rw [passIn, on_bind (on_peek h)]
    rfl
  | cons d cs ih =>
    obtain ⟨m, rfl, hm⟩ := exists_turn hn List.suffix_rfl
    rw [passIn, on_bind (on_peek h), any_head?]
    cases hp : p d with
    | true =>
      rw [if_pos (show leadsWith p (d :: cs) = true from hp), on_bind (on_advance h),
        ih ((List.suffix_cons d cs).trans h) hm,
        List.dropWhile_cons_of_pos hp]
    | false =>
      rw [if_neg (by simp [leadsWith, hp]), List.dropWhile_cons_of_neg (by simp [hp])]
      rfl

/-- The characters of a kind that the text begins with are passed. -/
lemma on_passWhile (h : rest <:+ c.text.toList) :
    (passWhile p).on (c.before rest) = some (.ok (), c.before (rest.dropWhile p)) := by
  rw [passWhile, on_bind (on_turns _)]
  exact on_passIn h (length_le_turns h)

/-- The text in front of what is left by dropping is what was dropped. -/
lemma upTo_dropWhile (p : Char → Bool) (text : List Char) :
    upTo text (text.dropWhile p) = text.takeWhile p := by
  have h := upTo_append_self (text.takeWhile p) (text.dropWhile p)
  rwa [List.takeWhile_append_dropWhile] at h

/-- The cursor takes the word in front of which it stands. -/
lemma on_takeWord (h : rest <:+ c.text.toList) :
    takeWord.on (c.before rest) =
      some (.ok (String.ofList (rest.takeWhile inWord)), c.before (rest.dropWhile inWord)) := by
  rw [takeWord, on_bind (on_here rest), on_bind (on_passWhile h), on_bind (on_here _)]
  have hcut := on_cut (c := c.before (rest.dropWhile inWord)) h (List.dropWhile_suffix inWord)
  rwa [upTo_dropWhile] at hcut

/-! ## Strings and error literals -/

/-- Moves behind the quotation mark that closes a string, in so many turns. -/
def closeString (start : Nat) : Nat → Scan Unit
  | 0 => stuck
  | n + 1 => do
    match ← peek with
    | none => throw ⟨start, .openString⟩
    | some '"' =>
      if (← peekAt 1) = some '"' then
        advance
        advance
        closeString start n
      else advance
    | some _ =>
      advance
      closeString start n

/-- Moves behind a string. -/
def passString : Scan Unit := do
  let start ← here
  advance
  closeString start (← turns)

/-- Moves behind an error literal. -/
def passErrorLiteral : Scan Unit := do
  advance
  passWhile inErrorLiteral
  passOne fun d => d == '!' || d == '?'

/-- A character that does not stand first in the rest is not the second. -/
lemma getElem?_one_ne (h : ∀ ds, cs = d :: ds → False) (e : Char) :
    (e :: cs)[1]? ≠ some d := by
  intro hnext
  obtain ⟨ds, hcs⟩ := List.head?_eq_some_iff.1 (List.head?_tail.trans hnext)
  exact h ds hcs

/-- A loop with turns enough ends behind the string, or at the fault that it is open. -/
lemma on_closeString (start : Nat) (h : rest <:+ c.text.toList) {n : Nat}
    (hn : rest.length ≤ n) :
    (closeString start (n + 1)).on (c.before rest) = match afterString rest with
      | some z => some (.ok (), c.before z)
      | none => some (.error ⟨start, .openString⟩, c.before []) := by
  fun_induction afterString rest generalizing n with
  | case1 =>
    rw [closeString, on_bind (on_peek h)]
    rfl
  -- Two quotes stand for one, and the string goes on.
  | case2 cs ih =>
    have hcs := (List.suffix_cons '"' _).trans h
    obtain ⟨m, rfl, hm⟩ := exists_turn hn (List.suffix_cons _ cs)
    rw [closeString, on_bind (on_peek h)]
    simp only [List.head?_cons]
    rw [on_bind (on_peekAt h 1)]
    simp only [List.getElem?_cons_succ, List.getElem?_cons_zero, if_true]
    rw [on_bind (on_advance h), on_bind (on_advance hcs),
      ih ((List.suffix_cons _ _).trans hcs) hm]
  -- A single quote ends the string.
  | case3 cs hne =>
    have hnext : ('"' :: cs)[1]? ≠ some '"' := getElem?_one_ne hne _
    rw [closeString, on_bind (on_peek h)]
    simp only [List.head?_cons]
    rw [on_bind (on_peekAt h 1), if_neg hnext, on_advance h]
  | case4 d cs _ hne ih =>
    obtain ⟨m, rfl, hm⟩ := exists_turn hn List.suffix_rfl
    rw [closeString, on_bind (on_peek h), List.head?_cons]
    split
    case h_1 e => exact absurd e (Option.some_ne_none d)
    case h_2 e => exact absurd (Option.some.inj e) hne
    case h_3 => rw [on_bind (on_advance h), ih ((List.suffix_cons _ _).trans h) hm]

/-- A string is passed, or found to be open from its first quote on. -/
lemma on_passString (h : '"' :: cs <:+ c.text.toList) :
    passString.on (c.before ('"' :: cs)) = match afterString cs with
      | some z => some (.ok (), c.before z)
      | none => some (.error ⟨c.offset ('"' :: cs), .openString⟩, c.before []) := by
  have hcs := (List.suffix_cons _ _).trans h
  rw [passString, on_bind (on_here _), on_bind (on_advance h), on_bind (on_turns _)]
  exact on_closeString _ hcs (length_le_turns hcs)

/-- An error literal is all its characters, and a mark at its end if there is one. -/
lemma afterErrorLiteral_eq (text : List Char) :
    afterErrorLiteral text =
      if leadsWith (fun d => d == '!' || d == '?') (text.dropWhile inErrorLiteral) then
        (text.dropWhile inErrorLiteral).tail
      else text.dropWhile inErrorLiteral := by
  unfold afterErrorLiteral
  split
  case h_1 e => rw [e]; rfl
  case h_2 e => rw [e]; rfl
  case h_3 hbang hmark =>
    rw [if_neg]
    intro hlead
    obtain ⟨d, ds, e, hd⟩ := exists_cons_of_leadsWith hlead
    rw [e] at hbang hmark
    rw [Bool.or_eq_true, beq_iff_eq, beq_iff_eq] at hd
    rcases hd with rfl | rfl
    · exact hbang ds rfl
    · exact hmark ds rfl

/-- An error literal is passed. -/
lemma on_passErrorLiteral (h : d :: cs <:+ c.text.toList) :
    passErrorLiteral.on (c.before (d :: cs)) = some (.ok (), c.before (afterErrorLiteral cs)) := by
  have hcs := (List.suffix_cons _ _).trans h
  rw [passErrorLiteral, on_bind (on_advance h), on_bind (on_passWhile hcs),
    on_passOne ((List.dropWhile_suffix _).trans hcs), afterErrorLiteral_eq]

/-! ## Numbers -/

/-- Moves behind the next so many characters. -/
def advances : Nat → Scan Unit
  | 0 => pure ()
  | n + 1 => do
    advance
    advances n

/-- Moves behind an exponent, if one stands there. -/
def passExponent : Scan Unit := do
  if (← peek).any fun d => d == 'e' || d == 'E' then
    let digitAt := if (← peekAt 1).any (fun d => d == '+' || d == '-') then 2 else 1
    if (← peekAt digitAt).any Char.isDigit then
      advances digitAt
      passWhile Char.isDigit

/-- Moves behind a number. -/
def passNumber : Scan Unit := do
  passWhile inNumber
  passExponent

/-- Advancing by the length of a text passes the text. -/
lemma on_advances (h : rest ++ z <:+ c.text.toList) :
    (advances rest.length).on (c.before (rest ++ z)) = some (.ok (), c.before z) := by
  induction rest with
  | nil => rfl
  | cons d cs ih =>
    have hadv : advance.on (c.before (d :: (cs ++ z))) = some (.ok (), c.before (cs ++ z)) :=
      on_advance h
    rw [List.length_cons, advances, List.cons_append, on_bind hadv,
      ih ((List.suffix_cons d _).trans h)]

/-- One sign is counted where there is one. -/
lemma signed_split (text : List Char) :
    ∃ sign, text = sign ++ afterSign text ∧
      (if leadsWith (fun d => d == '+' || d == '-') text then 2 else 1) = sign.length + 1 := by
  unfold afterSign
  split
  case h_1 => exact ⟨['+'], rfl, rfl⟩
  case h_2 => exact ⟨['-'], rfl, rfl⟩
  case h_3 hplus hminus =>
    refine ⟨[], rfl, if_neg ?_⟩
    intro hlead
    obtain ⟨d, ds, rfl, hd⟩ := exists_cons_of_leadsWith hlead
    rw [Bool.or_eq_true, beq_iff_eq, beq_iff_eq] at hd
    rcases hd with rfl | rfl
    · exact hplus ds rfl
    · exact hminus ds rfl

/-- An exponent is passed, if there is one. -/
lemma on_passExponent (h : rest <:+ c.text.toList) :
    passExponent.on (c.before rest) = some (.ok (), c.before (afterExponent rest)) := by
  rw [passExponent, on_bind (on_peek h), any_head?]
  cases rest with
  | nil => rfl
  | cons d cs =>
    rw [afterExponent]
    cases he : d == 'e' || d == 'E' with
    | false =>
      rw [if_neg (by simp [leadsWith, he])]
      rfl
    | true =>
      obtain ⟨sign, hcs, hwidth⟩ := signed_split cs
      have hdigit : (d :: cs)[sign.length + 1]? = (afterSign cs).head? := by
        rw [List.getElem?_cons_succ, List.head?_eq_getElem?]
        nth_rewrite 1 [hcs]
        rw [List.getElem?_append_right le_rfl, Nat.sub_self]
      have hnext : (d :: cs)[1]? = cs.head? := List.head?_tail.symm
      have hlead : leadsWith (fun d => d == 'e' || d == 'E') (d :: cs) = true := he
      rw [if_pos hlead, on_bind (on_peekAt h 1), hnext,
        any_head?, hwidth, on_bind (on_peekAt h _), hdigit, any_head?, Bool.true_and]
      split
      case isFalse => rfl
      case isTrue =>
        have hall : d :: cs = (d :: sign) ++ afterSign cs := congrArg (d :: ·) hcs
        have hsuffix : afterSign cs <:+ c.text.toList :=
          (afterSign_suffix cs).trans ((List.suffix_cons d cs).trans h)
        have hpass := on_advances (hall ▸ h)
        rw [← hall] at hpass
        exact (on_bind hpass).trans (on_passWhile hsuffix)

/-- A number is passed. -/
lemma on_passNumber (h : rest <:+ c.text.toList) :
    passNumber.on (c.before rest) = some (.ok (), c.before (afterNumber rest)) := by
  rw [passNumber, on_bind (on_passWhile h), on_passExponent ((List.dropWhile_suffix _).trans h)]
  rfl

/-! ## Brackets -/

/-- One less than a counter, which must not be at zero. -/
def less? : Nat → Option Nat
  | 0 => none
  | n + 1 => some n

/-- Moves behind the bracket that closes the outermost of the open ones, in so many turns. -/
def closeBrackets (start : Nat) : Nat → Nat → Scan Unit
  | 0, _ => stuck
  | n + 1, depth => do
    match ← peek with
    | none => throw ⟨start, .openBracket⟩
    | some '[' =>
      advance
      closeBrackets start n (depth + 1)
    | some ']' =>
      let depth ← require (less? depth)
      advance
      if depth = 0 then
        modify fun c => { c with bracketEnd := some c.pos }
      else closeBrackets start n depth
    | some '\'' =>
      advance
      advance
      closeBrackets start n depth
    | some _ =>
      advance
      closeBrackets start n depth

/-- Moves behind a bracketed text. -/
def passBrackets : Scan Unit := do closeBrackets (← here) (← turns) 0

/-- A loop with turns enough ends behind the brackets, or at the fault that they are open. -/
lemma on_closeBrackets (start depth : Nat) (h : rest <:+ c.text.toList) {n : Nat}
    (hn : rest.length ≤ n) :
    (closeBrackets start (n + 1) (depth + 1)).on (c.before rest) =
      match afterBrackets depth rest with
      | some z => some (.ok (), { c.before z with bracketEnd := some (c.offset z) })
      | none => some (.error ⟨start, .openBracket⟩, c.before []) := by
  fun_induction afterBrackets depth rest generalizing n with
  | case1 =>
    rw [closeBrackets, on_bind (on_peek h)]
    rfl
  | case2 depth cs ih =>
    obtain ⟨m, rfl, hm⟩ := exists_turn hn List.suffix_rfl
    rw [closeBrackets, on_bind (on_peek h)]
    simp only [List.head?_cons]
    rw [on_bind (on_advance h), ih ((List.suffix_cons _ _).trans h) hm]
  | case3 cs =>
    rw [closeBrackets, on_bind (on_peek h)]
    simp only [List.head?_cons, less?]
    rw [on_bind (on_require _ _), on_bind (on_advance h), if_pos rfl, on_modify]
    rfl
  | case4 cs depth ih =>
    obtain ⟨m, rfl, hm⟩ := exists_turn hn List.suffix_rfl
    rw [closeBrackets, on_bind (on_peek h)]
    simp only [List.head?_cons, less?]
    rw [on_bind (on_require _ _), on_bind (on_advance h), if_neg (Nat.succ_ne_zero depth),
      ih ((List.suffix_cons _ _).trans h) hm]
  | case5 depth d cs ih =>
    have hcs := (List.suffix_cons _ _).trans h
    obtain ⟨m, rfl, hm⟩ := exists_turn hn (List.suffix_cons _ cs)
    rw [closeBrackets, on_bind (on_peek h)]
    simp only [List.head?_cons]
    rw [on_bind (on_advance h), on_bind (on_advance hcs),
      ih ((List.suffix_cons _ _).trans hcs) hm]
  | case6 depth d cs hopen hclose hescape ih =>
    have hcs := (List.suffix_cons _ _).trans h
    obtain ⟨m, rfl, hm⟩ := exists_turn hn List.suffix_rfl
    rw [closeBrackets, on_bind (on_peek h), List.head?_cons]
    split
    case h_1 e => exact absurd e (Option.some_ne_none d)
    case h_2 e => exact absurd (Option.some.inj e) hopen
    case h_3 e => exact absurd (Option.some.inj e) hclose
    case h_4 e =>
      -- An apostrophe that is not followed by a character is the last one.
      cases cs with
      | nil => rw [on_bind (on_advance h), on_bind on_advance_nil, ih hcs hm]
      | cons d' ds => exact absurd rfl (hescape d' ds (Option.some.inj e))
    case h_5 => rw [on_bind (on_advance h), ih hcs hm]

/-- Brackets are passed, or found to be open from the first of them on. -/
lemma on_passBrackets (h : '[' :: cs <:+ c.text.toList) :
    passBrackets.on (c.before ('[' :: cs)) = match afterBrackets 0 cs with
      | some z => some (.ok (), { c.before z with bracketEnd := some (c.offset z) })
      | none => some (.error ⟨c.offset ('[' :: cs), .openBracket⟩, c.before []) := by
  obtain ⟨m, hturns, hm⟩ := exists_turn (length_le_turns h) List.suffix_rfl
  rw [passBrackets, on_bind (on_here _), on_bind (on_turns _), Cursor.text_before, hturns,
    closeBrackets, on_bind (on_peek h)]
  simp only [List.head?_cons]
  rw [on_bind (on_advance h), on_closeBrackets _ _ ((List.suffix_cons _ _).trans h) hm]

/-! ## Quoted names -/

/-- What has been read of a quoted name: the characters as they stand, until a doubled apostrophe
makes it necessary to collect them. -/
def unescaped (start : Nat) : Option String → Scan String
  | some name => pure name
  | none => do cut start (← here)

/-- Moves behind the apostrophe that closes a quoted name, in so many turns, and gives the name. -/
def closeName (start : Nat) : Nat → Option String → Scan (Option String)
  | 0, _ => stuck
  | n + 1, name => do
    match ← peek with
    | none => return none
    | some '\'' =>
      if (← peekAt 1) = some '\'' then
        let name ← unescaped start name
        advance
        advance
        closeName start n (some (name.push '\''))
      else
        let name ← unescaped start name
        advance
        return some name
    | some d =>
      advance
      closeName start n (name.map (·.push d))

/-- Moves behind a quoted name and gives it. -/
def takeName : Scan (Option String) := do
  advance
  closeName (← here) (← turns) none

lemma upTo_cons (h : d :: cs <:+ text) : upTo text cs = upTo text (d :: cs) ++ [d] := by
  obtain ⟨lead, rfl⟩ := h
  rw [upTo_append_self]
  have h := upTo_append_self (lead ++ [d]) cs
  rwa [List.append_assoc] at h

/-- A name with no escape so far is what the text has. -/
lemma on_unescaped (h : text <:+ c.text.toList) (hr : rest <:+ text) (name : Option String) :
    (unescaped (c.offset text) name).on (c.before rest) =
      some (.ok (name.getD (String.ofList (upTo text rest))), c.before rest) := by
  cases name with
  | some name => rfl
  | none =>
    rw [unescaped, on_bind (on_here rest)]
    exact on_cut (c := c.before rest) h hr

/-- A character that is passed is added to the name, whether it had an escape or not. -/
lemma getD_map_push (h : d :: cs <:+ text) (name : Option String) :
    (name.map (·.push d)).getD (String.ofList (upTo text cs)) =
      (name.getD (String.ofList (upTo text (d :: cs)))).push d := by
  cases name with
  | some name => rfl
  | none =>
    rw [upTo_cons h, String.ofList_append]
    rfl

/-- A character goes from the front of the rest to the back of the name. -/
lemma push_append_ofList (name : String) (d : Char) (cs : List Char) :
    name.push d ++ String.ofList cs = name ++ String.ofList (d :: cs) := by
  rw [← String.toList_inj]
  simp

/-- A loop with turns enough ends behind the quoted name, or at the end of the text. -/
lemma on_closeName (h : text <:+ c.text.toList) (hr : rest <:+ text) (name : Option String)
    {n : Nat} (hn : rest.length ≤ n) :
    (closeName (c.offset text) (n + 1) name).on (c.before rest) = match quotedName rest with
      | some (more, z) =>
        some (.ok (some (name.getD (String.ofList (upTo text rest)) ++ String.ofList more)),
          c.before z)
      | none => some (.ok none, c.before []) := by
  fun_induction quotedName rest generalizing name n with
  | case1 =>
    rw [closeName, on_bind (on_peek (hr.trans h))]
    rfl
  -- Two apostrophes stand for one, and what was passed so far has to be copied.
  | case2 cs ih =>
    have hcs := (List.suffix_cons _ _).trans hr
    obtain ⟨m, rfl, hm⟩ := exists_turn hn (List.suffix_cons _ cs)
    rw [closeName, on_bind (on_peek (hr.trans h))]
    simp only [List.head?_cons]
    rw [on_bind (on_peekAt (hr.trans h) 1)]
    simp only [List.getElem?_cons_succ, List.getElem?_cons_zero, if_true]
    rw [on_bind (on_unescaped h hr name), on_bind (on_advance (hr.trans h)),
      on_bind (on_advance (hcs.trans h)), ih ((List.suffix_cons _ _).trans hcs) _ hm]
    cases quotedName cs with
    | none => rfl
    | some found => simp only [Option.getD_some, push_append_ofList, Option.map_some]
  -- A single apostrophe ends the name.
  | case3 cs hne =>
    have hnext : ('\'' :: cs)[1]? ≠ some '\'' := getElem?_one_ne hne _
    rw [closeName, on_bind (on_peek (hr.trans h))]
    simp only [List.head?_cons]
    rw [on_bind (on_peekAt (hr.trans h) 1), if_neg hnext, on_bind (on_unescaped h hr name),
      on_bind (on_advance (hr.trans h)), on_pure, String.ofList_nil, String.append_empty]
  | case4 d cs _ hne ih =>
    obtain ⟨m, rfl, hm⟩ := exists_turn hn List.suffix_rfl
    rw [closeName, on_bind (on_peek (hr.trans h)), List.head?_cons]
    split
    case h_1 e => exact absurd e (Option.some_ne_none d)
    case h_2 e => exact absurd (Option.some.inj e) hne
    case h_3 e =>
      obtain rfl := Option.some.inj e
      rw [on_bind (on_advance (hr.trans h)), ih ((List.suffix_cons _ _).trans hr) _ hm,
        getD_map_push hr]
      cases quotedName cs with
      | none => rfl
      | some found => simp only [push_append_ofList, Option.map_some]

/-- A quoted name is taken without its escapes, or the cursor ends at the end of the text. -/
lemma on_takeName (h : d :: cs <:+ c.text.toList) :
    takeName.on (c.before (d :: cs)) = match quotedName cs with
      | some (name, z) => some (.ok (some (String.ofList name)), c.before z)
      | none => some (.ok none, c.before []) := by
  have hcs := (List.suffix_cons _ _).trans h
  have hnone : upTo cs cs = [] := by simp [upTo]
  rw [takeName, on_bind (on_advance h), on_bind (on_here cs), on_bind (on_turns _),
    Cursor.text_before, on_closeName hcs List.suffix_rfl none (length_le_turns hcs)]
  simp [hnone]

end Scan

end Precedents.Formula
