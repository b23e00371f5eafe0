import Precedents.Proofs.Formula.Cursor

/-!
# Reading a piece in place

What begins at the cursor is read as `step` reads it off the front of a list. A mention, a corner
and an area are placed where the cursor met them, and a cursor that met none goes back to where it
came from. `on_pass` puts the pieces together: it leaves the cursor where the rest of the text
begins (`Cursor.Follows`).
-/

namespace Precedents.Formula

variable {p : Char → Bool} {d : Char} {text rest z cs w : List Char}

/-! ## Places -/

/-- An address and where it stands. -/
structure PlacedAddress where
  address : Address
  span : Span
  deriving DecidableEq

/-- A reference as it is given away: its qualifier, and its addresses with their places. -/
structure PlacedReference where
  qualifier : Option Qualifier
  first : PlacedAddress
  second : Option PlacedAddress
  deriving DecidableEq

/-- The address of a mention that begins at an offset. -/
def Mention.placed (m : Mention) (offset : Nat) : PlacedAddress :=
  ⟨m.address, ⟨offset, offset + width m.text⟩⟩

/-- The addresses of an area that begins at an offset. -/
def Area.placed (a : Area) (offset : Nat) : PlacedAddress × Option PlacedAddress :=
  (a.first.placed offset,
    a.second.map fun k => k.mention.placed (offset + width a.first.text + width k.joint))

/-- What is given away of a reference and its place. -/
def Located.placed (l : Located) : PlacedReference where
  qualifier := l.reference.qualifier
  first := ⟨l.reference.area.first.address, l.first⟩
  second := do return ⟨(← l.reference.area.second).mention.address, ← l.second⟩

/-- A reference that is given away has its qualifier and the place of its area. -/
lemma Reference.placed_locate (r : Reference) (offset : Nat) :
    (r.locate offset).placed =
      ⟨r.qualifier, (r.area.placed (offset + width r.lead)).1,
        (r.area.placed (offset + width r.lead)).2⟩ := by
  obtain ⟨q, lead, m, second⟩ := r
  cases second with
  | none => rfl
  | some k => rfl

namespace Scan

variable {c : Cursor}

/-! ## Mentions -/

/-- Moves behind a dollar sign, if there is one, and behind all characters of some kind. Says
whether there were any. -/
def passMarked (p : Char → Bool) : Scan Bool := do
  passOne (· == '$')
  let start ← here
  passWhile p
  return decide (start < (← here))

/-- The address that the text from an offset up to the cursor is. -/
def parseFrom (start : Nat) : Scan (Option Address) := do
  return (Address.parse (← cut start (← here))).toOption

/-- Moves behind the address that begins at the cursor. Where none does, the cursor stays. -/
def scanMention : Scan (Option PlacedAddress) := do
  let start ← here
  let letters ← passMarked Char.isAlpha
  let digits ← if letters then passMarked Char.isDigit else pure false
  let next ← peek
  let address ← if digits && !next.any continuesName then parseFrom start else pure none
  match address with
  | some address => return some ⟨address, ⟨start, ← here⟩⟩
  | none =>
    moveTo start
    return none

/-- To pass a dollar sign is to take the mark. -/
lemma takeMark_eq (text : List Char) :
    (if leadsWith (· == '$') text then text.tail else text) = (Address.takeMark text).2 := by
  cases text with
  | nil => rfl
  | cons d cs =>
    by_cases hd : d = '$'
    · subst hd
      rfl
    · rw [if_neg (by simpa [leadsWith] using hd), Address.takeMark]
      intro ds e
      exact hd (List.cons.inj e).1

/-- The cursor moves over a run exactly if the text begins with its kind. -/
lemma offset_lt_dropWhile (h : rest <:+ c.text.toList) :
    decide (c.offset rest < c.offset (rest.dropWhile p)) = leadsWith p rest := by
  cases hl : leadsWith p rest with
  | true => exact decide_eq_true (c.offset_lt h (List.dropWhile_suffix p) (dropWhile_lt hl))
  | false =>
    rw [dropWhile_of_leadsWith hl]
    exact decide_eq_false (lt_irrefl _)

/-- A mark and what stands behind it are passed, and it is told whether something did. -/
lemma on_passMarked (h : rest <:+ c.text.toList) :
    (passMarked p).on (c.before rest) =
      some (.ok (leadsWith p (Address.takeMark rest).2),
        c.before ((Address.takeMark rest).2.dropWhile p)) := by
  have hmark := (takeMark_suffix rest).trans h
  rw [passMarked, on_bind (on_passOne h), takeMark_eq, on_bind (on_here _),
    on_bind (on_passWhile hmark), on_bind (on_here _), on_pure, offset_lt_dropWhile hmark]

/-- What the cursor has passed is parsed as an address. -/
lemma on_parseFrom (h : text <:+ c.text.toList) (hr : rest <:+ text) :
    (parseFrom (c.offset text)).on (c.before rest) =
      some (.ok (Address.parse (String.ofList (upTo text rest))).toOption, c.before rest) := by
  rw [parseFrom, on_bind (on_here rest)]
  exact on_bind (on_cut (c := c.before rest) h hr)

/-- The cursor goes back and has found nothing. -/
lemma on_goBack {α : Type} (rest z : List Char) :
    (do moveTo (c.offset rest); return none : Scan (Option α)).on (c.before z) =
      some (.ok none, c.before rest) := rfl

/-- The cursor finds the address that the text begins with, or stays. -/
lemma on_scanMention (h : rest <:+ c.text.toList) :
    scanMention.on (c.before rest) = match mention? rest with
      | some (m, z) => some (.ok (some (m.placed (c.offset rest))), c.before z)
      | none => some (.ok none, c.before rest) := by
  have hletters := takeMark_suffix rest
  rw [scanMention, on_bind (on_here rest), on_bind (on_passMarked h)]
  simp only [mention?]
  generalize (Address.takeMark rest).2 = letters at hletters ⊢
  cases leadsWith Char.isAlpha letters with
  | false =>
    rw [if_neg Bool.false_ne_true, on_bind (on_pure _ _),
      on_bind (on_peek ((List.dropWhile_suffix _).trans (hletters.trans h)))]
    exact on_goBack rest _
  | true =>
    have hafter := (List.dropWhile_suffix Char.isAlpha).trans hletters
    have hdigits := (takeMark_suffix _).trans hafter
    rw [if_pos rfl, on_bind (on_passMarked (hafter.trans h))]
    generalize (Address.takeMark (letters.dropWhile _)).2 = digits at hdigits ⊢
    have hend := (List.dropWhile_suffix Char.isDigit).trans hdigits
    rw [on_bind (on_peek (hend.trans h)), any_head?]
    -- The two ways in which the condition is written.
    have hnone : (!true || !leadsWith Char.isDigit digits ||
        leadsWith continuesName (digits.dropWhile Char.isDigit)) =
        !(leadsWith Char.isDigit digits && !leadsWith continuesName (digits.dropWhile Char.isDigit))
      := by simp
    rw [hnone]
    cases leadsWith Char.isDigit digits && !leadsWith continuesName (digits.dropWhile _) with
    | false => exact on_goBack rest _
    | true =>
      rw [if_pos rfl, on_bind (on_parseFrom h hend)]
      cases Address.parse (String.ofList (upTo rest (digits.dropWhile Char.isDigit))) with
      | error e => exact on_goBack rest _
      | ok address =>
        have hstop := c.offset_upTo h hend
        change some (Except.ok (some (PlacedAddress.mk address ⟨_, c.offset _⟩)), _) = _
        rw [hstop]
        rfl

/-! ## Corners -/

/-- The name that a text begins with, as a word or between apostrophes, and the text after it. -/
def named? : List Char → Option (List Char × List Char)
  | [] => none
  | '\'' :: cs => quotedName cs
  | d :: cs => if startsWord d then some (d :: cs.takeWhile inWord, cs.dropWhile inWord) else none

/-- Moves behind a sheet name, as a word or between apostrophes, and gives it. -/
def takeSheetName : Scan (Option String) := do
  match ← peek with
  | some '\'' => takeName
  | some d => if startsWord d then return some (← takeWord) else return none
  | none => return none

/-- Moves behind a qualifier that names a sheet again, in any case. Says whether one was there;
where none was, the cursor may have moved. -/
def passSameQualifier (sheet : String) : Scan Bool := do
  match ← takeSheetName with
  | none => return false
  | some name =>
    if (← peek) = some '!' ∧ Text.lowercase name = Text.lowercase sheet then
      advance
      return true
    else return false

/-- Moves behind the colon and the second corner of an area. Where none stands, the cursor stays. -/
def scanCorner (q : Option Qualifier) : Scan (Option PlacedAddress) := do
  let colon ← here
  advance
  match ← scanMention with
  | some second => return some second
  | none =>
    let again ← match q.bind Qualifier.single? with
      | some sheet => passSameQualifier sheet
      | none => pure false
    let second ← if again then scanMention else pure none
    match second with
    | some second => return some second
    | none =>
      moveTo colon
      return none

/-- A qualifier is repeated if a name with an exclamation mark is the same up to case. -/
lemma afterSameQualifier_eq (sheet : String) (text : List Char) :
    afterSameQualifier sheet text = match named? text with
      | some (again, rest) =>
        if rest.head? = some '!' ∧ Text.lowercase (String.ofList again) = Text.lowercase sheet then
          some rest.tail
        else none
      | none => none := by
  unfold afterSameQualifier
  extract_lets named
  rw [show named = named? text from rfl]
  split
  case h_1 again rest e => simp [e]
  case h_2 hbang =>
    split
    case h_1 again rest e =>
      rw [if_neg]
      rintro ⟨hhead, -⟩
      obtain ⟨ds, rfl⟩ := List.head?_eq_some_iff.1 hhead
      exact hbang again ds e
    case h_2 => rfl

/-- What is left behind a name is the end of the text. -/
lemma named?_suffix {name : List Char} (h : named? text = some (name, rest)) : rest <:+ text := by
  unfold named? at h
  split at h
  case h_1 => simp at h
  case h_2 => exact (quotedName_suffix h).trans (List.suffix_cons _ _)
  case h_3 =>
    split at h
    case isTrue =>
      obtain ⟨-, rfl⟩ := Prod.mk.inj (Option.some.inj h)
      exact (List.dropWhile_suffix _).trans (List.suffix_cons _ _)
    case isFalse => simp at h

lemma named?_cons (hd : d ≠ '\'') (cs : List Char) :
    named? (d :: cs) =
      if startsWord d then some (d :: cs.takeWhile inWord, cs.dropWhile inWord) else none := by
  rw [named?]
  rintro rfl
  exact hd rfl

/-- A word that begins as one is taken with its first character. -/
lemma on_takeWord_cons (hd : startsWord d = true) (h : d :: cs <:+ c.text.toList) :
    takeWord.on (c.before (d :: cs)) =
      some (.ok (String.ofList (d :: cs.takeWhile inWord)), c.before (cs.dropWhile inWord)) := by
  have hword := on_takeWord h
  rwa [List.takeWhile_cons_of_pos (inWord_of_startsWord hd),
    List.dropWhile_cons_of_pos (inWord_of_startsWord hd)] at hword

/-- The cursor takes the name of a sheet, if there is one. -/
lemma on_takeSheetName (h : rest <:+ c.text.toList) :
    match named? rest with
    | some (name, z) =>
      takeSheetName.on (c.before rest) = some (.ok (some (String.ofList name)), c.before z)
    | none => ∃ z, z <:+ c.text.toList ∧
        takeSheetName.on (c.before rest) = some (.ok none, c.before z) := by
  cases rest with
  | nil =>
    refine ⟨[], List.nil_suffix, ?_⟩
    rw [takeSheetName, on_bind (on_peek h)]
    rfl
  | cons d cs =>
    -- A quote begins a quoted name; otherwise the name is a word, if one begins here.
    by_cases hd : d = '\''
    · subst hd
      have hname := on_takeName h
      rw [takeSheetName, on_bind (on_peek h)]
      change match quotedName cs with | some (name, z) => _ | none => _
      cases hq : quotedName cs with
      | none =>
        rw [hq] at hname
        exact ⟨[], List.nil_suffix, hname⟩
      | some found =>
        rw [hq] at hname
        exact hname
    · have hpeek : takeSheetName.on (c.before (d :: cs)) =
          (if startsWord d then return some (← takeWord) else return none).on
            (c.before (d :: cs)) := by
        rw [takeSheetName, on_bind (on_peek h), List.head?_cons]
        split
        case h_1 e => exact absurd (Option.some.inj e) hd
        case h_2 e => rw [Option.some.inj e]
        case h_3 e => exact absurd e (Option.some_ne_none d)
      rw [named?_cons hd, hpeek]
      cases hw : startsWord d with
      | false => exact ⟨d :: cs, h, rfl⟩
      | true => exact on_bind (on_takeWord_cons hw h)

/-- The cursor passes a repeated qualifier, if there is one. -/
lemma on_passSameQualifier (sheet : String) (h : rest <:+ c.text.toList) :
    match afterSameQualifier sheet rest with
    | some again => (passSameQualifier sheet).on (c.before rest) = some (.ok true, c.before again)
    | none => ∃ z, z <:+ c.text.toList ∧
        (passSameQualifier sheet).on (c.before rest) = some (.ok false, c.before z) := by
  have hname := on_takeSheetName h
  rw [afterSameQualifier_eq]
  cases hn : named? rest with
  | none =>
    rw [hn] at hname
    obtain ⟨z, hz, hname⟩ := hname
    exact ⟨z, hz, on_bind hname⟩
  | some found =>
    obtain ⟨name, z⟩ := found
    have hz := (named?_suffix hn).trans h
    rw [hn] at hname
    have hpeek : (passSameQualifier sheet).on (c.before rest) =
        (if z.head? = some '!' ∧ Text.lowercase (String.ofList name) = Text.lowercase sheet then
          do advance; return true
        else return false : Scan Bool).on (c.before z) := by
      rw [passSameQualifier, on_bind hname]
      exact on_bind (on_peek hz)
    rw [hpeek]
    by_cases hsame : z.head? = some '!' ∧
        Text.lowercase (String.ofList name) = Text.lowercase sheet
    · obtain ⟨ds, rfl⟩ := List.head?_eq_some_iff.1 hsame.1
      simp only [if_pos hsame]
      exact on_bind (on_advance hz)
    · simp only [if_neg hsame]
      exact ⟨z, hz, rfl⟩

/-- The cursor finds the second corner of a range, or stays. -/
lemma on_scanCorner (q : Option Qualifier) (h : ':' :: cs <:+ c.text.toList) :
    (scanCorner q).on (c.before (':' :: cs)) =
      match corner? (q.bind Qualifier.single?) (':' :: cs) with
      | some (k, z) =>
        some (.ok (some (k.mention.placed (c.offset (':' :: cs) + width k.joint))), c.before z)
      | none => some (.ok none, c.before (':' :: cs)) := by
  have hcs := (List.suffix_cons _ _).trans h
  have hmention := on_scanMention hcs
  rw [scanCorner, on_bind (on_here _), on_bind (on_advance h), corner?]
  -- First the corner is tried without a qualifier, then behind one that is repeated.
  cases hm : mention? cs with
  | some found =>
    rw [hm] at hmention
    rw [on_bind hmention, c.offset_cons h]
    rfl
  | none =>
    rw [hm] at hmention
    rw [on_bind hmention]
    cases hq : q.bind Qualifier.single? with
    | none => exact on_goBack (':' :: cs) cs
    | some sheet =>
      have hagain := on_passSameQualifier sheet hcs
      cases ha : afterSameQualifier sheet cs with
      | none =>
        rw [ha] at hagain
        obtain ⟨z, -, hagain⟩ := hagain
        simp only [Option.bind_eq_bind, Option.bind_some, ha]
        rw [on_bind hagain]
        -- Whatever was passed on the way, the cursor goes back in front of the colon.
        exact on_goBack (':' :: cs) z
      | some again =>
        have hsuffix := afterSameQualifier_suffix ha
        have hmention := on_scanMention (hsuffix.trans hcs)
        rw [ha] at hagain
        simp only [Option.bind_eq_bind, Option.bind_some, ha]
        rw [on_bind hagain, if_pos rfl]
        cases hm : mention? again with
        | none =>
          rw [hm] at hmention
          rw [on_bind hmention]
          exact on_goBack (':' :: cs) again
        | some found =>
          have hstart := c.offset_upTo h (hsuffix.trans (List.suffix_cons _ _))
          rw [hm, hstart] at hmention
          exact on_bind hmention

/-! ## Areas -/

/-- Moves behind the area that begins at the cursor. Where none does, the cursor stays. -/
def scanArea (q : Option Qualifier) : Scan (Option (PlacedAddress × Option PlacedAddress)) := do
  match ← scanMention with
  | none => return none
  | some first =>
    if (← peek) = some ':' then return some (first, ← scanCorner q)
    else return some (first, none)

/-- Without a colon at its head a text has no second corner. -/
lemma corner?_of_head? {name : Option String} (h : text.head? ≠ some ':') :
    corner? name text = none := by
  unfold corner?
  split
  case h_1 => exact absurd rfl h
  case h_2 => rfl

/-- The cursor finds the area that the text begins with, or stays. -/
lemma on_scanArea (q : Option Qualifier) (h : rest <:+ c.text.toList) :
    (scanArea q).on (c.before rest) = match area? (q.bind Qualifier.single?) rest with
      | some (a, z) => some (.ok (some (a.placed (c.offset rest))), c.before z)
      | none => some (.ok none, c.before rest) := by
  have hmention := on_scanMention h
  rw [scanArea, area?]
  cases hm : mention? rest with
  | none =>
    rw [hm] at hmention
    exact on_bind hmention
  | some found =>
    obtain ⟨m, z⟩ := found
    obtain ⟨happ, -⟩ := mention?_append hm
    have hz : z <:+ rest := ⟨m.text, happ⟩
    rw [hm] at hmention
    rw [on_bind hmention]
    refine (on_bind (on_peek (hz.trans h))).trans ?_
    -- A second corner is only tried at a colon.
    by_cases hcolon : z.head? = some ':'
    · obtain ⟨ds, rfl⟩ := List.head?_eq_some_iff.1 hcolon
      have hcorner := on_scanCorner q (hz.trans h)
      have hstart : c.offset (':' :: ds) = c.offset rest + width m.text := by
        rw [← happ, c.offset_append (happ ▸ h)]
      rw [if_pos hcolon]
      cases hk : corner? (q.bind Qualifier.single?) (':' :: ds) with
      | none =>
        rw [hk] at hcorner
        rw [on_bind hcorner]
        simp only [hk]
        rfl
      | some corner =>
        rw [hk, hstart] at hcorner
        rw [on_bind hcorner]
        simp only [hk]
        rfl
    · rw [if_neg hcolon]
      simp only [corner?_of_head? hcolon]
      rfl

end Scan

/-! ## Where a cursor stands -/

namespace Cursor

variable {c : Cursor} {ctx : Context}

/-- The cursor stands in front of the end `text` of its text, and what it carries is what the
context carries. A bracketed text ended just there or further back. -/
structure Stands (c : Cursor) (ctx : Context) (text : List Char) : Prop where
  suffix : text <:+ c.text.toList
  pos : c.pos = c.offset text
  parens : c.parens = ctx.parens
  braces : c.braces = ctx.braces
  bracketEnd : (c.bracketEnd == some c.pos) = ctx.afterBracket
  bracketEnd_le : ∀ stop, c.bracketEnd = some stop → stop ≤ c.pos
  finished : c.finished = false

/-- The cursor in front of the end `rest` of its text, with what the context carries. -/
def into (c : Cursor) (ctx : Context) (rest : List Char) : Cursor :=
  { c.before rest with
    parens := ctx.parens
    braces := ctx.braces
    bracketEnd := if ctx.afterBracket then some (c.offset rest) else c.bracketEnd }

@[simp] lemma text_into (rest : List Char) : (c.into ctx rest).text = c.text := rfl

@[simp] lemma offset_into (rest : List Char) : (c.into ctx rest).offset z = c.offset z := rfl

/-- What comes of reading a piece in place, where `step` is taken over the text `text` in front of
which the cursor stands. A fault is told with the offset at which the piece begins. -/
def Follows (c : Cursor) (ctx : Context) (text : List Char)
    (outcome : Option (Except ParseError (Option PlacedReference) × Cursor)) : Step → Prop
  | .stop none => False
  | .stop (some cause) => ∃ z, z <:+ c.text.toList ∧
      outcome = some (.error ⟨c.offset text, cause⟩, c.before z)
  | .skip rest next => outcome = some (.ok none, c.into next rest)
  | .found r rest =>
    outcome = some (.ok (some (r.locate (c.offset text)).placed), c.into ctx.plain rest)

lemma Stands.before_eq (h : c.Stands ctx text) : c.before text = c := by
  rw [before, ← h.pos]

lemma Stands.into_plain (h : c.Stands ctx text) (rest : List Char) :
    c.into ctx.plain rest = c.before rest := by
  rw [into, Context.plain, ← h.parens, ← h.braces, if_neg Bool.false_ne_true]
  rfl

lemma Stands.into_parens (h : c.Stands ctx text) (rest : List Char) (n : Nat) :
    c.into { ctx.plain with parens := n } rest = { c with parens := n }.before rest := by
  rw [Cursor.into, Context.plain, ← h.braces]
  rfl

lemma Stands.into_braces (h : c.Stands ctx text) (rest : List Char) (n : Nat) :
    c.into { ctx.plain with braces := n } rest = { c with braces := n }.before rest := by
  rw [Cursor.into, Context.plain, ← h.parens]
  rfl

lemma Stands.into_bracket (h : c.Stands ctx text) (rest : List Char) :
    c.into { ctx with afterBracket := true } rest =
      { c.before rest with bracketEnd := some (c.offset rest) } := by
  rw [Cursor.into, ← h.parens, ← h.braces]
  rfl

/-- A fault that is told with the offset of its piece follows the step. -/
lemma follows_stop {cause : Cause} (h : z <:+ c.text.toList) :
    c.Follows ctx text (some (.error ⟨c.offset text, cause⟩, c.before z)) (.stop (some cause)) :=
  ⟨z, h, rfl⟩

/-- To move on and find nothing follows a step that passes something over. -/
lemma Stands.follows_skip (h : c.Stands ctx text) (rest : List Char) :
    c.Follows ctx text (some (.ok none, c.before rest)) (.skip rest ctx.plain) := by
  rw [Follows, h.into_plain]

/-- To move on and find an area follows a step that finds it. -/
lemma Stands.follows_found (h : c.Stands ctx text) (hr : rest <:+ text) (q : Option Qualifier)
    (a : Area) (z : List Char) :
    c.Follows ctx text
      (some (.ok (some ⟨q, (a.placed (c.offset rest)).1, (a.placed (c.offset rest)).2⟩),
        c.before z))
      (.found ⟨q, upTo text rest, a⟩ z) := by
  rw [Follows, h.into_plain, Reference.placed_locate, ← c.offset_upTo h.suffix hr]

/-- Where a step is followed, the cursor stands in front of what the step leaves. -/
lemma Stands.into (h : c.Stands ctx text) (hr : rest <:+ text) (hlt : rest.length < text.length)
    (next : Context) : (c.into next rest).Stands next rest where
  suffix := hr.trans h.suffix
  pos := rfl
  parens := rfl
  braces := rfl
  bracketEnd := by
    have hpos : c.pos < c.offset rest := h.pos ▸ c.offset_lt h.suffix hr hlt
    change ((if next.afterBracket then some (c.offset rest) else c.bracketEnd) ==
      some (c.offset rest)) = _
    cases next.afterBracket with
    | true => simp
    | false =>
      simp only [Bool.false_eq_true, if_false, beq_eq_false_iff_ne]
      intro e
      exact absurd (h.bracketEnd_le _ e) (Nat.not_le_of_lt hpos)
  bracketEnd_le := by
    have hpos : c.pos < c.offset rest := h.pos ▸ c.offset_lt h.suffix hr hlt
    intro stop e
    change (if next.afterBracket then some (c.offset rest) else c.bracketEnd) = some stop at e
    cases hb : next.afterBracket with
    | true =>
      rw [hb] at e
      exact (Option.some.inj e).ge
    | false =>
      rw [hb] at e
      exact (h.bracketEnd_le _ e).trans hpos.le
  finished := h.finished

end Cursor

namespace Scan

variable {c : Cursor} {ctx : Context} {q : Qualifier}

/-! ## Words and quoted names -/

/-- Moves behind whole columns or rows, or behind a name that belongs to a sheet. -/
def passNames : Scan Unit := do
  let _ ← takeWord
  if (← peek) = some ':' then
    if (← peekAt 1).any inWord then
      advance
      let _ ← takeWord

/-- Reads what follows a qualifier that begins at an offset. -/
def scanQualified (q : Qualifier) (start : Nat) : Scan (Option PlacedReference) := do
  match ← scanArea (some q) with
  | some (first, second) => return some ⟨some q, first, second⟩
  | none =>
    match ← peek with
    | some '#' =>
      passErrorLiteral
      return none
    | some d =>
      if inWord d then
        passNames
        return none
      else throw ⟨start, .emptyQualifier⟩
    | none => throw ⟨start, .emptyQualifier⟩

/-- Goes back to where a word begins and reads an area, or moves behind the word. -/
def scanUnqualified (start : Nat) (word : String) : Scan (Option PlacedReference) := do
  moveTo start
  match ← scanArea none with
  | some (first, second) => return some ⟨none, first, second⟩
  | none =>
    moveTo (start + word.utf8ByteSize)
    return none

/-- Reads on at the colon behind a word, which may be the first sheet of a span. -/
def scanSpan (start : Nat) (word : String) (external : Bool) : Scan (Option PlacedReference) := do
  if (← peekAt 1).any startsWord then
    let colon ← here
    advance
    let last ← takeWord
    if (← peek) = some '!' then
      advance
      scanQualified (if external then .external else .span word last) start
    else
      moveTo colon
      scanUnqualified start word
  else scanUnqualified start word

/-- Reads a piece that begins with a word. -/
def scanWord : Scan (Option PlacedReference) := do
  let start ← here
  let external := (← get).bracketEnd == some start
  let word ← takeWord
  match ← peek with
  | some '!' =>
    advance
    scanQualified (if external then .external else .sheet word) start
  | some '(' => return none
  | some ':' => scanSpan start word external
  | _ => scanUnqualified start word

/-- Reads a piece that begins with a quoted name. -/
def scanQuoted : Scan (Option PlacedReference) := do
  let start ← here
  match ← takeName with
  | none => throw ⟨start, .openSheetName⟩
  | some name =>
    if (← peek) = some '!' then
      advance
      scanQualified (.ofQuoted name.toList) start
    else throw ⟨start, .loneSheetName⟩

/-- Reads the piece that begins with a character. -/
def pass (d : Char) : Scan (Option PlacedReference) := do
  match d with
  | '"' =>
    passString
    return none
  | '#' =>
    passErrorLiteral
    return none
  | '(' =>
    modify fun c => { c with parens := c.parens + 1 }
    advance
    return none
  | ')' =>
    if (← get).parens = 0 then throw ⟨← here, .strayParen⟩
    else
      let parens ← require (less? (← get).parens)
      modify fun c => { c with parens := parens }
      advance
      return none
  | '{' =>
    modify fun c => { c with braces := c.braces + 1 }
    advance
    return none
  | '}' =>
    if (← get).braces = 0 then throw ⟨← here, .strayBrace⟩
    else
      let braces ← require (less? (← get).braces)
      modify fun c => { c with braces := braces }
      advance
      return none
  | '[' =>
    passBrackets
    return none
  | ']' => throw ⟨← here, .strayBracket⟩
  | '\'' => scanQuoted
  | d =>
    if inNumber d then
      passNumber
      return none
    else if startsWord d then scanWord
    else
      advance
      return none

/-- One name or two are passed. -/
lemma on_passNames (h : rest <:+ c.text.toList) :
    passNames.on (c.before rest) = some (.ok (), c.before (afterNames rest)) := by
  have hz := (List.dropWhile_suffix inWord).trans h
  rw [passNames, on_bind (on_takeWord h), on_bind (on_peek hz)]
  unfold afterNames
  split
  case isFalse hcolon =>
    split
    case h_1 ds e =>
      rw [e] at hcolon
      exact absurd rfl hcolon
    case h_2 => rfl
  case isTrue hcolon =>
    obtain ⟨ds, e⟩ := List.head?_eq_some_iff.1 hcolon
    rw [e] at hz ⊢
    have hds := (List.suffix_cons _ _).trans hz
    have hnext : (':' :: ds)[1]? = ds.head? := List.head?_tail.symm
    rw [on_bind (on_peekAt hz 1), hnext, any_head?]
    cases hl : leadsWith inWord ds with
    | false =>
      simp only [hl]
      rfl
    | true =>
      simp only [hl, if_true]
      exact (on_bind (on_advance hz)).trans (on_bind (on_takeWord hds))

lemma stepQualified_cons (hn : area? q.single? (d :: cs) = none) (hd : d ≠ '#') :
    stepQualified ctx q text (d :: cs) =
      if inWord d then .skip (afterNames (d :: cs)) ctx.plain
      else .stop (some .emptyQualifier) := by
  unfold stepQualified
  simp only [hn]

/-- Reading behind a qualifier follows the step. -/
lemma on_scanQualified (hs : c.Stands ctx text) (hr : rest <:+ text) (q : Qualifier) :
    c.Follows ctx text ((scanQualified q (c.offset text)).on (c.before rest))
      (stepQualified ctx q text rest) := by
  have hrest := hr.trans hs.suffix
  have harea := on_scanArea (some q) hrest
  change _ = match area? q.single? rest with | some (a, z) => _ | none => _ at harea
  rw [scanQualified]
  cases ha : area? q.single? rest with
  | some found =>
    rw [ha] at harea
    rw [on_bind harea]
    unfold stepQualified
    rw [ha]
    exact hs.follows_found hr (some q) found.1 found.2
  | none =>
    rw [ha] at harea
    rw [on_bind harea]
    dsimp only
    rw [on_bind (on_peek hrest)]
    -- No area: an error literal, names, or nothing that a qualifier may stand before.
    cases rest with
    | nil =>
      unfold stepQualified
      rw [ha]
      exact Cursor.follows_stop List.nil_suffix
    | cons d cs =>
      rw [List.head?_cons]
      split
      case h_1 e =>
        obtain rfl := Option.some.inj e
        rw [on_bind (on_passErrorLiteral hrest)]
        unfold stepQualified
        rw [ha]
        exact hs.follows_skip (afterErrorLiteral cs)
      case h_2 hd e =>
        obtain rfl := Option.some.inj e
        rw [stepQualified_cons ha hd]
        cases inWord d with
        | true =>
          rw [if_pos rfl, if_pos rfl, on_bind (on_passNames hrest)]
          exact hs.follows_skip (afterNames (d :: cs))
        | false => exact Cursor.follows_stop hrest
      case h_3 e => exact absurd e (Option.some_ne_none d)

/-- Reading a word without a qualifier follows the step. -/
lemma on_scanUnqualified (hs : c.Stands ctx (w ++ rest)) (z : List Char) :
    c.Follows ctx (w ++ rest)
      ((scanUnqualified (c.offset (w ++ rest)) (String.ofList w)).on (c.before z))
      (stepUnqualified ctx (w ++ rest) rest) := by
  have harea := on_scanArea none hs.suffix
  change _ = match area? none (w ++ rest) with | some (a, z) => _ | none => _ at harea
  rw [scanUnqualified, on_bind (on_moveTo (w ++ rest) z)]
  unfold stepUnqualified
  cases ha : area? none (w ++ rest) with
  | some found =>
    have hlead : upTo (w ++ rest) (w ++ rest) = [] := by simp [upTo]
    have hfound := hs.follows_found List.suffix_rfl none found.1 found.2
    rw [hlead] at hfound
    rw [ha] at harea
    rw [on_bind harea]
    exact hfound
  | none =>
    rw [ha] at harea
    rw [on_bind harea]
    dsimp only
    rw [width_ofList, ← c.offset_append hs.suffix, on_bind (on_moveTo rest (w ++ rest))]
    exact hs.follows_skip rest

lemma spanEnd?_cons (cs : List Char) :
    spanEnd? (':' :: cs) =
      if leadsWith startsWord cs ∧ (cs.dropWhile inWord).head? = some '!' then
        some (cs.takeWhile inWord, (cs.dropWhile inWord).tail)
      else none := by
  simp only [spanEnd?]
  cases leadsWith startsWord cs with
  | false => simp
  | true =>
    rw [if_pos rfl]
    split
    case h_1 e => simp [e]
    case h_2 hbang =>
      rw [if_neg]
      rintro ⟨-, hhead⟩
      obtain ⟨ds, e⟩ := List.head?_eq_some_iff.1 hhead
      exact hbang ds e

/-- What is read where a span does not begin, or where one does. -/
lemma on_scanSpan (hs : c.Stands ctx (w ++ ':' :: cs)) :
    c.Follows ctx (w ++ ':' :: cs)
      ((scanSpan (c.offset (w ++ ':' :: cs)) (String.ofList w) ctx.afterBracket).on
        (c.before (':' :: cs)))
      (match spanEnd? (':' :: cs) with
      | some (last, after) =>
        stepQualified ctx (if ctx.afterBracket then .external
          else .span (String.ofList w) (String.ofList last)) (w ++ ':' :: cs) after
      | none => stepUnqualified ctx (w ++ ':' :: cs) (':' :: cs)) := by
  have hcolon := (List.suffix_append w _).trans hs.suffix
  have hcs := (List.suffix_cons _ _).trans hcolon
  have hz := List.dropWhile_suffix (l := cs) inWord
  have hnext : (':' :: cs)[1]? = cs.head? := List.head?_tail.symm
  rw [scanSpan, on_bind (on_peekAt hcolon 1), hnext, any_head?]
  by_cases hspan : leadsWith startsWord cs ∧ (cs.dropWhile inWord).head? = some '!'
  case pos =>
    obtain ⟨ds, e⟩ := List.head?_eq_some_iff.1 hspan.2
    rw [spanEnd?_cons, if_pos hspan, if_pos hspan.1, on_bind (on_here _),
      on_bind (on_advance hcolon), on_bind (on_takeWord hcs), on_bind (on_peek (hz.trans hcs)),
      if_pos hspan.2]
    rw [e] at hz ⊢
    have hds := (List.suffix_cons _ _).trans hz
    rw [on_bind (on_advance (hz.trans hcs))]
    exact on_scanQualified hs
      (hds.trans ((List.suffix_cons _ _).trans (List.suffix_append w _))) _
  case neg =>
    rw [spanEnd?_cons, if_neg hspan]
    by_cases hl : leadsWith startsWord cs
    · rw [if_pos hl, on_bind (on_here _), on_bind (on_advance hcolon), on_bind (on_takeWord hcs),
        on_bind (on_peek (hz.trans hcs)), if_neg fun hbang => hspan ⟨hl, hbang⟩,
        on_bind (on_moveTo (':' :: cs) _)]
      exact on_scanUnqualified hs (':' :: cs)
    · rw [if_neg hl]
      exact on_scanUnqualified hs (':' :: cs)

/-- A word that is no qualifier and no function begins a span, or is unqualified. -/
lemma stepWord_of_head? (hbang : (cs.dropWhile inWord).head? ≠ some '!')
    (hparen : (cs.dropWhile inWord).head? ≠ some '(') :
    stepWord ctx d cs = match spanEnd? (cs.dropWhile inWord) with
      | some (last, after) =>
        stepQualified ctx (if ctx.afterBracket then .external
          else .span (String.ofList (d :: cs.takeWhile inWord)) (String.ofList last))
          (d :: cs) after
      | none => stepUnqualified ctx (d :: cs) (cs.dropWhile inWord) := by
  simp only [stepWord]
  split
  case h_1 e =>
    rw [e] at hbang
    exact absurd rfl hbang
  case h_2 e =>
    rw [e] at hparen
    exact absurd rfl hparen
  case h_3 => rfl

/-- Reading at a word follows the step. -/
lemma on_scanWord (hd : startsWord d = true) (hs : c.Stands ctx (d :: cs)) :
    c.Follows ctx (d :: cs) (scanWord.on (c.before (d :: cs))) (stepWord ctx d cs) := by
  have hexternal : ((c.before (d :: cs)).bracketEnd == some (c.offset (d :: cs))) =
      ctx.afterBracket := hs.pos ▸ hs.bracketEnd
  have happ : d :: cs = (d :: cs.takeWhile inWord) ++ cs.dropWhile inWord :=
    congrArg (d :: ·) List.takeWhile_append_dropWhile.symm
  have hrest := (List.dropWhile_suffix (l := cs) inWord).trans (List.suffix_cons d cs)
  rw [scanWord, on_bind (on_here _), on_get_bind, hexternal,
    on_bind (on_takeWord_cons hd hs.suffix), on_bind (on_peek (hrest.trans hs.suffix))]
  split
  case h_1 hbang =>
    obtain ⟨ds, e⟩ := List.head?_eq_some_iff.1 hbang
    simp only [stepWord]
    rw [e] at hrest ⊢
    rw [on_bind (on_advance (hrest.trans hs.suffix))]
    exact on_scanQualified hs ((List.suffix_cons _ _).trans hrest) _
  case h_2 hparen =>
    obtain ⟨ds, e⟩ := List.head?_eq_some_iff.1 hparen
    simp only [stepWord]
    rw [e] at hrest ⊢
    exact hs.follows_skip _
  case h_3 hcolon =>
    obtain ⟨ds, e⟩ := List.head?_eq_some_iff.1 hcolon
    rw [stepWord_of_head? (by simp [e]) (by simp [e])]
    rw [e] at happ ⊢
    rw [happ] at hs ⊢
    exact on_scanSpan hs
  -- What follows the word is no colon, so it begins no span either.
  case h_4 hbang hparen hcolon =>
    have hspan : spanEnd? (cs.dropWhile inWord) = none := by
      apply spanEnd?_of_leadsWith
      cases e : cs.dropWhile inWord with
      | nil => rfl
      | cons a ds =>
        rw [e] at hcolon
        exact beq_false_of_ne fun ha => hcolon (congrArg some ha)
    rw [stepWord_of_head? hbang hparen, hspan]
    rw [happ] at hs ⊢
    exact on_scanUnqualified hs _

/-- Reading at a quoted name follows the step. -/
lemma on_scanQuoted (hs : c.Stands ctx ('\'' :: cs)) :
    c.Follows ctx ('\'' :: cs) (scanQuoted.on (c.before ('\'' :: cs))) (stepQuoted ctx cs) := by
  have hname := on_takeName hs.suffix
  rw [scanQuoted, on_bind (on_here _)]
  unfold stepQuoted
  cases hq : quotedName cs with
  | none =>
    rw [hq] at hname
    rw [on_bind hname]
    exact Cursor.follows_stop List.nil_suffix
  | some found =>
    obtain ⟨name, z⟩ := found
    have hz := (quotedName_suffix hq).trans (List.suffix_cons '\'' cs)
    rw [hq] at hname
    rw [on_bind hname]
    dsimp only
    rw [on_bind (on_peek (hz.trans hs.suffix))]
    by_cases hbang : z.head? = some '!'
    · obtain ⟨ds, rfl⟩ := List.head?_eq_some_iff.1 hbang
      rw [if_pos hbang, on_bind (on_advance (hz.trans hs.suffix)), String.toList_ofList]
      exact on_scanQualified hs ((List.suffix_cons _ _).trans hz) _
    · rw [if_neg hbang]
      split
      case h_1 e => exact absurd e (Option.some_ne_none _)
      case h_2 e =>
        obtain ⟨rfl, rfl⟩ := Prod.mk.inj (Option.some.inj e)
        exact absurd rfl hbang
      case h_3 => exact Cursor.follows_stop (hz.trans hs.suffix)

/-! ## Pieces -/

/-- At what is no sign a number, a word or a single character is read. -/
lemma pass_of_not_mem_signs (h : d ∉ signs) :
    pass d = if inNumber d then do passNumber; return none
      else if startsWord d then scanWord
      else do advance; return none := by
  rw [pass]
  all_goals
    rintro rfl
    exact h (by decide)

/-- To pass a parenthesis and set the depth follows a step that does so. -/
lemma on_passParen (hs : c.Stands ctx (d :: cs)) (n : Nat) :
    c.Follows ctx (d :: cs)
      ((do advance; return none : Scan (Option PlacedReference)).on
        ({ c with parens := n }.before (d :: cs)))
      (.skip cs { ctx.plain with parens := n }) := by
  rw [Cursor.Follows, hs.into_parens]
  exact on_bind (on_advance (c := { c with parens := n }) hs.suffix)

/-- To pass a brace and set the depth follows a step that does so. -/
lemma on_passBrace (hs : c.Stands ctx (d :: cs)) (n : Nat) :
    c.Follows ctx (d :: cs)
      ((do advance; return none : Scan (Option PlacedReference)).on
        ({ c with braces := n }.before (d :: cs)))
      (.skip cs { ctx.plain with braces := n }) := by
  rw [Cursor.Follows, hs.into_braces]
  exact on_bind (on_advance (c := { c with braces := n }) hs.suffix)

lemma on_pass_string (hs : c.Stands ctx ('"' :: cs)) :
    c.Follows ctx ('"' :: cs) ((pass '"').on (c.before ('"' :: cs))) (step ctx ('"' :: cs)) := by
  have hstring := on_passString hs.suffix
  simp only [pass, step]
  cases ha : afterString cs with
  | none =>
    rw [ha] at hstring
    rw [on_bind_error hstring]
    exact Cursor.follows_stop List.nil_suffix
  | some z =>
    rw [ha] at hstring
    rw [on_bind hstring]
    exact hs.follows_skip z

lemma on_pass_errorLiteral (hs : c.Stands ctx ('#' :: cs)) :
    c.Follows ctx ('#' :: cs) ((pass '#').on (c.before ('#' :: cs))) (step ctx ('#' :: cs)) := by
  simp only [pass, step]
  rw [on_bind (on_passErrorLiteral hs.suffix)]
  exact hs.follows_skip (afterErrorLiteral cs)

lemma on_pass_openParen (hs : c.Stands ctx ('(' :: cs)) :
    c.Follows ctx ('(' :: cs) ((pass '(').on (c.before ('(' :: cs))) (step ctx ('(' :: cs)) := by
  simp only [pass, step]
  rw [on_bind on_modify, ← hs.parens]
  exact on_passParen hs (c.parens + 1)

lemma on_pass_closeParen (hs : c.Stands ctx (')' :: cs)) :
    c.Follows ctx (')' :: cs) ((pass ')').on (c.before (')' :: cs))) (step ctx (')' :: cs)) := by
  simp only [pass, step]
  rw [on_get_bind, Cursor.parens_before, ← hs.parens]
  cases hp : c.parens with
  | zero => exact Cursor.follows_stop hs.suffix
  | succ n =>
    rw [if_neg n.succ_ne_zero, if_neg n.succ_ne_zero, on_get_bind, Cursor.parens_before, hp]
    exact on_passParen hs n

lemma on_pass_openBrace (hs : c.Stands ctx ('{' :: cs)) :
    c.Follows ctx ('{' :: cs) ((pass '{').on (c.before ('{' :: cs))) (step ctx ('{' :: cs)) := by
  simp only [pass, step]
  rw [on_bind on_modify, ← hs.braces]
  exact on_passBrace hs (c.braces + 1)

lemma on_pass_closeBrace (hs : c.Stands ctx ('}' :: cs)) :
    c.Follows ctx ('}' :: cs) ((pass '}').on (c.before ('}' :: cs))) (step ctx ('}' :: cs)) := by
  simp only [pass, step]
  rw [on_get_bind, Cursor.braces_before, ← hs.braces]
  cases hb : c.braces with
  | zero => exact Cursor.follows_stop hs.suffix
  | succ n =>
    rw [if_neg n.succ_ne_zero, if_neg n.succ_ne_zero, on_get_bind, Cursor.braces_before, hb]
    exact on_passBrace hs n

lemma on_pass_brackets (hs : c.Stands ctx ('[' :: cs)) :
    c.Follows ctx ('[' :: cs) ((pass '[').on (c.before ('[' :: cs))) (step ctx ('[' :: cs)) := by
  have hbrackets := on_passBrackets hs.suffix
  simp only [pass, step]
  cases ha : afterBrackets 0 cs with
  | none =>
    rw [ha] at hbrackets
    rw [on_bind_error hbrackets]
    exact Cursor.follows_stop List.nil_suffix
  | some z =>
    rw [ha] at hbrackets
    rw [on_bind hbrackets, Cursor.Follows, hs.into_bracket]
    rfl

lemma on_pass_of_not_mem_signs (hd : d ∉ signs) (hs : c.Stands ctx (d :: cs)) :
    c.Follows ctx (d :: cs) ((pass d).on (c.before (d :: cs))) (step ctx (d :: cs)) := by
  rw [step_cons hd, pass_of_not_mem_signs hd]
  cases hn : inNumber d with
  | true =>
    have hafter : afterNumber (d :: cs) = afterNumber cs := by
      rw [afterNumber, List.dropWhile_cons_of_pos hn, afterNumber]
    rw [if_pos rfl, if_pos rfl, on_bind (on_passNumber hs.suffix), hafter]
    exact hs.follows_skip (afterNumber cs)
  | false =>
    cases hw : startsWord d with
    | true => exact on_scanWord hw hs
    | false =>
      rw [if_neg Bool.false_ne_true, if_neg Bool.false_ne_true, on_bind (on_advance hs.suffix)]
      exact hs.follows_skip cs

/-- The piece at the cursor is read as `step` reads it. -/
theorem on_pass (hs : c.Stands ctx (d :: cs)) :
    c.Follows ctx (d :: cs) ((pass d).on c) (step ctx (d :: cs)) := by
  have hbefore : (pass d).on c = (pass d).on (c.before (d :: cs)) := by rw [hs.before_eq]
  rw [hbefore]
  by_cases hd : d ∈ signs
  case neg => exact on_pass_of_not_mem_signs hd hs
  case pos =>
    simp only [signs, List.mem_cons, List.not_mem_nil, or_false] at hd
    rcases hd with rfl | rfl | rfl | rfl | rfl | rfl | rfl | rfl | rfl
    · exact on_pass_string hs
    · exact on_pass_errorLiteral hs
    · exact on_pass_openParen hs
    · exact on_pass_closeParen hs
    · exact on_pass_openBrace hs
    · exact on_pass_closeBrace hs
    · exact on_pass_brackets hs
    · exact Cursor.follows_stop hs.suffix
    · exact on_scanQuoted hs

end Scan

end Precedents.Formula
