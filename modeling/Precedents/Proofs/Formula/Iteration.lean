import Precedents.Proofs.Formula.Attribution
import Precedents.Proofs.Formula.Scanning

/-!
# Reading on and on

A cursor that is asked for the next reference goes over pieces until it has met one, a fault or the
end (`Cursor.next`). What it gives one call after another is what `read` finds, and nothing more
comes after that (`calls_start`).
-/

namespace Precedents.Formula

variable {ctx ctx' : Context} {text rest cs : List Char} {d : Char} {r : Reference}
variable {cause : Cause} {c c' : Cursor} {f : String}

/-! ## One call -/

/-- Reads pieces up to the first reference, in so many turns. At the end of the text nothing may be
left open. -/
def Scan.scanUpTo : Nat → Scan (Option PlacedReference)
  | 0 => stuck
  | n + 1 => do
    match ← peek with
    | some d =>
      match ← pass d with
      | some r => return some r
      | none => scanUpTo n
    | none =>
      if 0 < (← get).parens then throw ⟨← here, .openParen⟩
      else if 0 < (← get).braces then throw ⟨← here, .openBrace⟩
      else return none

/-- Reads pieces up to the first reference. -/
def Scan.scanNext : Scan (Option PlacedReference) := do scanUpTo (← turns)

namespace Cursor

/-- What is given away of what has been read, and the cursor from then on: after a fault, or where
nothing was left to be found, it is done. -/
def answer : Except ParseError (Option PlacedReference) × Cursor →
    Option (Except ParseError PlacedReference) × Cursor
  | (.ok (some r), c) => (some (.ok r), c)
  | (.ok none, c) => (none, { c with finished := true })
  | (.error e, c) => (some (.error e), { c with finished := true })

/-- What one call gives: a reference, a fault, or nothing. -/
def next (c : Cursor) : Option (Option (Except ParseError PlacedReference) × Cursor) :=
  if c.finished then some (none, c) else (Scan.scanNext.on c).map answer

/-- What so many calls give, one after another. -/
def calls : Nat → Cursor → Option (List (Option (Except ParseError PlacedReference)) × Cursor)
  | 0, c => some ([], c)
  | n + 1, c => do
    let (answer, c) ← c.next
    let (answers, c) ← calls n c
    return (answer :: answers, c)

/-- The cursor behind the blanks and the equals sign that a formula may begin with. -/
def start (formula : String) : Cursor :=
  let trimmed := String.ofList (Text.trimLeft formula.toList)
  { text := formula
    pos := formula.utf8ByteSize - trimmed.utf8ByteSize +
      if leadsWith (· == '=') trimmed.toList then 1 else 0
    parens := 0
    braces := 0
    bracketEnd := none
    finished := false }

/-- At the start the cursor stands in front of the body. -/
lemma stands_start (f : String) : (start f).Stands .start (body f.toList) where
  suffix := by
    obtain ⟨l, h, -⟩ := body_lead f.toList
    exact ⟨l, h.symm⟩
  pos := by
    have hle := width_le (List.dropWhile_suffix (l := f.toList) Text.isBlank)
    simp only [start, offset, body, width_ofList, String.toList_ofList, Text.trimLeft]
    rw [width_toList] at hle
    cases e : f.toList.dropWhile Text.isBlank with
    | nil => rfl
    | cons d cs =>
      rw [e, width] at hle
      by_cases hd : d = '='
      · subst hd
        have hequals : '='.utf8Size = 1 := rfl
        simp only [hequals, width, leadsWith, beq_self_eq_true, if_true] at hle ⊢
        omega
      · have hne : (d == '=') = false := beq_false_of_ne hd
        simp only [leadsWith, hne, Bool.false_eq_true, if_false, Nat.add_zero]
        split
        case h_1 e' => exact absurd (List.cons.inj e').1 hd
        case h_2 => rfl
  parens := rfl
  braces := rfl
  bracketEnd := rfl
  bracketEnd_le := nofun
  finished := rfl

/-- Behind what is passed over the cursor stands with the context that the step gives. -/
lemma Stands.skip (h : c.Stands ctx text) (e : step ctx text = .skip rest ctx') :
    (c.into ctx' rest).Stands ctx' rest := by
  obtain ⟨hr, hlt⟩ := advances_of_skip e
  exact h.into hr hlt ctx'

/-- Behind a reference the cursor stands with the plain context. -/
lemma Stands.found (h : c.Stands ctx text) (e : step ctx text = .found r rest) :
    (c.into ctx.plain rest).Stands ctx.plain rest := by
  obtain ⟨hr, hlt⟩ := advances_of_found e
  exact h.into ⟨r.text, hr⟩ hlt ctx.plain

/-- The cursor sees the first character of what it stands in front of. -/
lemma Stands.peek (h : c.Stands ctx text) : Scan.peek.on c = some (.ok text.head?, c) := by
  have hpeek := Scan.on_peek h.suffix
  rwa [h.before_eq] at hpeek

lemma scanUpTo_cons (hs : c.Stands ctx (d :: cs)) (n : Nat) :
    (Scan.scanUpTo (n + 1)).on c = (do
      match ← Scan.pass d with
      | some r => return some r
      | none => Scan.scanUpTo n : Scan (Option PlacedReference)).on c := by
  rw [Scan.scanUpTo, Scan.on_bind hs.peek]
  rfl

lemma scanUpTo_nil (hs : c.Stands ctx []) (n : Nat) :
    (Scan.scanUpTo (n + 1)).on c = some (match step ctx [] with
      | .stop (some cause) => .error ⟨c.offset [], cause⟩
      | _ => .ok none, c) := by
  rw [Scan.scanUpTo, Scan.on_bind hs.peek, step, ← hs.parens, ← hs.braces, ← hs.pos]
  simp only [List.head?_nil]
  rw [Scan.on_get_bind]
  by_cases hp : 0 < c.parens
  · rw [if_pos hp, if_pos hp]
    rfl
  · rw [if_neg hp, if_neg hp, Scan.on_get_bind]
    by_cases hb : 0 < c.braces
    · rw [if_pos hb, if_pos hb]
      rfl
    · rw [if_neg hb, if_neg hb]
      rfl

/-- The loop goes on behind what is passed over. -/
lemma scanUpTo_skip (hs : c.Stands ctx text) (h : step ctx text = .skip rest ctx') (n : Nat) :
    (Scan.scanUpTo (n + 1)).on c = (Scan.scanUpTo n).on (c.into ctx' rest) := by
  cases text with
  | nil => exact absurd (advances_of_skip h).2 (Nat.not_lt_zero _)
  | cons d cs =>
    have hpass := Scan.on_pass hs
    rw [h] at hpass
    rw [scanUpTo_cons hs, Scan.on_bind hpass]

/-- The loop ends with the reference that is found. -/
lemma scanUpTo_found (hs : c.Stands ctx text) (h : step ctx text = .found r rest) (n : Nat) :
    (Scan.scanUpTo (n + 1)).on c =
      some (.ok (some (r.locate (c.offset text)).placed), c.into ctx.plain rest) := by
  cases text with
  | nil => exact absurd (advances_of_found h).2 (Nat.not_lt_zero _)
  | cons d cs =>
    have hpass := Scan.on_pass hs
    rw [h] at hpass
    rw [scanUpTo_cons hs, Scan.on_bind hpass]
    rfl

/-- The loop ends with the fault that is met. -/
lemma scanUpTo_stop (hs : c.Stands ctx text) (h : step ctx text = .stop (some cause)) :
    ∃ z, z <:+ c.text.toList ∧ ∀ n,
      (Scan.scanUpTo (n + 1)).on c = some (.error ⟨c.offset text, cause⟩, c.before z) := by
  cases text with
  | nil =>
    refine ⟨[], List.nil_suffix, fun n => ?_⟩
    rw [scanUpTo_nil hs, h, hs.before_eq]
  | cons d cs =>
    have hpass := Scan.on_pass hs
    rw [h] at hpass
    obtain ⟨z, hz, hpass⟩ := hpass
    refine ⟨z, hz, fun n => ?_⟩
    rw [scanUpTo_cons hs, Scan.on_bind_error hpass]

/-- The loop ends where nothing is left. -/
lemma scanUpTo_end (hs : c.Stands ctx text) (h : step ctx text = .stop none) (n : Nat) :
    (Scan.scanUpTo (n + 1)).on c = some (.ok none, c) := by
  have hgrammar := step_grammatical ctx text
  rw [h] at hgrammar
  obtain ⟨rfl, -⟩ := hgrammar rfl
  rw [scanUpTo_nil hs, h]

/-- All numbers of turns are alike that leave one for every character and one for the end. -/
lemma scanUpTo_enough (hs : c.Stands ctx text) {m n : Nat} (hm : text.length ≤ m)
    (hn : text.length ≤ n) : (Scan.scanUpTo (m + 1)).on c = (Scan.scanUpTo (n + 1)).on c := by
  induction m generalizing c ctx text n with
  | zero =>
    obtain rfl := List.length_eq_zero_iff.1 (Nat.le_zero.1 hm)
    rw [scanUpTo_nil hs, scanUpTo_nil hs]
  | succ m ih =>
    cases e : step ctx text with
    | stop fault =>
      cases fault with
      | none => rw [scanUpTo_end hs e, scanUpTo_end hs e]
      | some cause =>
        obtain ⟨z, -, hstop⟩ := scanUpTo_stop hs e
        rw [hstop, hstop]
    | skip rest ctx' =>
      obtain ⟨-, hlt⟩ := advances_of_skip e
      obtain ⟨k, rfl⟩ := Nat.exists_eq_add_one.2 (Nat.zero_lt_of_lt (hlt.trans_le hn))
      rw [scanUpTo_skip hs e, scanUpTo_skip hs e]
      exact ih (hs.skip e) (Nat.le_of_lt_succ (hlt.trans_le hm))
        (Nat.le_of_lt_succ (hlt.trans_le hn))
    | found r rest => rw [scanUpTo_found hs e, scanUpTo_found hs e]

/-- The loop has turns for every byte of the text. -/
lemma on_scanNext (c : Cursor) :
    Scan.scanNext.on c = (Scan.scanUpTo (c.text.utf8ByteSize + 1)).on c :=
  Scan.on_bind (Scan.on_turns c)

/-- A cursor that is not done answers what the loop comes to. -/
lemma next_of_scanNext {outcome : Except ParseError (Option PlacedReference) × Cursor}
    (hs : c.Stands ctx text) (h : Scan.scanNext.on c = some outcome) :
    c.next = some (answer outcome) := by
  rw [next, hs.finished, if_neg Bool.false_ne_true, h]
  rfl

/-- A call goes on behind what is passed over. -/
lemma next_skip (hs : c.Stands ctx text) (h : step ctx text = .skip rest ctx') :
    c.next = (c.into ctx' rest).next := by
  have hturns := (advances_of_skip h).2.trans_le (Scan.length_le_turns hs.suffix)
  obtain ⟨k, hk⟩ := Nat.exists_eq_add_one.2 (Nat.zero_lt_of_lt hturns)
  rw [hk] at hturns
  have hscan : Scan.scanNext.on c = Scan.scanNext.on (c.into ctx' rest) := by
    rw [on_scanNext, on_scanNext, scanUpTo_skip hs h, text_into, hk]
    exact scanUpTo_enough (hs.skip h) (Nat.le_of_lt_succ hturns) hturns.le
  have hfinished : (c.into ctx' rest).finished = false := hs.finished
  rw [next, next, hscan, hfinished, hs.finished, if_neg Bool.false_ne_true,
    if_neg Bool.false_ne_true]

/-- A call answers with the reference that is found. -/
lemma next_found (hs : c.Stands ctx text) (h : step ctx text = .found r rest) :
    c.next = some (some (.ok (r.locate (c.offset text)).placed), c.into ctx.plain rest) :=
  next_of_scanNext hs ((on_scanNext c).trans (scanUpTo_found hs h _))

/-- A call answers with the fault that is met, and the cursor is done. -/
lemma next_stop (hs : c.Stands ctx text) (h : step ctx text = .stop (some cause)) :
    ∃ z, z <:+ c.text.toList ∧ c.next = some (some (.error ⟨c.offset text, cause⟩),
      { c.before z with finished := true }) := by
  obtain ⟨z, hz, hstop⟩ := scanUpTo_stop hs h
  exact ⟨z, hz, next_of_scanNext hs ((on_scanNext c).trans (hstop _))⟩

/-- A call finds nothing left, and the cursor is done. -/
lemma next_end (hs : c.Stands ctx text) (h : step ctx text = .stop none) :
    c.next = some (none, { c with finished := true }) :=
  next_of_scanNext hs ((on_scanNext c).trans (scanUpTo_end hs h _))

end Cursor

/-! ## One call after another -/

/-- What a reading gives that begins at an offset: its references with their places, and the fault
that ended it. -/
def Reading.answers (r : Reading) (offset : Nat) : List (Except ParseError PlacedReference) :=
  (locate offset r.pieces).map (.ok ·.placed) ++
    (r.fault.map (.error ⟨offset + width (texts r.pieces), ·⟩)).toList

/-- What a formula gives: its references with their places, and then its fault, if it has one. -/
def answers (f : String) : List (Except ParseError PlacedReference) :=
  (read f).located.map (.ok ·.placed) ++ (read f).error?.toList.map .error

/-- Plain text gives nothing and moves the places of what follows. -/
lemma answers_cons_plain (rd : Reading) (t : List Char) (offset : Nat) :
    (rd.cons (.plain t)).answers offset = rd.answers (offset + width t) := by
  rw [Reading.answers, Reading.answers, Reading.cons, locate, texts_cons, width_append,
    ← Nat.add_assoc]
  rfl

/-- A reference is given with its place, ahead of what follows. -/
lemma answers_cons_reference (rd : Reading) (r : Reference) (offset : Nat) :
    (rd.cons (.reference r)).answers offset =
      .ok (r.locate offset).placed :: rd.answers (offset + width r.text) := by
  rw [Reading.answers, Reading.answers, Reading.cons, locate, texts_cons, width_append,
    ← Nat.add_assoc, List.map_cons, List.cons_append]
  rfl

/-- What the pieces of a formula give is what the formula gives. -/
lemma answers_read (f : String) : (read f).answers 0 = answers f := by
  rw [Reading.answers, answers, Reading.error?, Nat.zero_add]
  cases (read f).fault with
  | none => rfl
  | some cause => rfl

lemma map_range_getElem?_cons {α : Type} (a : α) (l : List α) (n : Nat) :
    (List.range (n + 1)).map ((a :: l)[·]?) = some a :: (List.range n).map (l[·]?) := by
  rw [List.range_succ_eq_map, List.map_cons, List.map_map]
  rfl

lemma map_range_getElem?_nil {α : Type} (n : Nat) :
    (List.range n).map (([] : List α)[·]?) = List.replicate n none := by
  simp

/-- To look up all places of a list and some beyond it is to find the list and then nothing. -/
lemma map_range_getElem? {α : Type} (l : List α) (n : Nat) :
    (List.range (l.length + n)).map (l[·]?) = l.map some ++ List.replicate n none := by
  induction l with
  | nil => rw [List.length_nil, Nat.zero_add, map_range_getElem?_nil, List.map_nil, List.nil_append]
  | cons a l ih =>
    rw [List.length_cons, Nat.add_right_comm, map_range_getElem?_cons, ih]
    rfl

namespace Cursor

/-- So many calls and one more are a call and then so many. -/
lemma calls_succ {n : Nat} {a : Option (Except ParseError PlacedReference)}
    {as : List (Option (Except ParseError PlacedReference))} {c'' : Cursor}
    (h : c.next = some (a, c')) (h' : c'.calls n = some (as, c'')) :
    c.calls (n + 1) = some (a :: as, c'') := by
  simp only [calls, h, Option.bind_eq_bind, Option.bind_some, h']
  rfl

/-- Nothing comes after the end. -/
lemma calls_finished (h : c.finished = true) (n : Nat) :
    c.calls n = some (List.replicate n none, c) := by
  induction n with
  | zero => rfl
  | succ n ih => exact calls_succ (if_pos h) ih

/-- What is given from where the cursor stands is what the reading of the rest gives. -/
lemma calls_of_stands (hs : c.Stands ctx text) (n : Nat) :
    ∃ c', c.calls n =
      some ((List.range n).map (((readFrom ctx text).answers (c.offset text))[·]?), c') := by
  -- Along the reading of the rest: a piece without a reference takes no call.
  fun_induction readFrom ctx text generalizing c n with
  | case1 ctx text fault e =>
    cases n with
    | zero => exact ⟨c, rfl⟩
    | succ n =>
      cases fault with
      | none =>
        refine ⟨{ c with finished := true }, ?_⟩
        have hanswers : (Reading.mk [] none).answers (c.offset text) = [] := rfl
        rw [hanswers, map_range_getElem?_nil]
        exact calls_succ (next_end hs e) (calls_finished rfl n)
      | some cause =>
        obtain ⟨z, -, hnext⟩ := next_stop hs e
        refine ⟨{ c.before z with finished := true }, ?_⟩
        have hanswers : (Reading.mk [] (some cause)).answers (c.offset text) =
          [.error ⟨c.offset text, cause⟩] := rfl
        rw [hanswers, map_range_getElem?_cons, map_range_getElem?_nil]
        exact calls_succ hnext (calls_finished rfl n)
  | case2 ctx text rest ctx' e _ ih =>
    -- A call that has begun goes on behind the piece; if there is no call, nothing moves.
    have hskip : c.calls n = (c.into ctx' rest).calls n ∨ n = 0 := by
      cases n with
      | zero => exact .inr rfl
      | succ n => exact .inl (by rw [calls, calls, next_skip hs e])
    rw [answers_cons_plain, ← c.offset_upTo hs.suffix (advances_of_skip e).1]
    cases hskip with
    | inl hskip =>
      rw [hskip]
      exact ih (hs.skip e) n
    | inr hzero =>
      subst hzero
      exact ⟨c, rfl⟩
  | case3 ctx text r rest e _ ih =>
    cases n with
    | zero => exact ⟨c, rfl⟩
    | succ n =>
      obtain ⟨c', hcalls⟩ := ih (hs.found e) n
      refine ⟨c', (calls_succ (next_found hs e) hcalls).trans ?_⟩
      have hoffset : c.offset rest = c.offset text + width r.text := by
        obtain ⟨rfl, -⟩ := advances_of_found e
        exact c.offset_append hs.suffix
      rw [answers_cons_reference, map_range_getElem?_cons, ← hoffset]
      rfl

/-- One call after another gives what `read` finds, and then nothing. -/
theorem calls_start (f : String) (n : Nat) :
    ∃ c, (start f).calls n = some ((List.range n).map ((answers f)[·]?), c) := by
  obtain ⟨l, hsplit, -, hread⟩ := read_split f
  have hoffset : (start f).offset (body f.toList) = 0 + width l := by
    rw [Nat.zero_add]
    exact offset_of_toList hsplit
  have hanswers := answers_cons_plain (readFrom .start (body f.toList)) l 0
  rw [← hread, answers_read] at hanswers
  obtain ⟨c, h⟩ := calls_of_stands (stands_start f) n
  rw [hoffset, ← hanswers] at h
  exact ⟨c, h⟩

/-- Nothing comes after the last of them. -/
lemma calls_beyond (f : String) (n : Nat) :
    ∃ c, (start f).calls ((answers f).length + n) =
      some ((answers f).map some ++ List.replicate n none, c) := by
  obtain ⟨c, h⟩ := calls_start f ((answers f).length + n)
  rw [map_range_getElem?] at h
  exact ⟨c, h⟩

/-! ## Reached cursors -/

/-- The cursors that one comes to in going over a formula: between two calls, and within a call
between two pieces. -/
inductive Reached (f : String) : Cursor → Prop where
  | start : Reached f (start f)
  | pass {c c' : Cursor} {d : Char} : Reached f c → c.finished = false →
    Scan.peek.on c = some (.ok (some d), c) → (Scan.pass d).on c = some (.ok none, c') →
    Reached f c'
  | next {c c' : Cursor} {a : Option (Except ParseError PlacedReference)} : Reached f c →
    c.next = some (a, c') → Reached f c'

/-- What holds of every cursor that is reached: it lies within the text, and until it is done it
stands in front of the rest of it. -/
structure Sound (f : String) (c : Cursor) : Prop where
  text : c.text = f
  pos_le : c.pos ≤ f.utf8ByteSize
  stands : c.finished = false → ∃ ctx text, c.Stands ctx text

/-- A cursor that stands in its text is sound. -/
lemma Stands.sound (h : c.Stands ctx text) (hf : c.text = f) : Sound f c where
  text := hf
  pos_le := by
    rw [h.pos, ← hf]
    exact c.offset_le text
  stands _ := ⟨ctx, text, h⟩

/-- A piece that is read in place ends further on. -/
lemma Stands.pass (h : c.Stands ctx (d :: cs)) :
    ∃ outcome c', (Scan.pass d).on c = some (outcome, c') ∧ c'.text = c.text ∧
      c'.pos ≤ c.text.utf8ByteSize ∧
      ∀ found, outcome = .ok found → c.pos < c'.pos ∧ ∃ ctx' rest, c'.Stands ctx' rest := by
  have hpass := Scan.on_pass h
  cases e : step ctx (d :: cs) with
  | stop fault =>
    cases fault with
    | none =>
      rw [e] at hpass
      exact hpass.elim
    | some cause =>
      rw [e] at hpass
      obtain ⟨z, -, hpass⟩ := hpass
      exact ⟨_, _, hpass, rfl, c.offset_le z, nofun⟩
  | skip rest ctx' =>
    rw [e] at hpass
    obtain ⟨hr, hlt⟩ := advances_of_skip e
    exact ⟨_, _, hpass, rfl, c.offset_le rest,
      fun _ _ => ⟨h.pos ▸ c.offset_lt h.suffix hr hlt, ctx', rest, h.skip e⟩⟩
  | found r rest =>
    rw [e] at hpass
    obtain ⟨hr, hlt⟩ := advances_of_found e
    exact ⟨_, _, hpass, rfl, c.offset_le rest,
      fun _ _ => ⟨h.pos ▸ c.offset_lt h.suffix ⟨r.text, hr⟩ hlt, ctx.plain, rest, h.found e⟩⟩

/-- A call leaves a cursor that stands in its text sound. -/
lemma Stands.next_sound (h : c.Stands ctx text) (hf : c.text = f)
    {a : Option (Except ParseError PlacedReference)} (hnext : c.next = some (a, c')) :
    Sound f c' := by
  fun_induction readFrom ctx text generalizing c with
  | case1 ctx text fault e =>
    cases fault with
    | none =>
      rw [next_end h e] at hnext
      obtain ⟨-, rfl⟩ := Prod.mk.inj (Option.some.inj hnext)
      exact ⟨hf, (h.sound hf).pos_le, fun hopen => absurd hopen (by simp)⟩
    | some cause =>
      obtain ⟨z, -, hstop⟩ := next_stop h e
      rw [hstop] at hnext
      obtain ⟨-, rfl⟩ := Prod.mk.inj (Option.some.inj hnext)
      exact ⟨hf, hf ▸ c.offset_le z, fun hopen => absurd hopen (by simp)⟩
  | case2 ctx text rest ctx' e _ ih =>
    rw [next_skip h e] at hnext
    exact ih (h.skip e) hf hnext
  | case3 ctx text r rest e _ ih =>
    rw [next_found h e] at hnext
    obtain ⟨-, rfl⟩ := Prod.mk.inj (Option.some.inj hnext)
    exact (h.found e).sound hf

/-- Every cursor that is reached is sound. -/
lemma Reached.sound (h : Reached f c) : Sound f c := by
  induction h with
  | start => exact (stands_start f).sound rfl
  | @pass c c' d _ hfinished hpeek hpass ih =>
    obtain ⟨ctx, text, hs⟩ := ih.stands hfinished
    have hhead : text.head? = some d := by
      rw [hs.peek] at hpeek
      exact Except.ok.inj (Prod.mk.inj (Option.some.inj hpeek)).1
    obtain ⟨cs, rfl⟩ := List.head?_eq_some_iff.1 hhead
    obtain ⟨outcome, c'', hpass', htext, -, hgoes⟩ := hs.pass
    rw [hpass] at hpass'
    obtain ⟨rfl, rfl⟩ := Prod.mk.inj (Option.some.inj hpass')
    obtain ⟨-, ctx', rest, hs'⟩ := hgoes none rfl
    exact hs'.sound (htext.trans ih.text)
  | @next c c' a _ hnext ih =>
    cases hfinished : c.finished with
    | true =>
      rw [Cursor.next, if_pos hfinished] at hnext
      obtain ⟨-, rfl⟩ := Prod.mk.inj (Option.some.inj hnext)
      exact ih
    | false =>
      obtain ⟨ctx, text, hs⟩ := ih.stands hfinished
      exact hs.next_sound ih.text hnext

/-- Where calls lead from a cursor that is reached is reached. -/
lemma Reached.calls (h : Reached f c) {n : Nat}
    {as : List (Option (Except ParseError PlacedReference))} (hc : c.calls n = some (as, c')) :
    Reached f c' := by
  induction n generalizing c as with
  | zero =>
    obtain ⟨-, rfl⟩ := Prod.mk.inj (Option.some.inj hc)
    exact h
  | succ n ih =>
    simp only [Cursor.calls, Option.bind_eq_bind, Option.bind_eq_some_iff] at hc
    obtain ⟨⟨a, between⟩, hnext, ⟨as', last⟩, hrest, he⟩ := hc
    obtain ⟨-, rfl⟩ := Prod.mk.inj (Option.some.inj he)
    exact ih (h.next hnext) hrest

end Cursor

/-! ## How many references there are -/

/-- A written address has a letter and a digit. -/
lemma IsMention.two_le_width {m : Mention} (h : IsMention m) : 2 ≤ width m.text := by
  obtain ⟨s, hs, -⟩ := mention?_split h
  have hletters := List.length_pos_of_ne_nil s.letters_ne
  have hdigits := List.length_pos_of_ne_nil s.digits_ne
  have hlength : s.text.length =
      (mark s.colFixed).length + s.letters.length + (mark s.rowFixed).length + s.digits.length := by
    simp only [Spelling.text, List.length_append]
  have hwidth := length_le_width s.text
  rw [hs]
  omega

/-- Every reference of a formula is one of the grammar. -/
lemma finds_of_mem_read (h : .reference r ∈ (read f).pieces) : ∃ ctx z, Finds ctx r z := by
  cases grammatical_of_mem_read h with
  | inl hp =>
    obtain ⟨t, hp, -⟩ := hp
    exact absurd hp (by simp)
  | inr hp => exact hp

/-- Every reference of a formula is to an area. -/
lemma isArea_of_mem_read (h : .reference r ∈ (read f).pieces) : ∃ name, IsArea name r.area := by
  obtain ⟨ctx, z, hf⟩ := finds_of_mem_read h
  exact hf.isArea

/-- Every reference takes two bytes at least. -/
lemma two_mul_length_locate {ps : List Piece}
    (h : ∀ r, .reference r ∈ ps → 2 ≤ width r.text) (offset : Nat) :
    2 * (locate offset ps).length ≤ width (texts ps) := by
  induction ps generalizing offset with
  | nil => exact Nat.le_refl 0
  | cons p ps ih =>
    have hrest := ih fun r hr => h r (List.mem_cons_of_mem p hr)
    rw [texts_cons, width_append]
    cases p with
    | plain t => exact (hrest _).trans (Nat.le_add_left _ _)
    | reference r =>
      have hr := h r List.mem_cons_self
      rw [locate, List.length_cons]
      exact (Nat.add_le_add (hrest (offset + width r.text)) hr).trans (Nat.add_comm _ _).le

/-- A cursor that goes over a formula comes further with every piece and never beyond the end of the
text, and none of its counters goes below zero: whatever piece it comes to is read to an answer. It
ends after at most one reference for every two bytes and at most one fault, and every call after
that gives nothing. -/
theorem reading_ends (f : String) :
    (∀ c, Cursor.Reached f c → c.pos ≤ f.utf8ByteSize ∧
      (c.finished = false → ∃ d?, Scan.peek.on c = some (.ok d?, c) ∧
        ∀ d, d? = some d → ∃ outcome c', (Scan.pass d).on c = some (outcome, c') ∧
          c'.pos ≤ f.utf8ByteSize ∧ ∀ found, outcome = .ok found → c.pos < c'.pos)) ∧
      2 * (read f).located.length ≤ f.utf8ByteSize ∧
      ∀ n, ∃ c, Cursor.Reached f c ∧
        (Cursor.start f).calls n = some ((List.range n).map ((answers f)[·]?), c) := by
  refine ⟨fun c hc => ⟨hc.sound.pos_le, fun hfinished => ?_⟩, ?_, fun n => ?_⟩
  · obtain ⟨ctx, text, hs⟩ := hc.sound.stands hfinished
    refine ⟨text.head?, hs.peek, fun d hd => ?_⟩
    obtain ⟨cs, rfl⟩ := List.head?_eq_some_iff.1 hd
    obtain ⟨outcome, c', hpass, -, hpos, hgoes⟩ := hs.pass
    rw [hc.sound.text] at hpos
    exact ⟨outcome, c', hpass, hpos, fun found h => (hgoes found h).1⟩
  · -- A reference is at least a letter and a digit, so there is room for half as many as bytes.
    have hwidth : ∀ r, .reference r ∈ (read f).pieces → 2 ≤ width r.text := by
      intro r hr
      obtain ⟨name, ha⟩ := isArea_of_mem_read hr
      have hm := ha.1.two_le_width
      rw [Reference.text, Area.text, width_append, width_append]
      omega
    obtain ⟨z, hz⟩ := texts_read f
    rw [← width_toList, ← hz, width_append]
    exact (two_mul_length_locate hwidth 0).trans (Nat.le_add_right _ _)
  · obtain ⟨c, hcalls⟩ := Cursor.calls_start f n
    exact ⟨c, Cursor.Reached.start.calls hcalls, hcalls⟩

end Precedents.Formula
