import Precedents.Formula.Translation
import Precedents.Proofs.Formula.Fault

/-!
# Stretches of bytes are exact

Where a reference is said to stand, its addresses stand: the text there is read as the address, and
the stretches follow one another (`PlacedReference.Exact`). So a formula can be translated by
copying the stretches between them (`Cursor.translate`). Every stretch that this takes is one of
whole characters, or there would be no answer (`spans_exact`).
-/

namespace Precedents.Formula

variable {ctx : Context} {text rest z behind : List Char} {r : Reference} {c : Cursor}
variable {ps : List Piece} {k : Located} {f : String}

/-! ## References and their places -/

/-- The address stands between two characters of the text, and the text between them is read as
it. -/
structure PlacedAddress.Exact (f : String) (a : PlacedAddress) : Prop where
  start : (⟨a.span.start⟩ : String.Pos.Raw).IsValid f
  stop : (⟨a.span.stop⟩ : String.Pos.Raw).IsValid f
  start_lt : a.span.start < a.span.stop
  parse : ∃ t, slice? f a.span.start a.span.stop = some t ∧ Address.parse t = .ok a.address

/-- Each address stands where it is said to, the second behind the first. -/
structure PlacedReference.Exact (f : String) (r : PlacedReference) : Prop where
  first : r.first.Exact f
  second : ∀ a, r.second = some a → a.Exact f ∧ r.first.span.stop < a.span.start

/-- The stretch of both addresses of a reference with what stands between them. -/
def PlacedReference.area (r : PlacedReference) : Span :=
  ⟨r.first.span.start, (r.second.getD r.first).span.stop⟩

/-- A reference that is given away has the place that it was found at. -/
lemma area_placed_locate (r : Reference) (offset : Nat) :
    (r.locate offset).placed.area = (r.locate offset).area := by
  obtain ⟨q, lead, m, second⟩ := r
  cases second with
  | none => rfl
  | some k => rfl

/-- A mention is exact where its text stands. -/
lemma IsMention.exact {m : Mention} {lead : List Char} (hm : IsMention m)
    (h : f.toList = lead ++ (m.text ++ z)) : (m.placed (width lead)).Exact f where
  start := isValid_of_toList h
  stop := by
    have h' : f.toList = (lead ++ m.text) ++ z := by rw [h, List.append_assoc]
    have hvalid := isValid_of_toList h'
    rwa [width_append] at hvalid
  start_lt := by
    have hwidth := hm.two_le_width
    exact Nat.lt_add_of_pos_right (by omega)
  parse := by
    obtain ⟨s, -, -, -, hparse⟩ := mention?_split hm
    exact ⟨_, slice?_of_toList h, hparse⟩

/-- An area that stands in the formula is given away exactly. -/
lemma IsArea.exact {a : Area} {name : Option String} {lead : List Char} (ha : IsArea name a)
    (h : f.toList = lead ++ (a.text ++ z)) (q : Option Qualifier) :
    (PlacedReference.mk q (a.placed (width lead)).1 (a.placed (width lead)).2).Exact f := by
  obtain ⟨m, second⟩ := a
  rw [Area.text, List.append_assoc] at h
  refine ⟨ha.1.exact h, fun placed hplaced => ?_⟩
  cases second with
  | none => exact absurd hplaced (by simp [Area.placed])
  | some k =>
    obtain rfl := Option.some.inj hplaced
    obtain ⟨between, hjoint, -, hk⟩ := ha.2 k rfl
    have h' : f.toList = (lead ++ m.text ++ k.joint) ++ (k.mention.text ++ z) := by
      rw [h]
      simp only [List.append_assoc]
    have hexact := hk.exact h'
    rw [width_append, width_append] at hexact
    refine ⟨hexact, Nat.lt_add_of_pos_right (Cursor.width_pos ?_)⟩
    rw [hjoint]
    exact List.cons_ne_nil _ _

/-- Every reference of a formula is given away exactly. -/
lemma exact_of_mem_located (h : k ∈ (read f).located) : k.placed.Exact f := by
  obtain ⟨ps, r, qs, hpieces, rfl⟩ := mem_locate h
  have hmem : .reference r ∈ (read f).pieces := hpieces ▸ List.mem_append_right _ List.mem_cons_self
  obtain ⟨name, ha⟩ := isArea_of_mem_read hmem
  obtain ⟨z, hz⟩ := texts_read f
  have htext : f.toList = (texts ps ++ r.lead) ++ (r.area.text ++ (texts qs ++ z)) := by
    rw [← hz, hpieces, texts_append, texts_cons, Piece.text, Reference.text]
    simp only [List.append_assoc]
  have hexact := ha.exact htext r.qualifier
  rw [width_append] at hexact
  rw [Reference.placed_locate, Nat.zero_add]
  exact hexact

/-- References that are placed from an offset on begin at it or further on. -/
lemma le_start_of_mem_locate {offset : Nat} (h : k ∈ locate offset ps) :
    offset ≤ k.placed.area.start := by
  obtain ⟨qs, r, rs, -, rfl⟩ := mem_locate h
  rw [area_placed_locate, area_locate, Nat.add_assoc]
  exact Nat.le_add_right _ _

/-- The references stand one after another. -/
lemma locate_pairwise (ps : List Piece) (offset : Nat) :
    (locate offset ps).Pairwise fun k k' => k.placed.area.stop ≤ k'.placed.area.start := by
  induction ps generalizing offset with
  | nil => exact .nil
  | cons p ps ih =>
    cases p with
    | plain t => exact ih _
    | reference r =>
      refine .cons (fun k hk => ?_) (ih _)
      rw [area_placed_locate, area_locate]
      exact le_start_of_mem_locate hk

/-! ## Translation in place -/

/-- The text of a reference that has moved, where `text` is the formula. -/
def PlacedReference.moved (r : PlacedReference) (text : String) (rows cols : Int) :
    Option String :=
  match r.second with
  | none => match r.first.address.shift rows cols with
    | some first => some (String.ofList first.chars)
    | none => some (String.ofList lostReference)
  | some second => match r.first.address.shift rows cols, second.address.shift rows cols with
    | some a, some b => do
      let joint ← slice? text r.first.span.stop second.span.start
      return String.ofList a.chars ++ joint ++ String.ofList b.chars
    | _, _ => some (String.ofList lostReference)

/-- The formula as it reads when it has moved: `out`, and from the offset `copied` on what is copied
or has moved. Each call takes one of so many turns. -/
def Cursor.translateIn (rows cols : Int) :
    Nat → Cursor → String → Nat → Option (Except ParseError String)
  | 0, _, _, _ => none
  | n + 1, c, out, copied => do
    match ← c.next with
    | (none, c) => return .ok (out ++ (← slice? c.text copied c.text.utf8ByteSize))
    | (some (.error e), _) => return .error e
    | (some (.ok r), c) =>
      let between ← slice? c.text copied r.area.start
      let moved ← r.moved c.text rows cols
      translateIn rows cols n c (out ++ between ++ moved) r.area.stop

/-- The formula as it reads when it has moved. -/
def Cursor.translate (c : Cursor) (rows cols : Int) : Option (Except ParseError String) :=
  translateIn rows cols (c.text.utf8ByteSize + 1) c "" 0

/-- An area that stands in the formula is moved as it was placed. -/
lemma moved_placed {a : Area} {lead : List Char} (h : f.toList = lead ++ (a.text ++ z))
    (q : Option Qualifier) (rows cols : Int) :
    (PlacedReference.mk q (a.placed (width lead)).1 (a.placed (width lead)).2).moved f rows cols =
      some (String.ofList (a.translated rows cols)) := by
  obtain ⟨m, second⟩ := a
  simp only [PlacedReference.moved, Area.placed, Area.translated, Mention.placed]
  cases second with
  | none => cases m.address.shift rows cols <;> rfl
  | some k =>
    have h' : f.toList = (lead ++ m.text) ++ (k.joint ++ (k.mention.text ++ z)) := by
      rw [h]
      simp only [Area.text, List.append_assoc]
    have hjoint := slice?_of_toList h'
    rw [width_append] at hjoint
    simp only [Option.map_some, hjoint]
    cases hfirst : m.address.shift rows cols with
    | none => rfl
    | some first =>
      cases hsecond : k.mention.address.shift rows cols with
      | none => simp only [hsecond]
      | some second =>
        simp only [hsecond, Option.bind_eq_bind, Option.bind_some, String.ofList_append, pure]

/-- The area of a reference begins behind its qualifier. -/
lemma offset_area (h : r.text ++ rest <:+ c.text.toList) :
    c.offset (r.area.text ++ rest) = c.offset (r.text ++ rest) + width r.lead := by
  rw [Reference.text, List.append_assoc] at h ⊢
  exact c.offset_append h

/-- A reference that the cursor stands in front of is moved as it was placed. -/
lemma moved_locate (h : r.text ++ rest <:+ c.text.toList) (rows cols : Int) :
    (r.locate (c.offset (r.text ++ rest))).placed.moved c.text rows cols =
      some (String.ofList (r.area.translated rows cols)) := by
  have harea : r.area.text ++ rest <:+ r.text ++ rest :=
    ⟨r.lead, (List.append_assoc r.lead r.area.text rest).symm⟩
  obtain ⟨lead, hlead⟩ := harea.trans h
  have hmoved := moved_placed hlead.symm r.qualifier rows cols
  rw [← Cursor.offset_of_toList hlead.symm, offset_area h] at hmoved
  rw [Reference.placed_locate]
  exact hmoved

/-- The text up to a later end is the text up to an earlier one and what is between them. -/
lemma upTo_trans (h : text <:+ behind) (hr : rest <:+ text) :
    upTo behind rest = upTo behind text ++ upTo text rest := by
  obtain ⟨w, rfl⟩ := h
  obtain ⟨v, rfl⟩ := hr
  rw [upTo_append_self, upTo_append_self, ← List.append_assoc, upTo_append_self]

/-- What comes of a reading that begins at an offset when it has moved, behind `out`. -/
def Reading.moved (rd : Reading) (rows cols : Int) (offset : Nat) (out : List Char) :
    Except ParseError String :=
  match rd.fault with
  | some cause => .error ⟨offset + width (texts rd.pieces), cause⟩
  | none => .ok (String.ofList (out ++ rd.pieces.flatMap (·.translated rows cols)))

lemma moved_cons (rd : Reading) (p : Piece) (rows cols : Int) (offset : Nat) (out : List Char) :
    (rd.cons p).moved rows cols offset out =
      rd.moved rows cols (offset + width p.text) (out ++ p.translated rows cols) := by
  rw [Reading.moved, Reading.moved, Reading.cons, texts_cons, width_append, List.flatMap_cons,
    Nat.add_assoc, List.append_assoc]

/-- A formula that is moved in place is the formula translated. -/
lemma moved_read (f : String) (rows cols : Int) :
    (read f).moved rows cols 0 [] = translate f rows cols := by
  rw [Reading.moved, translate, Reading.error?, Nat.zero_add, List.nil_append]
  cases (read f).fault with
  | none => rfl
  | some cause => rfl

/-- From where the cursor stands on, the reading of the rest moves. -/
lemma translate_of_stands (hs : c.Stands ctx text) (hb : behind <:+ c.text.toList)
    (ht : text <:+ behind) (rows cols : Int) (out : List Char) {n : Nat} (hn : text.length ≤ n) :
    Cursor.translateIn rows cols (n + 1) c (String.ofList out) (c.offset behind) =
      some ((readFrom ctx text).moved rows cols (c.offset text) (out ++ upTo behind text)) := by
  -- Along the reading of the rest. What has been passed since the last reference is copied only
  -- when the next one is met, so it stands between `behind` and `text`.
  fun_induction readFrom ctx text generalizing c out behind n with
  | case1 ctx text fault e =>
    cases fault with
    | none =>
      have hgrammar := step_grammatical ctx text
      rw [e] at hgrammar
      obtain ⟨rfl, -⟩ := hgrammar rfl
      have hslice := c.slice?_offset hb ht
      rw [Cursor.offset_nil] at hslice
      rw [Cursor.translateIn, Cursor.next_end hs e]
      simp only [Option.bind_eq_bind, Option.bind_some, hslice, Reading.moved, List.flatMap_nil,
        List.append_nil, String.ofList_append]
      rfl
    | some cause =>
      obtain ⟨z, -, hnext⟩ := Cursor.next_stop hs e
      rw [Cursor.translateIn, hnext]
      rfl
  | case2 ctx text rest ctx' e _ ih =>
    obtain ⟨hr, hlt⟩ := advances_of_skip e
    have hmoved := ih (hs.skip e) hb (hr.trans ht) out (hlt.le.trans hn)
    rw [Cursor.translateIn] at hmoved
    rw [moved_cons, Piece.text, Piece.translated, ← c.offset_upTo hs.suffix hr,
      List.append_assoc, ← upTo_trans ht hr, Cursor.translateIn, Cursor.next_skip hs e]
    exact hmoved
  | case3 ctx text r rest e _ ih =>
    obtain ⟨rfl, hlt⟩ := advances_of_found e
    obtain ⟨m, rfl⟩ := Nat.exists_eq_add_one.2 (Nat.zero_lt_of_lt (hlt.trans_le hn))
    have hrest : rest <:+ r.text ++ rest := List.suffix_append _ _
    have harea : r.area.text ++ rest <:+ r.text ++ rest :=
      ⟨r.lead, (List.append_assoc r.lead r.area.text rest).symm⟩
    have hstop : c.offset (r.text ++ rest) + width r.text = c.offset rest :=
      (c.offset_append hs.suffix).symm
    -- The slice that is copied ends where the area begins: it includes the lead.
    have hbetween := c.slice?_offset hb (harea.trans ht)
    have hmoved := ih (hs.found e) (hrest.trans (ht.trans hb)) List.suffix_rfl
      (out ++ upTo behind (r.area.text ++ rest) ++ r.area.translated rows cols)
      (Nat.le_of_lt_succ (hlt.trans_le hn))
    rw [Cursor.translateIn, Cursor.next_found hs e]
    simp only [Option.bind_eq_bind, Option.bind_some, area_placed_locate, area_locate,
      ← offset_area hs.suffix, hstop, Cursor.text_into, hbetween, moved_locate hs.suffix,
      ← String.ofList_append]
    refine hmoved.trans ?_
    have hself : upTo rest rest = [] := upTo_append_self [] rest
    have hout : upTo behind (r.area.text ++ rest) = upTo behind (r.text ++ rest) ++ r.lead := by
      rw [upTo_trans ht harea, Reference.text, List.append_assoc, upTo_append_self]
    rw [moved_cons, Piece.text, Piece.translated, hstop, Cursor.offset_into, hself, hout]
    simp only [List.append_assoc, List.append_nil]

/-- A formula may be translated by copying what stands between its references. -/
lemma translate_start (f : String) (rows cols : Int) :
    (Cursor.start f).translate rows cols = some (translate f rows cols) := by
  obtain ⟨l, hsplit, -, hread⟩ := read_split f
  have hs := Cursor.stands_start f
  have hall : (Cursor.start f).text.toList = [] ++ f.toList := rfl
  have hbegin : (Cursor.start f).offset f.toList = 0 := Cursor.offset_of_toList hall
  have hbody : (Cursor.start f).offset (body f.toList) = width l := Cursor.offset_of_toList hsplit
  have hlead : upTo f.toList (body f.toList) = l := by
    nth_rewrite 1 [hsplit]
    exact upTo_append_self _ _
  have hmoved := translate_of_stands hs List.suffix_rfl hs.suffix rows cols []
    (Scan.length_le_turns hs.suffix)
  change _ = some (Reading.moved _ rows cols _ ([] ++ upTo f.toList _)) at hmoved
  rw [hbody, hlead] at hmoved
  rw [← moved_read, hread, moved_cons, Nat.zero_add]
  exact (congrArg _ hbegin.symm).trans hmoved

/-- Every reference that a cursor gives stands where it says: each stretch lies between characters
of the formula, the first before the second, and the text there is read as the address. The
references stand one after another. Going over the formula never takes a stretch that is not one of
whole characters, nor does translating it by copying what stands between the references. -/
theorem spans_exact (f : String) :
    (∀ n, ∃ c, (Cursor.start f).calls n = some ((List.range n).map ((answers f)[·]?), c)) ∧
      (∀ r, .ok r ∈ answers f → r.Exact f) ∧
      ((answers f).filterMap Except.toOption).Pairwise (fun r r' => r.area.stop ≤ r'.area.start) ∧
      ∀ rows cols, (Cursor.start f).translate rows cols = some (translate f rows cols) := by
  refine ⟨Cursor.calls_start f, fun r hr => ?_, ?_, translate_start f⟩
  · cases List.mem_append.1 hr with
    | inl hr =>
      obtain ⟨k, hk, he⟩ := List.mem_map.1 hr
      exact Except.ok.inj he ▸ exact_of_mem_located hk
    | inr hr =>
      obtain ⟨e, -, he⟩ := List.mem_map.1 hr
      exact absurd he (by simp)
  · have hreferences : (answers f).filterMap Except.toOption = (read f).located.map (·.placed) := by
      simp [answers, Function.comp_def, Except.toOption]
    rw [hreferences, List.pairwise_map]
    exact locate_pairwise (read f).pieces 0

end Precedents.Formula
