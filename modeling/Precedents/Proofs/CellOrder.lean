import Precedents.Proofs.SheetCells

/-!
# The order of cells

A cell is decoded with the shared formulas of the cells before it and with nothing else of them, and
a cell without a shared formula neither sees these nor changes them (`decode_unshared`). Where two
cells are stored at different places, it does not matter which is stored first (`put_swap`). So two
neighbours that do not both share a formula may change places (`add_swap`), and cells may come in
any order that those with shared formulas agree on (`addAll_perm`). With what is known of parts cut
into cells this says that no cell of a part leaves anything behind for the others but its shared
formula (`cells_apart`).
-/

namespace Precedents.SheetPart

open Markup

/-- The place that an address names, if it is a valid one. -/
def placeOf? (reference : String) : Option Position :=
  (Address.parse reference).toOption.map fun a => ⟨a.row, a.col⟩

/-- The place that the tag of a cell names. -/
def Element.place? (c : Element) : Option Position := (c.tag.value? "r").bind placeOf?

/-- Whether the tag of a shared formula stands here. -/
def marksShared : Event → Bool
  | .opening tag => tag.isNamed "f" && isShared tag
  | .empty tag => tag.isNamed "f" && isShared tag
  | _ => false

/-- Whether the formula of a cell is shared. -/
def Element.shares (c : Element) : Bool := c.inside.any marksShared

/-- Nothing keeps two cells from changing places: at most one of them shares its formula, and they
are not stored at the same place. -/
structure Element.Apart (c d : Element) : Prop where
  shares : c.shares = false ∨ d.shares = false
  place : ∀ p, c.place? = some p → d.place? ≠ some p

/-- Two orders of the same cells, which are all at different places. Those that share formulas come
in the same order. -/
structure Reordered (cs ds : List Element) : Prop where
  perm : cs.Perm ds
  shares : cs.filter (·.shares) = ds.filter (·.shares)
  places : (cs.filterMap (·.place?)).Nodup

lemma Reordered.symm {cs ds : List Element} (h : Reordered cs ds) : Reordered ds cs :=
  ⟨h.perm.symm, h.shares.symm, h.places.perm (h.perm.filterMap _)⟩

variable {strings : Array String} {s t : State} {e : Event} {es es' : List Event}
variable {opened : List (List UInt8)} {m n : Masters} {c d : Element} {cs ds : List Element}
variable {ws ws₁ ws₂ : Worksheet} {p q : Position} {cell cell' : Cell} {x y z : Worksheet × Masters}
variable {stored stored' : Option (Position × Cell)}

/-! ## What a cell depends on -/

/-- A formula tag that shares nothing leaves the index of a shared formula alone. -/
lemma sharedIndex_withFormulaTag {pending : PendingCell} {tag : Tag} (h : isShared tag = false) :
    (withFormulaTag pending tag).sharedIndex = pending.sharedIndex := by
  rw [withFormulaTag, h]
  rfl

/-- Inside a cell its address stays, and so does its index, except at the tag of a shared
formula. -/
lemma event_keeps (h : ¬ e.Bounds "c") (hs : s.event strings e = .ok t) :
    t.pending.reference = s.pending.reference ∧
      (marksShared e = false → t.pending.sharedIndex = s.pending.sharedIndex) := by
  cases e with
  | opening tag =>
    obtain rfl := Except.ok.inj hs
    rw [State.opening, isNamed_eq_false h, if_neg Bool.false_ne_true]
    split_ifs with hv hf hi ht
    · exact ⟨rfl, fun _ => rfl⟩
    · refine ⟨rfl, fun hm => sharedIndex_withFormulaTag ?_⟩
      rwa [marksShared, (Bool.and_eq_true_iff.1 hf).1, Bool.true_and] at hm
    · exact ⟨rfl, fun _ => rfl⟩
    · exact ⟨rfl, fun _ => rfl⟩
    · exact ⟨rfl, fun _ => rfl⟩
  | empty tag =>
    obtain rfl := Except.ok.inj hs
    split_ifs with hf
    · refine ⟨rfl, fun hm => sharedIndex_withFormulaTag ?_⟩
      rwa [marksShared, (Bool.and_eq_true_iff.1 hf).2, Bool.true_and] at hm
    · exact ⟨rfl, fun _ => rfl⟩
  | closing name =>
    have hname : localName name ≠ ascii "c" := h
    change s.closing strings name = _ at hs
    simp only [State.closing, if_neg hname] at hs
    split_ifs at hs
    all_goals
      obtain rfl := Except.ok.inj hs
      exact ⟨rfl, fun _ => rfl⟩
  -- The flags tell where the text goes: never to the reference or to the index.
  | text content =>
    obtain ⟨sheet, masters, pending, ⟨cell, value, formula, inline, inlineText⟩⟩ := s
    cases content <;> cases value <;> cases formula <;> cases inlineText <;> cases hs <;>
      exact ⟨rfl, fun _ => rfl⟩
  | other =>
    obtain rfl := Except.ok.inj hs
    exact ⟨rfl, fun _ => rfl⟩

/-- Events that bound no cell keep the reference of the cell, and its shared index unless one of
them marks a shared formula. -/
lemma run_keeps (h : ∀ e ∈ es, ¬ e.Bounds "c") (hs : s.run strings es = .ok t) :
    t.pending.reference = s.pending.reference ∧
      (es.any marksShared = false → t.pending.sharedIndex = s.pending.sharedIndex) := by
  induction es generalizing s with
  | nil =>
    obtain rfl := Except.ok.inj hs
    exact ⟨rfl, fun _ => rfl⟩
  | cons e es ih =>
    obtain ⟨he, hes⟩ := List.forall_mem_cons.1 h
    rw [run_cons] at hs
    obtain ⟨u, hu, hs⟩ := exists_ok_of_bind hs
    obtain ⟨href, hindex⟩ := event_keeps he hu
    obtain ⟨href', hindex'⟩ := ih hes hs
    refine ⟨href'.trans href, fun hany => ?_⟩
    rw [List.any_cons, Bool.or_eq_false_iff] at hany
    exact (hindex' hany.2).trans (hindex hany.1)

/-- A cell that is collected is stored at the place that its reference tells. -/
lemma collected_place (h : s.collected strings = .ok (stored, m)) :
    stored.map (·.1) = s.pending.reference.bind placeOf? := by
  unfold State.collected at h
  split at h
  case h_1 hr =>
    obtain ⟨rfl, -⟩ := Prod.mk.inj (Except.ok.inj h)
    rw [hr]
    rfl
  case h_2 reference hr =>
    split at h
    case h_1 => cases h
    case h_2 a ha =>
      obtain ⟨_, -, h⟩ := exists_ok_of_bind h
      obtain ⟨rfl, -⟩ := Prod.mk.inj (Except.ok.inj h)
      rw [hr, Option.bind_some, placeOf?, ha]
      rfl

/-- A cell is stored at the place that its tag names. -/
lemma decode_place (hc : c.Proper) (h : c.decode strings m = .ok (stored, n)) :
    stored.map (·.1) = c.place? := by
  rw [Element.decode, run_opening hc.named] at h
  obtain ⟨t, ht, h⟩ := exists_ok_of_bind h
  rw [collected_place h, (run_keeps hc.plain ht).1]
  rfl

/-- A cell without an index has nothing to do with shared formulas. -/
lemma content_unindexed {pending : PendingCell} {a : Address} (h : pending.sharedIndex = none) :
    pending.content strings m a = (fun x => (x.1, m)) <$> pending.content strings n a := by
  obtain ⟨reference, type, value, formula, index⟩ := pending
  obtain rfl : index = none := h
  have habsent : ∀ k : Masters, (do return (← Cell.ofValue strings type value, k)) =
      (fun x => (x.1, k)) <$> (do return (← Cell.ofValue strings type value, n)) := by
    intro k
    cases Cell.ofValue strings type value <;> rfl
  cases formula with
  | none => exact habsent m
  | some source =>
    by_cases hsource : source = ""
    · subst hsource
      exact habsent m
    · simp only [PendingCell.content, PendingCell.slot, if_neg hsource]
      rfl

/-- A cell without a shared index is collected in the same way whatever the sheet and the masters
are. -/
lemma collected_over (h : s.pending.sharedIndex = none) {sheet : Worksheet} :
    (s.over sheet m).collected strings = (fun x => (x.1, m)) <$> s.collected strings := by
  obtain ⟨_, masters, pending, opened⟩ := s
  unfold State.collected State.over
  dsimp only
  split
  case h_1 => rfl
  case h_2 reference _ =>
    split
    case h_1 => rfl
    case h_2 a _ =>
      rw [content_unindexed (n := masters) h, bind_map_left, map_bind]
      rfl

/-- A cell that shares no formula is decoded alike with any shared formulas, and leaves them as they
are. -/
lemma decode_unshared (hc : c.Proper) (h : c.shares = false) :
    c.decode strings m = (fun x => (x.1, m)) <$> c.decode strings n := by
  rw [Element.decode, Element.decode, run_opening hc.named, run_opening hc.named]
  change ((State.mk (.empty "") n (cellOfTag c.tag) cellAlone).over (.empty "") m).run strings _ >>=
    _ = _
  rw [run_over (not_endsCell hc.plain), bind_map_left, map_bind]
  apply bind_congr_of_ok
  intro t ht
  exact collected_over ((run_keeps hc.plain ht).2 h)

/-- Decoding a cell that shares nothing neither depends on the masters nor adds to them. -/
lemma decode_unshared_ok (hc : c.Proper) (h : c.shares = false)
    (hd : c.decode strings m = .ok (stored, n)) :
    n = m ∧ ∀ k, c.decode strings k = .ok (stored, k) := by
  have hall : ∀ k, c.decode strings k = .ok (stored, k) := by
    intro k
    rw [decode_unshared hc h (n := m), hd]
    rfl
  rw [hall m] at hd
  exact ⟨(Prod.mk.inj (Except.ok.inj hd)).2.symm, hall⟩

/-! ## Neighbours -/

/-- Two cells that do not both share a formula are decoded alike in both orders. -/
lemma decode_swap (hc : c.Proper) (hd : d.Proper) (h : c.shares = false ∨ d.shares = false)
    {m₁ m₂ : Masters} (h₁ : c.decode strings m = .ok (stored, m₁))
    (h₂ : d.decode strings m₁ = .ok (stored', m₂)) :
    ∃ m₃, d.decode strings m = .ok (stored', m₃) ∧ c.decode strings m₃ = .ok (stored, m₂) := by
  rcases h with h | h
  · obtain ⟨rfl, hall⟩ := decode_unshared_ok hc h h₁
    exact ⟨m₂, h₂, hall m₂⟩
  · obtain ⟨rfl, hall⟩ := decode_unshared_ok hd h h₂
    exact ⟨m, hall m, h₁⟩

/-- Worksheets are the same if their names and all their cells are. -/
lemma worksheet_ext (hname : ws.name = ws₁.name) (h : ∀ q, ws.cell? q = ws₁.cell? q) :
    ws = ws₁ := by
  obtain ⟨name, cells⟩ := ws
  obtain ⟨name₁, cells₁⟩ := ws₁
  obtain rfl : name = name₁ := hname
  exact congrArg (Worksheet.mk name) (Std.ExtTreeMap.ext_getElem? h)

/-- Two cells at different places can be stored in either order. -/
lemma setAt_swap (hpq : p ≠ q) (h₁ : ws.setAt p cell = .ok ws₁) (h₂ : ws₁.setAt q cell' = .ok ws₂) :
    ∃ ws₃, ws.setAt q cell' = .ok ws₃ ∧ ws₃.setAt p cell = .ok ws₂ := by
  obtain ⟨hname₁, hp, hcells₁⟩ := Workbook.cell?_setAt h₁
  obtain ⟨hname₂, hq, hcells₂⟩ := Workbook.cell?_setAt h₂
  obtain ⟨ws₃, h₃⟩ := Workbook.exists_sheet_setAt ws hq.1 hq.2 cell'
  obtain ⟨ws₄, h₄⟩ := Workbook.exists_sheet_setAt ws₃ hp.1 hp.2 cell
  obtain ⟨hname₃, -, hcells₃⟩ := Workbook.cell?_setAt h₃
  obtain ⟨hname₄, -, hcells₄⟩ := Workbook.cell?_setAt h₄
  have hsame : ws₄ = ws₂ := by
    apply worksheet_ext
    · rw [hname₄, hname₃, hname₂, hname₁]
    · intro r
      rw [hcells₄, hcells₃, hcells₂, hcells₁]
      by_cases hr : r = p
      · subst hr
        rw [if_pos rfl, if_pos rfl, if_neg hpq]
      · rw [if_neg hr, if_neg hr]
  exact ⟨ws₃, h₃, hsame ▸ h₄⟩

/-- Putting a cell is storing it at its place. -/
lemma put_some : put ws (some (p, cell)) = .ok ws₁ ↔ ws.setAt p cell = .ok ws₁ := by
  rw [put]
  cases ws.setAt p cell with
  | error why => exact ⟨nofun, nofun⟩
  | ok ws' => simp [Except.mapError]

/-- What is stored at different places may be stored in any order. -/
lemma put_swap (hapart : ∀ p, stored.map (·.1) = some p → stored'.map (·.1) ≠ some p)
    (h₁ : put ws stored = .ok ws₁) (h₂ : put ws₁ stored' = .ok ws₂) :
    ∃ ws₃, put ws stored' = .ok ws₃ ∧ put ws₃ stored = .ok ws₂ := by
  cases stored with
  | none =>
    obtain rfl := Except.ok.inj h₁
    exact ⟨ws₂, h₂, rfl⟩
  | some a =>
    cases stored' with
    | none =>
      obtain rfl := Except.ok.inj h₂
      exact ⟨ws, rfl, h₁⟩
    | some b =>
      have hne : a.1 ≠ b.1 := fun he => hapart b.1 (congrArg some he) rfl
      obtain ⟨ws₃, h₃, h₄⟩ := setAt_swap hne (put_some.1 h₁) (put_some.1 h₂)
      exact ⟨ws₃, put_some.2 h₃, put_some.2 h₄⟩

/-- Adding an element is decoding it and putting what comes of it. -/
lemma add_ok : c.add strings x = .ok y ↔
    ∃ stored, c.decode strings x.2 = .ok (stored, y.2) ∧ put x.1 stored = .ok y.1 := by
  constructor
  · intro h
    obtain ⟨⟨stored, masters⟩, hd, h⟩ := exists_ok_of_bind h
    obtain ⟨sheet, hput, h⟩ := exists_ok_of_bind h
    obtain rfl := Except.ok.inj h
    exact ⟨stored, hd, hput⟩
  · rintro ⟨stored, hd, hput⟩
    rw [Element.add, hd]
    change put x.1 stored >>= _ = _
    rw [hput]
    rfl

/-- Two neighbours may change places. -/
lemma add_swap (hc : c.Proper) (hd : d.Proper) (hapart : c.Apart d)
    (h₁ : c.add strings x = .ok y) (h₂ : d.add strings y = .ok z) :
    ∃ y', d.add strings x = .ok y' ∧ c.add strings y' = .ok z := by
  obtain ⟨stored, hdecode₁, hput₁⟩ := add_ok.1 h₁
  obtain ⟨stored', hdecode₂, hput₂⟩ := add_ok.1 h₂
  obtain ⟨m, hdecode₁', hdecode₂'⟩ := decode_swap hc hd hapart.shares hdecode₁ hdecode₂
  have hplaces : ∀ p, stored.map (·.1) = some p → stored'.map (·.1) ≠ some p := by
    rw [decode_place hc hdecode₁, decode_place hd hdecode₂]
    exact hapart.place
  obtain ⟨ws, hput₁', hput₂'⟩ := put_swap hplaces hput₁ hput₂
  exact ⟨(ws, m), add_ok.2 ⟨stored', hdecode₁', hput₁'⟩, add_ok.2 ⟨stored, hdecode₂', hput₂'⟩⟩

/-! ## Any order -/

lemma addAll_cons :
    addAll strings x (c :: cs) = c.add strings x >>= (addAll strings · cs) :=
  List.foldlM_cons

/-- A cell may be moved over those before it to the front. -/
lemma addAll_front (hc : c.Proper) (hcs : ∀ b ∈ cs, b.Proper ∧ b.Apart c)
    (h : addAll strings x (cs ++ c :: ds) = .ok z) :
    addAll strings x (c :: (cs ++ ds)) = .ok z := by
  induction cs generalizing x with
  | nil => exact h
  | cons b cs ih =>
    obtain ⟨⟨hb, hapart⟩, hcs⟩ := List.forall_mem_cons.1 hcs
    rw [List.cons_append, addAll_cons] at h
    obtain ⟨y, hy, h⟩ := exists_ok_of_bind h
    have hfront := ih hcs h
    rw [addAll_cons] at hfront
    obtain ⟨u, hu, hfront⟩ := exists_ok_of_bind hfront
    obtain ⟨y', hy', hu'⟩ := add_swap hb hc hapart hy hu
    rw [addAll_cons, hy', List.cons_append]
    change addAll strings y' (b :: (cs ++ ds)) = _
    rw [addAll_cons, hu']
    exact hfront

/-- Where cells are the first ones of two orders, those before it do not share formulas. -/
lemma filter_split {as bs : List Element} (hnot : c ∉ as)
    (h : (as ++ c :: bs).filter (·.shares) = (c :: ds).filter (·.shares)) :
    (∀ a ∈ as, a.shares = false ∨ c.shares = false) ∧
      (as ++ bs).filter (·.shares) = ds.filter (·.shares) := by
  rw [List.filter_append] at h
  cases hc : c.shares with
  | false =>
    rw [List.filter_cons_of_neg (by simp [hc]), List.filter_cons_of_neg (by simp [hc])] at h
    exact ⟨fun a _ => .inr rfl, by rw [List.filter_append, h]⟩
  | true =>
    rw [List.filter_cons_of_pos hc, List.filter_cons_of_pos hc] at h
    cases hfirst : as.filter (·.shares) with
    | nil =>
      rw [hfirst] at h
      refine ⟨fun a ha => .inl ?_, ?_⟩
      · simpa using List.filter_eq_nil_iff.1 hfirst a ha
      · rw [List.filter_append, hfirst]
        exact (List.cons.inj h).2
    | cons a rest =>
      -- The first cell that shares a formula is the same in both orders.
      rw [hfirst] at h
      obtain rfl := (List.cons.inj h).1
      exact absurd (List.mem_of_mem_filter (hfirst ▸ List.mem_cons_self)) hnot

/-- Where no place is taken twice, no element before another has its place. -/
lemma place_apart {as bs : List Element} (h : ((as ++ c :: bs).filterMap (·.place?)).Nodup) :
    ∀ a ∈ as, ∀ p, a.place? = some p → c.place? ≠ some p := by
  intro a ha p hp hp'
  rw [List.filterMap_append, List.nodup_append] at h
  exact h.2.2 p (List.mem_filterMap.2 ⟨a, ha, hp⟩) p
    (List.mem_filterMap.2 ⟨c, List.mem_cons_self, hp'⟩) rfl

/-- Cells at different places may come in any order that keeps those with shared formulas in
theirs. -/
theorem addAll_reordered (hcs : ∀ c ∈ cs, c.Proper) (hreordered : Reordered cs ds)
    (h : addAll strings x cs = .ok z) : addAll strings x ds = .ok z := by
  obtain ⟨hperm, hshares, hplaces⟩ := hreordered
  induction ds generalizing cs x with
  | nil => rwa [hperm.eq_nil] at h
  | cons d ds ih =>
    obtain ⟨as, bs, rfl, hnot⟩ := List.eq_append_cons_of_mem (hperm.mem_iff.2 List.mem_cons_self)
    obtain ⟨hsplit, hshares'⟩ := filter_split hnot hshares
    have hfront : ∀ a ∈ as, a.Proper ∧ a.Apart d := fun a ha =>
      ⟨hcs a (List.mem_append_left _ ha), hsplit a ha, place_apart hplaces a ha⟩
    have hd : d.Proper := hcs d (List.mem_append_right _ List.mem_cons_self)
    have hmoved := addAll_front hd hfront h
    have hmiddle : (as ++ d :: bs).Perm (d :: (as ++ bs)) := List.perm_middle
    have hsublist : (as ++ bs).Sublist (as ++ d :: bs) :=
      (List.sublist_cons_self d bs).append_left as
    rw [addAll_cons] at hmoved ⊢
    obtain ⟨y, hy, hmoved⟩ := exists_ok_of_bind hmoved
    rw [hy]
    exact ih (fun c hc => hcs c (hsublist.subset hc)) hmoved
      (hmiddle.symm.trans hperm).cons_inv hshares' (hplaces.sublist (hsublist.filterMap _))

/-- Parts with the same cells in different orders are read alike, if one of them can be read. -/
lemma read_reordered {opened' : List (List UInt8)} {sheet : Worksheet} {complete : Bool}
    (h : Nested [] es opened) (h' : Nested [] es' opened') (hrest : unfinished es' = unfinished es)
    (hcells : Reordered (cells es) (cells es'))
    (hread : read sheet strings ⟨es, complete⟩ = .ok ws) :
    read sheet strings ⟨es', complete⟩ = .ok ws := by
  rw [read_nested h] at hread
  obtain ⟨x, hx, hread⟩ := exists_ok_of_bind hread
  rw [read_nested h', hrest, addAll_reordered (h.cut (by simp)).proper hcells hx]
  exact hread

/-- Nothing of a cell is left for the next but shared formulas. After the end of a cell nothing is
open and nothing is known of one; a part is read as its cells are decoded on their own, with the
shared formulas of those before, and stored; and two orders of cells at different places, in which
those with shared formulas come alike, are read to the same sheet or are both refused. -/
theorem cells_apart (h : Nested [] es opened) (strings : Array String) (sheet : Worksheet) :
    (∀ before name after s, es = before ++ .closing name :: after → localName name = ascii "c" →
      (State.start sheet).run strings (before ++ [.closing name]) = .ok s →
      s.opened = .none ∧ s.pending = .none) ∧
    (∀ complete ws, read sheet strings ⟨es, complete⟩ = .ok ws →
      ∃ masters, addAll strings (sheet, ∅) (cells es) = .ok (ws, masters)) ∧
    ∀ es' opened' complete ws, Nested [] es' opened' → unfinished es' = unfinished es →
      Reordered (cells es) (cells es') →
      (read sheet strings ⟨es, complete⟩ = .ok ws ↔
        read sheet strings ⟨es', complete⟩ = .ok ws) := by
  refine ⟨?_, ?_, ?_⟩
  · rintro before name after s rfl hname hs
    exact h.fresh hname hs
  · intro complete ws hread
    rw [read_nested h] at hread
    obtain ⟨x, hx, hread⟩ := exists_ok_of_bind hread
    obtain ⟨t, ht, hread⟩ := exists_ok_of_bind hread
    cases complete with
    | false => cases hread
    | true =>
      obtain rfl := Except.ok.inj hread
      exact ⟨x.2, hx⟩
  · intro es' opened' complete ws h' hrest hcells
    exact ⟨read_reordered h h' hrest hcells, read_reordered h' h hrest.symm hcells.symm⟩

/-- A tag with attributes. -/
def tagOf (name : String) (attributes : List (String × String)) : Tag :=
  ⟨ascii name, attributes.map fun (key, raw) => ⟨ascii key, ascii raw⟩⟩

/-- A formula that is shared with the cell below. -/
def masterEvents : List Event :=
  [.opening (tagOf "c" [("r", "B1")]), .opening (tagOf "f" [("t", "shared"), ("si", "0")]),
    .text (some "A1"), .closing (ascii "f"), .closing (ascii "c")]

/-- A cell that shares the formula above. -/
def sharingEvents : List Event :=
  [.opening (tagOf "c" [("r", "B2")]), .empty (tagOf "f" [("t", "shared"), ("si", "0")]),
    .closing (ascii "c")]

/-- A cell with a text. -/
def textEvents : List Event :=
  [.opening (tagOf "c" [("r", "A1")]), .opening (tagOf "is" []), .opening (tagOf "t" []),
    .text (some "x"), .closing (ascii "t"), .closing (ascii "is"), .closing (ascii "c")]

/-- The cell of a text in front of a master and a cell that shares its formula, where it has been
behind them. -/
theorem cells_apart_text_first :
    ∃ s ws masters,
      (State.start (.empty "S")).run #[] masterEvents = .ok s ∧ s.opened = .none ∧
      s.pending = .none ∧
      addAll #[] (.empty "S", ∅) (cells (masterEvents ++ sharingEvents ++ textEvents)) =
        .ok (ws, masters) ∧
      read (.empty "S") #[] ⟨textEvents ++ (masterEvents ++ sharingEvents), true⟩ = .ok ws ∧
      ws.toList = [(⟨0, 0⟩, .text "x"), (⟨0, 1⟩, .formula "=A1"), (⟨1, 1⟩, .formula "=A2")] := by
  have hmaster : Nested [] masterEvents [] :=
    .opening (by decide) (.opening (by decide) (.flat rfl (.closing (.closing .nil))))
  have hsharing : Nested [] sharingEvents [] := .opening (by decide) (.flat rfl (.closing .nil))
  have htext : Nested [] textEvents [] :=
    .opening (by decide) (.opening (by decide) (.opening (by decide)
      (.flat rfl (.closing (.closing (.closing .nil))))))
  have hlast := (hmaster.append hsharing).append htext
  have hfirst := htext.append (hmaster.append hsharing)
  have hreordered : Reordered (cells (masterEvents ++ sharingEvents ++ textEvents))
      (cells (textEvents ++ (masterEvents ++ sharingEvents))) :=
    ⟨by decide +kernel, by decide +kernel, by decide +kernel⟩
  have hread : (read (.empty "S") #[] ⟨masterEvents ++ sharingEvents ++ textEvents, true⟩).map
      (·.toList) = .ok
        [(⟨0, 0⟩, .text "x"), (⟨0, 1⟩, .formula "=A1"), (⟨1, 1⟩, .formula "=A2")] := by
    decide +kernel
  obtain ⟨ws, hws, hcells⟩ := Workbook.exists_ok_of_map hread
  obtain ⟨hfresh, hadded, horder⟩ := cells_apart hlast #[] (.empty "S")
  obtain ⟨masters, hmasters⟩ := hadded true ws hws
  have hother := (horder _ _ true ws hfirst (by decide +kernel) hreordered).1 hws
  obtain ⟨s, hs⟩ : ∃ s, (State.start (.empty "S")).run #[] masterEvents = .ok s := by
    rw [read_eq] at hws
    obtain ⟨t, ht, -⟩ := exists_ok_of_bind hws
    rw [List.append_assoc, run_append] at ht
    obtain ⟨s, hs, -⟩ := exists_ok_of_bind ht
    exact ⟨s, hs⟩
  obtain ⟨hopened, hpending⟩ :=
    hfresh masterEvents.dropLast (ascii "c") (sharingEvents ++ textEvents) s rfl (by decide) hs
  exact ⟨s, ws, masters, hs, hopened, hpending, hmasters, hother, hcells⟩

end Precedents.SheetPart
