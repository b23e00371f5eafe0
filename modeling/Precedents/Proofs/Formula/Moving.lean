import Precedents.Proofs.Formula.Exchange

/-!
# Formulas that move

The references of a formula that has moved are its references moved one by one, without those that
have left the grid (`translate_references`). The text of the moved formula is put together piece by
piece, and the reading of the old text is followed on the new one: a moved address begins and ends
like an address, the error value for a lost reference is passed over, and neither changes how the
text around it is read.
-/

namespace Precedents

/-- An address that survives a move is in the grid, with its marks as they were. -/
lemma Address.shift_some {a a' : Address} {rows cols : Int} (h : a.shift rows cols = some a') :
    a'.InGrid ∧ a'.colFixed = a.colFixed := by
  simp only [Address.shift, Option.ite_none_right_eq_some, Option.some.injEq] at h
  obtain ⟨⟨hrow, hrow', hcol, hcol'⟩, rfl⟩ := h
  refine ⟨⟨?_, ?_⟩, rfl⟩
  · exact (Int.toNat_lt hrow).2 hrow'
  · exact (Int.toNat_lt hcol).2 hcol'

namespace Formula

variable {ctx ctx' : Context} {c : Char} {t w x y y' z z' : List Char} {ps : List Piece}
variable {rows cols : Int}

/-! ## What moves -/

/-- The mention of the moved address, if the grid has it. -/
def Mention.shift (m : Mention) (rows cols : Int) : Option Mention :=
  (m.address.shift rows cols).map fun a => ⟨a.chars, a⟩

/-- The area with all of its addresses moved, if the grid has them. -/
def Area.shift (a : Area) (rows cols : Int) : Option Area :=
  match a.first.shift rows cols, a.second with
  | none, _ => none
  | some first, none => some ⟨first, none⟩
  | some first, some corner =>
    (corner.mention.shift rows cols).map fun second => ⟨first, some ⟨corner.joint, second⟩⟩

/-- The reference with its area moved. What stands in front of the area stays. -/
def Reference.shift (r : Reference) (rows cols : Int) : Option Reference :=
  (r.area.shift rows cols).map fun a => { r with area := a }

/-- A piece of a formula that moves: a reference moves or is lost, and all else stays. -/
def Piece.shift (rows cols : Int) : Piece → Piece
  | plain text => plain text
  | reference r => match r.shift rows cols with
    | some r' => reference r'
    | none => plain (r.lead ++ lostReference)

/-- Whether no reference without a qualifier stands straight behind a character of a number, where
`t` stands in front of the pieces. -/
def standsClear (t : List Char) : List Piece → Bool
  | [] => true
  | .plain u :: ps => standsClear (t ++ u) ps
  | .reference r :: ps =>
    (r.qualifier.isSome || !endsInNumber t) && standsClear (t ++ r.text) ps

/-- An area is written as what it has moved to, or as lost. -/
lemma Area.translated_eq (a : Area) :
    a.translated rows cols = ((a.shift rows cols).map Area.text).getD lostReference := by
  rw [Area.shift, Area.translated, Mention.shift]
  cases a.first.address.shift rows cols with
  | none => rfl
  | some first =>
    cases a.second with
    | none => exact (List.append_nil _).symm
    | some corner =>
      simp only [Option.map_some, Mention.shift]
      cases corner.mention.address.shift rows cols with
      | none => rfl
      | some second => exact List.append_assoc _ _ _

/-- A piece is written as what it has moved to. -/
lemma Piece.translated_eq (p : Piece) :
    p.translated rows cols = (p.shift rows cols).text := by
  cases p with
  | plain t => rfl
  | reference r =>
    simp only [Piece.translated, Piece.shift, Reference.shift, Area.translated_eq]
    cases r.area.shift rows cols <;> rfl

/-- A piece that has moved is a reference if it was one and survives. -/
lemma Piece.reference?_shift (p : Piece) :
    (p.shift rows cols).reference? = p.reference?.bind (·.shift rows cols) := by
  cases p with
  | plain t => rfl
  | reference r =>
    simp only [Piece.shift, Piece.reference?, Option.bind_some]
    cases r.shift rows cols <;> rfl

/-- A written address that is shifted has moved. -/
lemma Mention.shift_moves {m m' : Mention} (h : m.shift rows cols = some m') : m.Moves m' := by
  obtain ⟨a, ha, rfl⟩ := Option.map_eq_some_iff.1 h
  obtain ⟨hin, hfixed⟩ := Address.shift_some ha
  intro hm
  refine ⟨isMention_chars hin, ?_⟩
  intro hmark
  have hcol : a.colFixed = true := hfixed.trans (hm.colFixed hmark)
  rw [Address.chars, if_pos hcol]
  rfl

/-- An area that is shifted has moved. -/
lemma Area.shift_moves {a a' : Area} (h : a.shift rows cols = some a') : a.Moves a' := by
  unfold Area.shift at h
  obtain ⟨m, second⟩ := a
  split at h
  case h_1 => exact absurd h (by simp)
  case h_2 first hm hs =>
    obtain rfl := Option.some.inj h
    obtain rfl : second = none := hs
    exact .one (Mention.shift_moves hm)
  case h_3 first corner hm hs =>
    obtain ⟨k, hk, rfl⟩ := Option.map_eq_some_iff.1 h
    obtain rfl : second = some corner := hs
    exact .two (Mention.shift_moves hm) (Mention.shift_moves hk)

/-- A piece turns into what it has moved to. -/
lemma turns_shift (rows cols : Int) (p : Piece) : Turns p (p.shift rows cols) := by
  cases p with
  | plain t => exact .plain
  | reference r =>
    simp only [Piece.shift]
    split
    case h_1 r' h =>
      obtain ⟨a, ha, rfl⟩ := Option.map_eq_some_iff.1 h
      exact .moved (Area.shift_moves ha)
    case h_2 => exact .lost

/-! ## No exponent comes to stand behind a number -/

/-- What begins like a mention or an error value is no signed number. -/
lemma leadsSigned_word (h : startsWord c = true ∨ c = '\'' ∨ c = '#') :
    leadsSigned (c :: z) = false ∧ leadsWith Char.isDigit (c :: z) = false := by
  have hdigit : c.isDigit = false := by
    rcases h with h | rfl | rfl
    · have hn := inNumber_of_startsWord h
      rw [inNumber, Bool.or_eq_false_iff] at hn
      exact hn.1
    · rfl
    · rfl
  refine ⟨?_, hdigit⟩
  rw [leadsSigned_cons, if_neg]
  · exact hdigit
  · rintro (rfl | rfl)
    · exact absurd h (by decide)
    · exact absurd h (by decide)

/-- The text of a reference that has moved or is lost begins like a mention or an error value. -/
lemma Finds.turned {r : Reference} (h : Finds ctx r z) {p : Piece} (ht : Turns (.reference r) p) :
    ∃ y, p.text = r.lead ++ y ∧ ∃ c cs, y = c :: cs ∧ (startsWord c = true ∨ c = '#') := by
  cases ht with
  | lost => exact ⟨lostReference, rfl, '#', _, rfl, .inr rfl⟩
  | @moved o l a a' ha =>
    obtain ⟨name, harea⟩ := h.isArea
    obtain ⟨c, cs, e, hc, -⟩ := (ha.isArea harea).1.head
    refine ⟨a'.text, rfl, c, ?_⟩
    rw [Area.text, e]
    exact ⟨_, rfl, .inl hc⟩

/-- What may become of the texts behind numbers when formulas move: no sign, digit or exponent comes
to stand where there was none. -/
structure Tames (z z' : List Char) : Prop where
  digit : leadsWith Char.isDigit z' = true → leadsWith Char.isDigit z = true
  signed : leadsSigned z' = true → leadsSigned z = true

/-- Behind the first piece of a passage that moves, and in front of it unless it is an area, there
is no new exponent. -/
lemma Passes.tames (h : Passes ctx ps x ctx') :
    Tames (texts ps ++ x) (texts (ps.map (·.shift rows cols)) ++ x) ∧
      ((∀ r post, ps = .reference r :: post → r.qualifier ≠ none) →
        leadsExponent (texts (ps.map (·.shift rows cols)) ++ x) = true →
          leadsExponent (texts ps ++ x) = true) := by
  induction h with
  | nil => exact ⟨⟨id, id⟩, fun _ => id⟩
  | skip hs _ ih =>
    have hne := hs.ne_nil
    rw [List.map_cons, texts_cons, texts_cons, List.append_assoc, List.append_assoc]
    refine ⟨⟨?_, leadsSigned_append ih.1.digit fun e => absurd e hne⟩, fun _ => ?_⟩
    · obtain ⟨d, ds, rfl⟩ := List.exists_cons_of_ne_nil hne
      exact id
    · exact leadsExponent_append ih.1.digit (fun _ _ _ => ih.1.signed) fun e => absurd e hne
  | @found ctx ctx' r x ps hf _ ih =>
    obtain ⟨y, hy, c, cs, rfl, hc⟩ := hf.turned (turns_shift rows cols (.reference r))
    rw [List.map_cons, texts_cons, texts_cons, hy]
    simp only [Piece.text, Reference.text, List.append_assoc]
    -- What has become of the area begins with no digit and no sign.
    obtain ⟨hsigned, hdigit⟩ := leadsSigned_word (c := c)
      (z := cs ++ (texts (ps.map (·.shift rows cols)) ++ x)) (hc.imp_right .inr)
    have hd {y : List Char} (h : leadsWith Char.isDigit
        ((c :: cs) ++ (texts (ps.map (·.shift rows cols)) ++ x)) = true) :
        leadsWith Char.isDigit y = true := absurd (hdigit.symm.trans h) Bool.false_ne_true
    have hs {y : List Char} (h : leadsSigned
        ((c :: cs) ++ (texts (ps.map (·.shift rows cols)) ++ x)) = true) :
        leadsSigned y = true := absurd (hsigned.symm.trans h) Bool.false_ne_true
    refine ⟨⟨?_, leadsSigned_append hd fun _ => hs⟩, fun hq => ?_⟩
    · cases hl : r.lead with
      | nil => exact hd
      | cons d ds => exact id
    · refine leadsExponent_append hd (fun _ _ _ => hs) ?_
      intro hl
      cases hf with
      | bare => exact absurd rfl (hq _ _ rfl)
      | qualified hlead =>
        obtain ⟨d, ds, e, -⟩ := hlead.head
        exact absurd (hl.symm.trans e) (by simp)

lemma endsInNumber_append (h : endsInNumber t = true) (w : List Char) :
    endsInNumber (w ++ t) = true := by
  obtain ⟨c, hc, hn⟩ := (Option.any_eq_true _ _).1 h
  rw [endsInNumber, List.getLast?_append, hc]
  exact hn

/-- A passage is rewritten into what its pieces have moved to. -/
lemma Passes.rewrites (h : Passes ctx ps x ctx') (hc : standsClear t ps = true)
    (rows cols : Int) : Rewrites ps x (ps.map (·.shift rows cols)) x := by
  induction h generalizing t with
  | nil => exact .nil ⟨.refl _, .refl _⟩
  | skip hs hp ih =>
    refine .cons (turns_shift rows cols _) ?_ (ih hc)
    rintro u ⟨⟩ hu
    apply hp.tames.2
    rintro r post rfl hq
    have hclear := (Bool.and_eq_true_iff.1 hc).1
    rw [hq, endsInNumber_append hu] at hclear
    exact Bool.false_ne_true hclear
  | found hf hp ih =>
    exact .cons (turns_shift rows cols _) nofun (ih (Bool.and_eq_true_iff.1 hc).2)

/-! ## What stays of a text -/

lemma Area.translated_ne_nil (a : Area) (rows cols : Int) : a.translated rows cols ≠ [] := by
  intro h
  unfold Area.translated at h
  split at h
  case h_1 => exact absurd h (by decide)
  case h_2 => exact Address.chars_ne_nil _ h
  case h_3 =>
    split at h
    case h_1 => exact absurd h (by decide)
    case h_2 =>
      have hfirst := List.append_eq_nil_iff.1 (List.append_eq_nil_iff.1 h).1
      exact Address.chars_ne_nil _ hfirst.1

lemma Piece.text_of_translated_nil {p : Piece} (h : p.translated rows cols = []) : p.text = [] := by
  cases p with
  | plain t => exact h
  | reference r => exact absurd (List.append_eq_nil_iff.1 h).2 (r.area.translated_ne_nil rows cols)

/-- The pieces of a formula without a fault make up its text. -/
lemma texts_of_error? {f : String} (h : (read f).error? = none) :
    texts (read f).pieces = f.toList := by
  obtain ⟨l, hs, -, hread⟩ := read_split f
  have hfault : (readFrom .start (body f.toList)).fault = none := by
    rw [Reading.error?, hread] at h
    exact Option.map_eq_none_iff.1 h
  generalize hr : readFrom .start (body f.toList) = r at hread hfault
  obtain ⟨ps, fault⟩ := r
  obtain rfl : fault = none := hfault
  rw [hread, hs, (passes_of_readFrom hr).1]
  rfl

/-- A formula does not become empty when it moves. -/
theorem translate_ne_empty {f g : String} (hf : f ≠ "") (h : translate f rows cols = .ok g) :
    g ≠ "" := by
  rintro rfl
  cases he : (read f).error? with
  | some e =>
    rw [translate, he] at h
    cases h
  | none =>
    rw [translate, he] at h
    have hnil : (read f).pieces.flatMap (·.translated rows cols) = [] :=
      String.ofList_eq_empty_iff.1 (Except.ok.inj h)
    have htexts : texts (read f).pieces = [] :=
      List.flatMap_eq_nil_iff.2 fun p hp =>
        Piece.text_of_translated_nil (List.flatMap_eq_nil_iff.1 hnil p hp)
    rw [texts_of_error? he] at htexts
    exact hf (String.toList_eq_nil_iff.1 htexts)

/-! ## Translation -/

/-- A formula with a fault does not move, and the fault is reported. A formula without one moves as
its references do: they are read from the moved formula in their order, each with its qualifier and
its fixed parts, and those that have left the grid are missing. -/
theorem translate_references (f : String) (rows cols : Int) :
    (∀ e, (read f).error? = some e → translate f rows cols = .error e) ∧
      ((read f).error? = none → standsClear [] (read f).pieces = true →
        ∃ g, translate f rows cols = .ok g ∧ (read g).error? = none ∧
          (read g).references = (read f).references.filterMap (·.shift rows cols)) := by
  constructor
  · intro e he
    rw [translate, he]
    rfl
  · intro he hclear
    obtain ⟨l, hs, hl, hread⟩ := read_split f
    have hfault : (readFrom .start (body f.toList)).fault = none := by
      rw [Reading.error?, hread] at he
      exact Option.map_eq_none_iff.1 he
    generalize hr : readFrom .start (body f.toList) = r at hread hfault
    obtain ⟨ps, fault⟩ := r
    obtain rfl : fault = none := hfault
    obtain ⟨ht, ctx', hp, hparens, hbraces⟩ := passes_of_readFrom hr
    rw [hread] at hclear
    -- Every piece turns into its moved form, in front of what follows it.
    have hmoved := (hp.rewrite (hp.rewrites hclear rows cols)).1
    have hwhole := (passes_others hl _).append hmoved
    have hctx : ctx'.plain = .start := by
      rw [Context.plain, hparens, hbraces]
      rfl
    refine ⟨String.ofList (l ++ texts (ps.map (·.shift rows cols))), ?_, ?_⟩
    · rw [translate, he, hread]
      simp [Reading.cons, Piece.translated_eq, texts, List.flatMap_map, pure, Except.pure,
        Piece.shift, Piece.text]
    · have happ : (String.ofList (l ++ texts (ps.map (·.shift rows cols)))).toList =
          texts ((l.map fun c => .plain [c]) ++ ps.map (·.shift rows cols)) := by
        rw [String.toList_ofList, texts_append, texts_singles]
      obtain ⟨hfault, hrefs⟩ := read_of_passes happ hwhole hctx
      refine ⟨by rw [Reading.error?, hfault]; rfl, ?_⟩
      have hl : (l.map fun c => Piece.plain [c]).filterMap Piece.reference? = [] := by
        simp [Piece.reference?]
      have hps : (read f).references = ps.filterMap Piece.reference? := by rw [hread]; rfl
      rw [hrefs, hps, List.filterMap_append, hl, List.nil_append, List.filterMap_map,
        List.filterMap_filterMap]
      exact congrArg (fun g => ps.filterMap g) (funext fun p => p.reference?_shift)

/-- A formula of which one reference leaves the grid, one area moves and one row stays. -/
theorem translate_references_lost :
    (read "=A1-'S T'!C2:C$3&2E5*B$1").error? = none ∧
      standsClear [] (read "=A1-'S T'!C2:C$3&2E5*B$1").pieces = true ∧
      ∃ g, translate "=A1-'S T'!C2:C$3&2E5*B$1" (-1) 1 = .ok g ∧ (read g).error? = none ∧
        (read g).references =
          (read "=A1-'S T'!C2:C$3&2E5*B$1").references.filterMap (·.shift (-1) 1) := by
  have h : (read "=A1-'S T'!C2:C$3&2E5*B$1").error? = none := by decide +kernel
  have hc : standsClear [] (read "=A1-'S T'!C2:C$3&2E5*B$1").pieces = true := by decide +kernel
  exact ⟨h, hc, (translate_references _ _ _).2 h hc⟩

end Formula

end Precedents
