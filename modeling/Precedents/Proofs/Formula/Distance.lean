import Precedents.Proofs.Formula.Moving
import Precedents.Proofs.Token

/-!
# Distances add up

A formula that moves by one distance and then by another reads as if it had moved by their sum
(`translate_adds_up`), provided that the first distance leaves all of its addresses on the grid. The
second may take some off it. Address by address this is arithmetic (`Address.shift_shift`); for the
formula it needs that the moved text is cut into the moved pieces again.
-/

namespace Precedents

variable {rows cols rows' cols' : Int}

/-- Two moves of an address add up, if it survives the first. -/
lemma Address.shift_shift {a a' : Address} (h : a.shift rows cols = some a') (rows' cols' : Int) :
    a'.shift rows' cols' = a.shift (rows + rows') (cols + cols') := by
  obtain ⟨row, col, rowFixed, colFixed⟩ := a
  simp only [shift, Option.ite_none_right_eq_some, Option.some.injEq] at h
  obtain ⟨⟨hrow, -, hcol, -⟩, rfl⟩ := h
  simp only [shift, Int.toNat_of_nonneg hrow, Int.toNat_of_nonneg hcol]
  cases rowFixed <;> cases colFixed <;> simp [Int.add_assoc]

/-- An address of the grid that does not move is the same. -/
lemma Address.shift_zero {a : Address} (h : a.InGrid) : a.shift 0 0 = some a := by
  obtain ⟨row, col, rowFixed, colFixed⟩ := a
  obtain ⟨hrow, hcol⟩ := h
  simp only at hrow hcol
  simp only [shift, Int.add_zero, ite_self, Int.toNat_natCast]
  rw [if_pos]
  omega

namespace Formula

variable {ctx' : Context} {ps : List Piece} {f : String}

/-! ## Pieces that move twice -/

/-- Two moves of a written address add up, if it survives the first. -/
lemma Mention.shift_shift {m m' : Mention} (h : m.shift rows cols = some m') (rows' cols' : Int) :
    m'.shift rows' cols' = m.shift (rows + rows') (cols + cols') := by
  obtain ⟨a, ha, rfl⟩ := Option.map_eq_some_iff.1 h
  exact congrArg (Option.map _) (Address.shift_shift ha rows' cols')

/-- A single cell moves with its address. -/
lemma Area.shift_one (m : Mention) :
    Area.shift ⟨m, none⟩ rows cols = (m.shift rows cols).map fun m' => ⟨m', none⟩ := by
  rw [shift]
  cases m.shift rows cols <;> rfl

/-- A range moves with its two corners, and survives if they both do. -/
lemma Area.shift_two (m : Mention) (k : Corner) :
    Area.shift ⟨m, some k⟩ rows cols = (m.shift rows cols).bind fun m' =>
      (k.mention.shift rows cols).map fun k' => ⟨m', some ⟨k.joint, k'⟩⟩ := by
  rw [shift]
  cases m.shift rows cols <;> rfl

/-- An area whose addresses stay on the grid moves on as if it had moved by both distances at
once. -/
lemma Area.shift_shift {a : Area} (h : ∀ d ∈ a.addresses, d.shift rows cols ≠ none) :
    ∃ a', a.shift rows cols = some a' ∧
      ∀ rows' cols', a'.shift rows' cols' = a.shift (rows + rows') (cols + cols') := by
  have moves : ∀ m : Mention, m.address.shift rows cols ≠ none →
      ∃ m', m.shift rows cols = some m' := by
    intro m hm
    obtain ⟨d, hd⟩ := Option.ne_none_iff_exists'.1 hm
    exact ⟨⟨d.chars, d⟩, by rw [Mention.shift, hd]; rfl⟩
  obtain ⟨first, second⟩ := a
  obtain ⟨first', hfirst⟩ := moves first (h _ List.mem_cons_self)
  cases second with
  | none =>
    refine ⟨⟨first', none⟩, by rw [shift_one, hfirst]; rfl, fun rows' cols' => ?_⟩
    rw [shift_one, shift_one, Mention.shift_shift hfirst]
  | some k =>
    obtain ⟨m', hm⟩ := moves k.mention (h _ (List.mem_cons_of_mem _ List.mem_cons_self))
    refine ⟨⟨first', some ⟨k.joint, m'⟩⟩, by rw [shift_two, hfirst, hm]; rfl, fun rows' cols' => ?_⟩
    rw [shift_two, shift_two, Mention.shift_shift hfirst, Mention.shift_shift hm]

/-- So does a piece none of whose addresses is lost. -/
lemma Piece.shift_shift {p : Piece}
    (h : ∀ r, p.reference? = some r → ∀ d ∈ r.area.addresses, d.shift rows cols ≠ none)
    (rows' cols' : Int) :
    (p.shift rows cols).shift rows' cols' = p.shift (rows + rows') (cols + cols') := by
  cases p with
  | plain t => rfl
  | reference r =>
    obtain ⟨a, ha, hshift⟩ := Area.shift_shift (h r rfl)
    simp only [Piece.shift, Reference.shift, ha, Option.map_some, hshift]

/-! ## Formulas that move twice -/

/-- A formula without a fault moves as the pieces of any passage over it do. -/
lemma translate_of_passes (ht : f.toList = texts ps) (h : Passes .start ps [] ctx')
    (hctx : ctx'.plain = .start) (rows cols : Int) :
    translate f rows cols = .ok (String.ofList (texts (ps.map (·.shift rows cols)))) := by
  obtain ⟨l, r, hr, hf⟩ := read_eq f
  have hnil : readFrom ctx' [] = ⟨[], none⟩ :=
    readFrom_nil (congrArg Context.parens hctx) (congrArg Context.braces hctx)
  have hread := h.readFrom
  rw [List.append_nil, ← ht, hnil, List.append_nil, hf] at hread
  obtain ⟨rfl, hfault⟩ := Reading.mk.inj hread
  have he : (read f).error? = none := by
    rw [Reading.error?, hr]
    exact Option.map_eq_none_iff.2 hfault
  rw [translate, he, hr]
  simp [Reading.cons, Piece.translated_eq, texts, List.flatMap_map, pure, Except.pure, Piece.shift,
    Piece.text, Function.comp_def]

/-- A formula without a fault is a passage, and so is what it moves to. -/
lemma exists_passes_shift (he : (read f).error? = none)
    (hc : standsClear [] (read f).pieces = true) :
    ∃ ps ctx', f.toList = texts ps ∧ Passes .start ps [] ctx' ∧ ctx'.plain = .start ∧
      (read f).references = ps.filterMap Piece.reference? ∧
      ∀ rows cols, Passes .start (ps.map (·.shift rows cols)) [] ctx' := by
  obtain ⟨l, hs, hl, hread⟩ := read_split f
  have hfault : (readFrom .start (body f.toList)).fault = none := by
    rw [Reading.error?, hread] at he
    exact Option.map_eq_none_iff.1 he
  generalize hr : readFrom .start (body f.toList) = r at hread hfault
  obtain ⟨ps, fault⟩ := r
  obtain rfl : fault = none := hfault
  obtain ⟨ht, ctx', hp, hparens, hbraces⟩ := passes_of_readFrom hr
  rw [hread] at hc
  refine ⟨(l.map fun c => .plain [c]) ++ ps, ctx', ?_, (passes_others hl _).append hp, ?_, ?_, ?_⟩
  · rw [texts_append, texts_singles, ← ht]
    exact hs
  · rw [Context.plain, hparens, hbraces]
    rfl
  · have hplain : (l.map fun c => Piece.plain [c]).filterMap Piece.reference? = [] := by
      simp [Piece.reference?]
    rw [hread, List.filterMap_append, hplain]
    rfl
  · intro rows cols
    have hmoved := (hp.rewrite (hp.rewrites hc rows cols)).1
    rw [List.map_append, List.map_map]
    exact (passes_others hl _).append hmoved

/-- Whatever a formula without a fault mentions is on the grid. -/
lemma inGrid_of_mem_references (h : (read f).error? = none) {r : Reference}
    (hr : r ∈ (read f).references) : ∀ d ∈ r.area.addresses, d.InGrid := by
  obtain ⟨name, ha⟩ := isArea_of_mem_references (Option.map_eq_none_iff.1 h) hr
  intro d hd
  cases List.mem_cons.1 hd with
  | inl he => exact he ▸ ha.1.inGrid
  | inr hd =>
    obtain ⟨k, hk, rfl⟩ := Option.map_eq_some_iff.1 (Option.mem_toList.1 hd)
    obtain ⟨-, -, -, hm⟩ := ha.2 k hk
    exact hm.inGrid

/-- A formula that has moved without losing an address moves on as if it had moved by both distances
at once, and so back to where it comes from. What it is without moving stays when it does not move
again. -/
theorem translate_adds_up {f : String} (he : (read f).error? = none)
    (hc : standsClear [] (read f).pieces = true) :
    (∀ rows cols : Int,
      (∀ r ∈ (read f).references, ∀ d ∈ r.area.addresses, d.shift rows cols ≠ none) →
        ∃ g, translate f rows cols = .ok g ∧
          (∀ rows' cols' : Int, ∃ h, translate g rows' cols' = .ok h ∧
            translate f (rows + rows') (cols + cols') = .ok h) ∧
          translate g (-rows) (-cols) = translate f 0 0) ∧
      ∃ g, translate f 0 0 = .ok g ∧ translate g 0 0 = .ok g := by
  obtain ⟨ps, ctx', ht, hp, hctx, hrefs, hmoved⟩ := exists_passes_shift he hc
  -- The passage of the formula and of what it has moved to is the same one, piece by piece.
  have twice : ∀ rows cols : Int,
      (∀ r ∈ (read f).references, ∀ d ∈ r.area.addresses, d.shift rows cols ≠ none) →
        ∃ g, translate f rows cols = .ok g ∧ ∀ rows' cols' : Int, ∃ h,
          translate g rows' cols' = .ok h ∧ translate f (rows + rows') (cols + cols') = .ok h := by
    intro rows cols hstay
    refine ⟨_, translate_of_passes ht hp hctx rows cols, fun rows' cols' => ?_⟩
    have hagain := translate_of_passes (String.toList_ofList ..) (hmoved rows cols) hctx rows' cols'
    refine ⟨_, hagain, ?_⟩
    rw [translate_of_passes ht hp hctx, List.map_map]
    have hpieces : ∀ p ∈ ps, p.shift (rows + rows') (cols + cols') =
        (p.shift rows cols).shift rows' cols' := by
      intro p hmem
      refine (Piece.shift_shift (fun r hr => hstay r ?_) rows' cols').symm
      rw [hrefs]
      exact List.mem_filterMap.2 ⟨p, hmem, hr⟩
    rw [List.map_congr_left hpieces]
    rfl
  constructor
  · intro rows cols hstay
    obtain ⟨g, hg, hon⟩ := twice rows cols hstay
    refine ⟨g, hg, hon, ?_⟩
    obtain ⟨h, hback, hzero⟩ := hon (-rows) (-cols)
    rw [Int.add_right_neg, Int.add_right_neg] at hzero
    rw [hback, hzero]
  · -- Moving by nothing keeps every address in the grid.
    have hstay : ∀ r ∈ (read f).references, ∀ d ∈ r.area.addresses, d.shift 0 0 ≠ none := by
      intro r hr d hd
      rw [Address.shift_zero (inGrid_of_mem_references he hr d hd)]
      exact Option.some_ne_none d
    obtain ⟨g, hg, hon⟩ := twice 0 0 hstay
    obtain ⟨h, hagain, hzero⟩ := hon 0 0
    rw [Int.add_zero, hg] at hzero
    obtain rfl := Except.ok.inj hzero
    exact ⟨g, hg, hagain⟩

/-- A formula in small letters that moves down and then so far left that one area is lost. -/
theorem translate_adds_up_lost :
    (read "=b2*data!c1:Data!d$3+LOG10(2e5)").error? = none ∧
      standsClear [] (read "=b2*data!c1:Data!d$3+LOG10(2e5)").pieces = true ∧
      (∀ r ∈ (read "=b2*data!c1:Data!d$3+LOG10(2e5)").references, ∀ d ∈ r.area.addresses,
        d.shift 2 0 ≠ none) ∧
      ∃ g, translate "=b2*data!c1:Data!d$3+LOG10(2e5)" 2 0 = .ok g ∧
        translate g (-1) (-2) = .ok "=#REF!*data!A2:Data!B$3+LOG10(2e5)" := by
  have he : (read "=b2*data!c1:Data!d$3+LOG10(2e5)").error? = none := by decide +kernel
  have hc : standsClear [] (read "=b2*data!c1:Data!d$3+LOG10(2e5)").pieces = true := by
    decide +kernel
  have hstay : ∀ r ∈ (read "=b2*data!c1:Data!d$3+LOG10(2e5)").references,
      ∀ d ∈ r.area.addresses, d.shift 2 0 ≠ none := by decide +kernel
  obtain ⟨g, hg, hon, -⟩ := (translate_adds_up he hc).1 2 0 hstay
  obtain ⟨h, hmoved, hboth⟩ := hon (-1) (-2)
  have hlost : translate "=b2*data!c1:Data!d$3+LOG10(2e5)" (2 + -1) (0 + -2) =
      .ok "=#REF!*data!A2:Data!B$3+LOG10(2e5)" := by decide +kernel
  rw [hlost] at hboth
  exact ⟨he, hc, hstay, g, hg, hmoved.trans hboth.symm⟩

end Formula

end Precedents
