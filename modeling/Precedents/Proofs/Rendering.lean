import Precedents.Proofs.Formula.Exchange
import Precedents.Proofs.Extraction

/-!
# References read back

A token can be written as a reference in many ways: a cell by its name, a block between any two
opposite corners, its sheets named in either order. Whichever is chosen, tokens that lie in the
workbook are read back from their references (`rendered_read_back`), and so every node of the graph,
read as a formula, is one cell.
-/

namespace Precedents

open Formula

variable {wb : Workbook} {current : Nat} {t : Token} {ts : List Token} {s : String}
variable {ss : List String} {z : List Char}

/-- How a token is written as a reference. -/
inductive Renders (wb : Workbook) : Token → String → Prop where
  | single {c : Coord} : Renders wb (.single c) (wb.qualifiedName c)
  | range {a z : Coord} {first last : String} :
    wb.sheetName? a.sheet = some first → wb.sheetName? z.sheet = some last →
    Renders wb (.range (.spanning a z))
      (SheetName.quote (first ++ ":" ++ last) ++ "!" ++
        a.address.render ++ ":" ++ z.address.render)

namespace Formula

/-- The reference to an area behind a quoted name. -/
def Reference.quoted (q : Qualifier) (name : List Char) (a : Area) : Reference :=
  ⟨some q, '\'' :: (SheetName.double name ++ ['\''] ++ ['!']), a⟩

/-- A quoted name and an area are a reference in front of anything that does not go on with a name
or a colon. -/
lemma finds_quoted {ctx : Context} {q : Qualifier} {name : List Char} {a : Area}
    (hq : .ofQuoted name = q) (ha : IsArea q.single? a) (hz : leadsWith continuesName z = false)
    (hcolon : leadsWith (· == ':') z = false) : Finds ctx (.quoted q name a) z := by
  subst hq
  have hread : quotedName (SheetName.double name ++ ['\'']) = some (name, []) :=
    SheetName.quotedName_double rfl name
  exact .qualified (.quoted hread) ha hz fun _ => corner?_of_leadsWith hcolon

end Formula

namespace Workbook

/-- Every token that lies in the workbook can be written. -/
lemma exists_renders (ht : t.LiesIn wb) : ∃ s, Renders wb t s := by
  cases t with
  | single c => exact ⟨_, .single⟩
  | range b =>
    obtain ⟨first, hfirst⟩ := exists_sheetName ht.1.1
    obtain ⟨last, hlast⟩ := exists_sheetName ht.2.1
    have hr : Renders wb (.range (.spanning b.first b.last)) _ := .range hfirst hlast
    rw [b.spanning_first_last] at hr
    exact ⟨_, hr⟩

/-- What a cell or a block of the workbook is written as is a reference to it. -/
lemma Sound.exists_reference (h : wb.Sound) (ht : t.LiesIn wb) (hr : Renders wb t s)
    (current : Nat) :
    ∃ r : Reference, s.toList = r.text ∧ r.token? wb.sheetIndex? current = some t ∧
      ∀ ctx z, leadsWith continuesName z = false → leadsWith (· == ':') z = false →
        Finds ctx r z := by
  -- A cell is rendered with its sheet, a block with the sheets of its two corners.
  cases hr with
  | @single c =>
    obtain ⟨hsheet, hgrid⟩ := Block.liesIn_single.1 ht
    obtain ⟨name, hname⟩ := exists_sheetName hsheet
    have hq := SheetName.ofQuoted_name (h.legal _ _ hname)
    refine ⟨.quoted (.sheet name) name.toList ⟨⟨c.address.chars, c.address⟩, none⟩, ?_, ?_, ?_⟩
    · rw [qualifiedName, hname, SheetName.toList_qualify]
      simp [Reference.text, Reference.quoted, Area.text]
    · simp only [Reference.token?, Reference.quoted, Qualifier.ends?, h.sheetIndex? hname]
      rfl
    · intro ctx z hz hcolon
      refine finds_quoted hq ⟨isMention_chars hgrid, ?_⟩ hz hcolon
      intro k hk
      cases hk
  | @range a z first last hfirst hlast =>
    obtain ⟨⟨-, ha⟩, -, hz⟩ := Block.liesIn_spanning.1 ht
    have hq := SheetName.ofQuoted_names (h.legal _ _ hfirst) (h.legal _ _ hlast)
    refine ⟨.quoted (.span first last) (first ++ ":" ++ last).toList
      ⟨⟨a.address.chars, a.address⟩, some ⟨[':'], ⟨z.address.chars, z.address⟩⟩⟩, ?_, ?_, ?_⟩
    · simp [Reference.text, Reference.quoted, Area.text, SheetName.toList_quote, Address.render]
    · simp only [Reference.token?, Reference.quoted, Qualifier.ends?, h.sheetIndex? hfirst,
        h.sheetIndex? hlast]
      rfl
    · intro ctx x hx hcolon
      refine finds_quoted hq ⟨isMention_chars ha, ?_⟩ hx hcolon
      intro k hk
      obtain rfl := Option.some.inj hk
      exact ⟨[], rfl, .nothing, isMention_chars hz⟩

/-- References with commas between them are read one after another. -/
lemma Sound.exists_passes (h : wb.Sound) (current : Nat) (hr : List.Forall₂ (Renders wb) ts ss)
    (ht : ∀ t ∈ ts, t.LiesIn wb) :
    ∃ ps, (",".intercalate ss).toList = texts ps ∧ Passes .start ps [] .start ∧
      (ps.filterMap Piece.reference?).filterMap (·.token? wb.sheetIndex? current) = ts := by
  induction hr with
  | nil => exact ⟨[], rfl, .nil, rfl⟩
  | @cons t s ts ss hs hss ih =>
    obtain ⟨r, hr, htoken, hfinds⟩ := h.exists_reference (ht t List.mem_cons_self) hs current
    -- Behind the reference stands the end of the formula or a comma, and neither goes on with it.
    cases hss with
    | nil =>
      refine ⟨[.reference r], ?_, .found (hfinds _ _ rfl rfl) .nil, ?_⟩
      · rw [String.intercalate_singleton, hr]
        exact (List.append_nil _).symm
      · exact List.filterMap_cons_some htoken
    | cons =>
      obtain ⟨ps, hps, hpass, htokens⟩ := ih fun t ht' => ht t (List.mem_cons_of_mem _ ht')
      refine ⟨.reference r :: .plain [','] :: ps, ?_,
        .found (hfinds _ _ rfl rfl) (.skip (.other (by decide)) hpass), ?_⟩
      · rw [String.intercalate_cons_cons, String.toList_append, String.toList_append, hps, hr,
          List.append_assoc]
        rfl
      · exact (List.filterMap_cons_some htoken).trans (congrArg (t :: ·) htokens)

/-- Tokens that lie in the workbook are read back from their references. -/
lemma Sound.tokenize_intercalate (h : wb.Sound) (current : Nat)
    (hr : List.Forall₂ (Renders wb) ts ss) (ht : ∀ t ∈ ts, t.LiesIn wb) :
    tokenize wb.sheetIndex? current (",".intercalate ss) = ts := by
  obtain ⟨ps, hps, hpass, htokens⟩ := h.exists_passes current hr ht
  exact (tokenize_of_passes hps hpass rfl).trans htokens

/-- Tokens that lie in the workbook can be written, and references to them with commas between them
are read as those tokens on whatever sheet the formula stands. In particular every node of the graph
is the name of a cell and read as that cell. -/
theorem rendered_read_back (h : wb.Reachable) :
    (∀ t : Token, t.LiesIn wb → ∃ s, Renders wb t s) ∧
    (∀ ts ss, (∀ t ∈ ts, t.LiesIn wb) → List.Forall₂ (Renders wb) ts ss →
      ∀ current, tokenize wb.sheetIndex? current (",".intercalate ss) = ts) ∧
    ∀ options, ∀ entry ∈ (wb.graph options).toList, ∀ name ∈ entry.1 :: entry.2,
      ∃ c : Coord, c.LiesIn wb ∧ name = wb.qualifiedName c ∧
        ∀ current, tokenize wb.sheetIndex? current name = [.single c] := by
  refine ⟨fun t ht => exists_renders ht, ?_, ?_⟩
  · intro ts ss ht hr current
    exact h.sound.tokenize_intercalate current hr ht
  · intro options entry he name hn
    obtain ⟨c, hc, rfl⟩ := h.sound.node_liesIn he hn
    refine ⟨c, hc, rfl, fun current => ?_⟩
    have hr : List.Forall₂ (Renders wb) [.single c] [wb.qualifiedName c] := .cons .single .nil
    have hread := h.sound.tokenize_intercalate current hr fun t ht => by
      rw [List.mem_singleton.1 ht]
      exact Block.liesIn_single.2 hc
    rwa [String.intercalate_singleton] at hread

/-- A cell and a block of a sheet whose name holds an apostrophe, the block given by its upper right
and its lower left corner. -/
theorem rendered_read_back_apostrophe :
    let wb := Workbook.empty.after (.addNamed "it's")
    wb.Reachable ∧ tokenize wb.sheetIndex? 0 "'it''s'!A1,'it''s:it''s'!C1:B2" =
      [.single ⟨0, 0, 0⟩, .range (.spanning ⟨0, 0, 2⟩ ⟨0, 1, 1⟩)] := by
  intro wb
  have h : wb.Reachable := .edit _ .empty
  have hwb : wb = Workbook.empty.push (.empty "it's") := by
    have hrun : (Edit.addNamed "it's").run .empty = .ok (Workbook.empty.push (.empty "it's")) := by
      have hlegal : SheetName.flaw? "it's" = none := by decide +kernel
      simp [Edit.run, addNamed, hlegal, sheetIndex?, Workbook.empty, Except.map, pure, Except.pure]
    simp only [wb, after, hrun]
  have hname : wb.sheetName? 0 = some "it's" := by rw [hwb]; rfl
  have hcount : 0 < wb.sheetCount := by rw [hwb]; decide
  have hcell : Renders wb (.single ⟨0, 0, 0⟩) "'it''s'!A1" := by
    have htext : wb.qualifiedName ⟨0, 0, 0⟩ = "'it''s'!A1" := by
      rw [qualifiedName, hname]
      decide +kernel
    exact htext ▸ .single
  have hblock : Renders wb (.range (.spanning ⟨0, 0, 2⟩ ⟨0, 1, 1⟩)) "'it''s:it''s'!C1:B2" := by
    have htext : SheetName.quote ("it's" ++ ":" ++ "it's") ++ "!" ++
        (Address.relative 0 2).render ++ ":" ++ (Address.relative 1 1).render =
          "'it''s:it''s'!C1:B2" := by decide +kernel
    exact htext ▸ .range hname hname
  refine ⟨h, (rendered_read_back h).2.1 _ _ ?_ (.cons hcell (.cons hblock .nil)) 0⟩
  simp only [List.mem_cons, List.not_mem_nil, or_false, forall_eq_or_imp, forall_eq]
  refine ⟨Block.liesIn_single.2 ⟨hcount, ?_⟩, Block.liesIn_spanning.2 ⟨⟨hcount, ?_⟩, hcount, ?_⟩⟩
  all_goals exact ⟨by decide, by decide⟩

end Workbook

end Precedents
