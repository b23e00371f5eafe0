import Precedents.Proofs.Formula.Exchange
import Precedents.Proofs.Formula.Word
import Precedents.Proofs.Workbook

/-!
# Corners with sheets of their own

Both corners of an area may name their sheet. The reader of formulas has no workbook: it takes two
names for the same if they are equal in lowercase, and otherwise reads two references. The workbook
says the same of names that it knows (`Sound.index_eq_iff`), so two corners make up a block exactly
if their names are looked up to one sheet (`corners_on_sheets`).
-/

namespace Precedents

open Formula

variable {wb : Workbook} {i j : Nat} {P Q p q va vb : String} {a b : Address} {z : List Char}

/-- How a name is written in front of an exclamation mark: as a word, or between apostrophes. -/
inductive Writes : String → String → Prop where
  | bare {name : String} : IsWord name.toList → Writes name name
  | quoted {name : String} : Writes name (SheetName.quote name)

namespace Writes

/-- A name as it is written is one that a qualifier can have. -/
lemma names (h : Writes P p) : Names p.toList P.toList := by
  cases h with
  | bare hw => exact .bare hw
  | quoted =>
    rw [SheetName.toList_quote]
    exact .quoted (SheetName.quotedName_double rfl P.toList)

/-- A name without a bracket and a colon qualifies by the sheet of that name. -/
lemma qualifies (h : Writes P p) (hbracket : '[' ∉ P.toList) (hcolon : ':' ∉ P.toList) :
    Qualifies .start (p.toList ++ ['!']) (.sheet P) := by
  cases h with
  | bare hw =>
    have hq : Qualifies .start (P.toList ++ ['!']) (.sheet (String.ofList P.toList)) := .sheet hw
    rwa [String.ofList_toList] at hq
  | quoted =>
    rw [SheetName.toList_quote, ← SheetName.ofQuoted_sheet hbracket hcolon]
    exact .quoted (SheetName.quotedName_double rfl P.toList)

end Writes

namespace Formula

/-! ## Two names of one sheet -/

/-- The reference to the area between two corners, the second with a name in front of it. -/
def Reference.repeated (P p q va vb : String) (a b : Address) : Reference :=
  ⟨some (.sheet P), p.toList ++ ['!'],
    ⟨⟨va.toList, a⟩, some ⟨':' :: (q.toList ++ ['!']), ⟨vb.toList, b⟩⟩⟩⟩

/-- A second corner behind a name of the sheet is one of the same area. -/
lemma passes_repeated (hp : Qualifies .start (p.toList ++ ['!']) (.sheet P)) (hq : Writes Q q)
    (ha : Address.Spells va.toList a) (hb : Address.Spells vb.toList b)
    (hfold : SheetName.fold P = SheetName.fold Q) :
    Passes .start [.reference (.repeated P p q va vb a b)] [] .start := by
  refine .found (.qualified hp ⟨isMention_iff_spells.2 ha, ?_⟩ rfl nofun) .nil
  rintro _ ⟨⟩
  refine ⟨q.toList ++ ['!'], rfl, .sheet rfl hq.names ?_, isMention_iff_spells.2 hb⟩
  rw [String.ofList_toList]
  exact hfold.symm

/-- The area with a repeated name is the range between its corners. -/
lemma token?_repeated {find : String → Option Nat} {current : Nat} (hi : find P = some i) :
    (Reference.repeated P p q va vb a b).token? find current =
      some (.range (.spanning (.ofAddress i a) (.ofAddress i b))) := by
  simp only [Reference.token?, Reference.repeated, Qualifier.ends?, hi]
  rfl

/-! ## Names of two sheets -/

/-- The reference to one cell of a sheet. -/
def Reference.cell (P p va : String) (a : Address) : Reference :=
  ⟨some (.sheet P), p.toList ++ ['!'], ⟨⟨va.toList, a⟩, none⟩⟩

/-- One cell of a sheet is a single token. -/
lemma token?_cell {find : String → Option Nat} {current : Nat} (hi : find P = some i) :
    (Reference.cell P p va a).token? find current = some (.single (.ofAddress i a)) := by
  simp only [Reference.token?, Reference.cell, Qualifier.ends?, hi]
  rfl

/-- Behind a colon there is no second corner if another sheet is named there. -/
lemma corner?_other_sheet (hq : Writes Q q) (hfold : SheetName.fold P ≠ SheetName.fold Q) :
    corner? (some P) (':' :: (q.toList ++ '!' :: z)) = none := by
  refine corner?_colon.2 ⟨hq.names.mention? z, ?_⟩
  intro y hy
  rw [Option.bind_some, hq.names.afterSameQualifier, String.ofList_toList,
    if_neg fun he => hfold he.symm] at hy
  cases hy

/-- A second corner behind the name of another sheet is a reference of its own. -/
lemma passes_apart (hp : Qualifies .start (p.toList ++ ['!']) (.sheet P))
    (hq : Qualifies .start (q.toList ++ ['!']) (.sheet Q)) (hwrites : Writes Q q)
    (ha : Address.Spells va.toList a) (hb : Address.Spells vb.toList b)
    (hfold : SheetName.fold P ≠ SheetName.fold Q) :
    Passes .start
      [.reference (.cell P p va a), .plain [':'], .reference (.cell Q q vb b)] [] .start := by
  have hfirst : Finds .start (.cell P p va a) (':' :: (q.toList ++ '!' :: vb.toList)) :=
    .qualified hp ⟨isMention_iff_spells.2 ha, nofun⟩ rfl fun _ =>
      corner?_other_sheet hwrites hfold
  have hsecond : Finds .start (.cell Q q vb b) [] :=
    .qualified hq ⟨isMention_iff_spells.2 hb, nofun⟩ rfl fun _ => rfl
  refine .found ?_ (.skip (.other (by decide)) (.found hsecond .nil))
  simpa [texts, Piece.text, Reference.text, Reference.cell, Area.text] using hfirst

end Formula

namespace Workbook

/-- Two names that a workbook knows are those of one sheet exactly if they differ only in case. -/
lemma Sound.index_eq_iff (h : wb.Sound) (hi : wb.sheetIndex? P = some i)
    (hj : wb.sheetIndex? Q = some j) : i = j ↔ SheetName.fold P = SheetName.fold Q := by
  constructor
  · rintro rfl
    have hP := (h.found _ i).1 hi
    rw [(h.found _ i).1 hj] at hP
    exact (Option.some.inj hP).symm
  · intro hfold
    rw [Workbook.sheetIndex?, hfold] at hi
    exact Option.some.inj (hi.symm.trans hj)

/-- A formula of two addresses with a colon between them and a sheet named in front of each is read
as the block between the two cells if the names are looked up to one sheet, and as the two cells if
they are looked up to two, however the names and the addresses are spelled. -/
theorem corners_on_sheets (h : wb.Reachable) (current : Nat) :
    (∀ a : Address, a.InGrid → Address.Spells a.render.toList a) ∧
    ∀ (P Q p q va vb : String) (i j : Nat) (a b : Address),
      wb.sheetIndex? P = some i → wb.sheetIndex? Q = some j →
      ':' ∉ P.toList → '[' ∉ P.toList → ':' ∉ Q.toList → '[' ∉ Q.toList →
      Writes P p → Writes Q q → Address.Spells va.toList a → Address.Spells vb.toList b →
      tokenize wb.sheetIndex? current (p ++ "!" ++ va ++ ":" ++ q ++ "!" ++ vb) =
        if i = j then [.range (.spanning (.ofAddress i a) (.ofAddress j b))]
        else [.single (.ofAddress i a), .single (.ofAddress j b)] := by
  refine ⟨?_, ?_⟩
  · exact fun a => Address.spells_render
  · intro P Q p q va vb i j a b hi hj hcolon hbracket hcolon' hbracket' hp hq ha hb
    have hfold := h.sound.index_eq_iff hi hj
    have hqualifies := hp.qualifies hbracket hcolon
    -- One sheet: the name is repeated and the piece goes on. Two sheets: it ends at the colon.
    by_cases hij : i = j
    · have htext : (p ++ "!" ++ va ++ ":" ++ q ++ "!" ++ vb).toList =
          texts [.reference (.repeated P p q va vb a b)] := by
        simp [texts, Piece.text, Reference.text, Reference.repeated, Area.text]
      have hpass := passes_repeated hqualifies hq ha hb (hfold.1 hij)
      rw [if_pos hij, tokenize_of_passes htext hpass rfl, ← hij]
      exact List.filterMap_cons_some (token?_repeated hi)
    · have htext : (p ++ "!" ++ va ++ ":" ++ q ++ "!" ++ vb).toList =
          texts [.reference (.cell P p va a), .plain [':'], .reference (.cell Q q vb b)] := by
        simp [texts, Piece.text, Reference.text, Reference.cell, Area.text]
      have hpass := passes_apart hqualifies (hq.qualifies hbracket' hcolon') hq ha hb
        fun he => hij (hfold.2 he)
      rw [if_neg hij, tokenize_of_passes htext hpass rfl]
      refine (List.filterMap_cons_some (token?_cell hi)).trans (congrArg _ ?_)
      exact List.filterMap_cons_some (token?_cell hj)

/-- Both corners of an area name a sheet: first the same one, as a word and between apostrophes in
another case, then another one, whose name has an apostrophe in it. -/
theorem corners_on_sheets_apostrophe :
    let wb := Workbook.new.after (.addNamed "It's")
    let a : Address := ⟨0, 0, true, false⟩
    let b : Address := ⟨1, 1, false, true⟩
    wb.Reachable ∧ a.InGrid ∧ b.InGrid ∧
      wb.sheetIndex? "sheet1" = some 0 ∧ wb.sheetIndex? "SHEET1" = some 0 ∧
      wb.sheetIndex? "it's" = some 1 ∧
      tokenize wb.sheetIndex? 1 "sheet1!A$1:'SHEET1'!$B2" =
        [.range (.spanning (.ofAddress 0 a) (.ofAddress 0 b))] ∧
      tokenize wb.sheetIndex? 1 "sheet1!A$1:'it''s'!$B2" =
        [.single (.ofAddress 0 a), .single (.ofAddress 1 b)] := by
  intro wb a b
  have h : wb.Reachable := .edit _ .new
  -- The look-up of the workbook as a function that can be evaluated.
  have hfind : wb.sheetIndex? = fun n =>
      if "it's" = Text.lowercase n then some 1
      else if Text.lowercase n = "sheet1" then some 0 else none := by
    funext n
    have hname : Text.lowercase "It's" = "it's" := by decide +kernel
    have hfree : Workbook.new.sheetIndex? "It's" = none := by
      rw [sheetIndex?_new, hname]
      decide
    have hwb : wb = Workbook.new.push (.empty "It's") := after_addNamed (by decide) hfree
    rw [hwb, sheetIndex?_push, sheetIndex?_new, hname]
    rfl
  have hsheet : wb.sheetIndex? "sheet1" = some 0 := by
    rw [hfind]
    decide +kernel
  have hsheet' : wb.sheetIndex? "SHEET1" = some 0 := by
    rw [hfind]
    decide +kernel
  have hits : wb.sheetIndex? "it's" = some 1 := by
    rw [hfind]
    decide +kernel
  have ha : a.InGrid := ⟨by decide, by decide⟩
  have hb : b.InGrid := ⟨by decide, by decide⟩
  have hrest : "heet1".toList.all inWord = true := by decide
  have hw : IsWord "sheet1".toList := ⟨'s', "heet1".toList, by decide, by decide,
    List.all_eq_true.1 hrest⟩
  obtain ⟨hspells, hcorners⟩ := corners_on_sheets h 1
  have hone := hcorners "sheet1" "SHEET1" "sheet1" (SheetName.quote "SHEET1") a.render b.render
    0 0 a b hsheet hsheet' (by decide) (by decide) (by decide) (by decide) (.bare hw) .quoted
    (hspells a ha) (hspells b hb)
  have htwo := hcorners "sheet1" "it's" "sheet1" (SheetName.quote "it's") a.render b.render
    0 1 a b hsheet hits (by decide) (by decide) (by decide) (by decide) (.bare hw) .quoted
    (hspells a ha) (hspells b hb)
  have hsame : "sheet1" ++ "!" ++ a.render ++ ":" ++ SheetName.quote "SHEET1" ++ "!" ++ b.render =
      "sheet1!A$1:'SHEET1'!$B2" := by decide +kernel
  have hother : "sheet1" ++ "!" ++ a.render ++ ":" ++ SheetName.quote "it's" ++ "!" ++ b.render =
      "sheet1!A$1:'it''s'!$B2" := by decide +kernel
  rw [hsame] at hone
  rw [hother] at htwo
  exact ⟨h, ha, hb, hsheet, hsheet', hits, hone, htwo⟩

end Workbook

end Precedents
