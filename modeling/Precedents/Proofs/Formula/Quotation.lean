import Precedents.Proofs.Formula.Word

/-!
# Texts that are not looked into

What stands between quotation marks or brackets is no part of a formula: whatever it looks like, no
reference is read from it. A word in front of a bracket is a table, even one that looks like an
address, and words directly behind a bracket name sheets of another workbook, whose cells are none
of this one (`enclosed_text_unread`).
-/

namespace Precedents.Formula

variable {depth : Nat} {area : Area} {b l w z : List Char} {sheets text : String}

/-! ## Strings -/

/-- A text with every quotation mark doubled. -/
def doubleMarks (text : List Char) : List Char :=
  text.flatMap fun c => if c = '"' then ['"', '"'] else [c]

/-- The string literal of a text. -/
def literal (s : String) : String := String.ofList ('"' :: (doubleMarks s.toList ++ ['"']))

/-- A string is read up to the mark that closes it. -/
lemma afterString_doubleMarks (hz : leadsWith (· == '"') z = false) (l : List Char) :
    afterString (doubleMarks l ++ '"' :: z) = some z := by
  induction l with
  | nil => exact afterString_close hz
  | cons c l ih =>
    rw [doubleMarks, List.flatMap_cons, List.append_assoc]
    by_cases hc : c = '"'
    · rw [if_pos hc]
      exact ih
    · rw [if_neg hc, List.singleton_append, afterString_cons hc]
      exact ih

/-! ## Brackets -/

/-- What may stand between a bracket and the one that closes it: characters without a meaning there,
any character behind an apostrophe, and bracketed texts of the same kind. -/
inductive IsEnclosed : List Char → Prop where
  | nil : IsEnclosed []
  | plain {c : Char} {b : List Char} : c ∉ ['[', ']', '\''] → IsEnclosed b → IsEnclosed (c :: b)
  | escaped {c : Char} {b : List Char} : IsEnclosed b → IsEnclosed ('\'' :: c :: b)
  | nested {b b' : List Char} : IsEnclosed b → IsEnclosed b' →
    IsEnclosed ('[' :: (b ++ ']' :: b'))

/-- An enclosed text opens and closes nothing of what stands around it. -/
lemma IsEnclosed.afterBrackets (h : IsEnclosed b) (depth : Nat) (z : List Char) :
    Formula.afterBrackets depth (b ++ z) = Formula.afterBrackets depth z := by
  induction h generalizing depth z with
  | nil => rfl
  | @plain c b hc _ ih =>
    simp only [List.mem_cons, List.not_mem_nil, or_false, not_or] at hc
    rw [List.cons_append, Formula.afterBrackets]
    · exact ih depth z
    · exact hc.1
    · exact hc.2.1
    · rintro d ds rfl
      exact absurd rfl hc.2.2
  | escaped _ ih => exact ih depth z
  | @nested b b' _ _ ih ih' =>
    -- Inside, the outermost open bracket is one further out.
    calc Formula.afterBrackets depth ('[' :: (b ++ ']' :: b') ++ z)
        = Formula.afterBrackets (depth + 1) (b ++ ']' :: (b' ++ z)) := by
          rw [List.cons_append, Formula.afterBrackets, List.append_assoc, List.cons_append]
      _ = Formula.afterBrackets (depth + 1) (']' :: (b' ++ z)) := ih _ _
      _ = Formula.afterBrackets depth (b' ++ z) := rfl
      _ = Formula.afterBrackets depth z := ih' _ _

/-- What brackets enclose is passed over. -/
lemma IsEnclosed.skips {ctx : Context} (h : IsEnclosed b) :
    Skips ctx ('[' :: (b ++ [']'])) z { ctx with afterBracket := true } :=
  .brackets (h.afterBrackets 0 [']'])

/-! ## References to other workbooks -/

/-- How sheets of another workbook are named behind its brackets: one, or two with a colon. -/
inductive NamesSheets : String → Prop where
  | one {w : String} : IsWord w.toList → NamesSheets w
  | span {w v : String} : IsWord w.toList → IsWord v.toList → NamesSheets (w ++ ":" ++ v)

/-- How an area is written: as an address, or as two with a colon. -/
inductive SpellsArea : String → Area → Prop where
  | cell {v : String} {a : Address} : Address.Spells v.toList a →
    SpellsArea v ⟨⟨v.toList, a⟩, none⟩
  | corners {v v' : String} {a a' : Address} : Address.Spells v.toList a →
    Address.Spells v'.toList a' →
    SpellsArea (v ++ ":" ++ v') ⟨⟨v.toList, a⟩, some ⟨[':'], ⟨v'.toList, a'⟩⟩⟩

/-- The spelling of an area is its text. -/
lemma SpellsArea.text_eq (h : SpellsArea text area) : text.toList = area.text := by
  cases h with
  | cell => simp [Area.text]
  | corners => simp [Area.text]

/-- What is spelled as an area is one under every name. -/
lemma SpellsArea.isArea (h : SpellsArea text area) (name : Option String) : IsArea name area := by
  cases h with
  | cell hv => exact ⟨isMention_iff_spells.2 hv, nofun⟩
  | corners hv hv' =>
    refine ⟨isMention_iff_spells.2 hv, ?_⟩
    rintro _ ⟨⟩
    exact ⟨[], rfl, .nothing, isMention_iff_spells.2 hv'⟩

/-- Directly behind a bracket the names of sheets are those of another workbook. -/
lemma NamesSheets.qualifies (h : NamesSheets sheets) :
    Qualifies { Context.start with afterBracket := true } (sheets ++ "!").toList .external := by
  cases h with
  | one hw =>
    rw [String.toList_append]
    exact .sheet hw
  | @span w v hw hv =>
    have htext : (w ++ ":" ++ v ++ "!").toList = w.toList ++ ':' :: (v.toList ++ ['!']) := by simp
    rw [htext]
    exact .span hw hv

/-- Brackets, names of sheets and an area are a passage of one reference. -/
lemma passes_external (hb : IsEnclosed b) (hs : NamesSheets sheets) (ha : SpellsArea text area) :
    Passes .start
      [.plain ('[' :: (b ++ [']'])), .reference ⟨some .external, (sheets ++ "!").toList, area⟩] []
      .start :=
  .skip hb.skips (.found (.qualified hs.qualifies (ha.isArea _) rfl fun _ => rfl) .nil)

/-! ## What is read of them -/

/-- No reference is read from a string, whatever text it stands for, nor from a word with brackets
behind it. Brackets, names of sheets and an area are read as one reference to another workbook, and
that is no token, however names are looked up. -/
theorem enclosed_text_unread :
    (∀ s : String, (read (literal s)).error? = none ∧ (read (literal s)).located = []) ∧
    (∀ w b : String, IsWord w.toList → IsEnclosed b.toList →
      (read (w ++ "[" ++ b ++ "]")).error? = none ∧ (read (w ++ "[" ++ b ++ "]")).located = []) ∧
    (∀ a : Address, a.InGrid → Address.Spells a.render.toList a) ∧
    ∀ (b sheets text : String) (area : Area), IsEnclosed b.toList → NamesSheets sheets →
      SpellsArea text area →
      let f := "[" ++ b ++ "]" ++ sheets ++ "!" ++ text
      let r : Reference := ⟨some .external, (sheets ++ "!").toList, area⟩
      (read f).error? = none ∧ (read f).located = [r.locate ("[" ++ b ++ "]").utf8ByteSize] ∧
        ∀ find current, r.token? find current = none ∧ tokenize find current f = [] := by
  refine ⟨?_, ?_, ?_, ?_⟩
  · intro s
    have hs : Skips .start (literal s).toList [] .start := by
      rw [literal, String.toList_ofList]
      exact .string (afterString_doubleMarks rfl s.toList) rfl
    have htext : (literal s).toList = texts [.plain (literal s).toList] := by
      simp [texts, Piece.text]
    exact located_of_passes htext (.skip hs .nil) rfl
  · intro w b hw hb
    have hword : Skips .start w.toList ('[' :: (b.toList ++ [']'])) .start :=
      .word hw rfl rfl rfl (mention?_of_continuesName hw.inWord rfl rfl)
    have htext : (w ++ "[" ++ b ++ "]").toList =
        texts [.plain w.toList, .plain ('[' :: (b.toList ++ [']']))] := by
      simp [texts, Piece.text]
    exact located_of_passes htext (.skip (by simpa [texts, Piece.text] using hword)
      (.skip hb.skips .nil)) rfl
  · exact fun a => Address.spells_render
  · intro b sheets text area hb hs ha f r
    have htext : f.toList = texts [.plain ('[' :: (b.toList ++ [']'])), .reference r] := by
      simp [f, r, texts, Piece.text, Reference.text, ha.text_eq]
    -- The brackets are one piece, and the reference behind them is external by its place.
    have hpass := passes_external hb hs ha
    obtain ⟨herror, hlocated⟩ := located_of_passes htext hpass rfl
    have hwidth : width ('[' :: (b.toList ++ [']'])) = ("[" ++ b ++ "]").utf8ByteSize := by
      rw [← width_toList]
      simp
    refine ⟨herror, ?_, fun find current => ⟨rfl, tokenize_of_passes htext hpass rfl⟩⟩
    rw [hlocated, ← hwidth]
    simp [locate]

/-- Behind a word that looks like an address, and in front of names and an address: brackets with
brackets in them, one pair closed and one bracket behind an apostrophe. -/
theorem enclosed_text_unread_lookalike :
    let b := "[B2],'[C3"
    let a : Address := ⟨2, 2, true, false⟩
    IsWord "A1".toList ∧ IsEnclosed b.toList ∧ a.InGrid ∧ NamesSheets ("A1" ++ ":" ++ "B2") ∧
      SpellsArea a.render ⟨⟨a.render.toList, a⟩, none⟩ ∧
      (read ("A1" ++ "[" ++ b ++ "]")).located = [] ∧
      ∀ find current, tokenize find current
        ("[" ++ b ++ "]" ++ ("A1" ++ ":" ++ "B2") ++ "!" ++ a.render) = [] := by
  intro b a
  obtain ⟨-, htables, hspells, hexternal⟩ := enclosed_text_unread
  have hone : ['1'].all inWord = true := by decide
  have htwo : ['2'].all inWord = true := by decide
  have hw : IsWord "A1".toList := ⟨'A', ['1'], rfl, by decide, List.all_eq_true.1 hone⟩
  have hw' : IsWord "B2".toList := ⟨'B', ['2'], rfl, by decide, List.all_eq_true.1 htwo⟩
  have hb : IsEnclosed b.toList := by
    have hfirst : IsEnclosed ['B', '2'] := .plain (by decide) (.plain (by decide) .nil)
    have hlast : IsEnclosed [',', '\'', '[', 'C', '3'] :=
      .plain (by decide) (.escaped (.plain (by decide) (.plain (by decide) .nil)))
    have htext : b.toList = '[' :: (['B', '2'] ++ ']' :: [',', '\'', '[', 'C', '3']) := by
      decide +kernel
    exact htext ▸ .nested hfirst hlast
  have hs : NamesSheets ("A1" ++ ":" ++ "B2") := .span hw hw'
  have hgrid : a.InGrid := ⟨by decide, by decide⟩
  have ha : SpellsArea a.render ⟨⟨a.render.toList, a⟩, none⟩ := .cell (hspells a hgrid)
  exact ⟨hw, hb, hgrid, hs, ha, (htables _ _ hw hb).2,
    fun find current => ((hexternal _ _ _ _ hb hs ha).2.2 find current).2⟩

end Precedents.Formula
