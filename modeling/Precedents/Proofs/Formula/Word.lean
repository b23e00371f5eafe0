import Precedents.Proofs.Formula.Composition
import Precedents.Proofs.Spelling

/-!
# Formulas of one word

The reader of formulas finds an address by running over its letters and digits, the parser of
addresses by cutting the text into its parts. On words the two agree: a word is a reference exactly
if the parser reads it as an address (`isMention_iff`), whatever other characters of words it holds.
-/

namespace Precedents.Formula

variable {a : Address} {c : Char} {w : List Char} {m : Mention}

/-- No word has a blank in it. -/
lemma isBlank_of_inWord (h : inWord c = true) : Text.isBlank c = false := by
  rw [Bool.eq_false_iff, ne_eq]
  intro hb
  have hword : inWord c = false :=
    (isDelimiter_iff.1 (isDelimiter_of_isBlank hb)).1 inWord (by simp [endings])
  rw [h] at hword
  exact Bool.false_ne_true hword.symm

/-- A word is read as an address as it stands. -/
lemma IsWord.parse (h : IsWord w) : Address.parse (String.ofList w) = Address.ofChars w := by
  rw [Address.parse, String.toList_ofList,
    Text.trim_of_isBlank fun c hc => isBlank_of_inWord (h.inWord c hc)]

/-- The text of a mention spells its address, and every spelling of an address is a mention. -/
lemma isMention_iff_spells : IsMention m ↔ Address.Spells m.text m.address := by
  rw [← Address.reads_ok_iff, ← Address.ofChars_eq_iff]
  constructor
  · intro h
    obtain ⟨-, -, -, -, hp⟩ := mention?_split h
    rwa [h.isWord.parse] at hp
  · intro h
    obtain ⟨s, htext, -⟩ := Address.reads_ok_iff.1 (Address.ofChars_eq_iff.1 h)
    have hm := mention?_spelling s (z := []) rfl
    rw [s.parse, ← htext, h, List.append_nil] at hm
    exact hm

/-- A word is a mention exactly if the parser of addresses reads it. -/
theorem isMention_iff (hw : IsWord w) :
    IsMention ⟨w, a⟩ ↔ Address.parse (String.ofList w) = .ok a := by
  rw [isMention_iff_spells, ← Address.reads_ok_iff, ← Address.ofChars_eq_iff, hw.parse]

/-- A word that is read as an address is a passage of one reference. -/
lemma passes_mention (h : IsMention m) :
    Passes .start [.reference ⟨none, [], ⟨m, none⟩⟩] [] .start :=
  .found (.bare ⟨h, nofun⟩ rfl fun _ => ⟨rfl, rfl⟩) .nil

/-- A word that is read as no address is passed over. -/
lemma passes_word (hw : IsWord w) (h : ∀ a, Address.parse (String.ofList w) ≠ .ok a) :
    Passes .start [.plain w] [] .start := by
  refine .skip (.word hw rfl rfl rfl ?_) .nil
  rw [Option.eq_none_iff_forall_ne_some]
  rintro ⟨m, z⟩ hm
  obtain ⟨rfl, -⟩ := eq_of_mention?_word hw.inWord rfl hm
  exact h m.address ((isMention_iff hw).1 (mention?_iff.1 hm).2.1)

/-- A formula of one word has no fault. It is one reference, without a qualifier and over the whole
word, if the parser of addresses reads the word, and none if the parser refuses it. -/
theorem read_word {w : String} (hw : IsWord w.toList) :
    (read w).error? = none ∧
      (read w).located = match Address.parse w with
        | .ok a => [⟨⟨none, [], ⟨⟨w.toList, a⟩, none⟩⟩, ⟨0, w.utf8ByteSize⟩, none⟩]
        | .error _ => [] := by
  have hparse : Address.parse (String.ofList w.toList) = Address.parse w := by
    rw [String.ofList_toList]
  cases e : Address.parse w with
  | ok a =>
    have hm : IsMention ⟨w.toList, a⟩ := (isMention_iff hw).2 (hparse.trans e)
    have htext : w.toList = texts [.reference ⟨none, [], ⟨⟨w.toList, a⟩, none⟩⟩] := by
      simp [texts, Piece.text, Reference.text, Area.text]
    obtain ⟨herror, hlocated⟩ := located_of_passes htext (passes_mention hm) rfl
    refine ⟨herror, hlocated.trans ?_⟩
    simp [locate, Reference.locate, width, width_toList]
  | error e' =>
    have hnone : ∀ a, Address.parse (String.ofList w.toList) ≠ .ok a := by
      intro a ha
      rw [hparse, e] at ha
      cases ha
    have htext : w.toList = texts [.plain w.toList] := by simp [texts, Piece.text]
    exact located_of_passes htext (passes_word hw hnone) rfl

/-- The last cell of the grid with small letters, and a name that goes on behind an address. -/
theorem read_word_name :
    IsWord "$xFd1048576".toList ∧ IsWord "A1.é".toList ∧
      (read "$xFd1048576").located =
        [⟨⟨none, [], ⟨⟨"$xFd1048576".toList, ⟨1048575, 16383, false, true⟩⟩, none⟩⟩, ⟨0, 11⟩,
          none⟩] ∧
      (read "A1.é").located = [] := by
  have hrest : "xFd1048576".toList.all inWord = true := by decide +kernel
  have hrest' : "1.é".toList.all inWord = true := by decide +kernel
  have hw : IsWord "$xFd1048576".toList :=
    ⟨'$', "xFd1048576".toList, by decide, by decide, List.all_eq_true.1 hrest⟩
  have hw' : IsWord "A1.é".toList :=
    ⟨'A', "1.é".toList, by decide, by decide, List.all_eq_true.1 hrest'⟩
  refine ⟨hw, hw', (read_word hw).2, (read_word hw').2⟩

end Precedents.Formula
