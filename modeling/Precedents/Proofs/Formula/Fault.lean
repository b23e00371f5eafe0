import Precedents.Proofs.Formula.Iteration

/-!
# Where faults are

The offset of a fault is that of a character by which the fault can be seen (`Cause.Shows`): what
was opened and not closed, what was closed and not opened, or the qualifier without a reference. At
the end of the formula stand only parentheses and braces that are left open. The references before
the fault lie before its offset (`fault_position`).
-/

namespace Precedents.Formula

variable {ctx : Context} {text rest cs : List Char} {c : Char} {q : Qualifier} {cause : Cause}
variable {fault : Option Cause} {f : String}

/-! ## What shows a fault -/

/-- What stands before the exclamation mark of a qualifier: a name, or two words with a colon
between them. -/
inductive IsQualifier : List Char → Prop where
  | name {l name : List Char} : Names l name → IsQualifier l
  | span {w v : List Char} : IsWord w → IsWord v → IsQualifier (w ++ ':' :: v)

/-- How the text begins at the place of a fault. -/
def Cause.Shows : Cause → List Char → Prop
  | openString, text => text.head? = some '"'
  | strayParen, text => text.head? = some ')'
  | strayBrace, text => text.head? = some '}'
  | strayBracket, text => text.head? = some ']'
  | openParen, text => text = []
  | openBrace, text => text = []
  | openBracket, text => text.head? = some '['
  | openSheetName, text => text.head? = some '\''
  | loneSheetName, text => text.head? = some '\''
  | emptyQualifier, text => ∃ l z, text = l ++ '!' :: z ∧ IsQualifier l

/-- Nothing stands at the place of a fault exactly if something was left open to the end. -/
lemma Cause.Shows.eq_nil_iff (h : cause.Shows text) :
    text = [] ↔ cause = .openParen ∨ cause = .openBrace := by
  cases cause with
  | openParen => exact ⟨fun _ => .inl rfl, fun _ => h⟩
  | openBrace => exact ⟨fun _ => .inr rfl, fun _ => h⟩
  | emptyQualifier =>
    obtain ⟨l, z, rfl, -⟩ := h
    simp
  | _ =>
    obtain ⟨cs, rfl⟩ := List.head?_eq_some_iff.1 h
    simp

/-- The one fault behind a qualifier is that nothing stands there. -/
lemma stepQualified_stop (h : stepQualified ctx q text rest = .stop fault) :
    fault = some .emptyQualifier := by
  unfold stepQualified at h
  split at h
  case h_1 => cases h
  case h_2 =>
    split at h
    case h_1 => cases h
    case h_2 =>
      split at h
      case isTrue => cases h
      case isFalse => exact (Step.stop.inj h).symm
    case h_3 => exact (Step.stop.inj h).symm

/-- A word without a qualifier is no fault. -/
lemma stepUnqualified_ne_stop : stepUnqualified ctx text rest ≠ .stop fault := by
  unfold stepUnqualified
  split <;> simp

/-- At a fault in a word stands what its cause says. -/
lemma stepWord_stop (hc : startsWord c = true) (h : stepWord ctx c cs = .stop (some cause)) :
    cause.Shows (c :: cs) := by
  obtain ⟨ds, hs, ht, hds⟩ := dropWhile_split inWord cs
  have hw : IsWord (c :: ds) := ⟨c, ds, rfl, hc, hds⟩
  have hs : c :: cs = (c :: ds) ++ cs.dropWhile inWord := congrArg (c :: ·) hs
  simp only [stepWord, ht] at h
  split at h
  case h_1 after e =>
    obtain rfl := Option.some.inj (stepQualified_stop h)
    rw [e] at hs
    exact ⟨c :: ds, after, hs, .name (.bare hw)⟩
  case h_2 => exact absurd h (by simp)
  case h_3 =>
    split at h
    case h_1 last after e =>
      obtain rfl := Option.some.inj (stepQualified_stop h)
      obtain ⟨e, hlast⟩ := spanEnd?_split e
      exact ⟨(c :: ds) ++ ':' :: last, after, by rw [hs, e]; simp, .span hw hlast⟩
    case h_2 => exact absurd h stepUnqualified_ne_stop

/-- At a fault in a quoted name stands what its cause says. -/
lemma stepQuoted_stop (h : stepQuoted ctx cs = .stop (some cause)) :
    cause.Shows ('\'' :: cs) := by
  unfold stepQuoted at h
  split at h
  case h_1 =>
    obtain rfl := Option.some.inj (Step.stop.inj h)
    rfl
  case h_2 name rest e =>
    obtain rfl := Option.some.inj (stepQualified_stop h)
    obtain ⟨w, rfl, hw, -⟩ := quotedName_split e
    exact ⟨'\'' :: w, rest, rfl, .name (.quoted hw)⟩
  case h_3 =>
    obtain rfl := Option.some.inj (Step.stop.inj h)
    rfl

/-- A step that stops at a fault was taken where the fault shows. -/
theorem step_stop_shows (h : step ctx text = .stop (some cause)) : cause.Shows text := by
  have shows : ∀ {shown : Cause} {text}, Step.stop (some shown) = .stop (some cause) →
      shown.Shows text → cause.Shows text := by
    intro shown text e hs
    obtain rfl := Option.some.inj (Step.stop.inj e)
    exact hs
  unfold step at h
  split at h
  case h_1 =>
    split at h
    · exact shows h rfl
    · split at h
      · exact shows h rfl
      · exact absurd h (by simp)
  case h_2 cs =>
    split at h
    case h_1 => exact absurd h (by simp)
    case h_2 => exact shows h rfl
  case h_3 => exact absurd h (by simp)
  case h_4 => exact absurd h (by simp)
  case h_5 =>
    split at h
    · exact shows h rfl
    · exact absurd h (by simp)
  case h_6 => exact absurd h (by simp)
  case h_7 =>
    split at h
    · exact shows h rfl
    · exact absurd h (by simp)
  case h_8 =>
    split at h
    case h_1 => exact absurd h (by simp)
    case h_2 => exact shows h rfl
  case h_9 => exact shows h rfl
  case h_10 => exact stepQuoted_stop h
  -- A number and another character are passed over; only a word can be at fault.
  case h_11 c cs _ _ _ _ _ _ _ _ _ =>
    split at h
    · exact absurd h (by simp)
    · split at h
      · next hc => exact stepWord_stop hc h
      · exact absurd h (by simp)

/-! ## Where a reading ends -/

/-- A reading that ends in a fault ends where the fault shows. -/
lemma readFrom_fault (h : (readFrom ctx text).fault = some cause) :
    ∃ rest, text = texts (readFrom ctx text).pieces ++ rest ∧ cause.Shows rest := by
  fun_induction readFrom ctx text with
  | case1 ctx text fault e =>
    obtain rfl : fault = some cause := h
    exact ⟨text, rfl, step_stop_shows e⟩
  | case2 ctx text rest next e _ ih =>
    obtain ⟨z, hz, hshows⟩ := ih h
    refine ⟨z, ?_, hshows⟩
    rw [Reading.cons, texts_cons, List.append_assoc, ← hz]
    exact (upTo_append (advances_of_skip e).1).symm
  | case3 ctx text r rest e _ ih =>
    obtain ⟨z, hz, hshows⟩ := ih h
    refine ⟨z, ?_, hshows⟩
    rw [Reading.cons, texts_cons, List.append_assoc, ← hz]
    exact (advances_of_found e).1.symm

/-- What is left of a formula at its fault is what the cause says. -/
lemma read_fault (h : (read f).fault = some cause) :
    ∃ rest, f.toList = texts (read f).pieces ++ rest ∧ cause.Shows rest := by
  obtain ⟨l, hsplit, -, hread⟩ := read_split f
  rw [hread] at h ⊢
  obtain ⟨rest, hrest, hshows⟩ := readFrom_fault h
  refine ⟨rest, ?_, hshows⟩
  rw [Reading.cons, texts_cons, List.append_assoc, ← hrest]
  exact hsplit

/-- An area lies behind its lead, and ends where its text ends. -/
lemma area_locate (r : Reference) (offset : Nat) :
    (r.locate offset).area = ⟨offset + width r.lead, offset + width r.text⟩ := by
  obtain ⟨q, lead, m, second⟩ := r
  cases second with
  | none =>
    simp only [Reference.locate, Located.area, Reference.text, Area.text, Option.map_none,
      Option.getD_none, List.append_nil, width_append, Nat.add_assoc]
  | some k =>
    simp only [Reference.locate, Located.area, Reference.text, Area.text, Option.map_some,
      Option.getD_some, width_append, Nat.add_assoc]

/-- Every reference lies before the place at which the reading ended. -/
lemma stop_le_position {k : Located} (h : k ∈ (read f).located) :
    k.area.stop ≤ (read f).position := by
  obtain ⟨ps, r, qs, hpieces, rfl⟩ := mem_locate h
  have hposition : (read f).position = width (texts (read f).pieces) := rfl
  have htext : (Piece.reference r).text = r.text := rfl
  rw [area_locate, hposition, hpieces, texts_append, texts_cons, width_append, width_append,
    htext, Nat.zero_add, ← Nat.add_assoc]
  exact Nat.le_add_right _ _

/-- The offset of a fault lies between two characters of the formula, where the formula goes on with
what shows the fault. It is the end of the formula exactly if a parenthesis or a brace was left
open. The references that are found lie before it, and nothing is given after the fault. -/
theorem fault_position {f : String} {e : ParseError} (h : (read f).error? = some e) :
    (∃ before after : String, f = before ++ after ∧ before.utf8ByteSize = e.position ∧
        e.cause.Shows after.toList) ∧
      (⟨e.position⟩ : String.Pos.Raw).IsValid f ∧ e.position ≤ f.utf8ByteSize ∧
      (e.position = f.utf8ByteSize ↔ e.cause = .openParen ∨ e.cause = .openBrace) ∧
      (∀ k ∈ (read f).located, k.area.stop ≤ e.position) ∧
      ∀ n, ∃ c, (Cursor.start f).calls ((read f).located.length + 1 + n) =
        some ((read f).located.map (fun k => some (.ok k.placed)) ++
          some (.error e) :: List.replicate n none, c) := by
  obtain ⟨cause, hfault, rfl⟩ := Option.map_eq_some_iff.1 h
  obtain ⟨rest, hsplit, hshows⟩ := read_fault hfault
  have hf : f = String.ofList (texts (read f).pieces) ++ String.ofList rest := by
    rw [← String.toList_inj, hsplit]
    simp
  have hposition : (String.ofList (texts (read f).pieces)).utf8ByteSize = (read f).position :=
    width_ofList _
  have hsize : f.utf8ByteSize = (read f).position + width rest := by
    rw [← width_toList, hsplit, width_append]
    rfl
  refine ⟨⟨_, _, hf, hposition, ?_⟩, ?_, hsize ▸ Nat.le_add_right _ _, ?_,
    fun k hk => stop_le_position hk, fun n => ?_⟩
  · rw [String.toList_ofList]
    exact hshows
  · exact isValid_of_toList hsplit
  · -- At the end of the text nothing is left, which only the two causes of open signs show.
    rw [← hshows.eq_nil_iff, hsize]
    constructor
    · intro hend
      by_contra hne
      have hpos := Cursor.width_pos hne
      change (read f).position = _ at hend
      omega
    · rintro rfl
      rfl
  · obtain ⟨c, hcalls⟩ := Cursor.calls_beyond f n
    have hanswers : answers f =
        (read f).located.map (.ok ·.placed) ++ [.error ⟨(read f).position, cause⟩] := by
      rw [answers, h]
      rfl
    rw [hanswers, List.length_append, List.length_map, List.map_append, List.map_map,
      List.append_assoc] at hcalls
    exact ⟨c, hcalls⟩

/-- A sheet name of letters that take two bytes each, behind a reference: the fault is where the
name begins, and the reference lies before it. -/
theorem fault_position_bytes :
    (read "=\"é\"&A1+Größe!").error? = some ⟨9, .emptyQualifier⟩ ∧
      (∃ before after : String, "=\"é\"&A1+Größe!" = before ++ after ∧ before.utf8ByteSize = 9 ∧
        Cause.emptyQualifier.Shows after.toList) ∧
      ∃ k ∈ (read "=\"é\"&A1+Größe!").located, k.first = ⟨6, 8⟩ ∧ k.area.stop ≤ 9 := by
  have he : (read "=\"é\"&A1+Größe!").error? = some ⟨9, .emptyQualifier⟩ := by decide +kernel
  obtain ⟨k, hk, hfirst⟩ : ∃ k ∈ (read "=\"é\"&A1+Größe!").located, k.first = ⟨6, 8⟩ := by
    decide +kernel
  obtain ⟨hshows, -, -, -, hbefore, -⟩ := fault_position he
  exact ⟨he, hshows, k, hk, hfirst, hbefore k hk⟩

end Precedents.Formula
