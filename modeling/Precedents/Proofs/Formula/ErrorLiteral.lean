import Precedents.Proofs.Formula.Composition

/-!
# What stands behind an error literal

A formula is read the same behind an error literal and an operator as it is alone
(`read_behind_literal`). There is one exception. `#N/A` ends in no mark, so that the operator `/`
and the letters and digits behind it are taken for more of the literal, and with them the references
that they belong to (`reference_hidden_behind_literal`). The theorem says how much is hidden then.
-/

namespace Precedents.Formula

variable {e : String} {o : Char} {w z : List Char} {c : Char}

/-- The error values, as a formula may hold them. -/
def errorValues : List String :=
  ["#NULL!", "#DIV/0!", "#VALUE!", "#REF!", "#NAME?", "#NUM!", "#N/A"]

/-- The operators that stand between two operands. -/
def operators : List Char := ['+', '-', '*', '/', '^', '&', '=', '<', '>']

/-- Operators are passed over one at a time. -/
lemma isOther_of_mem_operators (h : o ∈ operators) : isOther o = true := by
  have others : operators.all isOther = true := by decide
  exact List.all_eq_true.1 others o h

/-- Of the operators, an error literal can go on with the slash alone. -/
lemma inErrorTail_of_mem_operators (h : o ∈ operators) (hne : o ≠ '/') : inErrorTail o = false := by
  have others : operators.all (fun o => o == '/' || !inErrorTail o) = true := by decide
  have ho := List.all_eq_true.1 others o h
  rw [Bool.or_eq_true, beq_iff_eq, Bool.not_eq_true'] at ho
  exact ho.resolve_left hne

/-- Every error value but `#N/A` has a mark at its end, by which it is closed. -/
lemma errorValue_split (h : e ∈ errorValues) :
    e = "#N/A" ∨ ∃ w c, e.toList = '#' :: (w ++ [c]) ∧ (∀ d ∈ w, inErrorLiteral d = true) ∧
      (c = '!' ∨ c = '?') := by
  have closed : ∀ w : List Char, w.all inErrorLiteral = true → ∀ d ∈ w, inErrorLiteral d = true :=
    fun w hw => List.all_eq_true.1 hw
  simp only [errorValues, List.mem_cons, List.not_mem_nil, or_false] at h
  rcases h with rfl | rfl | rfl | rfl | rfl | rfl | rfl
  · exact .inr ⟨"NULL".toList, '!', rfl, closed _ (by decide), .inl rfl⟩
  · exact .inr ⟨"DIV/0".toList, '!', rfl, closed _ (by decide), .inl rfl⟩
  · exact .inr ⟨"VALUE".toList, '!', rfl, closed _ (by decide), .inl rfl⟩
  · exact .inr ⟨"REF".toList, '!', rfl, closed _ (by decide), .inl rfl⟩
  · exact .inr ⟨"NAME".toList, '?', rfl, closed _ (by decide), .inr rfl⟩
  · exact .inr ⟨"NUM".toList, '!', rfl, closed _ (by decide), .inl rfl⟩
  · exact .inl rfl

/-- In front of an operator an error value is a piece of its own, unless the operator is taken for
more of it. -/
lemma skips_errorValue (he : e ∈ errorValues) (ho : o ∈ operators) (h : (e, o) ≠ ("#N/A", '/')) :
    Skips .start e.toList (o :: z) .start := by
  cases errorValue_split he with
  | inr hclosed =>
    obtain ⟨w, c, hw, hall, hc⟩ := hclosed
    rw [hw]
    exact .errorLiteral (.closed hall hc)
  | inl hbare =>
    subst hbare
    have letters : ['N', '/', 'A'].all inErrorLiteral = true := by decide
    have hne : o ≠ '/' := by
      rintro rfl
      exact h rfl
    exact .errorLiteral (.bare (List.all_eq_true.1 letters) (inErrorTail_of_mem_operators ho hne))

/-- Characters that go on with an error literal stand in front of any tail of one. -/
lemma ErrorTail.append {v : List Char} (hv : ∀ d ∈ v, inErrorLiteral d = true)
    (h : ErrorTail w z) : ErrorTail (v ++ w) z := by
  have hall : ∀ {w : List Char}, (∀ d ∈ w, inErrorLiteral d = true) →
      ∀ d ∈ v ++ w, inErrorLiteral d = true := by
    intro w hw d hd
    cases List.mem_append.1 hd with
    | inl hd => exact hv d hd
    | inr hd => exact hw d hd
  cases h with
  | closed hw hc =>
    rw [← List.append_assoc]
    exact .closed (hall hw) hc
  | bare hw hz => exact .bare (hall hw) hz

/-- Behind an error literal and an operator every formula is read as it is alone, with its places
moved. Only behind `#N/A` and a slash a part of the formula is hidden: what would go on with an
error literal and end it. The rest is read as it is alone. -/
theorem read_behind_literal {e : String} {o : Char} (he : e ∈ errorValues) (ho : o ∈ operators)
    (g : String) :
    ((e, o) ≠ ("#N/A", '/') →
      (read (e ++ String.singleton o ++ g)).located =
          (read g).located.map (·.after (e ++ String.singleton o).utf8ByteSize) ∧
        (read (e ++ String.singleton o ++ g)).error? =
          (read g).error?.map (·.after (e ++ String.singleton o).utf8ByteSize)) ∧
      ((e, o) = ("#N/A", '/') →
        ∃ hidden shown : String, g = hidden ++ shown ∧ ErrorTail hidden.toList shown.toList ∧
          (read (e ++ String.singleton o ++ g)).located =
            (read shown).located.map (·.after (e ++ String.singleton o ++ hidden).utf8ByteSize) ∧
          (read (e ++ String.singleton o ++ g)).error? =
            (read shown).error?.map
              (·.after (e ++ String.singleton o ++ hidden).utf8ByteSize)) := by
  constructor
  · intro hne
    have hpasses : Passes .start [.plain e.toList, .plain [o]] g.toList .start :=
      .skip (skips_errorValue he ho hne) (.skip (.other (isOther_of_mem_operators ho)) .nil)
    have htext : (e ++ String.singleton o).toList = texts [.plain e.toList, .plain [o]] := by
      rw [String.toList_append, String.toList_singleton]
      rfl
    exact read_append hpasses htext
  · intro hslash
    obtain ⟨rfl, rfl⟩ := Prod.mk.inj hslash
    obtain ⟨w, hg, hw⟩ := errorTail_split g.toList
    generalize afterErrorLiteral g.toList = z at hg hw
    have hg : g = String.ofList w ++ String.ofList z := by
      rw [← String.ofList_append, ← hg, String.ofList_toList]
    subst hg
    refine ⟨String.ofList w, String.ofList z, rfl, by simpa using hw, ?_⟩
    -- The slash and what is hidden are one piece with the literal.
    have letters : ['N', '/', 'A', '/'].all inErrorLiteral = true := by decide
    have htail : ErrorTail (['N', '/', 'A', '/'] ++ w) z := hw.append (List.all_eq_true.1 letters)
    have hpasses : Passes .start [.plain ('#' :: (['N', '/', 'A', '/'] ++ w))]
        (String.ofList z).toList .start := by
      rw [String.toList_ofList]
      exact .skip (.errorLiteral htail) .nil
    have htext : ("#N/A" ++ String.singleton '/' ++ String.ofList w).toList =
        texts [.plain ('#' :: (['N', '/', 'A', '/'] ++ w))] := by
      simp [texts, Piece.text]
    have hread := read_append hpasses htext
    rw [← String.append_assoc]
    simpa [locate] using hread

/-- A division by a cell, of a literal that is closed and of one that is not: the sum behind the
second keeps only its last reference. -/
theorem read_behind_literal_division :
    "#DIV/0!" ∈ errorValues ∧ '/' ∈ operators ∧ ("#DIV/0!", '/') ≠ ("#N/A", '/') ∧
      (read ("#DIV/0!" ++ String.singleton '/' ++ "A1+B2")).located =
        (read "A1+B2").located.map (·.after ("#DIV/0!" ++ String.singleton '/').utf8ByteSize) ∧
      ∃ hidden shown : String, "A1+B2" = hidden ++ shown ∧
        ErrorTail hidden.toList shown.toList ∧
        (read ("#N/A" ++ String.singleton '/' ++ "A1+B2")).located = (read shown).located.map
          (·.after ("#N/A" ++ String.singleton '/' ++ hidden).utf8ByteSize) := by
  have he : "#DIV/0!" ∈ errorValues := by decide
  have he' : "#N/A" ∈ errorValues := by decide
  have ho : '/' ∈ operators := by decide
  have hne : ("#DIV/0!", '/') ≠ ("#N/A", '/') := by decide
  obtain ⟨hidden, shown, hg, htail, hread, -⟩ := (read_behind_literal he' ho "A1+B2").2 rfl
  have hfound := ((read_behind_literal he ho "A1+B2").1 hne).1
  exact ⟨he, ho, hne, hfound, hidden, shown, hg, htail, hread⟩

/-- Behind `#N/A` and a slash a reference is lost that the formula has when it stands alone. -/
theorem reference_hidden_behind_literal :
    "#N/A" ∈ errorValues ∧ '/' ∈ operators ∧ (read "A1").error? = none ∧
      (read "A1").located.length = 1 ∧
      (read ("#N/A" ++ String.singleton '/' ++ "A1")).error? = none ∧
      (read ("#N/A" ++ String.singleton '/' ++ "A1")).located = [] := by
  decide +kernel

end Precedents.Formula
