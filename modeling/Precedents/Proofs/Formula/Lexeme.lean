import Mathlib
import Precedents.Formula.Advance

/-!
# Lexemes and what follows them

What a lexeme is does not depend on the text behind it, but for the few characters by which its end
is known. For each kind of lexeme a `_split` lemma cuts a text into the lexeme and the text `z` that
follows it, and says what `z` does not begin with; an `_append` lemma puts any such `z` behind the
lexeme again. A lexeme is thus described apart from the text that it was found in.
-/

namespace Precedents.Formula

variable {p : Char → Bool} {c : Char} {text v w z : List Char}

/-! ## Runs of characters -/

/-- A text is the characters of a kind that it begins with, and what is left behind them. -/
lemma dropWhile_split (p : Char → Bool) (text : List Char) :
    ∃ w, text = w ++ text.dropWhile p ∧ text.takeWhile p = w ∧ ∀ c ∈ w, p c = true :=
  ⟨text.takeWhile p, List.takeWhile_append_dropWhile.symm, rfl,
    List.all_eq_true.1 (List.all_takeWhile (p := p))⟩

/-- What is left by dropping a kind of character does not lead with it. -/
lemma leadsWith_dropWhile (p : Char → Bool) (text : List Char) :
    leadsWith p (text.dropWhile p) = false := by
  induction text with
  | nil => rfl
  | cons c cs ih =>
    cases h : p c with
    | true => rw [List.dropWhile_cons_of_pos h]; exact ih
    | false => rw [List.dropWhile_cons_of_neg (by simp [h])]; exact h

/-- A run at the start of a text is not empty if the text begins with its kind. -/
lemma ne_nil_of_dropWhile (h : leadsWith p text = true) (hs : text = w ++ text.dropWhile p) :
    w ≠ [] := by
  rintro rfl
  have hlt := dropWhile_lt h
  rw [List.nil_append] at hs
  rw [← hs] at hlt
  exact Nat.lt_irrefl _ hlt

/-- Where a text does not lead with a kind of character, none is dropped. -/
lemma dropWhile_of_leadsWith (h : leadsWith p z = false) : z.dropWhile p = z := by
  cases z with
  | nil => rfl
  | cons c cs => exact List.dropWhile_cons_of_neg (by rw [show p c = false from h]; simp)

lemma dropWhile_append (hw : ∀ c ∈ w, p c = true) (hz : leadsWith p z = false) :
    (w ++ z).dropWhile p = z := by
  rw [List.dropWhile_append_of_pos hw, dropWhile_of_leadsWith hz]

lemma takeWhile_append (hw : ∀ c ∈ w, p c = true) (hz : leadsWith p z = false) :
    (w ++ z).takeWhile p = w := by
  have h := List.takeWhile_append_dropWhile (p := p) (l := w ++ z)
  rw [dropWhile_append hw hz] at h
  exact List.append_cancel_right h

/-- A text is cut in one way only into a run and what does not go on with it. -/
lemma run_unique {w' z' : List Char} (h : w ++ z = w' ++ z') (hw : ∀ c ∈ w, p c = true)
    (hz : leadsWith p z = false) (hw' : ∀ c ∈ w', p c = true) (hz' : leadsWith p z' = false) :
    w = w' ∧ z = z' := by
  refine ⟨?_, ?_⟩
  · rw [← takeWhile_append hw hz, h, takeWhile_append hw' hz']
  · rw [← dropWhile_append hw hz, h, dropWhile_append hw' hz']

lemma leadsWith_append (h : w ≠ []) : leadsWith p (w ++ z) = leadsWith p w := by
  cases w with
  | nil => exact absurd rfl h
  | cons c cs => rfl

/-- A text that leads with a kind of character has one. -/
lemma exists_cons_of_leadsWith (h : leadsWith p text = true) :
    ∃ c cs, text = c :: cs ∧ p c = true := by
  cases text with
  | nil => exact absurd h Bool.false_ne_true
  | cons c cs => exact ⟨c, cs, rfl, h⟩

/-- What does not lead with a kind does not lead with a narrower one. -/
lemma leadsWith_of_imp {q : Char → Bool} (h : ∀ c, q c = true → p c = true)
    (hz : leadsWith p z = false) : leadsWith q z = false := by
  cases z with
  | nil => rfl
  | cons c cs =>
    rw [Bool.eq_false_iff]
    intro hc
    rw [show leadsWith p (c :: cs) = true from h c hc] at hz
    exact Bool.false_ne_true hz.symm

/-! ## Strings and quoted names -/

lemma afterString_cons (h : c ≠ '"') (cs : List Char) :
    afterString (c :: cs) = afterString cs := by
  rw [afterString]
  · rintro cs' rfl; exact absurd rfl h
  · rintro rfl; exact h rfl

/-- A quote that is not doubled ends the string. -/
lemma afterString_close (h : leadsWith (· == '"') z = false) : afterString ('"' :: z) = some z := by
  rw [afterString]
  rintro cs rfl
  exact Bool.false_ne_true h.symm

/-- A string is followed by no further quotation mark. -/
lemma afterString_split (h : afterString text = some z) :
    ∃ w, text = w ++ z ∧ afterString w = some [] ∧ leadsWith (· == '"') z = false := by
  fun_induction afterString text with
  | case1 => simp at h
  | case2 cs ih =>
    obtain ⟨w, rfl, hw, hz⟩ := ih h
    exact ⟨'"' :: '"' :: w, rfl, hw, hz⟩
  | case3 cs hne =>
    obtain rfl := Option.some.inj h
    refine ⟨['"'], rfl, rfl, ?_⟩
    cases cs with
    | nil => rfl
    | cons c cs => exact beq_false_of_ne fun hc => hne cs (by rw [hc])
  | case4 c cs _ hne ih =>
    obtain ⟨w, rfl, hw, hz⟩ := ih h
    exact ⟨c :: w, rfl, by rw [afterString_cons fun hc => hne hc, hw], hz⟩

lemma afterString_append (h : afterString w = some []) (hz : leadsWith (· == '"') z = false) :
    afterString (w ++ z) = some z := by
  fun_induction afterString w with
  | case1 => simp at h
  | case2 cs ih => exact ih h
  | case3 cs hne =>
    obtain rfl := Option.some.inj h
    exact afterString_close hz
  | case4 c cs _ hne ih =>
    rw [List.cons_append, afterString_cons fun hc => hne hc]
    exact ih h

lemma quotedName_cons (h : c ≠ '\'') (cs : List Char) :
    quotedName (c :: cs) = (quotedName cs).map fun (name, rest) => (c :: name, rest) := by
  rw [quotedName]
  · rintro cs' rfl; exact absurd rfl h
  · rintro rfl; exact h rfl

/-- An apostrophe that is not doubled ends the name. -/
lemma quotedName_close (h : leadsWith (· == '\'') z = false) :
    quotedName ('\'' :: z) = some ([], z) := by
  rw [quotedName]
  rintro cs rfl
  exact Bool.false_ne_true h.symm

/-- A quoted name is followed by no further apostrophe. -/
lemma quotedName_split {name : List Char} (h : quotedName text = some (name, z)) :
    ∃ w, text = w ++ z ∧ quotedName w = some (name, []) ∧ leadsWith (· == '\'') z = false := by
  fun_induction quotedName text generalizing name with
  | case1 => simp at h
  | case2 cs ih =>
    obtain ⟨⟨n, r⟩, hq, he⟩ := Option.map_eq_some_iff.1 h
    obtain ⟨rfl, rfl⟩ := Prod.mk.inj he
    obtain ⟨w, rfl, hw, hz⟩ := ih hq
    exact ⟨'\'' :: '\'' :: w, rfl, by rw [quotedName, hw]; rfl, hz⟩
  | case3 cs hne =>
    obtain ⟨rfl, rfl⟩ := Prod.mk.inj (Option.some.inj h)
    refine ⟨['\''], rfl, rfl, ?_⟩
    cases cs with
    | nil => rfl
    | cons c cs => exact beq_false_of_ne fun hc => hne cs (by rw [hc])
  | case4 c cs _ hne ih =>
    obtain ⟨⟨n, r⟩, hq, he⟩ := Option.map_eq_some_iff.1 h
    obtain ⟨rfl, rfl⟩ := Prod.mk.inj he
    obtain ⟨w, rfl, hw, hz⟩ := ih hq
    exact ⟨c :: w, rfl, by rw [quotedName_cons fun hc => hne hc, hw]; rfl, hz⟩

lemma quotedName_append {name : List Char} (h : quotedName w = some (name, []))
    (hz : leadsWith (· == '\'') z = false) : quotedName (w ++ z) = some (name, z) := by
  fun_induction quotedName w generalizing name with
  | case1 => simp at h
  | case2 cs ih =>
    obtain ⟨⟨n, r⟩, hq, he⟩ := Option.map_eq_some_iff.1 h
    obtain ⟨rfl, rfl⟩ := Prod.mk.inj he
    rw [List.cons_append, List.cons_append, quotedName, ih hq]
    rfl
  | case3 cs hne =>
    obtain ⟨rfl, rfl⟩ := Prod.mk.inj (Option.some.inj h)
    exact quotedName_close hz
  | case4 c cs _ hne ih =>
    obtain ⟨⟨n, r⟩, hq, he⟩ := Option.map_eq_some_iff.1 h
    obtain ⟨rfl, rfl⟩ := Prod.mk.inj he
    rw [List.cons_append, quotedName_cons fun hc => hne hc, ih hq]
    rfl

/-! ## Brackets -/

lemma afterBrackets_append {depth : Nat} (h : afterBrackets depth w = some []) (z : List Char) :
    afterBrackets depth (w ++ z) = some z := by
  fun_induction afterBrackets depth w with
  | case1 => simp at h
  | case2 depth cs ih => exact ih h
  | case3 cs =>
    obtain rfl := Option.some.inj h
    rfl
  | case4 cs depth ih => exact ih h
  | case5 depth c cs ih => exact ih h
  | case6 depth c cs hopen hclose hescape ih =>
    -- What takes the meaning from the next character is not the last, since a bracket closes last.
    cases cs with
    | nil => simp [afterBrackets] at h
    | cons d ds =>
      rw [List.cons_append, afterBrackets]
      · exact ih h
      · rintro rfl; exact hopen rfl
      · rintro rfl; exact hclose rfl
      · rintro e es rfl he
        exact hescape d ds rfl rfl

/-- Where a bracketed text ends is told by the text up to there. -/
lemma afterBrackets_split {depth : Nat} (h : afterBrackets depth text = some z) :
    ∃ w, text = w ++ z ∧ afterBrackets depth w = some [] := by
  fun_induction afterBrackets depth text with
  | case1 => simp at h
  | case2 depth cs ih =>
    obtain ⟨w, rfl, hw⟩ := ih h
    exact ⟨'[' :: w, rfl, hw⟩
  | case3 cs =>
    obtain rfl := Option.some.inj h
    exact ⟨[']'], rfl, rfl⟩
  | case4 cs depth ih =>
    obtain ⟨w, rfl, hw⟩ := ih h
    exact ⟨']' :: w, rfl, hw⟩
  | case5 depth c cs ih =>
    obtain ⟨w, rfl, hw⟩ := ih h
    exact ⟨'\'' :: c :: w, rfl, hw⟩
  | case6 depth c cs hopen hclose hescape ih =>
    obtain ⟨w, rfl, hw⟩ := ih h
    refine ⟨c :: w, rfl, ?_⟩
    rw [afterBrackets]
    · exact hw
    · rintro rfl; exact hopen rfl
    · rintro rfl; exact hclose rfl
    · rintro d ds rfl rfl
      exact hescape d (ds ++ z) rfl rfl

/-! ## Error literals -/

/-- Characters that go on with an error literal or end it. -/
def inErrorTail (c : Char) : Bool := inErrorLiteral c || c == '!' || c == '?'

/-- What an error literal has after its first character, in front of `z`. -/
inductive ErrorTail : List Char → List Char → Prop where
  | closed {w z : List Char} {c : Char} : (∀ d ∈ w, inErrorLiteral d = true) → c = '!' ∨ c = '?' →
    ErrorTail (w ++ [c]) z
  | bare {w z : List Char} : (∀ d ∈ w, inErrorLiteral d = true) → leadsWith inErrorTail z = false →
    ErrorTail w z

/-- The marks that end an error literal are not inside it. -/
lemma inErrorLiteral_close (h : c = '!' ∨ c = '?') : inErrorLiteral c = false := by
  rcases h with rfl | rfl <;> rfl

/-- Behind an error literal stands what it is in front of. -/
lemma ErrorTail.after (h : ErrorTail w z) : afterErrorLiteral (w ++ z) = z := by
  cases h with
  | @closed w z c hw hc =>
    have hz : leadsWith inErrorLiteral (c :: z) = false := inErrorLiteral_close hc
    rw [List.append_assoc, List.singleton_append, afterErrorLiteral, dropWhile_append hw hz]
    rcases hc with rfl | rfl <;> rfl
  | bare hw hz =>
    have hl : leadsWith inErrorLiteral z = false :=
      leadsWith_of_imp (fun c hc => by simp [inErrorTail, hc]) hz
    rw [afterErrorLiteral, dropWhile_append hw hl]
    split
    case h_1 => exact absurd hz.symm Bool.false_ne_true
    case h_2 => exact absurd hz.symm Bool.false_ne_true
    case h_3 => rfl

/-- A text is an error literal and what is behind it. -/
lemma errorTail_split (text : List Char) :
    ∃ w, text = w ++ afterErrorLiteral text ∧ ErrorTail w (afterErrorLiteral text) := by
  obtain ⟨w, hs, -, hw⟩ := dropWhile_split inErrorLiteral text
  have hl := leadsWith_dropWhile inErrorLiteral text
  unfold afterErrorLiteral
  split
  case h_1 cs e =>
    refine ⟨w ++ ['!'], ?_, .closed hw (.inl rfl)⟩
    rw [List.append_assoc, List.singleton_append, ← e]
    exact hs
  case h_2 cs e =>
    refine ⟨w ++ ['?'], ?_, .closed hw (.inr rfl)⟩
    rw [List.append_assoc, List.singleton_append, ← e]
    exact hs
  case h_3 hbang hmark =>
    refine ⟨w, hs, .bare hw ?_⟩
    cases e : text.dropWhile inErrorLiteral with
    | nil => rfl
    | cons c cs =>
      have hc : inErrorLiteral c = false := by rw [e] at hl; exact hl
      have hb : c ≠ '!' := fun h => hbang cs (by rw [e, h])
      have hm : c ≠ '?' := fun h => hmark cs (by rw [e, h])
      simp [leadsWith, inErrorTail, hc, hb, hm]

/-! ## Numbers -/

/-- Whether the text begins with an exponent. -/
def leadsExponent : List Char → Bool
  | [] => false
  | c :: cs => (c == 'e' || c == 'E') && leadsWith Char.isDigit (afterSign cs)

/-- A sign, or none. -/
def IsSign (sign : List Char) : Prop := sign = [] ∨ sign = ['+'] ∨ sign = ['-']

/-- What a number has after its first character, in front of `z`. -/
inductive NumberTail : List Char → List Char → Prop where
  | plain {w z : List Char} : (∀ d ∈ w, inNumber d = true) → leadsWith inNumber z = false →
    leadsExponent z = false → NumberTail w z
  | exponent {w sign digits z : List Char} {c : Char} : (∀ d ∈ w, inNumber d = true) →
    c = 'e' ∨ c = 'E' → IsSign sign → digits ≠ [] → (∀ d ∈ digits, d.isDigit = true) →
    leadsWith Char.isDigit z = false → NumberTail (w ++ c :: (sign ++ digits)) z

/-- Where there is no exponent, none is passed. -/
lemma afterExponent_of_leadsExponent (h : leadsExponent z = false) : afterExponent z = z := by
  cases z with
  | nil => rfl
  | cons c cs =>
    rw [afterExponent, if_neg]
    exact fun he => Bool.false_ne_true (h.symm.trans he)

lemma afterSign_append {sign : List Char} (hs : IsSign sign)
    (hz : leadsWith Char.isDigit z = true) : afterSign (sign ++ z) = z := by
  rcases hs with rfl | rfl | rfl
  · obtain ⟨c, cs, rfl, hc⟩ := exists_cons_of_leadsWith hz
    rw [List.nil_append, afterSign]
    · rintro ds e; rw [(List.cons.inj e).1] at hc; exact absurd hc (by decide)
    · rintro ds e; rw [(List.cons.inj e).1] at hc; exact absurd hc (by decide)
  · rfl
  · rfl

/-- A text is a sign, which may be empty, and what is behind it. -/
lemma afterSign_split (text : List Char) : ∃ sign, IsSign sign ∧ text = sign ++ afterSign text := by
  unfold afterSign
  split
  · exact ⟨['+'], .inr (.inl rfl), rfl⟩
  · exact ⟨['-'], .inr (.inr rfl), rfl⟩
  · exact ⟨[], .inl rfl, rfl⟩

/-- The letter of an exponent is not among the characters of a number. -/
lemma inNumber_exponent (h : c = 'e' ∨ c = 'E') : inNumber c = false := by
  rcases h with rfl | rfl <;> rfl

/-- Behind a number stands what it is in front of. -/
lemma NumberTail.after (h : NumberTail w z) : afterNumber (w ++ z) = z := by
  cases h with
  | plain hw hz he =>
    rw [afterNumber, dropWhile_append hw hz, afterExponent_of_leadsExponent he]
  | @exponent w sign digits z c hw hc hs hne hd hz =>
    have hl : leadsWith Char.isDigit (digits ++ z) = true := by
      obtain ⟨d, ds, e⟩ := List.exists_cons_of_ne_nil hne
      rw [e] at hd ⊢
      exact hd d List.mem_cons_self
    have hsign : afterSign (sign ++ (digits ++ z)) = digits ++ z := afterSign_append hs hl
    have he : (c == 'e' || c == 'E') = true := by rcases hc with rfl | rfl <;> rfl
    have hw' : leadsWith inNumber (c :: (sign ++ (digits ++ z))) = false := inNumber_exponent hc
    rw [List.append_assoc, List.cons_append, List.append_assoc, afterNumber,
      dropWhile_append hw hw', afterExponent, hsign, he, hl, Bool.true_and, if_pos rfl,
      dropWhile_append hd hz]

/-- A text is a number and what is behind it. -/
lemma numberTail_split (text : List Char) :
    ∃ w, text = w ++ afterNumber text ∧ NumberTail w (afterNumber text) := by
  obtain ⟨w, hs, -, hw⟩ := dropWhile_split inNumber text
  have hl := leadsWith_dropWhile inNumber text
  rw [afterNumber]
  cases he : leadsExponent (text.dropWhile inNumber) with
  | false =>
    rw [afterExponent_of_leadsExponent he]
    exact ⟨w, hs, .plain hw hl he⟩
  | true =>
    cases e : text.dropWhile inNumber with
    | nil => rw [e] at he; exact absurd he Bool.false_ne_true
    | cons c cs =>
      rw [e] at he hs
      have hexp : afterExponent (c :: cs) = (afterSign cs).dropWhile Char.isDigit := if_pos he
      have he := Bool.and_eq_true_iff.1 he
      rw [hexp]
      obtain ⟨sign, hsign, hcs⟩ := afterSign_split cs
      obtain ⟨digits, hdigits, -, hd⟩ := dropWhile_split Char.isDigit (afterSign cs)
      refine ⟨w ++ c :: (sign ++ digits), ?_, .exponent hw (by simpa using he.1) hsign ?_ hd
        (leadsWith_dropWhile _ _)⟩
      · rw [List.append_assoc, List.cons_append, List.append_assoc, ← hdigits, ← hcs]
        exact hs
      · -- Without a digit behind the sign there would be no exponent.
        exact ne_nil_of_dropWhile he.2 hdigits

/-! ## What makes an exponent -/

/-- Whether the text begins with a digit, or with a sign and a digit. -/
def leadsSigned (text : List Char) : Bool := leadsWith Char.isDigit (afterSign text)

lemma leadsExponent_cons {cs : List Char} :
    leadsExponent (c :: cs) = true ↔ (c = 'e' ∨ c = 'E') ∧ leadsSigned cs = true := by
  rw [leadsExponent, Bool.and_eq_true, Bool.or_eq_true, beq_iff_eq, beq_iff_eq, leadsSigned]

lemma leadsSigned_cons (cs : List Char) :
    leadsSigned (c :: cs) =
      if c = '+' ∨ c = '-' then leadsWith Char.isDigit cs else c.isDigit := by
  unfold leadsSigned afterSign
  split
  case h_1 e =>
    obtain ⟨rfl, rfl⟩ := List.cons.inj e
    rfl
  case h_2 e =>
    obtain ⟨rfl, rfl⟩ := List.cons.inj e
    rfl
  case h_3 hplus hminus =>
    rw [if_neg]
    · rfl
    · rintro (rfl | rfl)
      · exact hplus cs rfl
      · exact hminus cs rfl

variable {y y' : List Char}

/-- What follows a text matters to a signed number only if the text is a sign or empty. -/
lemma leadsSigned_append (hd : leadsWith Char.isDigit y' = true → leadsWith Char.isDigit y = true)
    (hs : w = [] → leadsSigned y' = true → leadsSigned y = true)
    (h : leadsSigned (w ++ y') = true) : leadsSigned (w ++ y) = true := by
  cases w with
  | nil => exact hs rfl h
  | cons c cs =>
    rw [List.cons_append, leadsSigned_cons] at h ⊢
    split at h
    case isFalse hc => rwa [if_neg hc]
    case isTrue hc =>
      rw [if_pos hc]
      cases cs with
      | nil => exact hd h
      | cons d ds => exact h

/-- What follows a text matters to an exponent only if the text is part of one or empty. -/
lemma leadsExponent_append
    (hd : leadsWith Char.isDigit y' = true → leadsWith Char.isDigit y = true)
    (hs : ∀ c, w = [c] → c = 'e' ∨ c = 'E' → leadsSigned y' = true → leadsSigned y = true)
    (he : w = [] → leadsExponent y' = true → leadsExponent y = true)
    (h : leadsExponent (w ++ y') = true) : leadsExponent (w ++ y) = true := by
  cases w with
  | nil => exact he rfl h
  | cons c cs =>
    rw [List.cons_append, leadsExponent_cons] at h ⊢
    refine ⟨h.1, leadsSigned_append hd ?_ h.2⟩
    rintro rfl
    exact hs c rfl h.1

end Precedents.Formula
