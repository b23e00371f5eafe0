import Precedents.Formula.Token
import Precedents.Proofs.LetterCase
import Precedents.Proofs.Formula.Composition

/-!
# Reading in either case

A formula in small letters is read as the formula is, with every piece in small letters
(`read_small`). The lemmas follow the functions that read a piece, from the smallest up, and say of
each that it makes no difference whether the text is made small before or after it. So formulas that
differ only in the case of letters have the same references at the same places, the same fault, and
the same tokens (`read_sameLetters`).
-/

namespace Precedents.Formula

open Text (small small_cons small_append length_small takeWhile_small dropWhile_small)

variable {ctx : Context} {p : Char → Bool}

/-! ## References in small letters -/

/-- The mention in small letters. Its address is the same. -/
def Mention.small (m : Mention) : Mention := { m with text := Text.small m.text }

/-- The corner in small letters. -/
def Corner.small (k : Corner) : Corner := ⟨Text.small k.joint, k.mention.small⟩

/-- The area in small letters. -/
def Area.small (a : Area) : Area := ⟨a.first.small, a.second.map Corner.small⟩

/-- The qualifier with its names in small letters. -/
def Qualifier.small : Qualifier → Qualifier
  | sheet name => sheet (Text.uncapitalized name)
  | span first last => span (Text.uncapitalized first) (Text.uncapitalized last)
  | external => external

/-- The reference in small letters. -/
def Reference.small (r : Reference) : Reference :=
  ⟨r.qualifier.map Qualifier.small, Text.small r.lead, r.area.small⟩

/-- The piece in small letters. -/
def Piece.small : Piece → Piece
  | plain text => plain (Text.small text)
  | reference r => reference r.small

/-- The outcome of a step with its texts in small letters. -/
def Step.small : Step → Step
  | stop fault => stop fault
  | skip rest next => skip (Text.small rest) next
  | found r rest => found r.small (Text.small rest)

/-- The reading with its pieces in small letters. -/
def Reading.small (r : Reading) : Reading := { r with pieces := r.pieces.map Piece.small }

/-- The reference in small letters at its place. -/
def Located.small (l : Located) : Located := { l with reference := l.reference.small }

lemma Area.text_small (a : Area) : a.small.text = Text.small a.text := by
  obtain ⟨m, second⟩ := a
  cases second with
  | none => simp [text, small, Mention.small]
  | some k => simp [text, small, Mention.small, Corner.small, Text.small]

lemma Reference.text_small (r : Reference) : r.small.text = Text.small r.text := by
  rw [text, text, small_append, ← Area.text_small]
  rfl

lemma Piece.text_small (p : Piece) : p.small.text = Text.small p.text := by
  cases p with
  | plain t => rfl
  | reference r => exact r.text_small

lemma width_small (text : List Char) : width (small text) = width text := by
  induction text with
  | nil => rfl
  | cons c cs ih =>
    have hsize : c.toLower.utf8Size = c.utf8Size := apply_toLower (by decide) c
    rw [small_cons, width, width, hsize, ih]

lemma upTo_small (text rest : List Char) :
    upTo (small text) (small rest) = small (upTo text rest) := by
  rw [upTo, upTo, length_small, length_small, small, small, List.map_take]

lemma leadsWith_small (hp : Caseless p) (text : List Char) :
    leadsWith p (small text) = leadsWith p text := by
  cases text with
  | nil => rfl
  | cons c cs => exact hp c

/-! ## Lexemes -/

lemma caseless_startsWord : Caseless startsWord := apply_toLower (by decide)

lemma caseless_inWord : Caseless inWord := apply_toLower (by decide)

lemma caseless_inNumber : Caseless inNumber := apply_toLower (by decide)

lemma caseless_inErrorLiteral : Caseless inErrorLiteral := apply_toLower (by decide)

lemma caseless_continuesName : Caseless continuesName := apply_toLower (by decide)

lemma afterString_small (text : List Char) :
    afterString (small text) = (afterString text).map small := by
  fun_induction afterString text with
  | case1 => rfl
  | case2 cs ih => exact ih
  | case3 cs hne =>
    apply afterString_close
    refine (leadsWith_small (caseless_beq (d := '"') (by decide)) cs).trans ?_
    cases cs with
    | nil => rfl
    | cons c cs => exact beq_false_of_ne fun hc => hne cs (by rw [hc])
  | case4 c cs _ hne ih =>
    rw [small_cons, afterString_cons (toLower_ne (fun hc => hne hc) (by decide)), ih]

lemma quotedName_small (text : List Char) :
    quotedName (small text) = (quotedName text).map (Prod.map small small) := by
  fun_induction quotedName text with
  | case1 => rfl
  | case2 cs ih =>
    change (quotedName (small cs)).map _ = _
    rw [ih, Option.map_map, Option.map_map]
    rfl
  | case3 cs hne =>
    apply quotedName_close
    refine (leadsWith_small (caseless_beq (d := '\'') (by decide)) cs).trans ?_
    cases cs with
    | nil => rfl
    | cons c cs => exact beq_false_of_ne fun hc => hne cs (by rw [hc])
  | case4 c cs _ hne ih =>
    rw [small_cons, quotedName_cons (toLower_ne (fun hc => hne hc) (by decide)), ih, Option.map_map,
      Option.map_map]
    rfl

lemma afterBrackets_small (depth : Nat) (text : List Char) :
    afterBrackets depth (small text) = (afterBrackets depth text).map small := by
  fun_induction afterBrackets depth text with
  | case1 => rfl
  | case2 depth cs ih => exact ih
  | case3 cs => rfl
  | case4 cs depth ih => exact ih
  | case5 depth c cs ih => exact ih
  | case6 depth c cs hopen hclose hescape ih =>
    rw [small_cons, afterBrackets]
    · exact ih
    · exact toLower_ne (fun hc => hopen hc) (by decide)
    · exact toLower_ne (fun hc => hclose hc) (by decide)
    · intro d ds hc hds
      cases cs with
      | nil => exact absurd hds (by simp [small])
      | cons e es => exact hescape e es ((toLower_eq_iff (by decide)).1 hc) rfl

lemma afterErrorLiteral_small (text : List Char) :
    afterErrorLiteral (small text) = small (afterErrorLiteral text) := by
  rw [afterErrorLiteral, afterErrorLiteral, dropWhile_small caseless_inErrorLiteral]
  cases text.dropWhile inErrorLiteral with
  | nil => rfl
  | cons c cs =>
    obtain rfl | ⟨hbang, hbang'⟩ := eq_or_toLower_ne (d := '!') c (by decide)
    · rfl
    obtain rfl | ⟨hmark, hmark'⟩ := eq_or_toLower_ne (d := '?') c (by decide)
    · rfl
    simp [small, hbang, hmark, hbang', hmark']

lemma afterSign_small (text : List Char) : afterSign (small text) = small (afterSign text) := by
  cases text with
  | nil => rfl
  | cons c cs =>
    obtain rfl | ⟨hplus, hplus'⟩ := eq_or_toLower_ne (d := '+') c (by decide)
    · rfl
    obtain rfl | ⟨hminus, hminus'⟩ := eq_or_toLower_ne (d := '-') c (by decide)
    · rfl
    simp [afterSign, small, hplus, hminus, hplus', hminus']

lemma afterNumber_small (text : List Char) :
    afterNumber (small text) = small (afterNumber text) := by
  rw [afterNumber, afterNumber, dropWhile_small caseless_inNumber]
  cases text.dropWhile inNumber with
  | nil => rfl
  | cons c cs =>
    -- The letter of an exponent is recognised in either case.
    have hexp : (c.toLower == 'e' || c.toLower == 'E') = (c == 'e' || c == 'E') :=
      apply_toLower (f := fun c => c == 'e' || c == 'E') (by decide) c
    rw [small_cons, afterExponent, afterExponent, hexp, afterSign_small,
      leadsWith_small caseless_isDigit, dropWhile_small caseless_isDigit]
    split <;> rfl

/-! ## Areas -/

/-- A written address is the same one in small letters. -/
lemma mention?_small (text : List Char) :
    mention? (small text) = (mention? text).map (Prod.map Mention.small small) := by
  simp only [mention?, Address.takeMark_small, dropWhile_small caseless_isAlpha,
    dropWhile_small caseless_isDigit, leadsWith_small caseless_isAlpha,
    leadsWith_small caseless_isDigit, leadsWith_small caseless_continuesName, upTo_small]
  split
  case isTrue => rfl
  case isFalse =>
    generalize List.dropWhile Char.isDigit _ = rest
    have hparse := cases_of_toOption (Address.parse_small (upTo text rest))
    obtain ⟨a, ha, ha'⟩ | ⟨e, e', he, he'⟩ := hparse
    · rw [ha, ha']
      rfl
    · rw [he, he']
      rfl

/-- A qualifier that is repeated is repeated in small letters. -/
lemma afterSameQualifier_small (name : String) (text : List Char) :
    afterSameQualifier (Text.uncapitalized name) (small text) =
      (afterSameQualifier name text).map small := by
  -- What is named again is compared in lowercase.
  have hcompare : ∀ again rest : List Char,
      (if Text.lowercase (String.ofList (small again)) = Text.lowercase (Text.uncapitalized name)
        then some (small rest) else none) =
      (if Text.lowercase (String.ofList again) = Text.lowercase name
        then some rest else none).map small := by
    intro again rest
    rw [← Text.uncapitalized_ofList, Text.lowercase_uncapitalized, Text.lowercase_uncapitalized]
    split <;> rfl
  cases text with
  | nil => rfl
  | cons c cs =>
    obtain rfl | ⟨hquote, hquote'⟩ := eq_or_toLower_ne (d := '\'') c (by decide)
    · change afterSameQualifier _ ('\'' :: small cs) = _
      simp only [afterSameQualifier, quotedName_small]
      cases quotedName cs with
      | none => rfl
      | some named =>
        obtain ⟨again, tail⟩ := named
        cases tail with
        | nil => rfl
        | cons d rest =>
          obtain rfl | ⟨hbang, hbang'⟩ := eq_or_toLower_ne (d := '!') d (by decide)
          · exact hcompare again rest
          · simp [small, hbang, hbang']
    · simp only [small_cons, afterSameQualifier, caseless_startsWord c,
        takeWhile_small caseless_inWord, dropWhile_small caseless_inWord]
      by_cases hword : startsWord c = true
      · rw [if_pos hword, if_pos hword]
        cases cs.dropWhile inWord with
        | nil => rfl
        | cons d rest =>
          obtain rfl | ⟨hbang, hbang'⟩ := eq_or_toLower_ne (d := '!') d (by decide)
          · exact hcompare (c :: cs.takeWhile inWord) rest
          · simp [small, hbang, hbang']
      · rw [if_neg hword, if_neg hword]
        rfl

lemma corner?_small (name : Option String) (text : List Char) :
    corner? (name.map Text.uncapitalized) (small text) =
      (corner? name text).map (Prod.map Corner.small small) := by
  cases text with
  | nil => rfl
  | cons c cs =>
    obtain rfl | ⟨hc, hc'⟩ := eq_or_toLower_ne (d := ':') c (by decide)
    · change corner? _ (':' :: small cs) = _
      rw [corner?, corner?, mention?_small]
      cases mention? cs with
      | some found => rfl
      | none =>
        cases name with
        | none => rfl
        | some name =>
          simp only [Option.map_some, Option.map_none, Option.bind_eq_bind, Option.bind_some,
            afterSameQualifier_small]
          cases afterSameQualifier name cs with
          | none => rfl
          | some again =>
            simp only [Option.map_some, Option.bind_some, mention?_small]
            cases mention? again with
            | none => rfl
            | some found =>
              have hjoint := upTo_small (':' :: cs) again
              exact congrArg (fun j => some (Corner.mk j found.1.small, small found.2)) hjoint
    · simp [corner?, small, hc, hc']

/-- An area is the same one in small letters. -/
lemma area?_small (name : Option String) (text : List Char) :
    area? (name.map Text.uncapitalized) (small text) =
      (area? name text).map (Prod.map Area.small small) := by
  rw [area?, area?, mention?_small]
  cases mention? text with
  | none => rfl
  | some found =>
    simp only [Option.map_some, Prod.map, corner?_small]
    cases corner? name found.2 with
    | none => rfl
    | some corner => rfl

lemma afterNames_small (text : List Char) : afterNames (small text) = small (afterNames text) := by
  rw [afterNames, afterNames, dropWhile_small caseless_inWord]
  cases text.dropWhile inWord with
  | nil => rfl
  | cons c cs =>
    obtain rfl | ⟨hc, hc'⟩ := eq_or_toLower_ne (d := ':') c (by decide)
    · change (if leadsWith inWord (small cs) then (small cs).dropWhile inWord else _) = _
      rw [leadsWith_small caseless_inWord, dropWhile_small caseless_inWord]
      simp only
      split <;> rfl
    · simp [small, hc, hc']

lemma spanEnd?_small (text : List Char) :
    spanEnd? (small text) = (spanEnd? text).map (Prod.map small small) := by
  cases text with
  | nil => rfl
  | cons c cs =>
    obtain rfl | ⟨hc, hc'⟩ := eq_or_toLower_ne (d := ':') c (by decide)
    · change spanEnd? (':' :: small cs) = _
      rw [spanEnd?, spanEnd?, leadsWith_small caseless_startsWord,
        dropWhile_small caseless_inWord, takeWhile_small caseless_inWord]
      split
      case isFalse => rfl
      case isTrue =>
        cases cs.dropWhile inWord with
        | nil => rfl
        | cons d ds =>
          obtain rfl | ⟨hd, hd'⟩ := eq_or_toLower_ne (d := '!') d (by decide)
          · rfl
          · simp [small, hd, hd']
    · simp [spanEnd?, small, hc, hc']

/-! ## Qualifiers -/

lemma Qualifier.single?_small (q : Qualifier) :
    q.small.single? = q.single?.map Text.uncapitalized := by
  cases q <;> rfl

lemma Qualifier.ofQuoted_small (name : List Char) :
    ofQuoted (Text.small name) = (ofQuoted name).small := by
  have hcolon : Caseless (· != ':') :=
    fun c => congrArg (!·) (caseless_beq (d := ':') (by decide) c)
  have hbracket : (Text.small name).contains '[' = name.contains '[' := by
    rw [Bool.eq_iff_iff, List.contains_iff_mem, List.contains_iff_mem, Text.small, List.mem_map]
    simp only [toLower_eq_iff (d := '[') (by decide), exists_eq_right]
  rw [ofQuoted, ofQuoted, hbracket, dropWhile_small hcolon, takeWhile_small hcolon]
  split
  case isTrue => rfl
  case isFalse =>
    cases name.dropWhile (· != ':') with
    | nil => rw [small, Text.uncapitalized_ofList]; rfl
    | cons c last => rw [small, Text.uncapitalized_ofList, Text.uncapitalized_ofList]; rfl

/-- The step behind a qualifier is the same one in small letters. -/
lemma stepQualified_small (q : Qualifier) (text rest : List Char) :
    stepQualified ctx q.small (small text) (small rest) =
      (stepQualified ctx q text rest).small := by
  unfold stepQualified
  rw [Qualifier.single?_small, area?_small]
  cases area? q.single? rest with
  | some found =>
    have hlead := upTo_small text rest
    exact congrArg (fun l => Step.found ⟨some q.small, l, found.1.small⟩ (small found.2)) hlead
  | none =>
    cases rest with
    | nil => rfl
    | cons c cs =>
      obtain rfl | ⟨hc, hc'⟩ := eq_or_toLower_ne (d := '#') c (by decide)
      · exact congrArg (Step.skip · ctx.plain) (afterErrorLiteral_small cs)
      · have hnames := afterNames_small (c :: cs)
        rw [small_cons] at hnames
        simp only [small_cons, Option.map_none, caseless_inWord c, hnames]
        split <;> rfl

/-! ## Steps -/

/-- The step at a word without a qualifier is the same one in small letters. -/
lemma stepUnqualified_small (text rest : List Char) :
    stepUnqualified ctx (small text) (small rest) = (stepUnqualified ctx text rest).small := by
  have harea := area?_small none text
  rw [Option.map_none] at harea
  rw [stepUnqualified, stepUnqualified, harea]
  cases area? none text with
  | none => rfl
  | some found => rfl

/-- The step at a word is the same one in small letters. -/
lemma stepWord_small (c : Char) (cs : List Char) :
    stepWord ctx c.toLower (small cs) = (stepWord ctx c cs).small := by
  have hsheet : ∀ w : List Char,
      (if ctx.afterBracket then .external else .sheet (String.ofList (small w))) =
        Qualifier.small (if ctx.afterBracket then .external else .sheet (String.ofList w)) := by
    intro w
    rw [← Text.uncapitalized_ofList]
    split <;> rfl
  have hspan : ∀ w v : List Char,
      (if ctx.afterBracket then .external
        else .span (String.ofList (small w)) (String.ofList (small v))) =
        Qualifier.small (if ctx.afterBracket then .external
          else .span (String.ofList w) (String.ofList v)) := by
    intro w v
    rw [← Text.uncapitalized_ofList, ← Text.uncapitalized_ofList]
    split <;> rfl
  simp only [stepWord, takeWhile_small caseless_inWord, dropWhile_small caseless_inWord,
    ← small_cons]
  cases cs.dropWhile inWord with
  | nil => exact stepUnqualified_small (c :: cs) []
  | cons d ds =>
    -- The character behind the word decides, and it has no case where it matters.
    obtain rfl | ⟨hbang, hbang'⟩ := eq_or_toLower_ne (d := '!') d (by decide)
    · change stepQualified ctx _ _ (small ds) = _
      rw [hsheet]
      exact stepQualified_small _ (c :: cs) ds
    obtain rfl | ⟨hparen, hparen'⟩ := eq_or_toLower_ne (d := '(') d (by decide)
    · rfl
    have hend := spanEnd?_small (d :: ds)
    rw [small_cons] at hend
    simp only [small_cons d, hend]
    cases spanEnd? (d :: ds) with
    | none =>
      simp only [List.cons.injEq, hbang, hparen, hbang', hparen', false_and, imp_self, implies_true,
        Option.map_none]
      exact stepUnqualified_small (c :: cs) (d :: ds)
    | some found =>
      simp only [List.cons.injEq, hbang, hparen, hbang', hparen', false_and, imp_self, implies_true,
        Option.map_some, Prod.map, hspan]
      exact stepQualified_small _ (c :: cs) found.2

/-- The step at a quoted name is the same one in small letters. -/
lemma stepQuoted_small (cs : List Char) :
    stepQuoted ctx (small cs) = (stepQuoted ctx cs).small := by
  rw [stepQuoted, stepQuoted, quotedName_small]
  cases quotedName cs with
  | none => rfl
  | some named =>
    obtain ⟨name, tail⟩ := named
    cases tail with
    | nil => rfl
    | cons c rest =>
      obtain rfl | ⟨hc, hc'⟩ := eq_or_toLower_ne (d := '!') c (by decide)
      · change stepQualified ctx (.ofQuoted (small name)) (small ('\'' :: cs)) (small rest) = _
        rw [Qualifier.ofQuoted_small]
        exact stepQualified_small _ ('\'' :: cs) rest
      · simp [small, hc, hc', Step.small]

lemma caseless_signs : Caseless (signs.contains ·) := apply_toLower (by decide)

/-- The next piece of a text in small letters is that of the text, in small letters. -/
theorem step_small (ctx : Context) (text : List Char) :
    step ctx (small text) = (step ctx text).small := by
  cases text with
  | nil =>
    change step ctx [] = (step ctx []).small
    rw [step]
    split
    · rfl
    · split <;> rfl
  | cons c cs =>
    -- Signs are their own small letters, and nothing else becomes one.
    by_cases hc : c ∈ signs
    · simp only [signs, List.mem_cons, List.not_mem_nil, or_false] at hc
      rcases hc with rfl | rfl | rfl | rfl | rfl | rfl | rfl | rfl | rfl
      · change step ctx ('"' :: small cs) = _
        rw [step, step, afterString_small]
        cases afterString cs <;> rfl
      · exact congrArg (Step.skip · ctx.plain) (afterErrorLiteral_small cs)
      · rfl
      · change step ctx (')' :: small cs) = _
        rw [step, step]
        split <;> rfl
      · rfl
      · change step ctx ('}' :: small cs) = _
        rw [step, step]
        split <;> rfl
      · change step ctx ('[' :: small cs) = _
        rw [step, step, afterBrackets_small]
        cases afterBrackets 0 cs <;> rfl
      · rfl
      · exact stepQuoted_small cs
    · have hc' : c.toLower ∉ signs := by
        have hsigns : signs.contains c.toLower = signs.contains c := caseless_signs c
        rwa [← List.contains_iff_mem, hsigns, List.contains_iff_mem]
      rw [small_cons, step_cons hc, step_cons hc', caseless_inNumber, caseless_startsWord,
        afterNumber_small, stepWord_small]
      split
      · rfl
      · split <;> rfl

/-! ## Readings -/

/-- The reading in small letters is the reading made small. -/
lemma readFrom_small (ctx : Context) (text : List Char) :
    readFrom ctx (small text) = (readFrom ctx text).small := by
  fun_induction readFrom ctx text with
  | case1 ctx text fault e =>
    apply readFrom_stop
    rw [step_small, e]
    rfl
  | case2 ctx text rest next e _ ih =>
    have hstep : step ctx (small text) = .skip (small rest) next := by
      rw [step_small, e]
      rfl
    rw [readFrom_upTo hstep, ih, upTo_small]
    rfl
  | case3 ctx text r rest e _ ih =>
    have hstep : step ctx (small text) = .found r.small (small rest) := by
      rw [step_small, e]
      rfl
    rw [readFrom_found hstep, ih]
    rfl

/-- The body of a formula is the same one in small letters. -/
lemma body_small (text : List Char) : body (small text) = small (body text) := by
  rw [body, body, Text.trimLeft, Text.trimLeft, dropWhile_small caseless_isBlank]
  cases text.dropWhile Text.isBlank with
  | nil => rfl
  | cons c cs =>
    obtain rfl | ⟨hc, hc'⟩ := eq_or_toLower_ne (d := '=') c (by decide)
    · rfl
    · simp [small, hc, hc']

/-- A formula in small letters is read as the formula is, with every piece in small letters. -/
theorem read_small (f : String) : read (Text.uncapitalized f) = (read f).small := by
  rw [read, read, Text.uncapitalized, String.toList_ofList, body_small, readFrom_small, upTo_small]
  rfl

lemma Reference.locate_small (r : Reference) (offset : Nat) :
    r.small.locate offset = (r.locate offset).small := by
  obtain ⟨qualifier, lead, ⟨m, second⟩⟩ := r
  cases second with
  | none => simp [locate, small, Area.small, Mention.small, Located.small, width_small]
  | some k =>
    simp [locate, small, Area.small, Mention.small, Corner.small, Located.small, width_small]

lemma locate_small (offset : Nat) (ps : List Piece) :
    locate offset (ps.map Piece.small) = (locate offset ps).map Located.small := by
  induction ps generalizing offset with
  | nil => rfl
  | cons p ps ih =>
    cases p with
    | plain t =>
      rw [List.map_cons, Piece.small, locate, locate, width_small]
      exact ih _
    | reference r =>
      rw [List.map_cons, Piece.small, locate, locate, r.locate_small, r.text_small, width_small, ih]
      rfl

/-- A formula in small letters has the same references at the same places. -/
lemma located_small (f : String) :
    (read (Text.uncapitalized f)).located = (read f).located.map Located.small := by
  rw [read_small]
  exact locate_small 0 (read f).pieces

/-- A formula in small letters has the same error. -/
lemma error?_small (f : String) : (read (Text.uncapitalized f)).error? = (read f).error? := by
  have htext : ((read f).pieces.map Piece.small).flatMap Piece.text =
      small ((read f).pieces.flatMap Piece.text) := by
    simp only [List.flatMap_map, Piece.text_small, small, List.map_flatMap]
  rw [read_small, Reading.error?, Reading.error?, Reading.position, Reading.small, htext,
    width_small]
  rfl

/-! ## Tokens -/

variable {find : String → Option Nat}

lemma Area.token_small (a : Area) (spans : Bool) (ends : Nat × Nat) :
    a.small.token spans ends = a.token spans ends := by
  obtain ⟨m, second⟩ := a
  cases second <;> rfl

/-- A qualifier resolves to the same sheets in small letters. -/
lemma Qualifier.ends?_small (h : ∀ name, find (Text.uncapitalized name) = find name)
    (q : Qualifier) : q.small.ends? find = q.ends? find := by
  cases q with
  | sheet name => simp only [small, ends?, h]
  | span first last => simp only [small, ends?, h]
  | external => rfl

/-- A reference resolves to the same token in small letters. -/
lemma Reference.token?_small (h : ∀ name, find (Text.uncapitalized name) = find name)
    (current : Nat) (r : Reference) : r.small.token? find current = r.token? find current := by
  obtain ⟨qualifier, lead, area⟩ := r
  cases qualifier with
  | none => exact congrArg some (area.token_small false (current, current))
  | some q =>
    have hspans : q.small.isSpan = q.isSpan := by cases q <;> rfl
    change (q.small.ends? find).map (area.small.token q.small.isSpan) = _
    rw [q.ends?_small h, hspans, funext (area.token_small q.isSpan)]
    rfl

/-- A formula in small letters has the same tokens. -/
lemma tokenize_small (h : ∀ name, find (Text.uncapitalized name) = find name) (current : Nat)
    (f : String) : tokenize find current (Text.uncapitalized f) = tokenize find current f := by
  have htokens : (read f).small.tokens find current = (read f).tokens find current := by
    simp only [Reading.tokens, Reading.references, Reading.small, List.filterMap_map,
      List.filterMap_filterMap]
    refine List.filterMap_congr fun p _ => ?_
    cases p with
    | plain t => rfl
    | reference r => exact r.token?_small h current
  rw [tokenize, tokenize, read_small, htokens]
  rfl

/-! ## Formulas in either case -/

/-- Qualifiers with the same names but for the case of Latin letters. -/
inductive Qualifier.SameNames : Qualifier → Qualifier → Prop where
  | sheet {s t : String} : SameLetters s t → SameNames (sheet s) (sheet t)
  | span {s t u v : String} : SameLetters s t → SameLetters u v → SameNames (span s u) (span t v)
  | external : SameNames external external

/-- References with the same addresses at the same places, and with the same names of sheets but for
the case of Latin letters. -/
structure Located.Agrees (k l : Located) : Prop where
  first : k.first = l.first
  second : k.second = l.second
  addresses : k.reference.area.addresses = l.reference.area.addresses
  qualifier : Option.Rel Qualifier.SameNames k.reference.qualifier l.reference.qualifier

/-- Qualifiers that are the same in small letters have the same names up to case. -/
lemma Qualifier.sameNames_of_small {q q' : Qualifier} (h : q.small = q'.small) :
    SameNames q q' := by
  cases q with
  | sheet s =>
    cases q' with
    | sheet t => exact .sheet (Text.uncapitalized_eq_iff.1 (Qualifier.sheet.inj h))
    | span => cases h
    | external => cases h
  | span s u =>
    cases q' with
    | sheet => cases h
    | span t v =>
      obtain ⟨hst, huv⟩ := Qualifier.span.inj h
      exact .span (Text.uncapitalized_eq_iff.1 hst) (Text.uncapitalized_eq_iff.1 huv)
    | external => cases h
  | external =>
    cases q' with
    | sheet => cases h
    | span => cases h
    | external => exact .external

/-- An area has the same addresses in small letters. -/
lemma Area.addresses_small (a : Area) : a.small.addresses = a.addresses := by
  rw [addresses, addresses, small, Option.map_map]
  rfl

/-- References that are the same in small letters agree up to case. -/
lemma Located.agrees_of_small {k l : Located} (h : k.small = l.small) : Agrees k l := by
  have hreference : k.small.reference = l.small.reference := congrArg Located.reference h
  have hfirst : k.small.first = l.small.first := congrArg Located.first h
  have hsecond : k.small.second = l.small.second := congrArg Located.second h
  refine ⟨hfirst, hsecond, ?_, ?_⟩
  · rw [← k.reference.area.addresses_small, ← l.reference.area.addresses_small]
    exact congrArg (fun r => Area.addresses (Reference.area r)) hreference
  · have hqualifier : k.reference.qualifier.map Qualifier.small =
        l.reference.qualifier.map Qualifier.small := congrArg Reference.qualifier hreference
    generalize k.reference.qualifier = q at hqualifier ⊢
    generalize l.reference.qualifier = q' at hqualifier ⊢
    cases q with
    | none =>
      cases q' with
      | none => exact .none
      | some r => exact absurd hqualifier nofun
    | some q =>
      cases q' with
      | none => exact absurd hqualifier nofun
      | some r => exact .some (Qualifier.sameNames_of_small (Option.some.inj hqualifier))

/-- Formulas that differ only in the case of Latin letters have the same references at the same
places, with the same marks and the same sheets but for the case of their names. They have the same
fault at the same place, and they read the same in every workbook. -/
theorem read_sameLetters {f g : String} (h : SameLetters f g) :
    List.Forall₂ Located.Agrees (read f).located (read g).located ∧
      (read f).error? = (read g).error? ∧
      ∀ (wb : Workbook) (current : Nat),
        tokenize wb.sheetIndex? current f = tokenize wb.sheetIndex? current g := by
  have hsmall : Text.uncapitalized f = Text.uncapitalized g := Text.uncapitalized_eq_iff.2 h
  refine ⟨?_, ?_, ?_⟩
  · have hlocated : (read f).located.map Located.small = (read g).located.map Located.small := by
      rw [← located_small, hsmall, located_small]
    rw [← List.forall₂_eq_eq_eq, List.forall₂_map_left_iff, List.forall₂_map_right_iff] at hlocated
    exact hlocated.imp fun _ _ => Located.agrees_of_small
  · rw [← error?_small f, hsmall, error?_small]
  · intro wb current
    have hfind : ∀ name, wb.sheetIndex? (Text.uncapitalized name) = wb.sheetIndex? name := by
      intro name
      rw [Workbook.sheetIndex?, SheetName.fold, Text.lowercase_uncapitalized]
      rfl
    rw [← tokenize_small hfind, hsmall, tokenize_small hfind]

/-- Capitals and small letters in a repeated qualifier, an exponent and a quoted name. -/
theorem read_sameLetters_repeated :
    SameLetters "=log10(data!$a1:DATA!b2)+1e5*'My'!c3" "=LOG10(Data!$A1:dAta!B2)+1E5*'MY'!C3" ∧
      (read "=log10(data!$a1:DATA!b2)+1e5*'My'!c3").located.length = 2 ∧
      List.Forall₂ Located.Agrees (read "=log10(data!$a1:DATA!b2)+1e5*'My'!c3").located
        (read "=LOG10(Data!$A1:dAta!B2)+1E5*'MY'!C3").located ∧
      tokenize Workbook.new.sheetIndex? 0 "=log10(data!$a1:DATA!b2)+1e5*'My'!c3" =
        tokenize Workbook.new.sheetIndex? 0 "=LOG10(Data!$A1:dAta!B2)+1E5*'MY'!C3" := by
  have h : SameLetters "=log10(data!$a1:DATA!b2)+1e5*'My'!c3"
      "=LOG10(Data!$A1:dAta!B2)+1E5*'MY'!C3" :=
    Text.uncapitalized_eq_iff.1 (by decide +kernel)
  obtain ⟨hlocated, -, htokens⟩ := read_sameLetters h
  exact ⟨h, by decide +kernel, hlocated, htokens Workbook.new 0⟩

end Precedents.Formula
