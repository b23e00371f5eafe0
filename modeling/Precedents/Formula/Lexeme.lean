import Precedents.Text.Letter
import Precedents.Text.Numeral

/-!
# Lexemes

The shortest things a formula is read by: words, numbers, quoted text, bracketed text and error
literals. Each function takes the text after the opening of its lexeme and gives the text after its
end, or nothing where the lexeme is not closed. What is given back is always a suffix of what was
taken, which the lemmas beside the definitions say; `upTo` recovers what lies between.
-/

namespace Precedents.Formula

/-- What stands in front of `rest` in `text`, where `rest` is a suffix of it. -/
def upTo (text rest : List Char) : List Char := text.take (text.length - rest.length)

theorem upTo_append {text rest : List Char} (h : rest <:+ text) :
    upTo text rest ++ rest = text := by
  obtain ⟨lead, rfl⟩ := h
  simp [upTo]

/-- Characters that a word begins with. -/
def startsWord (c : Char) : Bool := Text.isLetter c || c == '_' || c == '\\' || c == '$'

/-- Characters that a word goes on with. -/
def inWord (c : Char) : Bool :=
  Text.isLetter c || Text.isNumeral c || c == '_' || c == '\\' || c == '.' || c == '$' || c == '?'

/-- What a word can begin with can stand inside it. -/
theorem inWord_of_startsWord {c : Char} (h : startsWord c = true) : inWord c = true := by
  simp only [startsWord, Bool.or_eq_true] at h
  simp only [inWord, Bool.or_eq_true]
  rcases h with ((h | h) | h) | h <;> simp [h]

/-- Whether the text begins with a character of some kind. -/
def leadsWith (p : Char → Bool) : List Char → Bool
  | [] => false
  | c :: _ => p c

/-- The text after a string literal. A doubled quotation mark stands for one and closes nothing. -/
def afterString : List Char → Option (List Char)
  | [] => none
  | '"' :: '"' :: cs => afterString cs
  | '"' :: cs => some cs
  | _ :: cs => afterString cs

/-- The name between apostrophes, where a doubled apostrophe stands for one, and the text after the
closing apostrophe. -/
def quotedName : List Char → Option (List Char × List Char)
  | [] => none
  | '\'' :: '\'' :: cs => (quotedName cs).map fun (name, rest) => ('\'' :: name, rest)
  | '\'' :: cs => some ([], cs)
  | c :: cs => (quotedName cs).map fun (name, rest) => (c :: name, rest)

/-- The text after a bracket that closes the outermost of `depth + 1` open ones. An apostrophe takes
the meaning from the character after it. -/
def afterBrackets (depth : Nat) : List Char → Option (List Char)
  | [] => none
  | '[' :: cs => afterBrackets (depth + 1) cs
  | ']' :: cs => match depth with
    | 0 => some cs
    | depth + 1 => afterBrackets depth cs
  | '\'' :: _ :: cs => afterBrackets depth cs
  | _ :: cs => afterBrackets depth cs

/-- Characters of an error literal such as `#DIV/0!`, its first and its last apart. -/
def inErrorLiteral (c : Char) : Bool := c.isAlphanum || c == '/' || c == '_'

/-- The text after an error literal, which may end in an exclamation or a question mark. -/
def afterErrorLiteral (text : List Char) : List Char :=
  match text.dropWhile inErrorLiteral with
  | '!' :: cs => cs
  | '?' :: cs => cs
  | cs => cs

/-- Characters of the part of a number before its exponent. -/
def inNumber (c : Char) : Bool := c.isDigit || c == '.'

/-- The text after a plus or a minus sign, if there is one. -/
def afterSign : List Char → List Char
  | '+' :: cs => cs
  | '-' :: cs => cs
  | cs => cs

/-- The text after an exponent. Without digits there is none, and the letter belongs to what comes
next. -/
def afterExponent : List Char → List Char
  | [] => []
  | c :: cs =>
    if (c == 'e' || c == 'E') && leadsWith Char.isDigit (afterSign cs) then
      (afterSign cs).dropWhile Char.isDigit
    else c :: cs

/-- The text after a number. -/
def afterNumber (text : List Char) : List Char := afterExponent (text.dropWhile inNumber)

/-- What is left behind a string is the end of the text. -/
theorem afterString_suffix {text rest : List Char} (h : afterString text = some rest) :
    rest <:+ text := by
  fun_induction afterString text with
  | case1 => simp at h
  | case2 cs ih => exact (ih h).trans ⟨['"', '"'], rfl⟩
  | case3 cs => exact Option.some.inj h ▸ List.suffix_cons _ _
  | case4 c cs _ _ ih => exact (ih h).trans (List.suffix_cons _ _)

/-- What is left behind a quoted name is the end of the text. -/
theorem quotedName_suffix {text name rest : List Char} (h : quotedName text = some (name, rest)) :
    rest <:+ text := by
  fun_induction quotedName text generalizing name with
  | case1 => simp at h
  | case2 cs ih =>
    obtain ⟨⟨n, r⟩, hq, he⟩ := Option.map_eq_some_iff.1 h
    obtain ⟨-, rfl⟩ := Prod.mk.inj he
    exact (ih hq).trans ⟨['\'', '\''], rfl⟩
  | case3 cs =>
    obtain ⟨-, rfl⟩ := Prod.mk.inj (Option.some.inj h)
    exact List.suffix_cons _ _
  | case4 c cs _ _ ih =>
    obtain ⟨⟨n, r⟩, hq, he⟩ := Option.map_eq_some_iff.1 h
    obtain ⟨-, rfl⟩ := Prod.mk.inj he
    exact (ih hq).trans (List.suffix_cons _ _)

/-- What is left behind brackets is the end of the text. -/
theorem afterBrackets_suffix {depth : Nat} {text rest : List Char}
    (h : afterBrackets depth text = some rest) : rest <:+ text := by
  fun_induction afterBrackets depth text with
  | case1 => simp at h
  | case2 depth cs ih => exact (ih h).trans (List.suffix_cons _ _)
  | case3 cs => exact Option.some.inj h ▸ List.suffix_cons _ _
  | case4 cs depth ih => exact (ih h).trans (List.suffix_cons _ _)
  | case5 depth c cs ih => exact (ih h).trans ⟨['\'', c], rfl⟩
  | case6 depth c cs _ _ _ ih => exact (ih h).trans (List.suffix_cons _ _)

/-- What is left behind an error literal is the end of the text. -/
theorem afterErrorLiteral_suffix (text : List Char) : afterErrorLiteral text <:+ text := by
  have h := List.dropWhile_suffix inErrorLiteral (l := text)
  unfold afterErrorLiteral
  split
  case h_1 cs e => exact (List.suffix_cons '!' cs).trans (e ▸ h)
  case h_2 cs e => exact (List.suffix_cons '?' cs).trans (e ▸ h)
  case h_3 => exact h

/-- Behind a sign, if there is one, stands the end of the text. -/
theorem afterSign_suffix (text : List Char) : afterSign text <:+ text := by
  unfold afterSign
  split
  · exact List.suffix_cons _ _
  · exact List.suffix_cons _ _
  · exact List.suffix_rfl

/-- Behind an exponent, if there is one, stands the end of the text. -/
theorem afterExponent_suffix (text : List Char) : afterExponent text <:+ text := by
  unfold afterExponent
  split
  · exact List.suffix_rfl
  · split
    · exact (List.dropWhile_suffix _).trans ((afterSign_suffix _).trans (List.suffix_cons _ _))
    · exact List.suffix_rfl

/-- What is left behind a number is the end of the text. -/
theorem afterNumber_suffix (text : List Char) : afterNumber text <:+ text :=
  (afterExponent_suffix _).trans (List.dropWhile_suffix _)

end Precedents.Formula
