import FlowAudit.Text.Class

/-!
# FlowAudit.Source.RegexLiteral

Regular expression literals in script source. A slash in code opens one where a value is expected
and divides elsewhere; `opensRegex` decides from the code before it. `closingSlash?` finds the slash
that ends the literal: the first one that is neither escaped by a backslash nor inside a `[...]`
class.
-/

namespace FlowAudit.Source

open FlowAudit.Text

/-- The punctuation after which a value, and so a regular expression, may begin. -/
def expectsValue (c : Char) : Bool :=
  c ∈ ['(', ',', '=', ':', '[', '!', '&', '|', '?', '{', '}', ';', '+', '-', '*', '%', '<', '>',
    '~', '^']

/-- Whether a slash opens a regular expression after the given code, whose characters are listed
last one first. It does at the beginning, after punctuation that expects a value, and after text
that ends in `return`. -/
def opensRegex (codeBackwards : List Char) : Bool :=
  match codeBackwards.dropWhile isBlank with
  | [] => true
  | c :: before => expectsValue c || "nruter".toList.isPrefixOf (c :: before)

/-- How far after the opening slash the closing slash stands. A backslash takes the next character
with it, and a slash between brackets does not close. -/
def closingSlash? (inClass : Bool) : List Char → Option Nat
  | [] => none
  | c :: rest =>
    if c = '\\' then
      match rest with
      | [] => none
      | _ :: rest => (closingSlash? inClass rest).map (· + 2)
    else if c = '[' then (closingSlash? true rest).map (· + 1)
    else if c = ']' then (closingSlash? false rest).map (· + 1)
    else if c = '/' && !inClass then some 0
    else (closingSlash? inClass rest).map (· + 1)

@[simp]
theorem closingSlash?_nil (inClass : Bool) : closingSlash? inClass [] = none := by
  rw [closingSlash?]

@[simp]
theorem closingSlash?_escape_nil (inClass : Bool) : closingSlash? inClass ['\\'] = none := by
  rw [closingSlash?.eq_def]
  rfl

@[simp]
theorem closingSlash?_escape (inClass : Bool) (c : Char) (rest : List Char) :
    closingSlash? inClass ('\\' :: c :: rest) = (closingSlash? inClass rest).map (· + 2) := by
  rw [closingSlash?.eq_def]
  rfl

/-- Looking at a character that is no backslash. -/
theorem closingSlash?_cons {c : Char} (h : c ≠ '\\') (inClass : Bool) (rest : List Char) :
    closingSlash? inClass (c :: rest) =
      if c = '[' then (closingSlash? true rest).map (· + 1)
      else if c = ']' then (closingSlash? false rest).map (· + 1)
      else if c = '/' && !inClass then some 0
      else (closingSlash? inClass rest).map (· + 1) := by
  rw [closingSlash?.eq_def]
  exact if_neg h

/-- How many characters after the opening slash belong to the literal: up to the closing slash, or
all of them when none closes it. -/
def regexLength (rest : List Char) : Nat :=
  match closingSlash? false rest with
  | some position => position + 1
  | none => rest.length

end FlowAudit.Source
