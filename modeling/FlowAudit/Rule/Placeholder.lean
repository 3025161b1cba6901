import FlowAudit.Issue.Basic
import FlowAudit.Rule.Word
import FlowAudit.Source.Line

/-!
# FlowAudit.Rule.Placeholder

Placeholder values typed in while trying a function out: literals such as `"test"` or `"foo"`, and
numbers such as `12345`. A line gives at most one issue; its literals are looked at before its
numbers.
-/

namespace FlowAudit.Rule

open FlowAudit.Text FlowAudit.Source

/-- Literal contents that are placeholders as a whole. -/
def placeholderTexts : List (List Char) :=
  ["test", "testing", "test123", "dummy", "foo", "bar", "baz", "foobar", "asdf", "qwerty",
    "placeholder", "changeme", "fake", "john doe", "test@test.com", "test@example.com",
    "password123"].map String.toList

/-- How filler text begins. -/
def fillerOpening : List Char := "lorem ipsum".toList

/-- A character in lower case, as far as that can give an ASCII letter: the capital ASCII letters,
and the Kelvin sign, which is a `k`. -/
def foldToAscii (c : Char) : Char :=
  if c = '\u212a' then 'k' else asciiLower c

/-- Whether the contents of a literal look like a placeholder, blanks around them and the difference
between capital and small letters aside. -/
def isPlaceholder (literal : List Char) : Bool :=
  let value := (trim literal).map foldToAscii
  placeholderTexts.contains value || fillerOpening.isPrefixOf value ||
    (value.length ≥ 3 && value.all (· == 'x'))

/-- Numbers that are placeholders. -/
def placeholderNumbers : List (List Char) :=
  ["12345", "123456", "1234567", "99999", "999999"].map String.toList

/-- The placeholder that a line is reported for, as its message shows it. -/
def placeholderOf? (line : Line) : Option (List Char) :=
  match line.literals.find? isPlaceholder with
  | some literal => some ('"' :: trim literal ++ ['"'])
  | none => (freeWords placeholderNumbers line.code).head?

/-- One issue for every line with a placeholder. -/
def hardcodedTest (lines : List Line) : List Issue :=
  lines.filterMap fun line => (placeholderOf? line).map fun value =>
    .located .hardcodedTest line.number (String.ofList value ++ " looks like test data")

end FlowAudit.Rule
