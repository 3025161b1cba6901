/-!
# FlowAudit.Text.Reader

Readers take what they read off the front of a text, or refuse it.
-/

namespace FlowAudit.Text

/-- What reads something off the front of a text. -/
abbrev Reader (α : Type) := StateT (List Char) Option α

namespace Reader

/-- The next character, left where it is. -/
def peek : Reader (Option Char) := do
  return (← get).head?

/-- Pass over one given character. -/
def character (c : Char) : Reader Unit := fun
  | d :: rest => if c = d then some ((), rest) else none
  | [] => none

/-- Pass over a given text. -/
def exactly : List Char → Reader Unit
  | [] => return ()
  | c :: rest => do
    character c
    exactly rest

/-- The characters up to the first one that fails a test. -/
def takeWhile (test : Char → Bool) : Reader (List Char) := fun text =>
  some (text.takeWhile test, text.dropWhile test)

/-- As `takeWhile`, but at least one character. -/
def takeSome (test : Char → Bool) : Reader (List Char) := do
  let found ← takeWhile test
  guard (!found.isEmpty)
  return found

/-- Pass over the characters up to the first one that fails a test. -/
def skipWhile (test : Char → Bool) : Reader Unit := do
  let _ ← takeWhile test

/-- A given number of characters, all of which pass a test. -/
def takeExactly (count : Nat) (test : Char → Bool) : Reader (List Char) := fun text =>
  let found := text.take count
  if found.length = count && found.all test then some (found, text.drop count) else none

/-- Whether the text goes on with a given one; it is passed over if it does. -/
def accept (word : List Char) : Reader Bool := fun text =>
  match (exactly word).run text with
  | some (_, rest) => some (true, rest)
  | none => some (false, text)

/-- Whether the text goes on with one of some characters; that one is passed over. -/
def acceptOneOf (choices : List Char) : Reader Bool := fun
  | c :: rest => if c ∈ choices then some (true, rest) else some (false, c :: rest)
  | [] => some (false, [])

/-- One reader, or another where the first refuses the text. -/
def orElse {α : Type} (first second : Reader α) : Reader α := fun text =>
  (first.run text).or (second.run text)

end Reader

end FlowAudit.Text
