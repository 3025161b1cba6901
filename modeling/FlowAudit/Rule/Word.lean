import FlowAudit.Text.Class

/-!
# FlowAudit.Rule.Word

Finding words in code. A rule looks at every position of a line together with the character before
it; the functions here say when a word may begin and end there.

* A word *stands alone* when no word character touches it.
* A word *stands free* when moreover the character before it is neither a dollar sign nor a dot, so
  that it is no part of a longer name and no property.
-/

namespace FlowAudit.Rule

open FlowAudit.Text

/-- The text after a given beginning, if it begins that way. -/
def afterPrefix? : List Char → List Char → Option (List Char)
  | [], text => some text
  | _ :: _, [] => none
  | p :: ps, c :: text => if p = c then afterPrefix? ps text else none

/-- The text after a given beginning written in lower case; capital ASCII letters count as small
ones. -/
def afterPrefixAnyCase? (lower text : List Char) : Option (List Char) :=
  (afterPrefix? lower (text.take lower.length |>.map asciiLower)).map fun _ => text.drop lower.length

/-- Whether no word character precedes. -/
def startsWord (before : Option Char) : Bool :=
  before.all fun c => !isWordChar c

/-- Whether what precedes is no part of a name and no dot. -/
def startsFree (before : Option Char) : Bool :=
  before.all fun c => !(isWordOrDollar c || c == '.')

/-- Whether no word character follows. -/
def endsWord (rest : List Char) : Bool :=
  rest.head?.all fun c => !isWordChar c

/-- The text after the first of the given words that a text begins with and that ends there. -/
def afterWord? (words : List (List Char)) (text : List Char) : Option (List Char × List Char) :=
  words.findSome? fun word =>
    match afterPrefix? word text with
    | some rest => if endsWord rest then some (word, rest) else none
    | none => none

/-- What `find` gives at each position of a text, in order. At a position it is shown the character
before it and the text from there on. -/
def findAll (find : Option Char → List Char → Option α) (before : Option Char) :
    List Char → List α
  | [] => (find before []).toList
  | c :: rest => (find before (c :: rest)).toList ++ findAll find (some c) rest

/-- Every occurrence of one of the words that stands free. -/
def freeWords (words : List (List Char)) (code : List Char) : List (List Char) :=
  findAll (fun before text =>
    if startsFree before then (afterWord? words text).map (·.1) else none) none code

end FlowAudit.Rule
