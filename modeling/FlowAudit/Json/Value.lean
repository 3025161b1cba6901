import FlowAudit.Json.Syntax
import FlowAudit.Number.Word

/-!
# FlowAudit.Json.Value

JSON values with their meaning: numbers are integers of sixty-four bits or floating-point numbers,
strings are Unicode text, and objects keep the order of their members.

`Tree.toValue?` gives a tree its meaning. It refuses numbers too large for any floating-point number,
strings that are no Unicode text, and nesting deeper than `deepestNesting`. Of members with the same
key the last one counts.
-/

namespace FlowAudit.Json

/-- A JSON value. -/
inductive Value where
  | null
  | bool (value : Bool)
  | int (value : Int)
  | float (value : Float)
  | string (value : String)
  | array (items : List Value)
  | object (members : List (String × Value))

namespace Value

/-- A natural number as a value. -/
def nat (n : Nat) : Value :=
  .int n

/-- A value that may be missing. -/
def option (f : α → Value) : Option α → Value
  | some a => f a
  | none => .null

/-- A list of values. -/
def list (f : α → Value) (xs : List α) : Value :=
  .array (xs.map f)

/-- The member of an object with a key; of several the last. -/
def get? (key : String) : Value → Option Value
  | .object members => (members.reverse.find? (·.1 == key)).map (·.2)
  | _ => none

def string? : Value → Option String
  | .string s => some s
  | _ => none

end Value

/-- A number as written, understood: an integer where one of sixty-four bits is written, a
floating-point number otherwise. Minus zero is a floating-point number. -/
inductive Number where
  | int (value : Int)
  | float (value : Float)

/-- The number a numeral stands for, unless it is too large for any. -/
def Numeral.number? (n : Numeral) : Option Number :=
  if n.whole && !n.negative && FlowAudit.Number.fitsNat 64 n.digits then some (.int n.digits)
  else if n.whole && n.negative && 0 < n.digits && n.digits ≤ FlowAudit.Number.wordSize 63 then
    some (.int (-n.digits))
  else
    let magnitude := FlowAudit.Number.ofDecimal n.digits n.exponent
    if magnitude.isInf then none else some (.float (if n.negative then -magnitude else magnitude))

/-- The contents of a string as Unicode text. -/
def Contents.string? (contents : Contents) : Option String :=
  (contents.mapM id).map String.ofList

/-- How deep arrays and objects may be nested. -/
def deepestNesting : Nat := 127

mutual

/-- The meaning of a tree that may be nested to a depth. -/
def Tree.meaning? (depth : Nat) : Tree → Option Value
  | .null => some .null
  | .bool b => some (.bool b)
  | .number n => n.number?.map fun
    | .int value => .int value
    | .float value => .float value
  | .string text => (Contents.string? text).map .string
  | .array items => if depth = 0 then none else (itemsMeaning? (depth - 1) items).map .array
  | .object members =>
    if depth = 0 then none else (membersMeaning? (depth - 1) members).map .object

def itemsMeaning? (depth : Nat) : List Tree → Option (List Value)
  | [] => some []
  | item :: rest => do
    let item ← item.meaning? depth
    let rest ← itemsMeaning? depth rest
    return item :: rest

def membersMeaning? (depth : Nat) : List (Contents × Tree) → Option (List (String × Value))
  | [] => some []
  | (key, value) :: rest => do
    let key ← Contents.string? key
    let value ← value.meaning? depth
    let rest ← membersMeaning? depth rest
    return (key, value) :: rest

end

/-- The meaning of a tree. -/
def Tree.toValue? (tree : Tree) : Option Value :=
  tree.meaning? deepestNesting

end FlowAudit.Json
