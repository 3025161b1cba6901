import FlowAudit.Json.Value
import FlowAudit.Number.Word

/-!
# FlowAudit.Json.Decode

Reading JSON as data of a known shape. A decoder takes a tree and gives a value of its type or
nothing. Where it does not look, a tree may hold anything that follows the grammar.

A record is read from an object by the names of its fields, in any order, or from an array by their
positions. An object may have further members, but no field twice; an array may have no further
items. A field that is missing is an error unless the field says otherwise.
-/

namespace FlowAudit.Json.Decode

/-- What reads a value from a tree. -/
abbrev Decoder (α : Type) := Tree → Option α

def bool : Decoder Bool
  | .bool b => some b
  | _ => none

def string : Decoder String
  | .string text => Contents.string? text
  | _ => none

/-- An integer between two bounds; one written with a point or an exponent is none. -/
def int (low high : Int) : Decoder Int
  | .number n =>
    match n.number? with
    | some (.int value) => if low ≤ value && value ≤ high then some value else none
    | _ => none
  | _ => none

/-- A natural number of a number of bits. -/
def nat (bits : Nat) : Decoder Nat := fun tree =>
  (int 0 ((FlowAudit.Number.wordSize bits : Int) - 1) tree).map Int.toNat

/-- A count, a natural number of sixty-four bits. -/
def count : Decoder Nat :=
  nat 64

/-- An integer of sixty-four bits with a sign. -/
def int64 : Decoder Int :=
  int (-(FlowAudit.Number.wordSize 63 : Int)) ((FlowAudit.Number.wordSize 63 : Int) - 1)

/-- A floating-point number, which may be written as an integer. -/
def float : Decoder Float
  | .number n => n.number?.map fun
    | .int value => Float.ofInt value
    | .float value => value
  | _ => none

/-- A value or `null`. -/
def option (decode : Decoder α) : Decoder (Option α)
  | .null => some none
  | tree => (decode tree).map some

/-- An array. -/
def list (decode : Decoder α) : Decoder (List α)
  | .array items => items.mapM decode
  | _ => none

/-- One of several values, given by its name: a string, or an object with that name as its only key
and `null` under it. -/
def oneOf (all : List α) (name : α → String) : Decoder α := fun tree => do
  let given ← match tree with
    | .string text => Contents.string? text
    | .object [(key, .null)] => Contents.string? key
    | _ => none
  all.find? fun a => name a == given

/-- The fields of a record that are still to be read, each with what is given for it. -/
structure Fields where
  given : List (Option Tree)
  /-- Whether the fields are given by position. -/
  positional : Bool

/-- What reads a record field by field. -/
abbrev FieldReader (α : Type) := StateT Fields Option α

/-- What a list of members gives for a field; nothing at all when it gives it twice. -/
def memberNamed? (members : List (String × Tree)) (name : String) : Option (Option Tree) :=
  match members.filter (·.1 == name) with
  | [] => some none
  | [(_, value)] => some (some value)
  | _ => none

/-- What a tree gives for the fields of a record. -/
def fieldsOf (names : List String) : Decoder Fields
  | .object members => do
    let members ← members.mapM fun (key, value) => (Contents.string? key).map (·, value)
    let given ← names.mapM (memberNamed? members)
    return { given, positional := false }
  | .array items =>
    if items.length ≤ names.length then
      some { given := items.map some ++ List.replicate (names.length - items.length) none
             positional := true }
    else none
  | _ => none

/-- A record with the given fields. -/
def record (names : List String) (read : FieldReader α) : Decoder α := fun tree => do
  let fields ← fieldsOf names tree
  read.run' fields

/-- What is given for the next field. -/
def next : FieldReader (Option Tree) := do
  let fields ← get
  match fields.given with
  | given :: rest => set { fields with given := rest }; return given
  | [] => failure

/-- A field that must be given. -/
def required (decode : Decoder α) : FieldReader α := do
  decode (← (← next))

/-- A field that an object may leave out. -/
def optional (decode : Decoder α) : FieldReader (Option α) := do
  match ← next with
  | some tree => option decode tree
  | none => if (← get).positional then failure else return none

/-- A field with a default. -/
def withDefault (default : α) (decode : Decoder α) : FieldReader α := do
  match ← next with
  | some tree => decode tree
  | none => return default

end FlowAudit.Json.Decode
