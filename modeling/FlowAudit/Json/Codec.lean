import FlowAudit.Json.Decode
import FlowAudit.Json.Writer

/-!
# FlowAudit.Json.Codec

What has a form in JSON. A type that can be written has `ToValue`, one that can be read back has
`OfTree`; `toText` and `ofText?` go by way of the text. Reading starts from the tree and not from a
value, because members that a record does not know need no meaning.
-/

namespace FlowAudit.Json

/-- A type whose values can be written as JSON. -/
class ToValue (α : Type) where
  toValue : α → Value

/-- A type whose values can be read from JSON. -/
class OfTree (α : Type) where
  decode : Decode.Decoder α

export ToValue (toValue)

/-- The text of a value, on one line. -/
def toText [ToValue α] (a : α) : String :=
  (toValue a).line

/-- The value that a text gives, which may have gaps where nothing is read. -/
def ofSpelling? [OfTree α] (text : FlowAudit.Text.Spelling) : Option α := do
  OfTree.decode (← parse? text)

/-- The value that a text gives. -/
def ofText? [OfTree α] (text : String) : Option α :=
  ofSpelling? (FlowAudit.Text.spelling text)

instance : ToValue String := ⟨.string⟩
instance : ToValue Bool := ⟨.bool⟩
instance : ToValue Nat := ⟨.nat⟩
instance : ToValue Int := ⟨.int⟩
instance : ToValue Float := ⟨.float⟩
instance [ToValue α] : ToValue (Option α) := ⟨.option toValue⟩
instance [ToValue α] : ToValue (List α) := ⟨.list toValue⟩
instance : ToValue Value := ⟨id⟩

instance : OfTree String := ⟨Decode.string⟩
instance : OfTree Float := ⟨Decode.float⟩
instance : OfTree Bool := ⟨Decode.bool⟩
instance [OfTree α] : OfTree (List α) := ⟨Decode.list OfTree.decode⟩
instance [OfTree α] : OfTree (Option α) := ⟨Decode.option OfTree.decode⟩

end FlowAudit.Json
