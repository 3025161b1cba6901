import FlowAudit.Json.Codec
import FlowAudit.Log.Query

/-!
# FlowAudit.Log.JsonRow

Rows of stored records: the JSON text of the record on one line, in UTF-8. A row may hold bytes that
are no UTF-8 in strings that the record does not know.
-/

namespace FlowAudit

open Json

/-- The bytes of a row. -/
abbrev Bytes := ByteArray

instance {α : Type} [ToValue α] [OfTree α] : Stored Bytes α where
  write record := (toText record).toUTF8
  read? row := ofSpelling? (FlowAudit.Text.spellingOfBytes row)

end FlowAudit
