/-!
# FlowAudit.Toml.Value

TOML values. Dates and times are told apart from everything else, but what they say is not kept.
-/

namespace FlowAudit.Toml

/-- A TOML value. -/
inductive Value where
  | bool (value : Bool)
  | int (value : Int)
  | float (value : Float)
  | string (value : String)
  | dateTime
  | array (items : List Value)
  | table (entries : List (String × Value))

end FlowAudit.Toml
