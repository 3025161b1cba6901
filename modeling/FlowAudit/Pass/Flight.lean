/-!
# FlowAudit.Pass.Flight

Single flight: at most one scan runs at a time. A scan that starts takes the place of `idle`, tells
when it goes over to its second half, and puts `idle` back when it ends, in whatever way it does.
-/

namespace FlowAudit

/-- What a scanner is doing. -/
inductive ScanState where
  | idle
  | scanning
  /-- The units are scored and the groups are being put together. -/
  | completing
  deriving Repr, DecidableEq

namespace ScanState

def name : ScanState → String
  | idle => "idle"
  | scanning => "scanning"
  | completing => "completing"

/-- Start a scan; refused unless the scanner is idle. -/
def start? : ScanState → Option ScanState
  | idle => some scanning
  | _ => none

/-- The scan in flight goes over to its second half. -/
def complete (_ : ScanState) : ScanState := completing

/-- The scan in flight ends. -/
def finish (_ : ScanState) : ScanState := idle

end ScanState

end FlowAudit
