import FlowAudit.Log.Query

/-!
# FlowAudit.Health.Retention

Removing samples and alerts that have been kept long enough.
-/

namespace FlowAudit

/-- The number of removed records. -/
structure PruneCounts where
  samples : Nat
  alerts : Nat
  deriving Repr, DecidableEq

/-- The instant before which records are too old, a number of days before now. When there is no such
instant no record is too old. -/
def retentionCutoff (days : Int) (now : Instant) : Instant :=
  match Span.ofDays? days with
  | some span => now.windowStart span
  | none => Instant.earliest

/-- Remove the samples and alerts that are older than a number of days. -/
def prune {ρ : Type} (ν : Type) [Stored ρ (Sample ν)] [Stored ρ (Alert ν)] (days : Int)
    (now : Instant) : StoreM ρ PruneCounts := do
  let cutoff := retentionCutoff days now
  return { samples := ← Store.deleteBefore (Sample ν) .samples cutoff
           alerts := ← Store.deleteBefore (Alert ν) .alerts cutoff }

end FlowAudit
