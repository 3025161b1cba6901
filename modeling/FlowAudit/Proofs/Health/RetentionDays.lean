import FlowAudit.Health.Retention
import FlowAudit.Proofs.Health.Pruning
import FlowAudit.Proofs.Record.Calendar
import FlowAudit.Proofs.Record.Kept
import FlowAudit.Proofs.Time.Window

/-!
# FlowAudit.Proofs.Health.RetentionDays

**The longer records are kept, the fewer are removed.** Samples and alerts older than a number of days are
removed: exactly those made before the instant that many days ago, if there is one, and else none at all.
Where there is none, either a span cannot hold so many days or the calendar does not reach back that far.
In both cases the records before the beginning of the calendar are removed, and there are none of these
(`Prunes.beyond`). So all numbers of days lie on one line, and the instant up to which records are
removed only goes back when the days get more (`retentionCutoff_antitone`).
-/

namespace FlowAudit

open Json

variable {ρ ν α : Type}

/-! ### The instant up to which records are removed -/

/-- The nanoseconds of a number of days. -/
def nanosOfDays (days : Int) : Int :=
  days * 86400 * 1000000000

theorem retentionCutoff_eq {days : Int} {now : Instant} (calendar : now.InCalendar)
    (nonneg : 0 ≤ days) : retentionCutoff days now = now.secondsBack (days * 86400) :=
  Instant.secondsBack_of_ofSeconds? calendar (by omega)

/-- Records are removed up to the instant some days ago, or up to the beginning of the calendar. -/
theorem retentionCutoff_opens {days : Int} {now : Instant} (calendar : now.InCalendar)
    (nonneg : 0 ≤ days) : (retentionCutoff days now).Opens now (nanosOfDays days) := by
  rw [retentionCutoff_eq calendar nonneg]
  exact Instant.secondsBack_opens calendar (by omega)

/-- **With more days it lies no later**, however many they are. -/
theorem retentionCutoff_antitone {few many : Int} {now : Instant} (calendar : now.InCalendar)
    (nonneg : 0 ≤ few) (order : few ≤ many) : retentionCutoff many now ≤ retentionCutoff few now := by
  rw [retentionCutoff_eq calendar nonneg, retentionCutoff_eq calendar (Int.le_trans nonneg order)]
  exact Instant.secondsBack_antitone calendar (by omega) (by omega)

theorem not_isStale_earliest [Stored ρ α] [Timestamped α] (dated : Dated ρ α) (row : ρ) :
    ¬ isStale α Instant.earliest row := by
  intro stale
  obtain ⟨record, read, early⟩ := isStale_iff.mp stale
  exact Instant.not_lt.mpr (Instant.earliest_le (dated row record read)) early

namespace Store

/-! ### One table -/

section Table

variable [Stored ρ α] {store : Store ρ} {table : Table}

theorem AllRead.holdsRecord (all : store.AllRead α table) :
    ∀ row ∈ (store.logs.get table).newestFirst, holdsRecord α row := by
  intro row member
  obtain ⟨record, read⟩ := all row member
  exact Option.isSome_iff_exists.mpr ⟨record, read⟩

variable [Timestamped α]

/-- Where nothing is refused and all rows are records, what is too old is removed. -/
theorem run_deleteBefore_of_allRead (table : Table) (willing : store.Willing)
    (all : store.AllRead α table) (cutoff : Instant) :
    ∃ accesses, (deleteBefore α table cutoff).run.run store =
      (.ok ((store.logs.get table).newestFirst.countP (isStale α cutoff)),
        { store with
          logs := store.logs.set table ((store.logs.get table).removedBefore α cutoff)
          accesses }) := by
  rcases deleteBefore_cases (α := α) table cutoff store with ⟨error, accesses, failed⟩ | ⟨-, done⟩
  · obtain ⟨row, member, unread⟩ := willing.unread_of_deleteBefore (congrArg Prod.fst failed)
    exact absurd (all.holdsRecord row member) unread
  · exact done

theorem removedBefore_earliest (dated : Dated ρ α) (log : Log ρ) :
    log.removedBefore α Instant.earliest = log :=
  Log.removedBefore_eq_self fun row _ => not_isStale_earliest dated row

end Table

/-! ### Samples and alerts -/

section Prune

variable [Stored ρ (Sample ν)] [Stored ρ (Alert ν)] {store : Store ρ}

/-- The tables when the samples and alerts from before an instant are removed. -/
def removedTables (ν : Type) [Stored ρ (Sample ν)] [Stored ρ (Alert ν)] (cutoff : Instant)
    (logs : Tables (Log ρ)) : Tables (Log ρ) :=
  { logs with
    samples := logs.samples.removedBefore (Sample ν) cutoff
    alerts := logs.alerts.removedBefore (Alert ν) cutoff }

/-- What is removed is counted, and nothing else is changed. -/
theorem run_prune_of_allRead (willing : store.Willing) (samples : store.AllRead (Sample ν) .samples)
    (alerts : store.AllRead (Alert ν) .alerts) (days : Int) (now : Instant) :
    ∃ accesses, (prune ν days now).run.run store =
      (.ok
        { samples := store.logs.samples.newestFirst.countP
            (isStale (Sample ν) (retentionCutoff days now))
          alerts := store.logs.alerts.newestFirst.countP
            (isStale (Alert ν) (retentionCutoff days now)) },
        { store with logs := removedTables ν (retentionCutoff days now) store.logs, accesses }) := by
  obtain ⟨accesses, first⟩ :=
    run_deleteBefore_of_allRead .samples willing samples (retentionCutoff days now)
  have willing' : Willing { store with
      logs := store.logs.set .samples
        ((store.logs.get .samples).removedBefore (Sample ν) (retentionCutoff days now))
      accesses } := willing
  obtain ⟨accesses', second⟩ :=
    run_deleteBefore_of_allRead .alerts willing' alerts (retentionCutoff days now)
  refine ⟨accesses', ?_⟩
  unfold prune
  rw [run_bind, first]
  dsimp only
  rw [run_bind, second]
  rfl

/-- A store had a row in a table that another has no more. -/
def Loses (before after : Store ρ) (table : Table) (row : Row ρ) : Prop :=
  row ∈ (before.logs.get table).entries ∧ row ∉ (after.logs.get table).entries

/-- How the removal of samples and alerts older than a number of days ends, if all of them are records. -/
structure Prunes (ν : Type) [Stored ρ (Sample ν)] [Stored ρ (Alert ν)] (days : Int) (now : Instant)
    (store : Store ρ) (ended : Except StoreError PruneCounts × Store ρ) : Prop where
  /-- If there is an instant that many days ago, what was made before it is removed and nothing else. -/
  within : ∀ start : Instant, start.Ago now (nanosOfDays days) →
    ended.2.logs = removedTables ν start store.logs
  /-- If there is none, nothing is removed. -/
  beyond : (∀ start : Instant, ¬ start.Ago now (nanosOfDays days)) → ended.2.logs = store.logs
  /-- It does not fail, and it counts what it removes. -/
  counted : ∃ counts, ended.1 = .ok counts ∧
    counts.samples + ended.2.logs.samples.entries.length = store.logs.samples.entries.length ∧
    counts.alerts + ended.2.logs.alerts.entries.length = store.logs.alerts.entries.length
  /-- Nothing overflows: neither the span that so many days are, where there is one, nor the instant up to
  which records are removed. -/
  span : ∀ span, Span.ofDays? days = some span →
    span.nanos = nanosOfDays days ∧ span.nanos ≤ Span.longest.nanos
  cutoff : (retentionCutoff days now).InCalendar

theorem Prunes.of_allRead (dated : Dated ρ (Sample ν)) (dated' : Dated ρ (Alert ν))
    (willing : store.Willing) (samples : store.AllRead (Sample ν) .samples)
    (alerts : store.AllRead (Alert ν) .alerts) {now : Instant} (calendar : now.InCalendar) {days : Int}
    (positive : 0 < days) : Prunes ν days now store ((prune ν days now).run.run store) := by
  obtain ⟨accesses, ended⟩ := run_prune_of_allRead willing samples alerts days now
  have nonneg := Int.le_of_lt positive
  have opens := retentionCutoff_opens calendar nonneg
  rw [ended]
  refine
    { within := fun start ago => ?within
      beyond := fun none => ?beyond
      counted := ⟨_, rfl, Log.countP_add_length_removedBefore _ _, Log.countP_add_length_removedBefore _ _⟩
      span := fun span found => ?span
      cutoff := opens.inCalendar }
  case within => rw [opens.eq_of_ago ago]
  case beyond =>
    simp only [opens.eq_earliest none, removedTables, removedBefore_earliest dated,
      removedBefore_earliest dated']
  case span =>
    unfold Span.ofDays? Span.ofSeconds? at found
    split at found
    · cases found
      have longest : Span.longest.nanos = 9223372036854775807000000 := by decide
      have limit : (Span.maxMillis / 1000).toNat = 9223372036854775 := by decide
      refine ⟨rfl, ?_⟩
      rw [longest]
      show days * 86400 * 1000000000 ≤ _
      omega
    · cases found

theorem removedTables_antitone {early late : Instant} (order : early ≤ late) {logs : Tables (Log ρ)}
    {table : Table} {row : Row ρ} (left : row ∈ ((removedTables ν late logs).get table).entries) :
    row ∈ ((removedTables ν early logs).get table).entries := by
  cases table with
  | units => exact left
  | groups => exact left
  | samples => exact Log.removedBefore_antitone order left
  | alerts => exact Log.removedBefore_antitone order left

end Prune

/-- **The longer records are kept, the fewer are removed**, for all stores whose samples and alerts can be
read, all instants of the calendar and all numbers of days from one on. -/
theorem prune_antitone [ToValue ν] [OfTree ν] {store : Store Bytes} (willing : store.Willing)
    (samples : store.AllRead (Sample ν) .samples) (alerts : store.AllRead (Alert ν) .alerts)
    {now : Instant} (calendar : now.InCalendar) {few many : Int} (positive : 0 < few)
    (order : few ≤ many) :
    Prunes ν few now store ((prune ν few now).run.run store) ∧
    Prunes ν many now store ((prune ν many now).run.run store) ∧
    ∀ table row, store.Loses ((prune ν many now).run.run store).2 table row →
      store.Loses ((prune ν few now).run.run store).2 table row := by
  refine ⟨.of_allRead dated_sample dated_alert willing samples alerts calendar positive,
    .of_allRead dated_sample dated_alert willing samples alerts calendar (by omega), ?_⟩
  obtain ⟨_, short⟩ := run_prune_of_allRead willing samples alerts few now
  obtain ⟨_, long⟩ := run_prune_of_allRead willing samples alerts many now
  rw [short, long]
  intro table row ⟨member, lost⟩
  refine ⟨member, fun left => lost ?_⟩
  exact removedTables_antitone (retentionCutoff_antitone calendar (by omega) order) left

/-- A sample and an alert of the same hour. -/
def monitoredStore : Store Bytes where
  keys := .afterLast
  logs := { Tables.fill .empty with
    samples := Log.empty.append .afterLast (Stored.write fullSample)
    alerts := Log.empty.append .afterLast (Stored.write lagAlert) }

/-- Exactly two days later the sample is gone when it is kept for one day, and not when for two. -/
theorem prune_antitone_twoDays :
    monitoredStore.Willing ∧ monitoredStore.AllRead (Sample Float) .samples ∧
    monitoredStore.AllRead (Alert Float) .alerts ∧ (Instant.onDay 19002 3600 0).InCalendar ∧
    (0 : Int) < 1 ∧ (1 : Int) ≤ 2 ∧
    Prunes Float 1 (.onDay 19002 3600 0) monitoredStore
      ((prune Float 1 (.onDay 19002 3600 0)).run.run monitoredStore) ∧
    Prunes Float 2 (.onDay 19002 3600 0) monitoredStore
      ((prune Float 2 (.onDay 19002 3600 0)).run.run monitoredStore) ∧
    ∀ table row,
      monitoredStore.Loses ((prune Float 2 (.onDay 19002 3600 0)).run.run monitoredStore).2 table row →
      monitoredStore.Loses ((prune Float 1 (.onDay 19002 3600 0)).run.run monitoredStore).2 table row := by
  have willing : monitoredStore.Willing := fun _ _ _ => rfl
  have samples : monitoredStore.AllRead (Sample Float) .samples := by
    intro row member
    rw [List.mem_singleton.mp member]
    exact ⟨_, read?_write storable_fullSample.decodes⟩
  have alerts : monitoredStore.AllRead (Alert Float) .alerts := by
    intro row member
    rw [List.mem_singleton.mp member]
    exact ⟨_, read?_write storable_lagAlert.decodes⟩
  have calendar : (Instant.onDay 19002 3600 0).InCalendar := by decide
  exact ⟨willing, samples, alerts, calendar, by decide, by decide,
    prune_antitone willing samples alerts calendar (by decide) (by decide)⟩

end Store

end FlowAudit
