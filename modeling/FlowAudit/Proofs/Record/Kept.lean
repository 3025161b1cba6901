import FlowAudit.Log.JsonRow
import FlowAudit.Proofs.Log.Samples
import FlowAudit.Proofs.Record.RoundTrip
import FlowAudit.Proofs.Text.Utf8

/-!
# FlowAudit.Proofs.Record.Kept

**A store gives a record back as it was inserted** (`Store.inserted_comes_back`). What is stored is the
text of the record in UTF-8, and reading the bytes of a text is reading the text, so that a row is read
as the record whenever its text is. The newest row of a table is the one inserted last, and a query for
the latest record with an identifier stops there, provided that the rows below it can be read at all.
-/

namespace FlowAudit

open Json

variable {ρ ν α : Type}

/-! ### Rows -/

/-- **A row is read as the record that it was written from**, if the record comes back from its text. -/
theorem read?_write [ToValue α] [OfTree α] {record : α}
    (decodes : Decodes (toValue record) OfTree.decode record) :
    Stored.read? (Stored.write record : Bytes) = some record := by
  show ofSpelling? (Text.spellingOfBytes (toText record).toUTF8) = some record
  rw [Text.spellingOfBytes_toUTF8]
  exact decodes_iff_ofText?.mp decodes

namespace Store

/-- A store does not refuse to append to a table next. -/
def Accepts (store : Store ρ) (table : Table) : Prop :=
  store.refuses store.accesses .append table = false

/-- All rows of a table hold records. -/
def AllRead (α : Type) [Stored ρ α] (store : Store ρ) (table : Table) : Prop :=
  ∀ row ∈ (store.logs.get table).newestFirst, ∃ record : α, Stored.read? row = some record

section Insert

variable [Stored ρ α] {store : Store ρ} {table : Table} {record : α}

theorem AllRead.hold (all : store.AllRead α table) :
    ∃ records : List α, Hold (store.logs.get table).newestFirst records := by
  unfold AllRead at all
  generalize (store.logs.get table).newestFirst = rows at all
  induction rows with
  | nil => exact ⟨[], .nil⟩
  | cons row rest ih =>
      obtain ⟨record, read⟩ := all row List.mem_cons_self
      obtain ⟨records, hold⟩ := ih fun row member => all row (List.mem_cons_of_mem _ member)
      exact ⟨record :: records, .cons read hold⟩

/-- A store after a record is inserted. -/
def inserted (store : Store ρ) (table : Table) (record : α) : Store ρ :=
  store.touched.withLog table
    ((store.logs.get table).append store.keys (Stored.write record))

theorem run_insert_of_accepts (accepts : store.Accepts table) :
    (insert table record).run.run store = (.ok (), store.inserted table record) := by
  rw [run_insert, accepts, if_neg Bool.false_ne_true]
  rfl

/-- A record that is inserted is the newest of its table. -/
theorem newestFirst_inserted :
    ((store.inserted table record).logs.get table).newestFirst =
      Stored.write record :: (store.logs.get table).newestFirst := by
  rw [inserted, withLog_logs, Tables.get_set_same]
  rfl

/-- **The newest record is the one inserted last**, whatever the rows below it are. -/
theorem run_newest_inserted (readBack : Stored.read? (Stored.write record : ρ) = some record)
    (answers : store.touched.Answers table) :
    (newest table 1 : StoreM ρ (List α)).run.run (store.inserted table record) =
      (.ok [record], (store.inserted table record).touched) := by
  have next : (store.inserted table record).Answers table := answers
  refine run_newest next (by decide) ?_
  rw [newestFirst_inserted]
  exact readRows_of_hold (.cons readBack .nil)

/-- **Of all records with its key the one inserted last is the latest**, if all of them can be read. -/
theorem run_latest_inserted (key : α → String)
    (readBack : Stored.read? (Stored.write record : ρ) = some record)
    (answers : store.touched.Answers table) (all : store.AllRead α table) :
    (do
      let records : List α ← load table
      return records.reverse.find? (key · = key record) :
        StoreM ρ (Option α)).run.run (store.inserted table record) =
      (.ok (some record), (store.inserted table record).touched) := by
  have next : (store.inserted table record).Answers table := answers
  obtain ⟨others, hold⟩ := all.hold
  have newer : Hold ((store.inserted table record).logs.get table).newestFirst
      (record :: others) := by
    rw [newestFirst_inserted]
    exact .cons readBack hold
  have first : (record :: others).find? (fun r => key r = key record) = some record :=
    List.find?_cons_of_pos (decide_eq_true rfl)
  rw [run_query next newer.reverse, List.reverse_reverse, first]

end Insert

/-! ### Queries after an insert -/

variable [ToValue ν] [OfTree ν] {store : Store Bytes}

theorem insertUnit_latestUnit {unit : UnitRecord ν} (storable : unit.Storable)
    (accepts : store.Accepts .units) (answers : store.touched.Answers .units)
    (all : store.AllRead (UnitRecord ν) .units) :
    ∃ after, (insertUnit unit).run.run store = (.ok (), after) ∧
      (latestUnit unit.id).run.run after = (.ok (some unit), after.touched) :=
  ⟨_, run_insert_of_accepts accepts,
    run_latest_inserted UnitRecord.id (read?_write storable.decodes) answers all⟩

theorem insertGroup_latestGroup {group : GroupRecord ν} (storable : group.Storable)
    (accepts : store.Accepts .groups) (answers : store.touched.Answers .groups)
    (all : store.AllRead (GroupRecord ν) .groups) :
    ∃ after, (insertGroup group).run.run store = (.ok (), after) ∧
      (latestGroup group.id).run.run after = (.ok (some group), after.touched) :=
  ⟨_, run_insert_of_accepts accepts,
    run_latest_inserted GroupRecord.id (read?_write storable.decodes) answers all⟩

theorem insertSample_latestSample {sample : Sample ν} (storable : sample.Storable)
    (accepts : store.Accepts .samples) (answers : store.touched.Answers .samples) :
    ∃ after, (insertSample sample).run.run store = (.ok (), after) ∧
      latestSample.run.run after = (.ok (some sample), after.touched) := by
  refine ⟨_, run_insert_of_accepts accepts, ?_⟩
  unfold latestSample
  rw [run_bind, run_newest_inserted (read?_write storable.decodes) answers]
  exact run_pure _ _

theorem insertAlert_recentAlerts {alert : Alert ν} (storable : alert.Storable)
    (accepts : store.Accepts .alerts) (answers : store.touched.Answers .alerts) :
    ∃ after, (insertAlert alert).run.run store = (.ok (), after) ∧
      (recentAlerts 1).run.run after = (.ok [alert], after.touched) :=
  ⟨_, run_insert_of_accepts accepts,
    run_newest_inserted (read?_write storable.decodes) answers⟩

/-- **Every record reads back as it was written**, from its text and from its row, and a store that
accepts it gives it back: the latest record with the identifier of a unit or a group is the one just
inserted, the latest sample is, and so is the only one of the last alerts when one is asked for. Only
the queries by identifier read the other rows of their table. -/
theorem inserted_comes_back :
    (∀ unit : UnitRecord ν, unit.Storable →
      ofText? (toText unit) = some unit ∧
      Stored.read? (Stored.write unit : Bytes) = some unit ∧
      ∀ store : Store Bytes, store.Accepts .units → store.touched.Answers .units →
        store.AllRead (UnitRecord ν) .units →
        ∃ after, (insertUnit unit).run.run store = (.ok (), after) ∧
          (latestUnit unit.id).run.run after = (.ok (some unit), after.touched)) ∧
    (∀ group : GroupRecord ν, group.Storable →
      ofText? (toText group) = some group ∧
      Stored.read? (Stored.write group : Bytes) = some group ∧
      ∀ store : Store Bytes, store.Accepts .groups → store.touched.Answers .groups →
        store.AllRead (GroupRecord ν) .groups →
        ∃ after, (insertGroup group).run.run store = (.ok (), after) ∧
          (latestGroup group.id).run.run after = (.ok (some group), after.touched)) ∧
    (∀ sample : Sample ν, sample.Storable →
      ofText? (toText sample) = some sample ∧
      Stored.read? (Stored.write sample : Bytes) = some sample ∧
      ∀ store : Store Bytes, store.Accepts .samples → store.touched.Answers .samples →
        ∃ after, (insertSample sample).run.run store = (.ok (), after) ∧
          latestSample.run.run after = (.ok (some sample), after.touched)) ∧
    (∀ alert : Alert ν, alert.Storable →
      ofText? (toText alert) = some alert ∧
      Stored.read? (Stored.write alert : Bytes) = some alert ∧
      ∀ store : Store Bytes, store.Accepts .alerts → store.touched.Answers .alerts →
        ∃ after, (insertAlert alert).run.run store = (.ok (), after) ∧
          (recentAlerts 1).run.run after = (.ok [alert], after.touched)) := by
  refine ⟨fun unit storable => ⟨?_, ?_, ?_⟩, fun group storable => ⟨?_, ?_, ?_⟩,
    fun sample storable => ⟨?_, ?_, ?_⟩, fun alert storable => ⟨?_, ?_, ?_⟩⟩
  · exact decodes_iff_ofText?.mp storable.decodes
  · exact read?_write storable.decodes
  · exact fun _ => insertUnit_latestUnit storable
  · exact decodes_iff_ofText?.mp storable.decodes
  · exact read?_write storable.decodes
  · exact fun _ => insertGroup_latestGroup storable
  · exact decodes_iff_ofText?.mp storable.decodes
  · exact read?_write storable.decodes
  · exact fun _ => insertSample_latestSample storable
  · exact decodes_iff_ofText?.mp storable.decodes
  · exact read?_write storable.decodes
  · exact fun _ => insertAlert_recentAlerts storable

/-- A unit with a quote, a line break and letters beyond ASCII in its texts, and an issue without a
line. -/
def quotedUnit : UnitRecord Float where
  id := "unit-1"
  groupId := "groupé"
  name := "say \"hi\"\n✓ 😀"
  linesOfCode := 3
  complexityScore := 2.25
  qualityScore := 89.99
  issues := [⟨.todoComment, "TODO/FIXME marker", some 2⟩, ⟨.consoleLog, "\t\x01", none⟩]
  createdAt := .onDay 19000 3600 5

/-- Its group. -/
def quotedGroup : GroupRecord Float where
  id := "groupé"
  name := "\\ and /"
  totalIssues := 2
  nodesWithIssues := 1
  nodesWithCriticalIssues := 0
  totalUnits := 1
  issueTypes := [(.consoleLog, 1), (.todoComment, 1)]
  qualityScore := 89.99
  complexityScore := 2.25
  createdAt := .onDay 19000 3600 5

/-- A sample with as much memory as its word holds. -/
def fullSample : Sample Float where
  timestamp := .onDay 19000 3600 0
  cpuPercent := 0.1
  memoryPercent := 100
  memoryBytes := 18446744073709551615
  eventLoopLagMs := 1e-7

/-- An alert about it. -/
def lagAlert : Alert Float where
  metric := .eventLoop
  threshold := 50
  actual := 75.5
  durationMinutes := 5
  createdAt := .onDay 19000 3600 1

theorem storable_quotedUnit : quotedUnit.Storable := by
  constructor <;> decide +kernel

theorem storable_quotedGroup : quotedGroup.Storable := by
  constructor <;> decide +kernel

theorem storable_fullSample : fullSample.Storable := by
  constructor <;> decide +kernel

theorem storable_lagAlert : lagAlert.Storable := by
  constructor <;> decide +kernel

/-- A store with older records of that unit and that group, and with a row of samples that is none. -/
def earlierStore : Store Bytes where
  keys := .counting
  logs :=
    { units := Log.empty.append .counting (Stored.write { quotedUnit with qualityScore := 40 })
      groups := Log.empty.append .counting (Stored.write { quotedGroup with name := "" })
      samples := Log.empty.append .counting "x".toUTF8
      alerts := .empty }

theorem allRead_units_earlierStore : earlierStore.AllRead (UnitRecord Float) .units := by
  have older : { quotedUnit with qualityScore := 40 }.Storable :=
    { storable_quotedUnit with qualityScore := by decide +kernel }
  intro row member
  rw [List.mem_singleton.mp member]
  exact ⟨_, read?_write older.decodes⟩

theorem allRead_groups_earlierStore : earlierStore.AllRead (GroupRecord Float) .groups := by
  have older : { quotedGroup with name := "" }.Storable := { storable_quotedGroup with }
  intro row member
  rw [List.mem_singleton.mp member]
  exact ⟨_, read?_write older.decodes⟩

theorem inserted_comes_back_earlierStore :
    (quotedUnit.Storable ∧ earlierStore.Accepts .units ∧ earlierStore.touched.Answers .units ∧
      earlierStore.AllRead (UnitRecord Float) .units ∧
      ∃ after, (insertUnit quotedUnit).run.run earlierStore = (.ok (), after) ∧
        (latestUnit quotedUnit.id).run.run after = (.ok (some quotedUnit), after.touched)) ∧
    (quotedGroup.Storable ∧ earlierStore.Accepts .groups ∧ earlierStore.touched.Answers .groups ∧
      earlierStore.AllRead (GroupRecord Float) .groups ∧
      ∃ after, (insertGroup quotedGroup).run.run earlierStore = (.ok (), after) ∧
        (latestGroup quotedGroup.id).run.run after = (.ok (some quotedGroup), after.touched)) ∧
    (fullSample.Storable ∧ earlierStore.Accepts .samples ∧ earlierStore.touched.Answers .samples ∧
      ∃ after, (insertSample fullSample).run.run earlierStore = (.ok (), after) ∧
        latestSample.run.run after = (.ok (some fullSample), after.touched)) ∧
    (lagAlert.Storable ∧ earlierStore.Accepts .alerts ∧ earlierStore.touched.Answers .alerts ∧
      ∃ after, (insertAlert lagAlert).run.run earlierStore = (.ok (), after) ∧
        (recentAlerts 1).run.run after = (.ok [lagAlert], after.touched)) := by
  obtain ⟨units, groups, samples, alerts⟩ := inserted_comes_back (ν := Float)
  refine ⟨⟨storable_quotedUnit, rfl, rfl, allRead_units_earlierStore, ?_⟩,
    ⟨storable_quotedGroup, rfl, rfl, allRead_groups_earlierStore, ?_⟩,
    ⟨storable_fullSample, rfl, rfl, ?_⟩, ⟨storable_lagAlert, rfl, rfl, ?_⟩⟩
  · exact (units _ storable_quotedUnit).2.2 _ rfl rfl allRead_units_earlierStore
  · exact (groups _ storable_quotedGroup).2.2 _ rfl rfl allRead_groups_earlierStore
  · exact (samples _ storable_fullSample).2.2 _ rfl rfl
  · exact (alerts _ storable_lagAlert).2.2 _ rfl rfl

end Store

end FlowAudit
