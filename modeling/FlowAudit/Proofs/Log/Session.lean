import FlowAudit.Proofs.Log.Alike

/-!
# FlowAudit.Proofs.Log.Session

**What a store answers does not depend on its kind.** A store in memory never issues a key twice, one
in a file goes on from its last row; and either may walk back and count row by row or by listing all
rows first. In a session a store goes through any changes, each of which may fail without ending the
session, and is then asked a query. From an empty store the outcome, that of every change and the
answer, is the same for all kinds (`session_independent_of_backend`).

After the first removal of the newest rows such stores hold their rows under different keys for good.
What they have in common all along is that they are `Alike`.
-/

namespace FlowAudit

/-! ### Sessions -/

/-- A change to a store. -/
inductive Change (ρ ν : Type) where
  /-- Append any value at all, a record or not. -/
  | append (table : Table) (value : ρ)
  | insertUnit (unit : UnitRecord ν)
  | insertGroup (group : GroupRecord ν)
  | insertSample (sample : Sample ν)
  | insertAlert (alert : Alert ν)
  /-- Remove the records of a table created before an instant. -/
  | deleteBefore (table : Table) (cutoff : Instant)
  | clear

/-- A query on a store. -/
inductive Query where
  | latestGroup (id : String)
  | latestGroups
  | latestUnit (id : String)
  | latestUnits (group : String)
  | latestSample
  | groupsBetween (low high : Instant)
  | unitsBetween (low high : Instant)
  | samplesBetween (low high : Instant)
  | alertsBetween (low high : Instant)
  | recentSamples (count : Nat)
  | recentAlerts (count : Nat)
  | counts
  deriving Repr, DecidableEq

/-- What a query asks for. -/
def Query.Answer (ν : Type) : Query → Type
  | latestGroup _ => Option (GroupRecord ν)
  | latestGroups => List (GroupRecord ν)
  | latestUnit _ => Option (UnitRecord ν)
  | latestUnits _ => List (UnitRecord ν)
  | latestSample => Option (Sample ν)
  | groupsBetween _ _ => List (GroupRecord ν)
  | unitsBetween _ _ => List (UnitRecord ν)
  | samplesBetween _ _ => List (Sample ν)
  | alertsBetween _ _ => List (Alert ν)
  | recentSamples _ => List (Sample ν)
  | recentAlerts _ => List (Alert ν)
  | counts => Tables Nat

variable {ρ ν : Type} [Stored ρ (UnitRecord ν)] [Stored ρ (GroupRecord ν)] [Stored ρ (Sample ν)]
  [Stored ρ (Alert ν)]

/-- Make a change; how many records it removed, if it is there to remove records. -/
def Change.make : Change ρ ν → StoreM ρ (Option Nat)
  | append table value => do let _ ← Store.append table value; return none
  | insertUnit unit => do Store.insertUnit unit; return none
  | insertGroup group => do Store.insertGroup group; return none
  | insertSample sample => do Store.insertSample sample; return none
  | insertAlert alert => do Store.insertAlert alert; return none
  | deleteBefore .units cutoff => some <$> Store.deleteBefore (UnitRecord ν) .units cutoff
  | deleteBefore .groups cutoff => some <$> Store.deleteBefore (GroupRecord ν) .groups cutoff
  | deleteBefore .samples cutoff => some <$> Store.deleteBefore (Sample ν) .samples cutoff
  | deleteBefore .alerts cutoff => some <$> Store.deleteBefore (Alert ν) .alerts cutoff
  | clear => do Store.clear; return none

/-- Ask a query. -/
def Query.ask : (query : Query) → StoreM ρ (query.Answer ν)
  | latestGroup id => Store.latestGroup id
  | latestGroups => Store.latestGroups
  | latestUnit id => Store.latestUnit id
  | latestUnits group => Store.latestUnits group
  | latestSample => Store.latestSample
  | groupsBetween low high => Store.loadBetween .groups low high
  | unitsBetween low high => Store.loadBetween .units low high
  | samplesBetween low high => Store.samplesBetween low high
  | alertsBetween low high => Store.loadBetween .alerts low high
  | recentSamples count => Store.recentSamples count
  | recentAlerts count => Store.recentAlerts count
  | counts => Store.counts

/-- Make changes one after the other, whether or not they succeed, and then ask a query: what came of
each change, and the answer. -/
def session (changes : List (Change ρ ν)) (query : Query) :
    StateM (Store ρ) (List (Except StoreError (Option Nat)) ×
      Except StoreError (query.Answer ν)) := do
  let outcomes ← changes.mapM fun change => change.make.run
  let answer ← query.ask.run
  return (outcomes, answer)

/-! ### Sessions are uniform -/

theorem Change.uniform_make (change : Change ρ ν) : Uniform change.make.run := by
  cases change with
  | append table value => exact Store.uniform_append table value none
  | insertUnit unit => exact (Store.uniform_insert .units unit).andThen fun _ => .pure _
  | insertGroup group => exact (Store.uniform_insert .groups group).andThen fun _ => .pure _
  | insertSample sample => exact (Store.uniform_insert .samples sample).andThen fun _ => .pure _
  | insertAlert alert => exact (Store.uniform_insert .alerts alert).andThen fun _ => .pure _
  | deleteBefore table cutoff =>
      cases table <;> exact (Store.uniform_deleteBefore _ cutoff).andThen fun _ => .pure _
  | clear => exact Store.uniform_clear.andThen fun _ => .pure _

theorem Query.uniform_ask (query : Query) :
    Uniform (query.ask : StoreM ρ (query.Answer ν)).run := by
  cases query with
  | latestGroup id => exact Store.uniform_load_map .groups _
  | latestGroups => exact Store.uniform_load_map .groups _
  | latestUnit id => exact Store.uniform_load_map .units _
  | latestUnits group => exact Store.uniform_load_map .units _
  | latestSample => exact (Store.uniform_newest .samples 1).andThen fun _ => .pure _
  | groupsBetween low high => exact Store.uniform_load_map .groups _
  | unitsBetween low high => exact Store.uniform_load_map .units _
  | samplesBetween low high =>
      exact (Store.uniform_newestFirst .samples).andThen fun _ => .lift _
  | alertsBetween low high => exact Store.uniform_load_map .alerts _
  | recentSamples count => exact Store.uniform_newest .samples count
  | recentAlerts count => exact Store.uniform_newest .alerts count
  | counts =>
      exact (Store.uniform_count .units).andThen fun _ =>
        (Store.uniform_count .groups).andThen fun _ =>
          (Store.uniform_count .samples).andThen fun _ =>
            (Store.uniform_count .alerts).andThen fun _ => .pure _

theorem uniform_session (changes : List (Change ρ ν)) (query : Query) :
    Uniform (session changes query) :=
  (Uniform.mapM Change.uniform_make changes).bind fun _ =>
    query.uniform_ask.bind fun _ => .pure _

/-- **Stores of all kinds answer alike.** Whatever a session does to an empty store, neither the rule
that issues keys nor the way the store walks back and counts shows in what comes of it, and the same
holds where the stores refuse accesses, as long as they refuse the same ones. -/
theorem session_independent_of_backend (keys keys' : KeyRule) (traversal traversal' : Traversal)
    (refuses : Nat → Access → Table → Bool) (changes : List (Change ρ ν)) (query : Query) :
    ((session changes query).run { keys, traversal, refuses }).1 =
      ((session changes query).run
        { keys := keys', traversal := traversal', refuses }).1 := by
  have alike : Alike (ρ := ρ) { keys, traversal, refuses }
      { keys := keys', traversal := traversal', refuses } :=
    ⟨rfl, rfl, fun _ => rfl⟩
  exact (uniform_session changes query _ _ alike).1

end FlowAudit
