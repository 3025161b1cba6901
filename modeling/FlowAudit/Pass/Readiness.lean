/-!
# FlowAudit.Pass.Readiness

Waiting for a source to become ready, for a bounded number of polls. The gate opens with the first
poll that finds the source ready and closes for good when the last one does not.
-/

namespace FlowAudit

/-- The state of a gate. -/
inductive Readiness where
  /-- Not ready after a number of polls. -/
  | waiting (attempts : Nat)
  | ready
  | timedOut
  deriving Repr, DecidableEq

/-- A gate before a source. -/
structure ReadinessGate where
  maxAttempts : Nat
  state : Readiness := .waiting 0
  deriving Repr, DecidableEq

namespace ReadinessGate

/-- A gate for a number of polls, one at least. -/
def ofAttempts (attempts : Nat) : ReadinessGate where
  maxAttempts := max attempts 1

/-- The gate that is used where nothing else is asked for. -/
def standard : ReadinessGate := ofAttempts 30

/-- The state after one more poll. -/
def next (gate : ReadinessGate) (ready : Bool) : Readiness :=
  match gate.state with
  | .waiting attempts =>
    if ready then .ready
    else if attempts + 1 ≥ gate.maxAttempts then .timedOut
    else .waiting (attempts + 1)
  | done => done

/-- Take note of a poll. -/
def observe (gate : ReadinessGate) (ready : Bool) : ReadinessGate :=
  { gate with state := gate.next ready }

/-- The polls that a gate can still wait for. -/
def remaining (gate : ReadinessGate) : Nat :=
  match gate.state with
  | .waiting attempts => gate.maxAttempts - attempts
  | _ => 0

/-- Waiting on after a poll leaves fewer polls to wait for. -/
theorem remaining_observe_lt {gate : ReadinessGate} {ready : Bool} {attempts : Nat}
    (h : (gate.observe ready).state = .waiting attempts) :
    (gate.observe ready).remaining < gate.remaining := by
  obtain ⟨maxAttempts, state⟩ := gate
  cases state with
  | waiting n =>
    simp only [observe, next] at h
    split at h
    · simp at h
    · split at h
      · simp at h
      · simp only [observe, next, remaining]
        grind
  | ready => simp [observe, next] at h
  | timedOut => simp [observe, next] at h

/-- The seconds between two polls where nothing else is asked for. -/
def standardPause : Nat := 2

section Wait

variable {m : Type → Type} [Monad m]

/-- Poll until the gate no longer waits, with a pause after every poll that leaves it waiting.
`poll n` is the poll that `n` others went before. The result says how the wait ended and how many
polls there were in all. -/
def waitFrom (gate : ReadinessGate) (poll : Nat → m Bool) (pause : m Unit) (polls : Nat) :
    m (ReadinessGate × Nat) := do
  let ready ← poll polls
  match h : (gate.observe ready).state with
  | .waiting _ =>
    pause
    waitFrom (gate.observe ready) poll pause (polls + 1)
  | _ => return (gate.observe ready, polls + 1)
termination_by gate.remaining
decreasing_by exact remaining_observe_lt h

/-- Poll until the gate no longer waits. -/
def waitWith (gate : ReadinessGate) (poll : Nat → m Bool) (pause : m Unit) :
    m (ReadinessGate × Nat) :=
  gate.waitFrom poll pause 0

end Wait

/-- Poll until the gate no longer waits, when it is known what each poll finds. -/
def wait (gate : ReadinessGate) (probe : Nat → Bool) : ReadinessGate × Nat :=
  Id.run (gate.waitWith (fun n => pure (probe n)) (pure ()))

end ReadinessGate

end FlowAudit
