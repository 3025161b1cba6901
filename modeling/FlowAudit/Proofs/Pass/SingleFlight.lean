import FlowAudit.Pass.Flight

/-!
# FlowAudit.Proofs.Pass.SingleFlight

**Single flight.** Any number of clients share one scanner. Each may ask for a scan at any time and is
handed a guard if it gets one; through a guard it holds it tells that its scan goes over to the second
half, and it ends the scan by dropping the guard. However these moves are interleaved, at most one
guard is alive, and the state of the scanner says whether there is one and how far it is
(`single_flight`).

Neither telling nor dropping looks at the state: both overwrite it. That this does no harm is the
invariant `InFlight`, which ties the state to the guards that are alive and to the moves that were made
through them.
-/

namespace FlowAudit

variable {κ : Type}

/-! ### Clients of one scanner -/

/-- A guard: the client it was handed to, and how many were handed out before it. -/
structure Guard (κ : Type) where
  holder : κ
  serial : Nat
  deriving Repr, DecidableEq

/-- What a client can do. -/
inductive Move (κ : Type) where
  | tryStart (client : κ)
  /-- The scan that the guard stands for goes over to its second half. -/
  | completing (guard : Guard κ)
  | drop (guard : Guard κ)
  deriving Repr, DecidableEq

/-- A scanner with the guards that were handed out and are not dropped. -/
structure SharedScanner (κ : Type) where
  state : ScanState := .idle
  alive : List (Guard κ) := []
  /-- The number of guards handed out so far. -/
  issued : Nat := 0
  deriving Repr, DecidableEq

namespace SharedScanner

/-- A client asks for a scan: the guard, if it gets one, and what comes of the scanner. -/
def tryStart (a : SharedScanner κ) (client : κ) : Option (Guard κ) × SharedScanner κ :=
  match a.state.start? with
  | none => (none, a)
  | some state =>
    let guard := { holder := client, serial := a.issued }
    (some guard, { state, alive := guard :: a.alive, issued := a.issued + 1 })

theorem tryStart_of_idle {a : SharedScanner κ} (idle : a.state = .idle) (client : κ) :
    a.tryStart client =
      (some { holder := client, serial := a.issued },
        { state := .scanning
          alive := { holder := client, serial := a.issued } :: a.alive
          issued := a.issued + 1 }) := by
  unfold tryStart
  rw [idle]
  rfl

theorem tryStart_of_busy {a : SharedScanner κ} (busy : a.state ≠ .idle) (client : κ) :
    a.tryStart client = (none, a) := by
  unfold tryStart
  cases h : a.state with
  | idle => exact absurd h busy
  | scanning => rfl
  | completing => rfl

/-! ### The invariant -/

/-- How the state of a scanner, the guards that are alive and the moves so far go together. -/
structure InFlight (moves : List (Move κ)) (a : SharedScanner κ) : Prop where
  /-- A guard that was used or is alive was handed out; so the next one is none of them. -/
  handedOut : ∀ guard, guard ∈ a.alive ∨ .completing guard ∈ moves ∨ .drop guard ∈ moves →
    guard.serial < a.issued
  flight : (a.state = .idle ∧ a.alive = []) ∨
    ∃ guard, a.alive = [guard] ∧ .drop guard ∉ moves ∧
      (a.state = .scanning ∧ .completing guard ∉ moves ∨
        a.state = .completing ∧ .completing guard ∈ moves)

namespace InFlight

variable {moves : List (Move κ)} {a : SharedScanner κ}

theorem start : InFlight (κ := κ) [] {} := ⟨by simp, Or.inl ⟨rfl, rfl⟩⟩

/-- Who is refused leaves no mark. -/
theorem refused (h : InFlight moves a) (client : κ) :
    InFlight (moves ++ [.tryStart client]) a := by
  refine ⟨fun guard used => h.handedOut guard (by simpa using used), ?_⟩
  rcases h.flight with idle | ⟨guard, alone, kept, phase⟩
  · exact Or.inl idle
  · exact Or.inr ⟨guard, alone, by simpa using kept, by simpa using phase⟩

theorem tryStart (h : InFlight moves a) (client : κ) :
    InFlight (moves ++ [.tryStart client]) (a.tryStart client).2 := by
  rcases h.flight with ⟨idle, empty⟩ | ⟨guard, -, -, phase⟩
  · let new : Guard κ := { holder := client, serial := a.issued }
    -- No move so far was made through the new guard.
    have unused : ∀ move ∈ moves, move ≠ .completing new ∧ move ≠ .drop new := by
      intro move member
      constructor
      · rintro rfl
        exact absurd (h.handedOut new (Or.inr (Or.inl member))) (Nat.lt_irrefl _)
      · rintro rfl
        exact absurd (h.handedOut new (Or.inr (Or.inr member))) (Nat.lt_irrefl _)
    rw [tryStart_of_idle idle, empty]
    refine ⟨fun guard used => ?_, Or.inr ⟨new, rfl, ?_, Or.inl ⟨rfl, ?_⟩⟩⟩
    · simp only [List.mem_singleton, List.mem_append, reduceCtorEq, or_false] at used
      rcases used with rfl | used
      · exact Nat.lt_succ_self _
      · exact Nat.lt_succ_of_lt (h.handedOut guard (Or.inr used))
    · simpa using fun member => (unused _ member).2 rfl
    · simpa using fun member => (unused _ member).1 rfl
  · have busy : a.state ≠ .idle := by
      rcases phase with ⟨scanning, -⟩ | ⟨completing, -⟩
      · simp [scanning]
      · simp [completing]
    rw [tryStart_of_busy busy]
    exact h.refused client

/-- The guard of a move is the only one. -/
theorem alone (h : InFlight moves a) {guard : Guard κ} (held : guard ∈ a.alive) :
    a.alive = [guard] ∧ .drop guard ∉ moves := by
  rcases h.flight with ⟨-, empty⟩ | ⟨only, alive, kept, -⟩
  · simp [empty] at held
  · have same : guard = only := by simpa [alive] using held
    subst same
    exact ⟨alive, kept⟩

theorem completing (h : InFlight moves a) {guard : Guard κ} (held : guard ∈ a.alive) :
    InFlight (moves ++ [.completing guard]) { a with state := a.state.complete } := by
  obtain ⟨alive, kept⟩ := h.alone held
  refine ⟨fun other used => ?_,
    Or.inr ⟨guard, alive, by simpa using kept, Or.inr ⟨rfl, by simp⟩⟩⟩
  simp only [List.mem_append, List.mem_singleton, Move.completing.injEq, reduceCtorEq,
    or_false] at used
  rcases used with used | (used | rfl) | used
  · exact h.handedOut other (Or.inl used)
  · exact h.handedOut other (Or.inr (Or.inl used))
  · exact h.handedOut other (Or.inl held)
  · exact h.handedOut other (Or.inr (Or.inr used))

end InFlight

/-! ### Moves -/

variable [DecidableEq κ]

/-- One move. Only a guard that is alive can be used, so none is dropped twice. -/
inductive Step (a : SharedScanner κ) : Move κ → SharedScanner κ → Prop where
  | tryStart (client : κ) : Step a (.tryStart client) (a.tryStart client).2
  | completing {guard : Guard κ} (held : guard ∈ a.alive) :
      Step a (.completing guard) { a with state := a.state.complete }
  | drop {guard : Guard κ} (held : guard ∈ a.alive) :
      Step a (.drop guard) { a with state := a.state.finish, alive := a.alive.erase guard }

/-- What a scanner that was idle has come to by moves, the last of them at the end. -/
inductive Reached : List (Move κ) → SharedScanner κ → Prop where
  | start : Reached [] {}
  | step {moves : List (Move κ)} {move : Move κ} {a b : SharedScanner κ}
      (before : Reached moves a) (step : a.Step move b) : Reached (moves ++ [move]) b

namespace InFlight

variable {moves : List (Move κ)} {a : SharedScanner κ}

theorem drop (h : InFlight moves a) {guard : Guard κ} (held : guard ∈ a.alive) :
    InFlight (moves ++ [.drop guard])
      { a with state := a.state.finish, alive := a.alive.erase guard } := by
  have empty : a.alive.erase guard = [] := by
    rw [(h.alone held).1]
    simp
  refine ⟨fun other used => ?_, Or.inl ⟨rfl, empty⟩⟩
  simp only [empty, List.not_mem_nil, List.mem_append, List.mem_singleton, Move.drop.injEq,
    reduceCtorEq, or_false, false_or] at used
  rcases used with used | used | rfl
  · exact h.handedOut other (Or.inr (Or.inl used))
  · exact h.handedOut other (Or.inr (Or.inr used))
  · exact h.handedOut other (Or.inl held)

/-- **Every move keeps the invariant.** -/
theorem step (h : InFlight moves a) {move : Move κ} {b : SharedScanner κ} (step : a.Step move b) :
    InFlight (moves ++ [move]) b := by
  cases step with
  | tryStart client => exact h.tryStart client
  | completing held => exact h.completing held
  | drop held => exact h.drop held

end InFlight

theorem Reached.inFlight {moves : List (Move κ)} {a : SharedScanner κ} (reached : Reached moves a) :
    InFlight moves a := by
  induction reached with
  | start => exact .start
  | step _ step ih => exact ih.step step

/-! ### What clients can rely on -/

/-- **Single flight.** Whatever moves clients make, and in whatever order: at most one guard is alive;
the scanner is idle exactly when none is, and exactly then a client that asks for a scan gets one; and it
is in the second half exactly from the time at which the guard that is alive has told so, until that guard
is dropped. -/
theorem single_flight {moves : List (Move κ)} {a : SharedScanner κ} (reached : Reached moves a) :
    a.alive.length ≤ 1 ∧
      (a.state = .idle ↔ a.alive = []) ∧
      (∀ client, (a.tryStart client).1.isSome ↔ a.alive = []) ∧
      (a.state = .completing ↔
        ∃ guard ∈ a.alive, .completing guard ∈ moves ∧ .drop guard ∉ moves) := by
  rcases reached.inFlight.flight with ⟨idle, empty⟩ | ⟨guard, alone, kept, phase⟩
  · have starts (client : κ) : (a.tryStart client).1.isSome := by
      rw [tryStart_of_idle idle]
      rfl
    simp [idle, empty, starts]
  · have busy : a.state ≠ .idle := by
      rcases phase with ⟨scanning, -⟩ | ⟨completing, -⟩
      · simp [scanning]
      · simp [completing]
    have refused (client : κ) : ¬(a.tryStart client).1.isSome := by
      rw [tryStart_of_busy busy]
      simp
    have second : a.state = .completing ↔ .completing guard ∈ moves := by
      rcases phase with ⟨scanning, untold⟩ | ⟨completing, told⟩
      · simp [scanning, untold]
      · simp [completing, told]
    refine ⟨by simp [alone], by simp [alone, busy], fun client => ?_, ?_⟩
    · simp [alone, refused client]
    · simp [alone, second, kept]

/-- One client scans and goes over to the second half, and another one was refused; for as long as the
guard is alive all are. -/
theorem single_flight_twoClients :
    Reached [.tryStart 'a', .tryStart 'b', .completing ⟨'a', 0⟩]
        { state := .completing, alive := [⟨'a', 0⟩], issued := 1 } ∧
      ∀ client, ¬(({ state := .completing, alive := [⟨'a', 0⟩], issued := 1 } :
        SharedScanner Char).tryStart client).1.isSome := by
  have reached : Reached [.tryStart 'a', .tryStart 'b', .completing ⟨'a', 0⟩]
      { state := .completing, alive := [⟨'a', 0⟩], issued := 1 } :=
    ((Reached.start.step (.tryStart 'a')).step (.tryStart 'b')).step
      (.completing (List.mem_singleton.mpr rfl))
  obtain ⟨-, -, starts, -⟩ := single_flight reached
  exact ⟨reached, fun client => by simp [starts client]⟩

end SharedScanner

end FlowAudit
