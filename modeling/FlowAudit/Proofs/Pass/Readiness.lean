import FlowAudit.Pass.Readiness

/-!
# FlowAudit.Proofs.Pass.Readiness

**How a gate decides.** What a gate has come to after some polls is said without going through them
(`Readiness.afterPolls`): it is open if one of the first polls, as many as it may make, found the source
ready, and closed if all of those were made in vain.

A wait makes the polls itself. A poll may look at anything and change it, and time passes between two of
them, so what the polls find is read off the world as they leave it (`worldBefore`, `found`). The wait
ends with the first poll that finds the source ready, or with the last one (`run_waitWith`), and what it
leaves is the gate that took note of exactly these polls (`decides_by_first_success`).
-/

namespace FlowAudit

namespace Readiness

/-- What polls with these results come to when at most `limit` of them count. -/
def afterPolls (limit : Nat) (results : List Bool) : Readiness :=
  if true ∈ results.take limit then .ready
  else if limit ≤ results.length then .timedOut
  else .waiting results.length

/-- Nothing more is waited for. -/
def IsFinal (state : Readiness) : Prop := state = .ready ∨ state = .timedOut

theorem afterPolls_nil {limit : Nat} (positive : 1 ≤ limit) : afterPolls limit [] = .waiting 0 := by
  have left : limit ≠ 0 := Nat.ne_of_gt positive
  simp [afterPolls, left]

end Readiness

namespace ReadinessGate

open Readiness

/-! ### Taking note of polls -/

/-- One more poll. -/
theorem next_afterPolls (limit : Nat) (results : List Bool) (ready : Bool) :
    next ⟨limit, afterPolls limit results⟩ ready = afterPolls limit (results ++ [ready]) := by
  by_cases success : true ∈ results.take limit
  · simp [afterPolls, next, List.take_append, success]
  · by_cases spent : limit ≤ results.length
    · -- All polls that count have been made, so the new one does not.
      have unread : limit - results.length = 0 := by omega
      have spent' : limit ≤ results.length + 1 := by omega
      simp [afterPolls, next, List.take_append, success, spent, unread, spent']
    · obtain ⟨more, left⟩ : ∃ more, limit - results.length = more + 1 :=
        ⟨limit - results.length - 1, by omega⟩
      cases ready with
      | true => simp [afterPolls, next, List.take_append, success, spent, left]
      | false => simp [afterPolls, next, List.take_append, success, spent, left]

theorem foldl_observe_afterPolls (limit : Nat) (before results : List Bool) :
    results.foldl observe ⟨limit, afterPolls limit before⟩ =
      ⟨limit, afterPolls limit (before ++ results)⟩ := by
  induction results generalizing before with
  | nil => simp
  | cons ready rest ih =>
      have step : observe ⟨limit, afterPolls limit before⟩ ready =
          ⟨limit, afterPolls limit (before ++ [ready])⟩ := by
        rw [observe, next_afterPolls]
      rw [List.foldl_cons, step, ih, List.append_assoc, List.singleton_append]

/-- **Where polls take a new gate.** -/
theorem foldl_observe_ofAttempts (attempts : Nat) (results : List Bool) :
    results.foldl observe (ofAttempts attempts) =
      ⟨max attempts 1, afterPolls (max attempts 1) results⟩ := by
  have fresh : ofAttempts attempts = ⟨max attempts 1, afterPolls (max attempts 1) []⟩ := by
    rw [afterPolls_nil (Nat.le_max_right attempts 1), ofAttempts]
  rw [fresh, foldl_observe_afterPolls, List.nil_append]

/-- A gate that is open or closed stays so. -/
theorem observe_of_isFinal {gate : ReadinessGate} (final : gate.state.IsFinal) (ready : Bool) :
    gate.observe ready = gate := by
  obtain ⟨limit, state⟩ := gate
  rcases final with opened | closed
  · obtain rfl : state = .ready := opened
    rfl
  · obtain rfl : state = .timedOut := closed
    rfl

theorem foldl_observe_of_isFinal {gate : ReadinessGate} (final : gate.state.IsFinal)
    (results : List Bool) : results.foldl observe gate = gate := by
  induction results with
  | nil => rfl
  | cons ready rest ih => rw [List.foldl_cons, observe_of_isFinal final, ih]

/-! ### Making polls -/

section Wait

variable {σ : Type} (poll : Nat → StateM σ Bool) (pause : StateM σ Unit) (world : σ)

/-- The world that a poll finds, when all polls before it were made, each with a pause after it. -/
def worldBefore : Nat → σ
  | 0 => world
  | n + 1 => (pause.run ((poll n).run (worldBefore n)).2).2

/-- The world right after so many polls. -/
def worldAfter : Nat → σ
  | 0 => world
  | n + 1 => ((poll n).run (worldBefore poll pause world n)).2

/-- What a poll finds in the world when its turn comes. -/
def found (n : Nat) : Bool := ((poll n).run (worldBefore poll pause world n)).1

/-- What so many polls find. -/
def foundBy (polls : Nat) : List Bool := (List.range polls).map (found poll pause world)

/-- The poll that finds the source ready first; as many were made before it as its number says. -/
structure FirstReady (n : Nat) : Prop where
  ready : found poll pause world n = true
  vain : ∀ earlier < n, found poll pause world earlier = false

/-- The wait, without the proof that it ends. -/
theorem waitFrom_eq (gate : ReadinessGate) (n : Nat) :
    gate.waitFrom poll pause n = (do
      let ready ← poll n
      match (gate.observe ready).state with
      | .waiting _ => do
        pause
        waitFrom (gate.observe ready) poll pause (n + 1)
      | _ => return (gate.observe ready, n + 1)) := by
  rw [waitFrom]
  congr 1
  funext ready
  split <;> simp_all

/-- One poll of a wait, and how the wait goes on. -/
theorem run_waitFrom (gate : ReadinessGate) (n : Nat) :
    (gate.waitFrom poll pause n).run (worldBefore poll pause world n) =
      match (gate.observe (found poll pause world n)).state with
      | .waiting _ =>
        (waitFrom (gate.observe (found poll pause world n)) poll pause (n + 1)).run
          (worldBefore poll pause world (n + 1))
      | _ =>
        ((gate.observe (found poll pause world n), n + 1), worldAfter poll pause world (n + 1)) := by
  rw [waitFrom_eq, StateT.run_bind]
  change StateT.run (match (gate.observe (found poll pause world n)).state with
    | .waiting _ => _
    | _ => _) _ = _
  split
  · rw [StateT.run_bind]
    rfl
  · rfl

/-- **A wait from some poll on**: it ends with the first poll that finds the source ready, and with the
last one if none does. -/
theorem exists_run_waitFrom {limit n more : Nat} (left : n + more + 1 = limit) :
    ∃ last, n ≤ last ∧ last < limit ∧
      (∀ earlier, n ≤ earlier → earlier < last → found poll pause world earlier = false) ∧
      (found poll pause world last = true ∨ last + 1 = limit) ∧
      (waitFrom ⟨limit, .waiting n⟩ poll pause n).run (worldBefore poll pause world n) =
        ((⟨limit, if found poll pause world last then .ready else .timedOut⟩, last + 1),
          worldAfter poll pause world (last + 1)) := by
  have within : n < limit := by omega
  -- The induction is on the polls that are left after this one.
  induction more generalizing n with
  | zero =>
      have spent : limit ≤ n + 1 := by omega
      refine ⟨n, Nat.le_refl n, within, by omega, Or.inr left, ?_⟩
      rw [run_waitFrom]
      cases ready : found poll pause world n with
      | true => simp [observe, next]
      | false => simp [observe, next, spent]
  | succ more ih =>
      have under : ¬ limit ≤ n + 1 := by omega
      rw [run_waitFrom]
      cases ready : found poll pause world n with
      | true => exact ⟨n, Nat.le_refl n, within, by omega, Or.inl ready, by simp [observe, next, ready]⟩
      | false =>
          obtain ⟨last, after, below, vain, ends, run⟩ := ih (n := n + 1) (by omega) (by omega)
          refine ⟨last, by omega, below, ?_, ends, ?_⟩
          · intro earlier from_ before
            obtain rfl | later := Nat.eq_or_lt_of_le from_
            · exact ready
            · exact vain earlier later before
          · simpa [observe, next, under] using run

/-- Polls of which only the last one may find the source ready, as many as count or fewer. -/
theorem afterPolls_foundBy {limit last : Nat} (below : last < limit)
    (vain : ∀ earlier < last, found poll pause world earlier = false)
    (ends : found poll pause world last = true ∨ last + 1 = limit) :
    afterPolls limit (foundBy poll pause world (last + 1)) =
      if found poll pause world last then .ready else .timedOut := by
  have length : (foundBy poll pause world (last + 1)).length = last + 1 := by simp [foundBy]
  have counted : (foundBy poll pause world (last + 1)).take limit =
      foundBy poll pause world (last + 1) := List.take_of_length_le (by omega)
  have success : true ∈ foundBy poll pause world (last + 1) ↔ found poll pause world last = true := by
    simp only [foundBy, List.mem_map, List.mem_range]
    constructor
    · rintro ⟨n, before, ready⟩
      obtain earlier | rfl := Nat.lt_succ_iff_lt_or_eq.mp before
      · exact absurd ready (by simp [vain n earlier])
      · exact ready
    · intro ready
      exact ⟨last, Nat.lt_succ_self last, ready⟩
  rw [afterPolls, counted, length]
  cases ready : found poll pause world last with
  | true => simp [success, ready]
  | false =>
      have all : limit ≤ last + 1 := by
        rcases ends with opened | spent
        · exact absurd opened (by simp [ready])
        · omega
      simp [success, ready, all]

/-- A whole wait, from a new gate. -/
theorem exists_run_waitWith (attempts : Nat) :
    ∃ last, last < max attempts 1 ∧
      (∀ earlier < last, found poll pause world earlier = false) ∧
      (found poll pause world last = true ∨ last + 1 = max attempts 1) ∧
      ((ofAttempts attempts).waitWith poll pause).run world =
        ((⟨max attempts 1, if found poll pause world last then .ready else .timedOut⟩, last + 1),
          worldAfter poll pause world (last + 1)) := by
  have positive : 1 ≤ max attempts 1 := Nat.le_max_right attempts 1
  have left : 0 + (max attempts 1 - 1) + 1 = max attempts 1 := by omega
  obtain ⟨last, -, below, vain, ends, run⟩ := exists_run_waitFrom poll pause world left
  exact ⟨last, below, fun earlier before => vain earlier (Nat.zero_le _) before, ends, run⟩

end Wait

/-- **A gate decides by the first success among its polls.** After any polls it is open if one of those
that count found the source ready, closed if all of those were in vain, and else it waits and knows their
number; once open or closed it stays so. A wait ends, with the poll that finds the source ready first or
with the last one, and leaves the gate that took note of the polls made: the world it leaves is the one
right after these polls. -/
theorem decides_by_first_success (attempts : Nat) :
    (∀ results : List Bool,
      (results.foldl observe (ofAttempts attempts)).state =
        (if true ∈ results.take (max attempts 1) then .ready
          else if max attempts 1 ≤ results.length then .timedOut
          else .waiting results.length) ∧
      ((results.foldl observe (ofAttempts attempts)).state.IsFinal → ∀ more : List Bool,
        (results ++ more).foldl observe (ofAttempts attempts) =
          results.foldl observe (ofAttempts attempts))) ∧
    ∀ (σ : Type) (poll : Nat → StateM σ Bool) (pause : StateM σ Unit) (world : σ),
      ∃ gate polls,
        ((ofAttempts attempts).waitWith poll pause).run world =
          ((gate, polls), worldAfter poll pause world polls) ∧
        gate = (foundBy poll pause world polls).foldl observe (ofAttempts attempts) ∧
        gate.state.IsFinal ∧
        (∀ n, FirstReady poll pause world n → polls = min (n + 1) (max attempts 1) ∧
          (gate.state = .ready ↔ n + 1 ≤ max attempts 1)) ∧
        ((∀ n, found poll pause world n = false) →
          polls = max attempts 1 ∧ gate.state = .timedOut) := by
  refine ⟨fun results => ⟨?_, ?_⟩, ?_⟩
  · rw [foldl_observe_ofAttempts]
    rfl
  · intro final more
    rw [List.foldl_append, foldl_observe_of_isFinal final]
  · intro σ poll pause world
    obtain ⟨last, below, vain, ends, run⟩ := exists_run_waitWith poll pause world attempts
    refine ⟨_, last + 1, run, ?_, ?_, ?_, ?_⟩
    · rw [foldl_observe_ofAttempts, afterPolls_foundBy poll pause world below vain ends]
    · cases found poll pause world last with
      | true => exact Or.inl rfl
      | false => exact Or.inr rfl
    · rintro n ⟨ready, vainBefore⟩
      cases found_ : found poll pause world last with
      | true =>
          -- Both are the first poll that is not in vain.
          obtain rfl : n = last := by
            rcases Nat.lt_trichotomy n last with before | same | after
            · exact absurd ready (by simp [vain n before])
            · exact same
            · exact absurd found_ (by simp [vainBefore last after])
          exact ⟨(Nat.min_eq_left below).symm, by simpa using Nat.succ_le_of_lt below⟩
      | false =>
          obtain opened | spent := ends
          · exact absurd opened (by simp [found_])
          · have after : last < n := by
              rcases Nat.lt_trichotomy n last with before | rfl | after
              · exact absurd ready (by simp [vain n before])
              · exact absurd ready (by simp [found_])
              · exact after
            have late : ¬ n + 1 ≤ max attempts 1 := by omega
            exact ⟨by omega, by simp [late]⟩
    · intro never
      obtain opened | spent := ends
      · exact absurd opened (by simp [never last])
      · exact ⟨spent, by simp [never last]⟩

/-- A poll that counts how often it is made, and finds the source ready the third time. -/
def thirdTime (_ : Nat) : StateM Nat Bool := fun made => (made == 2, made + 1)

/-- Of five polls only three are made. -/
theorem decides_by_first_success_third :
    FirstReady thirdTime (pure ()) 0 2 ∧ ∃ gate : ReadinessGate, gate.state = .ready ∧
      ((ofAttempts 5).waitWith thirdTime (pure ())).run 0 = ((gate, 3), 3) := by
  have third : FirstReady thirdTime (pure ()) 0 2 := ⟨by decide, by decide⟩
  obtain ⟨-, waits⟩ := decides_by_first_success 5
  obtain ⟨gate, polls, run, -, -, first, -⟩ := waits Nat thirdTime (pure ()) 0
  obtain ⟨rfl, opened⟩ := first 2 third
  exact ⟨third, gate, opened.mpr (by decide), run⟩

end ReadinessGate

end FlowAudit
