import FlowAudit.Log.JsonRow
import FlowAudit.Proofs.Time.Order
import FlowAudit.Record.Codec

/-!
# FlowAudit.Proofs.Record.Calendar

**Every instant in a store lies in the calendar.** A text that names another instant is refused
(`Instant.ofText?_inCalendar`), and with it the row that it stands in. So the samples and alerts of a
table were all made in the calendar, whatever bytes the table holds (`dated_sample`, `dated_alert`).

Nor does a text name a leap second that is not the last second of a minute: the reader takes it for second
sixty only, and offsets are of whole minutes (`Instant.ofText?_leapEndsMinute`).
-/

namespace FlowAudit

open Json Json.Decode

variable {α β σ ν : Type}

/-! ### What readers give -/

/-- A reader gives nothing but what has a property, whatever there is to read. -/
def Gives (P : α → Prop) (read : StateT σ Option α) : Prop :=
  ∀ before a after, read.run before = some (a, after) → P a

namespace Gives

theorem pure {P : α → Prop} {a : α} (holds : P a) : Gives P (Pure.pure a : StateT σ Option α) := by
  intro before b after read
  cases read
  exact holds

theorem failure {P : α → Prop} : Gives P (Alternative.failure : StateT σ Option α) :=
  fun _ _ _ read => nomatch read

theorem ofGuard {p : Prop} [Decidable p] : Gives (fun _ => p) (guard p : StateT σ Option Unit) := by
  intro before _ after read
  refine Decidable.byContradiction fun fails => ?_
  have refused : (guard p : StateT σ Option Unit) = Alternative.failure := if_neg fails
  rw [refused] at read
  cases read

/-- What comes after a reader may rely on what that one gives. -/
theorem bind {P : α → Prop} {Q : β → Prop} {first : StateT σ Option α} {next : α → StateT σ Option β}
    (given : Gives P first) (holds : ∀ a, P a → Gives Q (next a)) : Gives Q (first >>= next) := by
  intro before b after read
  rw [StateT.run_bind] at read
  obtain ⟨⟨a, between⟩, found, read⟩ := Option.bind_eq_some_iff.mp read
  exact holds a (given before a between found) between b after read

theorem after {Q : β → Prop} {first : StateT σ Option α} {next : α → StateT σ Option β}
    (holds : ∀ a, Gives Q (next a)) : Gives Q (first >>= next) :=
  bind (P := fun _ => True) (fun _ _ _ _ => trivial) fun a _ => holds a

theorem required {P : α → Prop} {decode : Decoder α} (given : ∀ tree a, decode tree = some a → P a) :
    Gives P (Decode.required decode) := by
  refine .after fun field => .after fun tree => ?_
  intro before a after read
  obtain ⟨b, found, same⟩ := Option.bind_eq_some_iff.mp read
  cases same
  exact given tree a found

/-- A record has a property that the reader of its fields gives. -/
theorem record {P : α → Prop} {names : List String} {read : FieldReader α} {tree : Tree} {a : α}
    (given : Gives P read) (decoded : Decode.record names read tree = some a) : P a := by
  obtain ⟨fields, -, whole⟩ := Option.bind_eq_some_iff.mp decoded
  obtain ⟨⟨_, rest⟩, found, rfl⟩ := Option.map_eq_some_iff.mp whole
  exact given fields _ rest found

end Gives

/-! ### Instants from texts -/

theorem Time.gives_instant : Gives Instant.InCalendar Time.instant := by
  refine .after fun date => .after fun text => ?_
  cases text with
  | nil => exact .bind (P := fun _ => False) .failure fun _ => False.elim
  | cons c rest =>
      refine .after fun _ => .after fun _ => .after fun time => .after fun _ => .after fun offset => ?_
      refine .bind .ofGuard fun _ days => .pure ?_
      simpa [Instant.InCalendar, Instant.onDay] using days

/-- An instant that a text gives has what the reader gives. -/
theorem Instant.of_ofText? {P : Instant → Prop} (given : Gives P Time.instant) {text : String}
    {t : Instant} (found : Instant.ofText? text = some t) : P t := by
  unfold Instant.ofText? at found
  split at found
  case h_1 t' rest read =>
    split at found
    · cases found
      exact given _ _ _ read
    · cases found
  case h_2 => cases found

/-- **A text gives no instant outside of the calendar.** -/
theorem Instant.ofText?_inCalendar {text : String} {t : Instant} (found : Instant.ofText? text = some t) :
    t.InCalendar :=
  Instant.of_ofText? Time.gives_instant found

theorem inCalendar_of_decode {tree : Tree} {t : Instant} (decoded : OfTree.decode tree = some t) :
    t.InCalendar := by
  obtain ⟨text, -, found⟩ := Option.bind_eq_some_iff.mp decoded
  exact Instant.ofText?_inCalendar found

/-! ### Leap seconds from texts -/

/-- A number is below the power of ten that has as many zeros as it has digits. -/
theorem digitsValue_lt {digits : List Char} (decimal : ∀ c ∈ digits, Text.isAsciiDigit c) :
    Number.digitsValue digits < Nat.pow 10 digits.length := by
  have from_ (start : Nat) : digits.foldl (fun n c => 10 * n + (c.toNat - '0'.toNat)) start <
      (start + 1) * Nat.pow 10 digits.length := by
    induction digits generalizing start with
    | nil => simp
    | cons c rest ih =>
        have digit : c.toNat - '0'.toNat ≤ 9 := by
          have decimal := decimal c List.mem_cons_self
          rw [Text.isAsciiDigit, Bool.and_eq_true, decide_eq_true_iff, decide_eq_true_iff] at decimal
          exact Nat.sub_le_sub_right (show c.toNat ≤ '9'.toNat from decimal.2) '0'.toNat
        have next : 10 * start + (c.toNat - '0'.toNat) + 1 ≤ (start + 1) * 10 := by omega
        rw [List.foldl_cons, List.length_cons, Nat.pow_eq, Nat.pow_succ', ← Nat.mul_assoc]
        exact Nat.lt_of_lt_of_le (ih (fun d later => decimal d (List.mem_cons_of_mem _ later)) _)
          (Nat.mul_le_mul_right _ next)
  simpa [Number.digitsValue] using from_ 0

namespace Time

/-- Digits are digits, and no more of them than there is room for. -/
theorem gives_digits (width : Nat) :
    Gives (fun found => found.length ≤ width ∧ ∀ c ∈ found, Text.isAsciiDigit c) (digits width) := by
  intro text found rest read
  rw [StateT.run, digits] at read
  split at read
  · cases read
  · cases read
    refine ⟨?_, fun c member => ?_⟩
    · exact Nat.le_trans (List.takeWhile_prefix _).length_le (List.length_take_le _ _)
    · exact List.all_eq_true.mp List.all_takeWhile c member

/-- A fraction is less than a second. -/
theorem gives_fraction : Gives (· < 1000000000) fraction := by
  refine .after fun text => ?_
  split
  · refine .after fun _ => .bind (gives_digits 9) fun found ⟨short, decimal⟩ => .after fun _ => .pure ?_
    calc Number.digitsValue found * Nat.pow 10 (9 - found.length)
        < 10 ^ found.length * 10 ^ (9 - found.length) :=
          Nat.mul_lt_mul_of_pos_right (digitsValue_lt decimal) (Nat.pow_pos (by decide))
      _ = 1000000000 := by rw [← Nat.pow_add, Nat.add_sub_cancel' short]
  · exact .pure (by decide)

/-- A time of day has too many nanoseconds for a second only in the last second of a minute. -/
theorem gives_timeOfDay : Gives (fun time => time.2 < 1000000000 ∨ time.1 % 60 = 59) timeOfDay := by
  refine .after fun hour => .after fun _ => .after fun _ => .after fun minute => .after fun _ =>
    .after fun _ => .after fun second => .bind gives_fraction fun nano less => ?_
  split
  · exact .pure (Or.inr (by omega))
  · exact .pure (Or.inl less)

/-- Offsets are of whole minutes. -/
theorem gives_hoursMinutes : Gives (fun seconds => seconds % 60 = 0) hoursMinutes :=
  .after fun _ => .after fun _ => .after fun _ => .pure (Int.mul_emod_left _ _)

theorem gives_offset : Gives (fun seconds => seconds % 60 = 0) offset := by
  refine .bind (P := fun seconds => seconds % 60 = 0) ?_ fun seconds whole => .after fun _ => .pure whole
  refine .after fun text => ?_
  cases text with
  | nil => exact .failure
  | cons c rest =>
      dsimp only
      split
      · exact .after fun _ => .pure rfl
      · refine .after fun _ => ?_
        split
        · exact .pure rfl
        · split
          · exact gives_hoursMinutes
          · split
            · exact .bind gives_hoursMinutes fun seconds whole => .pure (by omega)
            · exact .failure

theorem gives_leapEndsMinute : Gives Instant.LeapEndsMinute instant := by
  refine .after fun date => .after fun text => ?_
  cases text with
  | nil => exact .bind (P := fun _ => False) .failure fun _ => False.elim
  | cons c rest =>
      refine .after fun _ => .after fun _ => .bind gives_timeOfDay fun time last => .after fun _ =>
        .bind gives_offset fun offset whole => .after fun _ => .pure ?_
      obtain ⟨second, nano⟩ := time
      intro leap
      show (Fin.ofNat 86400 _).val % 60 = 59
      replace leap : 1000000000 ≤ nano % 2000000000 := leap
      rw [Fin.val_ofNat]
      have last : second % 60 = 59 := last.resolve_left (by omega)
      -- Days and offsets are whole minutes, so the place in the minute is that of the time of day.
      unfold Instant.secondsPerDay
      dsimp only at whole last ⊢
      omega

end Time

/-- **A text gives no leap second but at the end of a minute.** -/
theorem Instant.ofText?_leapEndsMinute {text : String} {t : Instant}
    (found : Instant.ofText? text = some t) : t.LeapEndsMinute :=
  Instant.of_ofText? Time.gives_leapEndsMinute found

/-! ### Records from rows -/

/-- What is read from rows was made in the calendar. -/
def Dated (ρ α : Type) [Stored ρ α] [Timestamped α] : Prop :=
  ∀ (row : ρ) (record : α), Stored.read? row = some record → (createdAt record).InCalendar

theorem dated_of_decode [ToValue α] [OfTree α] [Timestamped α]
    (decoded : ∀ tree (record : α), OfTree.decode tree = some record → (createdAt record).InCalendar) :
    Dated Bytes α := by
  intro row record read
  obtain ⟨tree, -, found⟩ := Option.bind_eq_some_iff.mp read
  exact decoded tree record found

variable [ToValue ν] [OfTree ν]

theorem dated_sample : Dated Bytes (Sample ν) := by
  refine dated_of_decode fun _ _ =>
    Gives.record (P := fun sample : Sample ν => sample.timestamp.InCalendar) ?_
  exact .bind (.required fun _ _ => inCalendar_of_decode) fun _ calendar =>
    .after fun _ => .after fun _ => .after fun _ => .after fun _ => .pure calendar

theorem dated_alert : Dated Bytes (Alert ν) := by
  refine dated_of_decode fun _ _ =>
    Gives.record (P := fun alert : Alert ν => alert.createdAt.InCalendar) ?_
  exact .after fun _ => .after fun _ => .after fun _ => .after fun _ =>
    .bind (.required fun _ _ => inCalendar_of_decode) fun _ calendar => .pure calendar

end FlowAudit
