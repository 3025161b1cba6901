import FlowAudit.Number.Word

/-!
# FlowAudit.Time.Span

Lengths of time, in nanoseconds. A span reaches at most `maxMillis` milliseconds either way; the
functions that build one from larger units say when it would not.
-/

namespace FlowAudit

/-- A length of time. -/
structure Span where
  nanos : Int
  deriving Repr, DecidableEq

namespace Span

/-- Nanoseconds in a second. -/
def nanosPerSecond : Nat := 1000000000

/-- The most milliseconds that a span reaches. -/
def maxMillis : Int := (Number.wordSize 63 : Int) - 1

/-- The longest span. -/
def longest : Span := ⟨maxMillis * 1000000⟩

/-- A number of milliseconds, if a span reaches that far. -/
def ofMillis? (n : Int) : Option Span :=
  if -maxMillis ≤ n && n ≤ maxMillis then some ⟨n * 1000000⟩ else none

/-- A number of seconds, if a span reaches that far. -/
def ofSeconds? (n : Int) : Option Span :=
  if n.natAbs ≤ (maxMillis / 1000).toNat then some ⟨n * nanosPerSecond⟩ else none

/-- A number of hours, if a span reaches that far. -/
def ofHours? (n : Int) : Option Span :=
  ofSeconds? (n * 3600)

/-- A number of days, if a span reaches that far. -/
def ofDays? (n : Int) : Option Span :=
  ofSeconds? (n * 86400)

/-- A number of seconds, none when negative, and as long as a span can be when it is too many. -/
def ofSecondsClamped (n : Int) : Span :=
  (ofSeconds? (max n 0)).getD longest

/-- A number of minutes. -/
def ofMinutes (n : Nat) : Span :=
  ⟨n * 60 * nanosPerSecond⟩

/-- The whole seconds of a span; a part of a second does not count, on either side of zero. -/
def wholeSeconds (s : Span) : Int :=
  s.nanos.tdiv nanosPerSecond

/-- The whole milliseconds of a span; a part of one does not count, on either side of zero. -/
def wholeMillis (s : Span) : Int :=
  s.nanos.tdiv 1000000

end Span

end FlowAudit
