import FlowAudit.Health.Sampler

/-!
# FlowAudit.Health.Process

Reading a process off the two texts in which the system tells about it: the line of numbers about the
process itself, and the list of what there is of memory.
-/

namespace FlowAudit.Reading

/-- The ticks in which processor time is counted, in a second. -/
def ticksPerSecond : Nat := 100

/-- The bytes in which resident memory is counted. -/
def pageBytes : Nat := 4096

/-- The words of a text. -/
def words (text : String) : List String :=
  (text.splitOn " ").filter (· ≠ "")

/-- What stands after the name of the process, which is in brackets and may hold anything. -/
def afterName (line : String) : String :=
  ((line.splitOn ")").getLast?).getD ""

/-- The total memory in bytes; the list gives it in units of 1024. -/
def totalMemory? (memory : String) : Option Nat := do
  let line ← (memory.splitOn "\n").find? (·.startsWith "MemTotal:")
  let kilobytes ← (words line)[1]?
  return (← kilobytes.toNat?) * 1024

/-- The reading that the texts give. -/
def ofTexts? (line memory : String) : Option Reading := do
  let fields := words (afterName line)
  let user ← (← fields[11]?).toNat?
  let system ← (← fields[12]?).toNat?
  let pages ← (← fields[21]?).toNat?
  let totalMemory ← totalMemory? memory
  return {
    cpuTime := (user + system) * (1000000000 / ticksPerSecond)
    resident := pages * pageBytes
    totalMemory }

end FlowAudit.Reading
