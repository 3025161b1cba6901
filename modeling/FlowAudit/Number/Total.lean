import FlowAudit.Number.Word

/-!
# FlowAudit.Number.Total

Adding up counts: counts of what is at hand, which cannot be too many, and counts that were read from
somewhere and can be any words.
-/

namespace FlowAudit

/-- The sum of a count over the members of a list. -/
def totalOf {α : Type} (count : α → Nat) : List α → Nat
  | [] => 0
  | a :: rest => count a + totalOf count rest

/-- The sum of a count as a word of sixty-four bits. A sum past the largest word starts over. -/
def wordTotal {α : Type} (count : α → Nat) (members : List α) : Nat :=
  members.foldl (fun sum a => (sum + count a) % Number.wordSize 64) 0

end FlowAudit
