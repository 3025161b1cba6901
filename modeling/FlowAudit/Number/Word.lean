/-!
# FlowAudit.Number.Word

The numbers that fit in a word of some bits.
-/

namespace FlowAudit.Number

/-- How many values a word of some bits can have. -/
def wordSize (bits : Nat) : Nat :=
  Nat.pow 2 bits

/-- Whether a natural number fits in a word of some bits. -/
def fitsNat (bits n : Nat) : Bool :=
  n < wordSize bits

/-- Whether an integer fits in a word of sixty-four bits with a sign. -/
def fitsInt64 (n : Int) : Bool :=
  -(wordSize 63 : Int) ≤ n && n < (wordSize 63 : Int)

end FlowAudit.Number
