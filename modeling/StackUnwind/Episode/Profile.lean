import StackUnwind.Word

/-!
# Exception profile

Exceptions are counted by function and statement, up to the largest 32-bit
number. A statement is proposed for promotion when its count reaches the
threshold. Unless the threshold is the largest count, this happens once until
its function is reset.
-/
namespace StackUnwind

/-- A statement of a function. -/
structure StatementKey where
  function : Word
  statement : UInt32
  deriving DecidableEq, Repr

structure Profile where
  threshold : UInt32
  /-- One count for each statement that has seen an exception. -/
  counts : List (StatementKey × UInt32) := []
  deriving DecidableEq, Repr

namespace Profile

def count (profile : Profile) (key : StatementKey) : UInt32 :=
  (profile.counts.lookup key).getD 0

/-- The count after one more exception. -/
def oneMore (count : UInt32) : UInt32 :=
  if count = 0xffffffff then count else count + 1

/-- Counts one exception in a list that has a place for the statement or gets one. -/
def increment (key : StatementKey) : List (StatementKey × UInt32) → List (StatementKey × UInt32)
  | [] => [(key, 1)]
  | (k, n) :: rest => if k = key then (k, oneMore n) :: rest else (k, n) :: increment key rest

/-- The profile after one more exception of a statement. -/
def record (profile : Profile) (key : StatementKey) : Profile :=
  { profile with counts := increment key profile.counts }

/-- Whether the next exception of a statement brings it to the threshold. -/
def promotes (profile : Profile) (key : StatementKey) : Bool :=
  profile.threshold != 0 && oneMore (profile.count key) == profile.threshold

/-- Forgets all statements of a function. -/
def reset (profile : Profile) (function : Word) : Profile :=
  { profile with counts := profile.counts.filter fun (key, _) => key.function != function }

def size (profile : Profile) : Nat :=
  profile.counts.length

end Profile
end StackUnwind
