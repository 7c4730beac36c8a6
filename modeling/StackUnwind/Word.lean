/-!
# Machine words

Addresses, identifiers and register contents are 64-bit words. Plain `+` and
`-` on them wrap; the operations below are the ones that do not, and the
signed displacement, which wraps at both ends.
-/
namespace StackUnwind

/-- An address, an identifier or the contents of a register. -/
abbrev Word := UInt64

namespace Word

/-- The largest word. -/
def top : Word := 0xffffffffffffffff

/-- Sum that stops at the largest word. -/
def addSat (a b : Word) : Word :=
  if a.toNat + b.toNat < UInt64.size then a + b else top

/-- Sum, when it is a word. -/
def add? (a b : Word) : Option Word :=
  if a.toNat + b.toNat < UInt64.size then some (a + b) else none

/-- Predecessor that stops at zero. -/
def predSat (a : Word) : Word :=
  if a = 0 then 0 else a - 1

/-- The word a signed distance away from `a`. -/
def displace (a : Word) (distance : Int64) : Word :=
  a + distance.toUInt64

end Word
end StackUnwind
