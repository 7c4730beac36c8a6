/-!
# Registers by DWARF number

Stack maps, exception tables and call-frame rows all name the x86-64 registers
by their DWARF numbers. Seventeen of them are tracked: the general registers
and the return address.
-/
namespace StackUnwind

abbrev Register := UInt16

namespace Register

def rax : Register := 0
def rdx : Register := 1
def rbx : Register := 3
def rbp : Register := 6
def rsp : Register := 7
def r12 : Register := 12
def r13 : Register := 13
def r14 : Register := 14
def r15 : Register := 15
def returnAddress : Register := 16

/-- The tracked registers are those below this number. -/
def count : Nat := 17

/-- What a callee must hand back unchanged under the System V convention. -/
def calleeSaved : List Register := [rbx, rbp, r12, r13, r14, r15]

/-- A landing pad finds the exception here. -/
def payload : Register := rax

/-- A landing pad finds its selector here. -/
def selector : Register := rdx

/-- Registers with names of their own, by number. -/
def names : List (Nat × String) :=
  [(0, "rax"), (1, "rdx"), (2, "rcx"), (3, "rbx"), (4, "rsi"), (5, "rdi"), (6, "rbp"),
    (7, "rsp"), (16, "RA"), (49, "rFLAGS"), (50, "es"), (51, "cs"), (52, "ss"), (53, "ds"),
    (54, "fs"), (55, "gs"), (58, "fs.base"), (59, "gs.base"), (62, "tr"), (63, "ldtr"),
    (64, "mxcsr"), (65, "fcw"), (66, "fsw")]

/-- Runs of registers that share a stem: the first and last number, the stem
and the index of the first. -/
def families : List (Nat × Nat × String × Nat) :=
  [(8, 15, "r", 8), (17, 32, "xmm", 0), (33, 40, "st", 0), (41, 48, "mm", 0), (67, 82, "xmm", 16),
    (118, 125, "k", 0)]

def name (register : Register) : String :=
  let n := register.toNat
  match names.lookup n with
  | some name => name
  | none =>
      match families.find? fun (first, last, _) => first ≤ n && n ≤ last with
      | some (first, _, stem, index) => stem ++ toString (index + (n - first))
      | none => "?"

end Register
end StackUnwind
