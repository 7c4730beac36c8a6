import StackUnwind.Dwarf.Fault
import StackUnwind.Machine.Register
import StackUnwind.Word

/-!
# Rules of a row

A row of a call-frame table says how to find the canonical frame address and,
for some registers, the caller's value. The rules are an ordered list with one
rule a register. Making a register undefined leaves no rule that says so: it
removes the rule of the register, and the last rule of the list takes the free
place.
-/
namespace StackUnwind
namespace CallFrame

/-- Where the canonical frame address is found. -/
inductive FrameRule where
  | registerOffset (reg : Register) (offset : Int64)
  | expression
  deriving DecidableEq, Repr

/-- Where the caller's value of a register is found. -/
inductive RegisterRule where
  /-- It is lost. -/
  | undefined
  | sameValue
  /-- Stored at a distance from the frame address. -/
  | offset (distance : Int64)
  /-- The frame address plus a distance. -/
  | valueOffset (distance : Int64)
  | otherRegister (source : Register)
  | expression
  deriving DecidableEq, Repr

abbrev RuleList := List (Register × RegisterRule)

namespace RuleList

/-- A list holds this many rules at most. -/
def capacity : Nat := 192

def rule? (rules : RuleList) (reg : Register) : Option RegisterRule :=
  rules.lookup reg

/-- The list with `rule` in place of the first rule for `reg`. -/
def replace (reg : Register) (rule : RegisterRule) : RuleList → RuleList
  | [] => []
  | (r, old) :: rest =>
      if r = reg then (r, rule) :: rest else (r, old) :: replace reg rule rest

def define (rules : RuleList) (reg : Register) (rule : RegisterRule) :
    Except DwarfFault RuleList :=
  if (rules.rule? reg).isSome then .ok (rules.replace reg rule)
  else if rules.length < capacity then .ok (rules ++ [(reg, rule)])
  else .error .tooManyRules

/-- The list with `last` in place of the first rule for `reg`. -/
def fill (reg : Register) (last : Register × RegisterRule) : RuleList → RuleList
  | [] => []
  | (r, rule) :: rest => if r = reg then last :: rest else (r, rule) :: fill reg last rest

/-- The list without a rule for `reg`, whose place the last rule takes. -/
def undefine (rules : RuleList) (reg : Register) : RuleList :=
  if (rules.rule? reg).isSome then
    match rules.getLast? with
    | none => rules
    | some last => fill reg last rules.dropLast
  else rules

/-- Defines or undefines a register. -/
def assign (rules : RuleList) (reg : Register) : Option RegisterRule → Except DwarfFault RuleList
  | some rule => rules.define reg rule
  | none => .ok (rules.undefine reg)

end RuleList
end CallFrame
end StackUnwind
