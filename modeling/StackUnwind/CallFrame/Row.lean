import StackUnwind.CallFrame.Instruction
import StackUnwind.CallFrame.Rules

/-!
# Evaluating call-frame instructions

The instructions of the common entry run first and leave the initial rules;
those of the description then run row by row, each row being a half-open range
of addresses, until the row that contains the wanted address is complete.
Instructions behind that row are not read.

Remembered states are kept in a store that holds four rows together with the
current one; when the common entry leaves two or more rules, the initial rules
take one of the four places.
-/
namespace StackUnwind
namespace CallFrame

/-- A row without its range of addresses. -/
structure RowState where
  frame : FrameRule := .registerOffset 0 0
  rules : RuleList := []
  deriving DecidableEq, Repr

/-- The current row, where it starts, and what has been remembered. -/
structure Evaluation where
  start : Word
  row : RowState
  remembered : List RowState
  /-- The rules of the common entry, once it has run. -/
  initial? : Option RuleList
  deriving DecidableEq, Repr

/-- How many rows the store holds. -/
def rowCapacity : Nat := 4

namespace Evaluation

def blank : Evaluation where
  start := 0
  row := {}
  remembered := []
  initial? := none

/-- Whether the initial rules need a row of the store. -/
def keepsInitialRow (rules : RuleList) : Bool :=
  2 ≤ rules.length

/-- Rows of the store that are taken. -/
def rowsTaken (e : Evaluation) : Nat :=
  let initial := match e.initial? with
    | some rules => if keepsInitialRow rules then 1 else 0
    | none => 0
  initial + e.remembered.length + 1

def setRule (e : Evaluation) (reg : Register) (rule? : Option RegisterRule) :
    Except DwarfFault Evaluation := do
  return { e with row := { e.row with rules := ← e.row.rules.assign reg rule? } }

def setFrame (e : Evaluation) (frame : FrameRule) : Evaluation :=
  { e with row := { e.row with frame } }

/-- Changes a frame address that is a register and an offset. -/
def changeFrame (e : Evaluation) (change : Register → Int64 → FrameRule) :
    Except DwarfFault Evaluation :=
  match e.row.frame with
  | .registerOffset reg offset => .ok (e.setFrame (change reg offset))
  | .expression => .error .instructionOutOfContext

def remember (e : Evaluation) : Except DwarfFault Evaluation :=
  if e.rowsTaken < rowCapacity then .ok { e with remembered := e.row :: e.remembered }
  else .error .rowStackFull

/-- Back to the state remembered last; the row goes on where it started. -/
def reinstate (e : Evaluation) : Except DwarfFault Evaluation :=
  match e.remembered with
  | [] => .error .nothingRemembered
  | row :: remembered => .ok { e with row, remembered }

def restoreRule (e : Evaluation) (reg : Register) : Except DwarfFault Evaluation :=
  match e.initial? with
  | none => .error .instructionOutOfContext
  | some initial => e.setRule reg (initial.rule? reg)

/-- What an instruction does: change the current row, or end it at an address. -/
inductive Effect where
  | change (e : Evaluation)
  | endRow (stop : Word)

/-- The address behind `delta` code units. -/
def advanced (e : Evaluation) (common : Common) (delta : Word) : Except DwarfFault Word :=
  match Word.add? e.start (delta * common.codeAlignment) with
  | some stop => .ok stop
  | none => .error .addressOverflow

def execute (common : Common) (e : Evaluation) : Instruction → Except DwarfFault Effect
  | .setLocation address =>
      if address < e.start then .error .addressRangeReversed else .ok (.endRow address)
  | .advance delta => .endRow <$> e.advanced common delta
  | .defineFrame reg offset => .ok (.change (e.setFrame (.registerOffset reg offset)))
  | .defineFrameFactored reg offset =>
      .ok (.change (e.setFrame (.registerOffset reg (offset * common.dataAlignment))))
  | .defineFrameRegister reg =>
      .change <$> e.changeFrame fun _ offset => .registerOffset reg offset
  | .defineFrameOffset offset =>
      .change <$> e.changeFrame fun reg _ => .registerOffset reg offset
  | .defineFrameOffsetFactored offset =>
      .change <$> e.changeFrame fun reg _ => .registerOffset reg (offset * common.dataAlignment)
  | .defineFrameExpression => .ok (.change (e.setFrame .expression))
  | .undefined reg => .change <$> e.setRule reg none
  | .sameValue reg => .change <$> e.setRule reg (some .sameValue)
  | .offset reg factored =>
      .change <$> e.setRule reg (some (.offset (factored * common.dataAlignment)))
  | .valueOffset reg factored =>
      .change <$> e.setRule reg (some (.valueOffset (factored * common.dataAlignment)))
  | .otherRegister reg source => .change <$> e.setRule reg (some (.otherRegister source))
  | .expression reg => .change <$> e.setRule reg (some .expression)
  | .restore reg => .change <$> e.restoreRule reg
  | .rememberState => .change <$> e.remember
  | .restoreState => .change <$> e.reinstate
  | .nothing => .ok (.change e)

/-- Runs all instructions of the common entry, for at most `rounds` of them. -/
def runCommon (context : PointerContext) (common : Common) :
    (rounds : Nat) → ByteStream → Evaluation → Except DwarfFault Evaluation
  | 0, _, e => .ok e
  | rounds + 1, s, e =>
      if s.rest.isEmpty then .ok e
      else
        match Instruction.read context none s with
        | .error fault _ => .error fault
        | .ok instruction s =>
            match execute common e instruction with
            | .error fault => .error fault
            | .ok (.change e) => runCommon context common rounds s e
            | .ok (.endRow stop) => runCommon context common rounds s { e with start := stop }

/-- Takes the current rules for the initial ones, if there is room for them. -/
def saveInitial (e : Evaluation) : Except DwarfFault Evaluation :=
  if keepsInitialRow e.row.rules && rowCapacity ≤ e.rowsTaken then .error .rowStackFull
  else .ok { e with initial? := some e.row.rules }

/-- The state after the common entry. -/
def afterCommon (context : PointerContext) (common : Common) : Except DwarfFault Evaluation := do
  (← runCommon context common common.program.rest.length common.program blank).saveInitial

/-- Runs the instructions of a description up to the row that contains `pc`,
for at most `rounds` of them; the last row ends at `stop`. -/
def findRow (context : PointerContext) (common : Common) (pc stop : Word) :
    (rounds : Nat) → ByteStream → Evaluation → Except DwarfFault (Option RowState)
  | rounds, s, e =>
      let here (stop : Word) : Bool := e.start ≤ pc && pc < stop
      match rounds with
      | 0 => .ok (if here stop then some e.row else none)
      | rounds + 1 =>
          if s.rest.isEmpty then .ok (if here stop then some e.row else none)
          else
            match Instruction.read context common.addressEncoding? s with
            | .error fault _ => .error fault
            | .ok instruction s =>
                match execute common e instruction with
                | .error fault => .error fault
                | .ok (.change e) => findRow context common pc stop rounds s e
                | .ok (.endRow rowStop) =>
                    if here rowStop then .ok (some e.row)
                    else findRow context common pc stop rounds s { e with start := rowStop }

end Evaluation

/-- The row of a description that contains `pc`. Its last row ends where the
code does, wrapping. -/
def Description.row? (context : PointerContext) (description : Description) (pc : Word) :
    Except DwarfFault (Option RowState) := do
  let initial ← Evaluation.afterCommon context description.common
  Evaluation.findRow context description.common pc (description.start + description.length)
    description.program.rest.length description.program
    { initial with start := description.start }

end CallFrame
end StackUnwind
