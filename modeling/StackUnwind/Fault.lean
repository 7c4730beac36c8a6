import StackUnwind.Dwarf.Fault
import StackUnwind.Text
import StackUnwind.Word

/-!
# Faults

Everything that can stop reading a table, walking a stack or unwinding an
exception. A fault says that generated code and its tables disagree with the
stack; it is never an exception of the running program. Faults are causes;
their wording is `Fault.message`.
-/
namespace StackUnwind

/-- The encoding bytes of an exception table that must be understood. -/
inductive EncodedField where
  | landingPadBase
  | callSiteTable
  deriving DecidableEq, Repr

/-- Why a cursor cannot move. -/
inductive StepObstacle where
  | notOnAFrame
  | noMatchingFrame
  | framePointerNotAscending
  | stackPointerNotAdvancing
  deriving DecidableEq, Repr

/-- Expressions of a call-frame row, which are not evaluated. -/
inductive RowExpression where
  | frameAddress
  | savedRegister
  deriving DecidableEq, Repr

inductive Fault where
  /- Stack maps. -/
  | truncated (offset needed available : Nat)
  | badHeader (header : UInt32)
  | trailingBytes (count : Nat)
  | unknownLocationTag (tag : UInt8)
  | badRegister (register : UInt16)
  | constantOutOfRange (index size : Nat)
  /- Exception tables and call-frame sections. -/
  | unsupportedEncoding (field : EncodedField) (encoding : UInt8)
  | callSiteTableOverrun
  | negativeTypeFilter (filter : Int64)
  | emptyActionChain
  | actionOutOfRange (offset : Int64)
  | dwarf (cause : DwarfFault)
  /- Stepping and unwinding. -/
  | noCallSite (pc : Word)
  | landingPadOutOfRange (pad start stop : Word)
  | nestedUnwind
  | noActiveSession
  | noHandler (frames : Nat)
  | walkTooDeep (limit : Nat)
  | registerUnavailable (register : UInt16)
  | stepFailed (ip : Word) (obstacle : StepObstacle)
  | unsupportedRow (pc : Word) (expression : RowExpression)
  | incompleteRegisters (ip : Word) (register : UInt16)
  | missingSavedContext (bp : Word)
  /- Locals of compiled frames. -/
  | notCompiled (pc : Word)
  | noStackMapRecord (offset : UInt32)
  | layoutMismatch (slot : String) (index size : Nat)
  | invalidRead (address : Word)
  /- Code regions. -/
  | regionOverlap (start stop : Word)
  deriving DecidableEq, Repr

def EncodedField.name : EncodedField → String
  | .landingPadBase => "landing pad base"
  | .callSiteTable => "call-site table"

def StepObstacle.message : StepObstacle → String
  | .notOnAFrame => "cursor is not positioned on a frame"
  | .noMatchingFrame => "return context does not match a captured frame"
  | .framePointerNotAscending => "frame pointer chain is not ascending"
  | .stackPointerNotAdvancing => "stack pointer did not advance"

def RowExpression.name : RowExpression → String
  | .frameAddress => "CFA expression"
  | .savedRegister => "register expression"

/-- A half-open range of addresses. -/
def Text.addressRange (start stop : Word) : String :=
  "[" ++ Text.hex start.toNat ++ ", " ++ Text.hex stop.toNat ++ ")"

open Text in
def Fault.message : Fault → String
  | .truncated offset needed available =>
      s!"stack map truncated: needed {needed} bytes at offset {offset}, {available} available"
  | .badHeader header => "bad stack map header " ++ hex header.toNat
  | .trailingBytes count => s!"{count} trailing bytes after the last stack map record"
  | .unknownLocationTag tag => s!"unknown value location type {tag}"
  | .badRegister register => s!"DWARF register {register} is outside the register file"
  | .constantOutOfRange index size =>
      s!"constant pool index {index} out of range (pool has {size} entries)"
  | .unsupportedEncoding field encoding =>
      "unsupported " ++ field.name ++ " encoding " ++ hexByte encoding
  | .callSiteTableOverrun => "call-site table overran the action table"
  | .negativeTypeFilter filter => s!"negative type filter {filter.toInt} is not supported"
  | .emptyActionChain => "action chain exhausted without a cleanup or catch entry"
  | .actionOutOfRange offset => s!"action offset {offset.toInt} is outside the action table"
  | .dwarf cause => "DWARF read failed: " ++ cause.message
  | .noCallSite pc => "no call-site entry covers pc " ++ hex pc.toNat
  | .landingPadOutOfRange pad start stop =>
      "landing pad " ++ hex pad.toNat ++ " outside code region " ++ addressRange start stop
  | .nestedUnwind => "exception raised while another unwind episode is in progress"
  | .noActiveSession => "unwind resumed from cleanup without an active session"
  | .noHandler frames => s!"no handler found: stack exhausted after {frames} frames"
  | .walkTooDeep limit => s!"stack walk exceeded {limit} frames"
  | .registerUnavailable register => s!"register {register} unavailable in this frame"
  | .stepFailed ip obstacle =>
      "stack step failed at ip " ++ hex ip.toNat ++ ": " ++ obstacle.message
  | .unsupportedRow pc expression =>
      "unsupported CFI " ++ expression.name ++ " at pc " ++ hex pc.toNat
  | .incompleteRegisters ip register =>
      "cannot resume at " ++ hex ip.toNat ++
        s!": callee-saved register {register} was not recovered"
  | .missingSavedContext bp => "no generator return context for frame base " ++ hex bp.toNat
  | .notCompiled pc => "pc " ++ hex pc.toNat ++ " is not inside a compiled region"
  | .noStackMapRecord offset => "no stack map record at code offset " ++ hex offset.toNat
  | .layoutMismatch slot index size =>
      s!"layout slot {slot} references location {index}, record has {size}"
  | .invalidRead address => "invalid memory read at " ++ hex address.toNat
  | .regionOverlap start stop =>
      "code region " ++ addressRange start stop ++ " overlaps an existing region"

end StackUnwind
