import StackUnwind.CallFrame.Entry

/-!
# Call-frame instructions

The instructions of an entry change the rules of the current row or move on to
the next row. Offsets marked as factored are to be multiplied by the data
alignment of the common entry.
-/
namespace StackUnwind
namespace CallFrame

inductive Instruction where
  /-- The next row starts at an address. -/
  | setLocation (address : Word)
  /-- The next row starts some code units further on. -/
  | advance (delta : Word)
  | defineFrame (reg : Register) (offset : Int64)
  | defineFrameFactored (reg : Register) (offset : Int64)
  | defineFrameRegister (reg : Register)
  | defineFrameOffset (offset : Int64)
  | defineFrameOffsetFactored (offset : Int64)
  | defineFrameExpression
  | undefined (reg : Register)
  | sameValue (reg : Register)
  | offset (reg : Register) (factored : Int64)
  | valueOffset (reg : Register) (factored : Int64)
  | otherRegister (reg source : Register)
  | expression (reg : Register)
  /-- Back to the rule that the common entry gave. -/
  | restore (reg : Register)
  | rememberState
  | restoreState
  | nothing
  deriving DecidableEq, Repr

namespace Instruction

/-- An unsigned operand taken as a signed number. -/
def unsignedOperand : Decoder DwarfFault Int64 :=
  UInt64.toInt64 <$> Leb128.readUnsigned

/-- The bytes of an expression, which is not kept. -/
def skipExpression : Decoder DwarfFault Unit := do
  let size ← Leb128.readUnsigned
  let _bytes ← Dwarf.part size.toNat

/-- The operand of `setLocation`: plain, or under the encoding of the descriptions. -/
def locationOperand (context : PointerContext) :
    Option PointerEncoding → Decoder DwarfFault Word
  | none => Dwarf.unsignedField 8
  | some encoding => do
      let pointer ← encoding.read context
      if pointer.indirect then throw .unsupportedPointerEncoding else return pointer.address

/-- An instruction whose opcode takes all eight bits. -/
def readExtended (context : PointerContext) (addressEncoding? : Option PointerEncoding)
    (opcode : Nat) : Decoder DwarfFault Instruction := do
  match opcode with
  | 0x00 => return .nothing
  | 0x01 => return .setLocation (← locationOperand context addressEncoding?)
  | 0x02 => return .advance (← Dwarf.unsignedField 1)
  | 0x03 => return .advance (← Dwarf.unsignedField 2)
  | 0x04 => return .advance (← Dwarf.unsignedField 4)
  | 0x05 => return .offset (← register) (← unsignedOperand)
  | 0x06 => return .restore (← register)
  | 0x07 => return .undefined (← register)
  | 0x08 => return .sameValue (← register)
  | 0x09 => return .otherRegister (← register) (← register)
  | 0x0a => return .rememberState
  | 0x0b => return .restoreState
  | 0x0c => return .defineFrame (← register) (← unsignedOperand)
  | 0x0d => return .defineFrameRegister (← register)
  | 0x0e => return .defineFrameOffset (← unsignedOperand)
  | 0x0f => skipExpression; return .defineFrameExpression
  | 0x10 => let reg ← register; skipExpression; return .expression reg
  | 0x11 => return .offset (← register) (← Leb128.readSigned)
  | 0x12 => return .defineFrameFactored (← register) (← Leb128.readSigned)
  | 0x13 => return .defineFrameOffsetFactored (← Leb128.readSigned)
  | 0x14 => return .valueOffset (← register) (← unsignedOperand)
  | 0x15 => return .valueOffset (← register) (← Leb128.readSigned)
  | 0x16 => let reg ← register; skipExpression; return .expression reg
  | 0x2e => let _size ← Leb128.readUnsigned; return .nothing
  | _ => throw .unknownInstruction

/-- The next instruction. The three commonest keep an operand in the low six
bits of their opcode. -/
def read (context : PointerContext) (addressEncoding? : Option PointerEncoding) :
    Decoder DwarfFault Instruction := do
  let opcode := (← Dwarf.byte).toNat
  let operand := opcode % 64
  match opcode / 64 with
  | 1 => return .advance (UInt64.ofNat operand)
  | 2 => return .offset (UInt16.ofNat operand) (← unsignedOperand)
  | 3 => return .restore (UInt16.ofNat operand)
  | _ => readExtended context addressEncoding? opcode

end Instruction
end CallFrame
end StackUnwind
