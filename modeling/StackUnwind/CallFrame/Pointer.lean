import StackUnwind.Dwarf.Field

/-!
# Encoded pointers

Call-frame sections store pointers under an encoding byte: the low four bits
give the format of the stored number, the next three what it is added to, and
the top bit says that the sum is where the address is stored.
-/
namespace StackUnwind

inductive PointerFormat where
  | absolute
  | uleb128
  | udata2
  | udata4
  | udata8
  | sleb128
  | sdata2
  | sdata4
  | sdata8
  deriving DecidableEq, Repr

inductive PointerBase where
  | zero
  /-- The address at which the number itself is stored. -/
  | position
  | textStart
  | dataStart
  | functionStart
  | aligned
  deriving DecidableEq, Repr

inductive PointerEncoding where
  | omitted
  | stored (format : PointerFormat) (base : PointerBase) (indirect : Bool)
  deriving DecidableEq, Repr

/-- What pointers of a section may be relative to. -/
structure PointerContext where
  /-- Where the section is loaded. -/
  sectionAddress : Word
  functionStart? : Option Word := none
  deriving DecidableEq, Repr

/-- An address, or where one is stored. -/
structure EncodedPointer where
  address : Word
  indirect : Bool
  deriving DecidableEq, Repr

namespace PointerFormat

def ofNibble? (nibble : Nat) : Option PointerFormat :=
  [(0x0, absolute), (0x1, uleb128), (0x2, udata2), (0x3, udata4), (0x4, udata8), (0x9, sleb128),
    (0xa, sdata2), (0xb, sdata4), (0xc, sdata8)].lookup nibble

def read : PointerFormat → Decoder DwarfFault Word
  | .absolute | .udata8 => Dwarf.unsignedField 8
  | .uleb128 => Leb128.readUnsigned
  | .udata2 => Dwarf.unsignedField 2
  | .udata4 => Dwarf.unsignedField 4
  | .sleb128 => (·.toUInt64) <$> Leb128.readSigned
  | .sdata2 => Dwarf.signedField 2
  | .sdata4 => Dwarf.signedField 4
  | .sdata8 => Dwarf.signedField 8

end PointerFormat

namespace PointerBase

def ofBits? (bits : Nat) : Option PointerBase :=
  [(0, zero), (1, position), (2, textStart), (3, dataStart), (4, functionStart),
    (5, aligned)].lookup bits

/-- The word that a base stands for when the reader is `offset` bytes into the section. -/
def resolve (context : PointerContext) (offset : Nat) : PointerBase → Except DwarfFault Word
  | .zero => .ok 0
  | .position => .ok (context.sectionAddress + UInt64.ofNat offset)
  | .textStart => .error .noTextBase
  | .dataStart => .error .noDataBase
  | .functionStart =>
      match context.functionStart? with
      | some start => .ok start
      | none => .error .noFunctionBase
  | .aligned => .error .unsupportedPointerEncoding

end PointerBase

namespace PointerEncoding

def ofCode? (code : UInt8) : Option PointerEncoding :=
  if code = 0xff then some .omitted
  else do
    let format ← PointerFormat.ofNibble? (code.toNat % 16)
    let base ← PointerBase.ofBits? (code.toNat / 16 % 8)
    return .stored format base (128 ≤ code.toNat)

/-- The encoding byte itself. -/
def readCode : Decoder DwarfFault PointerEncoding := do
  match ofCode? (← Dwarf.byte) with
  | some encoding => return encoding
  | none => throw .unknownPointerEncoding

/-- The stored number alone. -/
def readValue : PointerEncoding → Decoder DwarfFault Word
  | .omitted => throw .omittedPointer
  | .stored format _ _ => format.read

/-- A pointer: its base is settled before its number is read. -/
def read (context : PointerContext) : PointerEncoding → Decoder DwarfFault EncodedPointer
  | .omitted => throw .omittedPointer
  | .stored format base indirect => do
      match base.resolve context (← get).offset with
      | .ok start => return ⟨start + (← format.read), indirect⟩
      | .error fault => throw fault

end PointerEncoding
end StackUnwind
