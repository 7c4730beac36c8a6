import StackUnwind.CallFrame.Pointer
import StackUnwind.Machine.Register

/-!
# Entries of a call-frame section

A section in the `.eh_frame` format is a row of entries, each with its length
in front. A common entry holds what several functions share; a description
holds one function's range and instructions and names its common entry by
distance. A length of zero ends the section.
-/
namespace StackUnwind
namespace CallFrame

/-- What the descriptions of several functions share. -/
structure Common where
  codeAlignment : Word
  dataAlignment : Int64
  /-- The column in which rows put the return address. -/
  returnColumn : Register
  /-- Whether descriptions carry augmentation data. -/
  augmented : Bool
  /-- How descriptions store a pointer to their exception table. -/
  handlerEncoding? : Option PointerEncoding
  /-- How descriptions store addresses. -/
  addressEncoding? : Option PointerEncoding
  program : ByteStream
  deriving DecidableEq, Repr

/-- The instructions for `length` bytes of code from `start` on. -/
structure Description where
  start : Word
  length : Word
  common : Common
  program : ByteStream
  deriving DecidableEq, Repr

/-- The bytes of a section and the address at which it is loaded. -/
structure Image where
  bytes : Bytes
  address : Word
  deriving DecidableEq, Repr

inductive Entry where
  | common (entry : Common)
  /-- A description whose common entry starts at an offset, with the rest of its bytes. -/
  | description (commonOffset : Nat) (body : ByteStream)
  deriving DecidableEq, Repr

/-- A register operand. -/
def register : Decoder DwarfFault Register := do
  let n ← Leb128.readUnsigned
  if n.toNat < 65536 then return UInt16.ofNat n.toNat else throw .registerTooLarge

/-- What the letters of an augmentation string have said so far. -/
structure Augmentation where
  /-- The augmentation data that is still unread, once its size is known. -/
  data? : Option ByteStream := none
  handlerEncoding? : Option PointerEncoding := none
  addressEncoding? : Option PointerEncoding := none
  deriving DecidableEq, Repr

namespace Augmentation

/-- Reads from the augmentation data; there must be some. -/
def fromData {α : Type} (augmentation : Augmentation) (d : Decoder DwarfFault α) :
    Except DwarfFault (α × Augmentation) :=
  match augmentation.data? with
  | none => .error .unknownAugmentation
  | some data =>
      match d data with
      | .ok a data => .ok (a, { augmentation with data? := some data })
      | .error fault _ => .error fault

/-- A pointer of which only the room it takes matters. -/
def skipPointer (context : PointerContext) : Decoder DwarfFault Unit := do
  let encoding ← PointerEncoding.readCode
  let _pointer ← encoding.read context

/-- The effect of a letter other than `z`, which touches the data alone. -/
def letter (context : PointerContext) (augmentation : Augmentation) (c : UInt8) :
    Except DwarfFault Augmentation :=
  if c = 0x4c then do -- L
    let (encoding, rest) ← augmentation.fromData PointerEncoding.readCode
    return { rest with handlerEncoding? := some encoding }
  else if c = 0x50 then do -- P
    let (_, rest) ← augmentation.fromData (skipPointer context)
    return rest
  else if c = 0x52 then do -- R
    let (encoding, rest) ← augmentation.fromData PointerEncoding.readCode
    return { rest with addressEncoding? := some encoding }
  else if c = 0x53 then .ok augmentation -- S
  else .error .unknownAugmentation

/-- Follows the letters in order. The letter `z` splits the data off the entry
and can only come first. -/
def read (context : PointerContext) :
    (first : Bool) → Bytes → Augmentation → Decoder DwarfFault Augmentation
  | _, [], augmentation => pure augmentation
  | first, c :: cs, augmentation => do
      if c = 0x7a then
        unless first do throw .unknownAugmentation
        let size ← Leb128.readUnsigned
        let data ← Dwarf.part size.toNat
        read context false cs { augmentation with data? := some data }
      else
        match augmentation.letter context c with
        | .ok augmentation => read context false cs augmentation
        | .error fault => throw fault

end Augmentation

/-- The body of a common entry, behind its marker. -/
def Common.read (context : PointerContext) : Decoder DwarfFault Common := do
  let version ← Dwarf.byte
  unless version = 1 ∨ version = 3 ∨ version = 4 do
    throw .unknownVersion
  let letters ← Dwarf.zeroTerminated
  let codeAlignment ← Leb128.readUnsigned
  let dataAlignment ← Leb128.readSigned
  let returnColumn ← if version = 1 then UInt8.toUInt16 <$> Dwarf.byte else register
  let augmentation ← Augmentation.read context true letters {}
  return {
    codeAlignment, dataAlignment, returnColumn
    augmented := !letters.isEmpty
    handlerEncoding? := augmentation.handlerEncoding?
    addressEncoding? := augmentation.addressEncoding?
    program := ← get }

/-- The length in front of an entry: 32 bits, or 64 behind an escape. -/
def entryLength : Decoder DwarfFault Nat := do
  let length ← Dwarf.natField 4
  if length < 0xfffffff0 then return length
  else if length = 0xffffffff then Dwarf.natField 8
  else throw .reservedLength

/-- The next entry; none when its length is zero. -/
def Entry.read? (context : PointerContext) : Decoder DwarfFault (Option Entry) := do
  let length ← entryLength
  if length = 0 then return none
  let body ← Dwarf.part length
  let parse : Decoder DwarfFault Entry := do
    let position := (← get).offset
    let id ← Dwarf.natField 4
    if id = 0 then return .common (← Common.read context)
    else if id ≤ position then return .description (position - id) (← get)
    else throw .offsetOutOfBounds
  match parse.outcome body with
  | .ok entry => return some entry
  | .error fault => throw fault

/-- The common entry at an offset of the section. -/
def Image.commonAt (image : Image) (offset : Nat) : Except DwarfFault Common :=
  match (ByteStream.ofBytes image.bytes).skip? offset with
  | none => .error .endOfInput
  | some s => do
      match ← (Entry.read? { sectionAddress := image.address }).outcome s with
      | some (.common entry) => return entry
      | some (.description ..) => throw .notACommonEntry
      | none => throw .noEntryAtOffset

/-- The range of a description: a start and a length in one encoding. -/
def Description.readRange (context : PointerContext) :
    Option PointerEncoding → Decoder DwarfFault (Word × Word)
  | none => do
      let start ← Dwarf.unsignedField 8
      let length ← Dwarf.unsignedField 8
      return (start, length)
  | some encoding => do
      let start ← encoding.read context
      let length ← encoding.readValue
      return (start.address, length)

/-- Augmentation data of a description, of which the exception table's pointer is read. -/
def Description.readAugmentation (context : PointerContext) (common : Common) :
    Decoder DwarfFault Unit := do
  if common.augmented then
    let size ← Leb128.readUnsigned
    let data ← Dwarf.part size.toNat
    match common.handlerEncoding? with
    | none => return
    | some encoding =>
        match (encoding.read context).outcome data with
        | .ok _ => return
        | .error fault => throw fault

def Description.read (image : Image) (common : Common) : Decoder DwarfFault Description := do
  let (start, length) ← readRange { sectionAddress := image.address } common.addressEncoding?
  readAugmentation { sectionAddress := image.address, functionStart? := some start } common
  return { start, length, common, program := ← get }

/-- The descriptions of a section in order, after at most `rounds` entries. -/
def Image.descriptionsWithin (image : Image) :
    (rounds : Nat) → ByteStream → Except DwarfFault (List Description)
  | 0, _ => .ok []
  | rounds + 1, s =>
      if s.rest.isEmpty then .ok []
      else
        match Entry.read? { sectionAddress := image.address } s with
        | .error fault _ => .error fault
        | .ok none _ => .ok []
        | .ok (some (.common _)) s => image.descriptionsWithin rounds s
        | .ok (some (.description offset body)) s => do
            let common ← image.commonAt offset
            let description ← (Description.read image common).outcome body
            return description :: (← image.descriptionsWithin rounds s)

/-- The descriptions of a section in order. Every entry has bytes of its own,
so as many rounds as there are bytes reach the end. -/
def Image.descriptions (image : Image) : Except DwarfFault (List Description) :=
  image.descriptionsWithin image.bytes.length (.ofBytes image.bytes)

end CallFrame
end StackUnwind
