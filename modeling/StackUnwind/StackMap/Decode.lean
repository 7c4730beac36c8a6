import StackUnwind.ByteStream
import StackUnwind.StackMap.Basic

/-!
# Decoding stack maps

All numbers are little-endian:

* the header word 1 and three 32-bit counts;
* per function, its address and frame size, 64 bits each;
* per constant, 64 bits;
* per record, its identifier (64), offset (32), flags (16) and location count
  (16); per location, tag (8), size (8), register (16) and payload (32); padding
  (16) and live-out count (16); per live-out, register (16), reserved (8) and
  size (8); and 32 bits of padding when the number of live-outs is even.

A blob is accepted as a whole or rejected. Before the items of a section are
read, there must be room for all of them, as far as their number tells.
-/
namespace StackUnwind
namespace StackMap

/-- The fault of a blob that ends `needed` bytes or less behind the reader. -/
def shortage (needed : Nat) (s : ByteStream) : Fault :=
  .truncated s.offset needed s.rest.length

def field (width : Nat) : Decoder Fault Nat :=
  Decoder.fixed (shortage width) width

/-- Reads nothing, but requires that `needed` bytes are left. -/
def require (needed : Nat) : Decoder Fault Unit := fun s =>
  if (s.take? needed).isSome then .ok () s else .error (shortage needed s) s

def word : Decoder Fault Word := do
  return UInt64.ofNat (← field 8)

def functionEntry : Decoder Fault FunctionEntry := do
  return { address := ← word, frameSize := ← word }

def location : Decoder Fault Location := do
  let tag ← field 1
  let _size ← field 1
  let register ← field 2
  let payload ← field 4
  let stored : StoredLocation :=
    ⟨UInt8.ofNat tag, UInt16.ofNat register, (UInt32.ofNat payload).toInt32⟩
  match stored.decode with
  | .ok location => return location
  | .error fault => throw fault

def liveOut : Decoder Fault LiveOut := do
  let register ← field 2
  let _reserved ← field 1
  let size ← field 1
  return { register := UInt16.ofNat register, size := UInt8.ofNat size }

def record : Decoder Fault Record := do
  let id ← word
  let offset ← field 4
  let flags ← field 2
  let locationCount ← field 2
  require (locationCount * 8)
  let locations ← Decoder.repeated locationCount location
  let _padding ← field 2
  let liveOutCount ← field 2
  require (liveOutCount * 4)
  let liveOuts ← Decoder.repeated liveOutCount liveOut
  if liveOutCount % 2 = 0 then
    let _alignment ← field 4
  return { id, offset := UInt32.ofNat offset, flags := UInt16.ofNat flags, locations, liveOuts }

/-- The only header word that is understood. -/
def version : Nat := 1

def contents : Decoder Fault StackMap := do
  let header ← field 4
  unless header = version do
    throw (.badHeader (UInt32.ofNat header))
  let functionCount ← field 4
  let constantCount ← field 4
  let recordCount ← field 4
  require (functionCount * 16)
  let functions ← Decoder.repeated functionCount functionEntry
  require (constantCount * 8)
  let constants ← Decoder.repeated constantCount word
  require (recordCount * 16)
  let records ← Decoder.repeated recordCount record
  return { functions, constants, records }

/-- Nothing may follow the last record. -/
def atEnd : Decoder Fault Unit := fun s =>
  if s.rest.isEmpty then .ok () s else .error (.trailingBytes s.rest.length) s

def decode (bytes : Bytes) : Except Fault StackMap :=
  (do let map ← contents; atEnd; return map : Decoder Fault StackMap).outcome (.ofBytes bytes)

end StackMap
end StackUnwind
