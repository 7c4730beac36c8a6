import StackUnwind.Dwarf.Leb128

/-!
# Fields of DWARF data

Little-endian fields of fixed width. A field that does not fit consumes
nothing.
-/
namespace StackUnwind.Dwarf

def natField (width : Nat) : Decoder DwarfFault Nat :=
  Decoder.fixed (fun _ => .endOfInput) width

def byte : Decoder DwarfFault UInt8 := do
  return UInt8.ofNat (← natField 1)

/-- An unsigned field, as a word. -/
def unsignedField (width : Nat) : Decoder DwarfFault Word := do
  return UInt64.ofNat (← natField width)

/-- A two's complement field, as a word with the field's sign. -/
def signedField (width : Nat) : Decoder DwarfFault Word := do
  let n ← natField width
  let sign := 1 <<< (8 * width - 1)
  return if n < sign then UInt64.ofNat n else UInt64.ofNat (n + (UInt64.size - 2 * sign))

/-- The next `n` bytes as a stream of their own. -/
def part (n : Nat) : Decoder DwarfFault ByteStream := fun s =>
  match s.take? n with
  | some (front, rest) => .ok ⟨front, s.offset⟩ rest
  | none => .error .endOfInput s

/-- The bytes before the next zero byte, which is consumed too. -/
def zeroTerminated : Decoder DwarfFault Bytes := fun s =>
  let text := s.rest.takeWhile (· ≠ 0)
  match s.take? (text.length + 1) with
  | some (_, rest) => .ok text rest
  | none => .error .endOfInput s

end StackUnwind.Dwarf
