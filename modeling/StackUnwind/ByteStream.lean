/-!
# Byte streams

A table is read front to back. A stream is what is left of it together with
its distance from the table's first byte; a decoder consumes from a stream and
keeps its position also when it fails, so that a caller can report where the
table broke or go on behind the damage.
-/
namespace StackUnwind

abbrev Bytes := List UInt8

/-- The unread bytes and how many bytes of the table lie before them. -/
structure ByteStream where
  rest : Bytes
  offset : Nat
  deriving DecidableEq, Repr

/-- A read that may fail with `ε` and leaves the stream where it stopped. -/
abbrev Decoder (ε : Type) := EStateM ε ByteStream

namespace ByteStream

def ofBytes (bytes : Bytes) : ByteStream :=
  ⟨bytes, 0⟩

/-- The next `n` bytes and what follows them, when there are that many. -/
def take? (n : Nat) (s : ByteStream) : Option (Bytes × ByteStream) :=
  let front := s.rest.take n
  if front.length = n then some (front, ⟨s.rest.drop n, s.offset + n⟩) else none

/-- The stream `n` bytes further on, when it reaches that far. -/
def skip? (n : Nat) (s : ByteStream) : Option ByteStream :=
  (s.take? n).map (·.2)

end ByteStream

/-- The number that bytes spell, least significant first. -/
def littleEndian : Bytes → Nat
  | [] => 0
  | b :: bs => b.toNat + 256 * littleEndian bs

/-- The lowest `width` bytes of a number, least significant first. -/
def toLittleEndian : (width : Nat) → Nat → Bytes
  | 0, _ => []
  | width + 1, n => UInt8.ofNat n :: toLittleEndian width (n / 256)

namespace Decoder
variable {ε ε' α : Type}

/-- An unsigned field of `width` bytes; `short` is the fault of a stream that
ends inside it, of which nothing is consumed. -/
def fixed (short : ByteStream → ε) (width : Nat) : Decoder ε Nat := fun s =>
  match s.take? width with
  | some (front, s) => .ok (littleEndian front) s
  | none => .error (short s) s

/-- Reads `count` items in a row and puts them behind those already read. -/
def repeatedAfter (item : Decoder ε α) : (count : Nat) → (before : List α) → Decoder ε (List α)
  | 0, before => pure before.reverse
  | count + 1, before => fun s =>
      match item s with
      | .ok a s => repeatedAfter item count (a :: before) s
      | .error e s => .error e s

/-- Reads `count` items in a row. -/
def repeated (count : Nat) (item : Decoder ε α) : Decoder ε (List α) :=
  repeatedAfter item count []

/-- The same read with its faults renamed. -/
def mapFault (f : ε → ε') (d : Decoder ε α) : Decoder ε' α := fun s =>
  match d s with
  | .ok a s => .ok a s
  | .error e s => .error (f e) s

/-- The outcome alone, for a read after which nothing else is read. -/
def outcome (d : Decoder ε α) (s : ByteStream) : Except ε α :=
  match d s with
  | .ok a _ => .ok a
  | .error e _ => .error e

end Decoder
end StackUnwind
