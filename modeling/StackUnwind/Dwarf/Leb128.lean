import StackUnwind.ByteStream
import StackUnwind.Dwarf.Fault
import StackUnwind.Word

/-!
# LEB128 numbers

Seven bits a byte, least significant first, the top bit set on all bytes but
the last. Writing is of minimal length. Reading allows padding up to ten
bytes, of which the tenth may only complete a 64-bit number; every byte looked
at is consumed, also by a read that fails.
-/
namespace StackUnwind.Leb128

def unsigned (n : Nat) : Bytes :=
  if n < 128 then [UInt8.ofNat n] else UInt8.ofNat (n % 128 + 128) :: unsigned (n / 128)
termination_by n

def signed (n : Int) : Bytes :=
  if -64 ≤ n ∧ n < 64 then [UInt8.ofNat (n % 128).toNat]
  else UInt8.ofNat ((n % 128).toNat + 128) :: signed (n / 128)
termination_by n.natAbs

/-- Reads on behind `shift` bits that spell `value`. -/
def unsignedAfter (shift value offset : Nat) : Bytes → EStateM.Result DwarfFault ByteStream Word
  | [] => .error .endOfInput ⟨[], offset⟩
  | b :: bs =>
      if shift = 63 ∧ b ≠ 0x00 ∧ b ≠ 0x01 then .error .badUnsignedLeb128 ⟨bs, offset + 1⟩
      else
        let value := value + (b.toNat % 128) <<< shift
        if b < 0x80 then .ok (UInt64.ofNat value) ⟨bs, offset + 1⟩
        else unsignedAfter (shift + 7) value (offset + 1) bs

def readUnsigned : Decoder DwarfFault Word := fun s =>
  unsignedAfter 0 0 s.offset s.rest

/-- Reads on behind `shift` bits that spell `value`; a number of fewer than 64
bits takes its sign from the highest bit read. -/
def signedAfter (shift value offset : Nat) : Bytes → EStateM.Result DwarfFault ByteStream Int64
  | [] => .error .endOfInput ⟨[], offset⟩
  | b :: bs =>
      if shift = 63 ∧ b ≠ 0x00 ∧ b ≠ 0x7f then .error .badSignedLeb128 ⟨bs, offset + 1⟩
      else
        let value := value + (b.toNat % 128) <<< shift
        if b < 0x80 then
          let number : Int :=
            if shift + 7 < 64 ∧ 64 ≤ b.toNat then value - (1 <<< (shift + 7) : Nat) else value
          .ok (Int64.ofInt number) ⟨bs, offset + 1⟩
        else signedAfter (shift + 7) value (offset + 1) bs

def readSigned : Decoder DwarfFault Int64 := fun s =>
  signedAfter 0 0 s.offset s.rest

end StackUnwind.Leb128
