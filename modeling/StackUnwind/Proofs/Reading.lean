import StackUnwind.Dwarf.Field
import Mathlib.Algebra.Order.BigOperators.Group.List
import Mathlib.Tactic.Ring
import Mathlib.Tactic.Linarith

/-!
# Reading back what was written

A decoder reads a byte string as a value when it consumes exactly these bytes,
whatever follows them. Such readings compose along the steps of a decoder, so
a format is shown to be read back field by field. The fields treated here are
little-endian numbers of fixed width and LEB128 numbers of either sign.

Nothing is said about byte strings that no writer produces; padded LEB128
numbers and faults are outside these statements.
-/
namespace StackUnwind

namespace Decoder

variable {ε ε' α β : Type}

/-- The decoder consumes exactly `bytes`, as `a`, in front of anything. -/
def Reads (d : Decoder ε α) (bytes : Bytes) (a : α) : Prop :=
  ∀ rest offset, d ⟨bytes ++ rest, offset⟩ = .ok a ⟨rest, offset + bytes.length⟩

theorem bind_of_ok {d : Decoder ε α} {f : α → Decoder ε β} {s t : ByteStream} {a : α}
    (h : d s = .ok a t) : (d >>= f) s = f a t := by
  simp only [bind, EStateM.bind, h]

theorem bind_ok {d : Decoder ε α} {f : α → Decoder ε β} {s t : ByteStream} {b : β}
    (h : (d >>= f) s = .ok b t) : ∃ a s', d s = .ok a s' ∧ f a s' = .ok b t := by
  simp only [bind, EStateM.bind] at h
  split at h
  · rename_i a s' hd
    exact ⟨a, s', hd, h⟩
  · cases h

theorem bind_pure_ok {d : Decoder ε α} {g : α → β} {s t : ByteStream} {b : β}
    (h : (d >>= fun a => pure (g a)) s = .ok b t) : ∃ a, d s = .ok a t ∧ b = g a := by
  obtain ⟨a, s', hd, hpure⟩ := bind_ok h
  cases hpure
  exact ⟨a, hd, rfl⟩

theorem get_bind (f : ByteStream → Decoder ε α) (s : ByteStream) : (get >>= f) s = f s s := rfl

theorem Reads.pure (a : α) : Reads (pure a : Decoder ε α) [] a := by
  intro rest offset
  rfl

theorem Reads.bind {d : Decoder ε α} {f : α → Decoder ε β} {front back : Bytes} {a : α} {b : β}
    (hd : Reads d front a) (hf : Reads (f a) back b) : Reads (d >>= f) (front ++ back) b := by
  intro rest offset
  rw [List.append_assoc, bind_of_ok (hd (back ++ rest) offset), hf rest]
  simp only [List.length_append, Nat.add_assoc]

theorem Reads.bind_pure {d : Decoder ε α} {bytes : Bytes} {a : α} (h : Reads d bytes a)
    (f : α → β) : Reads (d >>= fun x => Pure.pure (f x)) bytes (f a) := by
  have hpure : Reads (Pure.pure (f a) : Decoder ε β) [] (f a) := .pure _
  have hbind : Reads (d >>= fun x => Pure.pure (f x)) (bytes ++ []) (f a) := h.bind hpure
  rwa [List.append_nil] at hbind

theorem Reads.map {d : Decoder ε α} {bytes : Bytes} {a : α} (h : Reads d bytes a) (f : α → β) :
    Reads (f <$> d) bytes (f a) := by
  intro rest offset
  simp only [Functor.map, EStateM.map, h rest offset]

theorem Reads.mapFault {d : Decoder ε α} {bytes : Bytes} {a : α} (h : Reads d bytes a)
    (f : ε → ε') : Reads (d.mapFault f) bytes a := by
  intro rest offset
  simp only [Decoder.mapFault, h rest offset]

/-- Items read in a row come behind those read before them. -/
theorem repeatedAfter_reads {item : Decoder ε β} {encode : α → Bytes} {value : α → β}
    {items : List α} (h : ∀ a ∈ items, Reads item (encode a) (value a)) (before : List β) :
    Reads (repeatedAfter item items.length before) (items.flatMap encode)
      (before.reverse ++ items.map value) := by
  induction items generalizing before with
  | nil =>
      rw [List.map_nil, List.append_nil]
      exact .pure _
  | cons a items ih =>
      intro rest offset
      have hfirst := h a List.mem_cons_self (items.flatMap encode ++ rest) offset
      have hrest := ih (fun b hb => h b (List.mem_cons_of_mem _ hb)) (value a :: before)
      rw [List.flatMap_cons, List.append_assoc, List.length_cons, repeatedAfter]
      simp only [hfirst]
      rw [hrest rest (offset + (encode a).length)]
      simp [Nat.add_assoc]

theorem Reads.repeated {item : Decoder ε β} {encode : α → Bytes} {value : α → β} {items : List α}
    (h : ∀ a ∈ items, Reads item (encode a) (value a)) :
    Reads (repeated items.length item) (items.flatMap encode) (items.map value) :=
  repeatedAfter_reads h []

theorem Reads.repeated_self {item : Decoder ε α} {encode : α → Bytes} {items : List α}
    (h : ∀ a ∈ items, Reads item (encode a) a) :
    Reads (Decoder.repeated items.length item) (items.flatMap encode) items := by
  have hitems := Reads.repeated h
  rwa [List.map_id'] at hitems

end Decoder

/-- A list takes the room of its items. -/
theorem length_mul_le_flatMap {α : Type} (encode : α → Bytes) (size : Nat) (items : List α)
    (h : ∀ a, size ≤ (encode a).length) :
    items.length * size ≤ (items.flatMap encode).length := by
  have hsum := List.card_nsmul_le_sum (items.map fun a => (encode a).length) size
    (by simpa using fun a _ => h a)
  rw [List.length_flatMap]
  simpa using hsum

/-! Fields of fixed width -/

@[simp] theorem toLittleEndian_length (width n : Nat) : (toLittleEndian width n).length = width := by
  induction width generalizing n with
  | zero => rfl
  | succ width ih => simp [toLittleEndian, ih]

theorem littleEndian_toLittleEndian (width n : Nat) :
    littleEndian (toLittleEndian width n) = n % 256 ^ width := by
  induction width generalizing n with
  | zero => simp [toLittleEndian, littleEndian, Nat.mod_one]
  | succ width ih =>
      have hsplit : n % 256 ^ (width + 1) = n % 256 + 256 * (n / 256 % 256 ^ width) := by
        rw [pow_succ', Nat.mod_mul]
      rw [hsplit, toLittleEndian, littleEndian, ih, UInt8.toNat_ofNat']

theorem ByteStream.take?_append (front rest : Bytes) (offset : Nat) :
    ByteStream.take? front.length ⟨front ++ rest, offset⟩ =
      some (front, ⟨rest, offset + front.length⟩) := by
  simp [ByteStream.take?]

theorem Decoder.fixed_reads {ε : Type} (short : ByteStream → ε) (width n : Nat) :
    Decoder.Reads (Decoder.fixed short width) (toLittleEndian width n) (n % 256 ^ width) := by
  intro rest offset
  have h := ByteStream.take?_append (toLittleEndian width n) rest offset
  rw [toLittleEndian_length] at h
  simp only [Decoder.fixed, h, littleEndian_toLittleEndian, toLittleEndian_length]

namespace Dwarf

theorem byte_reads (b : UInt8) : Decoder.Reads byte [b] b := by
  intro rest offset
  have h : natField 1 ⟨b :: rest, offset⟩ = .ok b.toNat ⟨rest, offset + 1⟩ := by
    simp [natField, Decoder.fixed, ByteStream.take?, littleEndian]
  simp only [byte, List.singleton_append, Decoder.bind_of_ok h, UInt8.ofNat_toNat]
  rfl

theorem unsignedField_reads {width : Nat} {w : Word} (h : w.toNat < 256 ^ width) :
    Decoder.Reads (unsignedField width) (toLittleEndian width w.toNat) w := by
  intro rest offset
  have hr : natField width ⟨toLittleEndian width w.toNat ++ rest, offset⟩ =
      .ok w.toNat ⟨rest, offset + (toLittleEndian width w.toNat).length⟩ := by
    rw [natField, Decoder.fixed_reads, Nat.mod_eq_of_lt h]
  simp only [unsignedField, Decoder.bind_of_ok hr, UInt64.ofNat_toNat]
  rfl

end Dwarf

/-! LEB128 numbers -/

namespace Leb128

theorem unsigned_small {n : Nat} (h : n < 128) : unsigned n = [UInt8.ofNat n] := by
  rw [unsigned, if_pos h]

theorem unsigned_large {n : Nat} (h : 128 ≤ n) :
    unsigned n = UInt8.ofNat (n % 128 + 128) :: unsigned (n / 128) := by
  rw [unsigned, if_neg (by omega)]

theorem unsigned_length_pos (n : Nat) : 0 < (unsigned n).length := by
  rw [unsigned]
  split <;> simp

/-- A number with a second byte leaves room for it below bit 63. -/
theorem shift_lt_of_continues {n shift : Nat} (hn : 128 ≤ n) (h : n * 2 ^ shift < 2 ^ 64) :
    shift < 57 := by
  by_contra hs
  have hp : 2 ^ 57 ≤ 2 ^ shift := Nat.pow_le_pow_right (by decide) (by omega)
  have := Nat.mul_le_mul hn hp
  omega

/-- Reading on behind `shift` bits adds the written number above them. -/
theorem unsignedAfter_unsigned (n shift value offset : Nat) (rest : Bytes)
    (h : n * 2 ^ shift < 2 ^ 64) :
    unsignedAfter shift value offset (unsigned n ++ rest) =
      .ok (UInt64.ofNat (value + n * 2 ^ shift)) ⟨rest, offset + (unsigned n).length⟩ := by
  induction n using Nat.strongRecOn generalizing shift value offset with
  | ind n ih =>
      by_cases hn : n < 128
      · have hb : (UInt8.ofNat n).toNat = n := by rw [UInt8.toNat_ofNat']; omega
        -- The tenth byte holds bit 63 alone, which is all that is left of the number there.
        have hlast : ¬ (shift = 63 ∧ UInt8.ofNat n ≠ 0x00 ∧ UInt8.ofNat n ≠ 0x01) := by
          rintro ⟨rfl, h0, h1⟩
          have : n = 0 ∨ n = 1 := by omega
          rcases this with rfl | rfl
          · exact h0 rfl
          · exact h1 rfl
        have hlt : UInt8.ofNat n < 0x80 := by
          rw [UInt8.lt_iff_toNat_lt, hb]
          exact hn
        simp only [unsigned_small hn, List.singleton_append, unsignedAfter, if_neg hlast,
          if_pos hlt, hb, Nat.mod_eq_of_lt hn, Nat.shiftLeft_eq, List.length_singleton]
      · have hn : 128 ≤ n := by omega
        have hshift := shift_lt_of_continues hn h
        have hb : (UInt8.ofNat (n % 128 + 128)).toNat = n % 128 + 128 := by
          rw [UInt8.toNat_ofNat']
          omega
        have hlt : ¬ UInt8.ofNat (n % 128 + 128) < 0x80 := by
          rw [UInt8.lt_iff_toNat_lt, hb]
          exact Nat.not_lt.mpr (Nat.le_add_left _ _)
        have hpow : 2 ^ (shift + 7) = 2 ^ shift * 128 := by rw [pow_add]; rfl
        have hdiv : n % 128 * 2 ^ shift + n / 128 * (2 ^ shift * 128) = n * 2 ^ shift := by
          conv_rhs => rw [← Nat.mod_add_div n 128]
          ring
        have hfit : n / 128 * 2 ^ (shift + 7) < 2 ^ 64 := by
          rw [hpow]
          omega
        rw [unsigned_large hn, List.cons_append, unsignedAfter, if_neg (by omega)]
        simp only [if_neg hlt, hb]
        rw [ih (n / 128) (by omega) _ _ _ hfit, hpow]
        have hlow : (n % 128 + 128) % 128 = n % 128 := by omega
        simp only [hlow, Nat.shiftLeft_eq, Nat.add_assoc, hdiv, List.length_cons, Nat.add_comm 1]

theorem readUnsigned_reads (w : Word) : Decoder.Reads readUnsigned (unsigned w.toNat) w := by
  intro rest offset
  have h := unsignedAfter_unsigned w.toNat 0 0 offset rest (by simpa using w.toNat_lt)
  simpa [readUnsigned] using h

theorem signed_small {n : Int} (h : -64 ≤ n ∧ n < 64) :
    signed n = [UInt8.ofNat (n % 128).toNat] := by
  rw [signed, if_pos h]

theorem signed_large {n : Int} (h : ¬ (-64 ≤ n ∧ n < 64)) :
    signed n = UInt8.ofNat ((n % 128).toNat + 128) :: signed (n / 128) := by
  rw [signed, if_neg h]

theorem signed_length_pos (n : Int) : 0 < (signed n).length := by
  rw [signed]
  split <;> simp

/-- Numbers that differ by a multiple of `2 ^ 64` are one 64-bit number. -/
theorem ofInt_add_mul (n k : Int) : Int64.ofInt (n + k * 2 ^ 64) = Int64.ofInt n := by
  apply Int64.toInt_inj.mp
  rw [Int64.toInt_ofInt, Int64.toInt_ofInt]
  exact Int.add_mul_bmod_self_right n k (2 ^ 64)

theorem signed_shift_lt_of_continues {n : Int} {shift : Nat} (hn : ¬ (-64 ≤ n ∧ n < 64))
    (hlo : -2 ^ 63 ≤ n * 2 ^ shift) (hhi : n * 2 ^ shift < 2 ^ 63) : shift < 57 := by
  by_contra hs
  have hp : (2 : Int) ^ 57 ≤ 2 ^ shift := pow_le_pow_right₀ (by decide) (by omega)
  rcases lt_or_ge n (-64) with h | h
  · nlinarith
  · have : 64 ≤ n := by omega
    nlinarith

/-- The lowest 64-bit number is a multiple of every group's weight, so dropping
a group of a larger one does not pass below it. -/
theorem le_ediv_mul_of_le_mul {n : Int} {shift : Nat} (hshift : shift < 57)
    (hlo : -2 ^ 63 ≤ n * 2 ^ shift) : -2 ^ 63 ≤ n / 128 * (2 ^ shift * 128) := by
  have hsplit : (2 : Int) ^ 63 = 2 ^ (56 - shift) * 128 * 2 ^ shift := by
    rw [show (128 : Int) = 2 ^ 7 by rfl, ← pow_add, ← pow_add]
    congr 1
    omega
  have hpos : (0 : Int) < 2 ^ shift := by positivity
  have hn : -2 ^ (56 - shift) * 128 ≤ n := by nlinarith
  have hfloor : -2 ^ (56 - shift) ≤ n / 128 := (Int.le_ediv_iff_mul_le (by decide)).mpr hn
  nlinarith

/-- The last byte carries the sign: below bit 64 it is subtracted, and above
it is a multiple of `2 ^ 64`. -/
theorem last_byte_value {n : Int} {shift value : Nat} (hn : -64 ≤ n ∧ n < 64) :
    Int64.ofInt (if shift + 7 < 64 ∧ 64 ≤ (n % 128).toNat
      then ((value + (n % 128).toNat * 2 ^ shift : Nat) : Int) - 2 ^ (shift + 7)
      else ((value + (n % 128).toNat * 2 ^ shift : Nat) : Int)) =
      Int64.ofInt (value + n * 2 ^ shift) := by
  have hpow : (2 : Int) ^ (shift + 7) = 2 ^ shift * 128 := by rw [pow_add]; rfl
  rcases lt_or_ge n 0 with h | h
  · have hb : ((n % 128).toNat : Int) = n + 128 := by omega
    have hsum : ((value + (n % 128).toNat * 2 ^ shift : Nat) : Int) =
        value + n * 2 ^ shift + 2 ^ shift * 128 := by
      push_cast
      rw [hb]
      ring
    rw [hsum]
    split
    · rw [hpow]
      congr 1
      ring
    · rename_i hbig
      have hshift : 64 ≤ shift + 7 := by omega
      have hmul : (2 : Int) ^ shift * 128 = 2 ^ (shift + 7 - 64) * 2 ^ 64 := by
        rw [← pow_add, ← hpow]
        congr 1
        omega
      rw [hmul, ofInt_add_mul]
  · have hb : ((n % 128).toNat : Int) = n := by omega
    rw [if_neg (by omega)]
    push_cast
    rw [hb]

/-- Reading on behind `shift` bits adds the written number above them. -/
theorem signedAfter_signed (n : Int) (shift value offset : Nat) (rest : Bytes)
    (hlo : -2 ^ 63 ≤ n * 2 ^ shift) (hhi : n * 2 ^ shift < 2 ^ 63) :
    signedAfter shift value offset (signed n ++ rest) =
      .ok (Int64.ofInt (value + n * 2 ^ shift)) ⟨rest, offset + (signed n).length⟩ := by
  -- Division rounds down, so the absolute value falls also for negative numbers
  -- as long as a further byte is needed.
  induction hk : n.natAbs using Nat.strongRecOn generalizing n shift value offset with
  | ind k ih =>
      subst hk
      by_cases hn : -64 ≤ n ∧ n < 64
      · have hb : (UInt8.ofNat (n % 128).toNat).toNat = (n % 128).toNat := by
          rw [UInt8.toNat_ofNat']
          omega
        have hlast : ¬ (shift = 63 ∧ UInt8.ofNat (n % 128).toNat ≠ 0x00 ∧
            UInt8.ofNat (n % 128).toNat ≠ 0x7f) := by
          rintro ⟨rfl, h0, h1⟩
          have : n = 0 ∨ n = -1 := by omega
          rcases this with rfl | rfl
          · exact h0 rfl
          · exact h1 rfl
        have hlt : UInt8.ofNat (n % 128).toNat < 0x80 := by
          rw [UInt8.lt_iff_toNat_lt, hb]
          have : (n % 128).toNat < 128 := by omega
          exact this
        have hmod : (n % 128).toNat % 128 = (n % 128).toNat := by omega
        simp only [signed_small hn, List.singleton_append, signedAfter, if_neg hlast,
          if_pos hlt, hb, hmod, Nat.shiftLeft_eq, Nat.one_mul, Nat.cast_pow, Nat.cast_ofNat,
          last_byte_value hn, List.length_singleton]
      · have hshift := signed_shift_lt_of_continues hn hlo hhi
        have hb : (UInt8.ofNat ((n % 128).toNat + 128)).toNat = (n % 128).toNat + 128 := by
          rw [UInt8.toNat_ofNat']
          omega
        have hlt : ¬ UInt8.ofNat ((n % 128).toNat + 128) < 0x80 := by
          rw [UInt8.lt_iff_toNat_lt, hb]
          exact Nat.not_lt.mpr (Nat.le_add_left _ _)
        have hpow : (2 : Int) ^ (shift + 7) = 2 ^ shift * 128 := by rw [pow_add]; rfl
        have hlow : (((n % 128).toNat + 128) % 128 : Nat) = (n % 128).toNat := by omega
        have hcast : ((n % 128).toNat : Int) = n % 128 := by omega
        have hdiv : n % 128 * 2 ^ shift + n / 128 * (2 ^ shift * 128) = n * 2 ^ shift := by
          conv_rhs => rw [← Int.emod_add_mul_ediv n 128]
          ring
        have hpos : (0 : Int) < 2 ^ shift := by positivity
        have hrem := Int.emod_nonneg n (show (128 : Int) ≠ 0 by decide)
        have hdvd : n / 128 * (2 ^ shift * 128) ≤ n * 2 ^ shift := by nlinarith
        rw [signed_large hn, List.cons_append, signedAfter, if_neg (by omega)]
        simp only [if_neg hlt, hb]
        rw [ih (n / 128).natAbs (by omega) (n / 128) _ _ _
          (by rw [hpow]; exact le_ediv_mul_of_le_mul hshift hlo) (by rw [hpow]; omega) rfl]
        rw [hpow, hlow, Nat.shiftLeft_eq]
        push_cast
        rw [hcast, add_assoc, hdiv]
        simp only [List.length_cons, Nat.add_assoc, Nat.add_comm 1]

theorem readSigned_reads (n : Int64) : Decoder.Reads readSigned (signed n.toInt) n := by
  intro rest offset
  have hlo := n.le_toInt
  have hhi := n.toInt_lt
  have h := signedAfter_signed n.toInt 0 0 offset rest (by simpa using hlo) (by simpa using hhi)
  simpa [readSigned] using h

end Leb128
end StackUnwind
