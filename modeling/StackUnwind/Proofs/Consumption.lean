import StackUnwind.CallFrame.Instruction
import StackUnwind.Proofs.Reading
import Mathlib

/-!
# What a decoder leaves of a stream

Tables are read item by item until they end, for at most as many rounds as
there are bytes. This suffices when every item takes a byte at least. An item
is read field by field; no field gives bytes back, and most take some. It is
shown here for the fields of DWARF data, and for the entries and instructions
of call-frame sections.
-/
namespace StackUnwind

namespace Decoder

variable {ε ε' α β : Type}

/-- Whatever the decoder reads takes at least one byte. -/
def Consumes (d : Decoder ε α) : Prop :=
  ∀ s a t, d s = .ok a t → t.rest.length < s.rest.length

/-- Whatever the decoder reads takes at least `n` bytes. -/
def Takes (n : Nat) (d : Decoder ε α) : Prop :=
  ∀ s a t, d s = .ok a t → t.rest.length + n ≤ s.rest.length

/-- Whatever the decoder reads, it gives no byte back. -/
def Advances (d : Decoder ε α) : Prop :=
  ∀ s a t, d s = .ok a t → t.rest.length ≤ s.rest.length

theorem Consumes.advances {d : Decoder ε α} (h : Consumes d) : Advances d :=
  fun s a t hd => Nat.le_of_lt (h s a t hd)

theorem Consumes.takes {d : Decoder ε α} (h : Consumes d) : Takes 1 d :=
  fun s a t hd => h s a t hd

theorem Takes.bind {m n : Nat} {d : Decoder ε α} {f : α → Decoder ε β} (hd : Takes m d)
    (hf : ∀ a, Takes n (f a)) : Takes (m + n) (d >>= f) := by
  intro s b u h
  obtain ⟨a, t, hfirst, hsecond⟩ := bind_ok h
  have hm := hd s a t hfirst
  have hn := hf a t b u hsecond
  omega

/-- Nothing is read from a stream that is used up. -/
theorem Consumes.ne_ok_of_empty {d : Decoder ε α} (h : Consumes d) {s t : ByteStream} {a : α}
    (hempty : s.rest = []) : d s ≠ .ok a t := by
  intro hread
  have hless := h s a t hread
  rw [hempty] at hless
  exact Nat.not_lt_zero _ hless

theorem Advances.pure (a : α) : Advances (pure a : Decoder ε α) := by
  intro s b t h
  cases h
  exact Nat.le_refl _

theorem Advances.throw (e : ε) : Advances (throw e : Decoder ε α) := by
  intro s b t h
  cases h

theorem Advances.bind {d : Decoder ε α} {f : α → Decoder ε β} (hd : Advances d)
    (hf : ∀ a, Advances (f a)) : Advances (d >>= f) := by
  intro s b u h
  obtain ⟨a, t, hfirst, hsecond⟩ := bind_ok h
  exact Nat.le_trans (hf a t b u hsecond) (hd s a t hfirst)

theorem Consumes.bind_advances {d : Decoder ε α} {f : α → Decoder ε β} (hd : Consumes d)
    (hf : ∀ a, Advances (f a)) : Consumes (d >>= f) := by
  intro s b u h
  obtain ⟨a, t, hfirst, hsecond⟩ := bind_ok h
  exact Nat.lt_of_le_of_lt (hf a t b u hsecond) (hd s a t hfirst)

theorem Consumes.bind_pure {d : Decoder ε α} (hd : Consumes d) (g : α → β) :
    Consumes (d >>= fun a => pure (g a)) :=
  hd.bind_advances fun a => .pure (g a)

theorem mapFault_ok {d : Decoder ε α} {f : ε → ε'} {s t : ByteStream} {a : α}
    (h : d.mapFault f s = .ok a t) : d s = .ok a t := by
  unfold mapFault at h
  split at h
  · rename_i hd
    cases h
    exact hd
  · cases h

theorem map_ok {d : Decoder ε α} {g : α → β} {s t : ByteStream} {b : β}
    (h : (g <$> d) s = .ok b t) : ∃ a, d s = .ok a t ∧ b = g a := by
  simp only [Functor.map, EStateM.map] at h
  split at h
  · rename_i a s' hd
    cases h
    exact ⟨a, hd, rfl⟩
  · cases h

theorem Consumes.map {d : Decoder ε α} (hd : Consumes d) (g : α → β) : Consumes (g <$> d) := by
  intro s b t h
  obtain ⟨a, hfirst, -⟩ := map_ok h
  exact hd s a t hfirst

end Decoder

open Decoder

theorem ByteStream.length_take? {n : Nat} {s rest : ByteStream} {front : Bytes}
    (h : s.take? n = some (front, rest)) : rest.rest.length + n = s.rest.length := by
  simp only [take?, List.length_take] at h
  split_ifs at h with hlength
  cases h
  rw [List.length_drop]
  omega

/-! Fields -/

theorem Leb128.unsignedAfter_consumes {shift value offset : Nat} {bytes : Bytes} {w : Word}
    {t : ByteStream} (h : unsignedAfter shift value offset bytes = .ok w t) :
    t.rest.length < bytes.length := by
  induction bytes generalizing shift value offset with
  | nil => cases h
  | cons b bs ih =>
      rw [List.length_cons]
      unfold unsignedAfter at h
      dsimp only at h
      split_ifs at h
      · cases h
        exact Nat.lt_succ_self _
      · have hrest := ih h
        omega

theorem Leb128.signedAfter_consumes {shift value offset : Nat} {bytes : Bytes} {n : Int64}
    {t : ByteStream} (h : signedAfter shift value offset bytes = .ok n t) :
    t.rest.length < bytes.length := by
  induction bytes generalizing shift value offset with
  | nil => cases h
  | cons b bs ih =>
      rw [List.length_cons]
      unfold signedAfter at h
      dsimp only at h
      split at h
      · cases h
      · split at h
        · cases h
          exact Nat.lt_succ_self _
        · have hrest := ih h
          omega

theorem Leb128.readUnsigned_consumes : Consumes readUnsigned :=
  fun _ _ _ h => unsignedAfter_consumes h

theorem Leb128.readSigned_consumes : Consumes readSigned :=
  fun _ _ _ h => signedAfter_consumes h

namespace Dwarf

theorem natField_consumes {width : Nat} (hwidth : 0 < width) : Consumes (natField width) := by
  intro s n t h
  unfold natField fixed at h
  split at h
  · rename_i htake
    cases h
    have hlength := ByteStream.length_take? htake
    omega
  · cases h

theorem byte_consumes : Consumes byte :=
  (natField_consumes (by decide)).bind_pure _

theorem unsignedField_consumes {width : Nat} (hwidth : 0 < width) :
    Consumes (unsignedField width) :=
  (natField_consumes hwidth).bind_pure _

theorem signedField_consumes {width : Nat} (hwidth : 0 < width) : Consumes (signedField width) :=
  (natField_consumes hwidth).bind_pure _

theorem part_advances (n : Nat) : Advances (part n) := by
  intro s front t h
  unfold part at h
  split at h
  · rename_i htake
    cases h
    have hlength := ByteStream.length_take? htake
    omega
  · cases h

end Dwarf

/-! Pointers -/

theorem PointerFormat.read_consumes (format : PointerFormat) : Consumes format.read := by
  cases format with
  | absolute | udata8 | udata2 | udata4 => exact Dwarf.unsignedField_consumes (by decide)
  | uleb128 => exact Leb128.readUnsigned_consumes
  | sleb128 => exact Leb128.readSigned_consumes.map _
  | sdata2 | sdata4 | sdata8 => exact Dwarf.signedField_consumes (by decide)

theorem PointerEncoding.read_advances (encoding : PointerEncoding) (context : PointerContext) :
    Advances (encoding.read context) := by
  cases encoding with
  | omitted => exact .throw _
  | stored format base indirect =>
      have hget : Advances (get : Decoder DwarfFault ByteStream) := by
        intro s a t h
        cases h
        exact Nat.le_refl _
      refine hget.bind fun s => ?_
      split
      · exact format.read_consumes.advances.bind fun _ => .pure _
      · exact .throw _

namespace CallFrame

/-! Instructions -/

theorem register_consumes : Consumes register := by
  refine Leb128.readUnsigned_consumes.bind_advances fun n => ?_
  split
  · exact .pure _
  · exact .throw _

namespace Instruction

theorem unsignedOperand_consumes : Consumes unsignedOperand :=
  Leb128.readUnsigned_consumes.map _

theorem skipExpression_advances : Advances skipExpression :=
  Leb128.readUnsigned_consumes.advances.bind fun _ =>
    (Dwarf.part_advances _).bind fun _ => .pure _

theorem locationOperand_advances (context : PointerContext) (encoding? : Option PointerEncoding) :
    Advances (locationOperand context encoding?) := by
  cases encoding? with
  | none => exact (Dwarf.unsignedField_consumes (by decide)).advances
  | some encoding =>
      refine (encoding.read_advances context).bind fun pointer => ?_
      split
      · exact .throw _
      · exact .pure _

/-- An instruction has at most two operands, of which none gives bytes back. -/
theorem readExtended_advances (context : PointerContext) (encoding? : Option PointerEncoding)
    (opcode : Nat) : Advances (readExtended context encoding? opcode) := by
  have hone : ∀ {α : Type} {d : Decoder DwarfFault α} {g : α → Instruction}, Advances d →
      Advances (d >>= fun a => pure (g a)) :=
    fun hd => hd.bind fun _ => .pure _
  have htwo : ∀ {α β : Type} {d : Decoder DwarfFault α} {e : Decoder DwarfFault β}
      {g : α → β → Instruction}, Advances d → Advances e →
      Advances (d >>= fun a => e >>= fun b => pure (g a b)) :=
    fun hd he => hd.bind fun _ => he.bind fun _ => .pure _
  have hfield : ∀ {width : Nat}, 0 < width → Advances (Dwarf.unsignedField width) :=
    fun hwidth => (Dwarf.unsignedField_consumes hwidth).advances
  have hregister := register_consumes.advances
  have hunsigned := unsignedOperand_consumes.advances
  have hsigned := Leb128.readSigned_consumes.advances
  unfold readExtended
  split
  · exact .pure _
  · exact hone (locationOperand_advances context encoding?)
  · exact hone (hfield (by decide))
  · exact hone (hfield (by decide))
  · exact hone (hfield (by decide))
  · exact htwo hregister hunsigned
  · exact hone hregister
  · exact hone hregister
  · exact hone hregister
  · exact htwo hregister hregister
  · exact .pure _
  · exact .pure _
  · exact htwo hregister hunsigned
  · exact hone hregister
  · exact hone hunsigned
  · exact hone skipExpression_advances
  · exact htwo hregister skipExpression_advances
  · exact htwo hregister hsigned
  · exact htwo hregister hsigned
  · exact hone hsigned
  · exact htwo hregister hunsigned
  · exact htwo hregister hsigned
  · exact htwo hregister skipExpression_advances
  · exact hone Leb128.readUnsigned_consumes.advances
  · exact .throw _

theorem read_consumes (context : PointerContext) (encoding? : Option PointerEncoding) :
    Consumes (read context encoding?) := by
  refine Dwarf.byte_consumes.bind_advances fun opcode => ?_
  dsimp only
  split
  · exact .pure _
  · exact unsignedOperand_consumes.advances.bind fun _ => .pure _
  · exact .pure _
  · exact readExtended_advances context encoding? _

end Instruction

/-! Entries -/

theorem entryLength_consumes : Consumes entryLength := by
  refine (Dwarf.natField_consumes (by decide)).bind_advances fun length => ?_
  split_ifs
  · exact .pure _
  · exact (Dwarf.natField_consumes (by decide)).advances
  · exact .throw _

theorem Entry.read?_consumes (context : PointerContext) : Consumes (Entry.read? context) := by
  refine entryLength_consumes.bind_advances fun length => ?_
  split_ifs
  · exact .pure _
  · refine (Dwarf.part_advances length).bind fun body => ?_
    dsimp only
    split
    · exact .pure _
    · exact .throw _

end CallFrame
end StackUnwind
