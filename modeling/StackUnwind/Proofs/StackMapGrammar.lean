import StackUnwind.Proofs.Reading
import StackUnwind.StackMap.Encode
import Mathlib

/-!
# The grammar of stack maps

Which byte strings are stack maps, and of what: a grammar for locations,
live-outs, records and whole maps, in which every field stands at its width
and every byte that has no meaning is arbitrary. The decoder accepts exactly
the strings of this grammar, with the meaning that the grammar gives them.

In one direction each part is read to its end, whatever follows; the room that
is asked for in front of a list is never more than what the list takes. In the
other direction the bytes that a part consumed are spelled out again, as a
field of fixed width is determined by its number.
-/
namespace StackUnwind

/-! Numbers of fixed width -/

theorem littleEndian_lt (bytes : Bytes) : littleEndian bytes < 256 ^ bytes.length := by
  induction bytes with
  | nil => decide
  | cons b bytes ih =>
      have hb := b.toNat_lt
      rw [littleEndian, List.length_cons, pow_succ']
      omega

theorem toLittleEndian_littleEndian (bytes : Bytes) :
    toLittleEndian bytes.length (littleEndian bytes) = bytes := by
  induction bytes with
  | nil => rfl
  | cons b bytes ih =>
      have hb := b.toNat_lt
      have hhigh : (b.toNat + 256 * littleEndian bytes) / 256 = littleEndian bytes := by omega
      have hlow : UInt8.ofNat (b.toNat + 256 * littleEndian bytes) = b := by
        apply UInt8.toNat_inj.mp
        rw [UInt8.toNat_ofNat']
        omega
      rw [littleEndian, List.length_cons, toLittleEndian, hhigh, hlow, ih]

namespace StackMapGrammar

open Decoder StackMap

/-! The grammar -/

def locationBytes (tag size : UInt8) (register : Register) (payload : Int32) : Bytes :=
  [tag, size] ++ (toLittleEndian 2 register.toNat ++ toLittleEndian 4 payload.toUInt32.toNat)

/-- The bytes of a location. Its size has no meaning, nor has the payload of a
register, or the register of a constant or of an entry of the pool. -/
inductive SpellsLocation : Bytes → Location → Prop
  | register (size : UInt8) (reg : Register) (payload : Int32) :
      SpellsLocation (locationBytes 1 size reg payload) (.register reg)
  | direct (size : UInt8) (base : Register) (offset : Int32) :
      SpellsLocation (locationBytes 2 size base offset) (.direct base offset)
  | indirect (size : UInt8) (base : Register) (offset : Int32) :
      SpellsLocation (locationBytes 3 size base offset) (.indirect base offset)
  | constant (size : UInt8) (reg : Register) (value : Int32) :
      SpellsLocation (locationBytes 4 size reg value) (.constant value.toInt64)
  | pooled (size : UInt8) (reg : Register) {index : Int32} (hindex : 0 ≤ index) :
      SpellsLocation (locationBytes 5 size reg index) (.pooled index.toUInt32)

inductive SpellsLiveOut : Bytes → LiveOut → Prop
  | intro (live : LiveOut) (reserved : UInt8) :
      SpellsLiveOut (toLittleEndian 2 live.register.toNat ++ ([reserved] ++ [live.size])) live

/-- The bytes of items that stand in a row. -/
inductive SpellsList {α : Type} (spells : Bytes → α → Prop) : Bytes → List α → Prop
  | nil : SpellsList spells [] []
  | cons {front back : Bytes} {item : α} {items : List α} (hitem : spells front item)
      (hitems : SpellsList spells back items) : SpellsList spells (front ++ back) (item :: items)

/-- How many bytes follow a number of live-outs, to align the next record. -/
def alignmentSize (liveOuts : Nat) : Nat :=
  if liveOuts % 2 = 0 then 4 else 0

inductive SpellsRecord : Bytes → Record → Prop
  | intro (id : Word) (offset : UInt32) (flags gap : UInt16) {locationPart liveOutPart : Bytes}
      {locations : List Location} {liveOuts : List LiveOut} (alignment : Bytes)
      (hlocations : SpellsList SpellsLocation locationPart locations)
      (hlocationCount : locations.length < 2 ^ 16)
      (hliveOuts : SpellsList SpellsLiveOut liveOutPart liveOuts)
      (hliveOutCount : liveOuts.length < 2 ^ 16)
      (halignment : alignment.length = alignmentSize liveOuts.length) :
      SpellsRecord
        (toLittleEndian 8 id.toNat ++ (toLittleEndian 4 offset.toNat ++
          (toLittleEndian 2 flags.toNat ++ (toLittleEndian 2 locations.length ++
            (locationPart ++ (toLittleEndian 2 gap.toNat ++
              (toLittleEndian 2 liveOuts.length ++ (liveOutPart ++ alignment))))))))
        ⟨id, offset, flags, locations, liveOuts⟩

inductive SpellsMap : Bytes → StackMap → Prop
  | intro {functions : List FunctionEntry} {constants : List Word} {records : List Record}
      {recordPart : Bytes} (hfunctions : functions.length < 2 ^ 32)
      (hconstants : constants.length < 2 ^ 32)
      (hrecords : SpellsList SpellsRecord recordPart records)
      (hrecordCount : records.length < 2 ^ 32) :
      SpellsMap
        (toLittleEndian 4 1 ++ (toLittleEndian 4 functions.length ++
          (toLittleEndian 4 constants.length ++ (toLittleEndian 4 records.length ++
            (functions.flatMap FunctionEntry.encode ++
              (constants.flatMap (fun word => toLittleEndian 8 word.toNat) ++ recordPart))))))
        ⟨functions, constants, records⟩

theorem spellsList_flatMap {α β : Type} {spells : Bytes → β → Prop} {encode : α → Bytes}
    {value : α → β} {items : List α} (h : ∀ a ∈ items, spells (encode a) (value a)) :
    SpellsList spells (items.flatMap encode) (items.map value) := by
  induction items with
  | nil => exact .nil
  | cons a items ih =>
      obtain ⟨hitem, hitems⟩ := List.forall_mem_cons.mp h
      exact .cons hitem (ih hitems)

/-! Spelled strings are read -/

theorem field_reads (width : Nat) {n : Nat} (h : n < 256 ^ width) :
    Reads (field width) (toLittleEndian width n) n := by
  have hfixed := Decoder.fixed_reads (shortage width) width n
  rwa [Nat.mod_eq_of_lt h] at hfixed

theorem byte_reads (b : UInt8) : Reads (field 1) [b] b.toNat := by
  have hfield : Reads (field 1) (toLittleEndian 1 b.toNat) b.toNat := field_reads 1 b.toNat_lt
  simpa [toLittleEndian] using hfield

theorem word_reads (w : Word) : Reads word (toLittleEndian 8 w.toNat) w := by
  have hword := (field_reads 8 w.toNat_lt).bind_pure UInt64.ofNat
  rwa [UInt64.ofNat_toNat] at hword

theorem functionEntry_reads (entry : FunctionEntry) :
    Reads functionEntry entry.encode entry :=
  (word_reads entry.address).bind ((word_reads entry.frameSize).bind_pure _)

/-- Room that is taken by what is read next can be asked for. -/
theorem require_reads {α : Type} {d : Decoder Fault α} {bytes : Bytes} {a : α} {needed : Nat}
    (hroom : needed ≤ bytes.length) (hd : Reads d bytes a) :
    Reads (require needed >>= fun _ => d) bytes a := by
  intro rest offset
  have hrequire : require needed ⟨bytes ++ rest, offset⟩ = .ok () ⟨bytes ++ rest, offset⟩ := by
    have hlength : needed ≤ (bytes ++ rest).length := by
      rw [List.length_append]
      omega
    simp [require, ByteStream.take?, List.length_take_of_le hlength]
  rw [bind_of_ok hrequire, hd rest offset]

section
variable {α : Type} {spells : Bytes → α → Prop} {bytes : Bytes} {items : List α}

theorem repeatedAfter_reads_spelled {item : Decoder Fault α}
    (hitem : ∀ bytes a, spells bytes a → Reads item bytes a) (h : SpellsList spells bytes items)
    (before : List α) :
    Reads (repeatedAfter item items.length before) bytes (before.reverse ++ items) := by
  induction h generalizing before with
  | nil =>
      rw [List.append_nil]
      exact .pure _
  | @cons front back a items ha _ ih =>
      intro rest offset
      have hfirst := hitem front a ha (back ++ rest) offset
      rw [List.append_assoc, List.length_cons, repeatedAfter]
      simp only [hfirst]
      rw [ih (a :: before) rest (offset + front.length)]
      simp [Nat.add_assoc]

theorem SpellsList.reads {item : Decoder Fault α}
    (hitem : ∀ bytes a, spells bytes a → Reads item bytes a) (h : SpellsList spells bytes items) :
    Reads (repeated items.length item) bytes items :=
  repeatedAfter_reads_spelled hitem h []

/-- A list takes the room of its items. -/
theorem SpellsList.length_mul_le {size : Nat}
    (hsize : ∀ bytes a, spells bytes a → size ≤ bytes.length)
    (h : SpellsList spells bytes items) : items.length * size ≤ bytes.length := by
  induction h with
  | nil => simp
  | @cons front back a items ha _ ih =>
      have hfront := hsize front a ha
      rw [List.length_cons, List.length_append, Nat.succ_mul]
      omega

end

theorem SpellsLocation.length_eq {bytes : Bytes} {loc : Location} (h : SpellsLocation bytes loc) :
    bytes.length = 8 := by
  cases h <;> simp [locationBytes]

theorem SpellsLiveOut.length_eq {bytes : Bytes} {live : LiveOut} (h : SpellsLiveOut bytes live) :
    bytes.length = 4 := by
  cases h
  simp

theorem locationBytes_reads {tag size : UInt8} {register : Register} {payload : Int32}
    {loc : Location} (h : StoredLocation.decode ⟨tag, register, payload⟩ = .ok loc) :
    Reads location (locationBytes tag size register payload) loc := by
  have hbytes : locationBytes tag size register payload = [tag] ++ ([size] ++
      (toLittleEndian 2 register.toNat ++ (toLittleEndian 4 payload.toUInt32.toNat ++ []))) := by
    simp [locationBytes]
  rw [hbytes]
  refine (byte_reads tag).bind <| (byte_reads size).bind <|
    (field_reads 2 register.toNat_lt).bind <| (field_reads 4 payload.toUInt32.toNat_lt).bind ?_
  simp only [UInt8.ofNat_toNat, UInt16.ofNat_toNat, UInt32.ofNat_toNat, Int32.toInt32_toUInt32, h]
  exact .pure loc

theorem SpellsLocation.reads {bytes : Bytes} {loc : Location} (h : SpellsLocation bytes loc) :
    Reads location bytes loc := by
  cases h with
  | register => exact locationBytes_reads rfl
  | direct => exact locationBytes_reads rfl
  | indirect => exact locationBytes_reads rfl
  | constant => exact locationBytes_reads rfl
  | pooled size reg hindex =>
      apply locationBytes_reads
      have hpositive := Int32.not_lt.mpr hindex
      simp [StoredLocation.decode, hpositive]

theorem SpellsLiveOut.reads {bytes : Bytes} {live : LiveOut} (h : SpellsLiveOut bytes live) :
    Reads liveOut bytes live := by
  obtain ⟨live, reserved⟩ := h
  refine (field_reads 2 live.register.toNat_lt).bind <| (byte_reads reserved).bind ?_
  rw [UInt16.ofNat_toNat]
  have hsize := (byte_reads live.size).bind_pure fun size =>
    (⟨live.register, UInt8.ofNat size⟩ : LiveOut)
  rwa [UInt8.ofNat_toNat] at hsize

/-- The alignment of a record, and what is read behind it. -/
theorem alignment_reads {α : Type} {d : Decoder Fault α} {a : α} {count : Nat} {bytes : Bytes}
    (hbytes : bytes.length = alignmentSize count) (hd : Reads d [] a) :
    Reads (if count % 2 = 0 then field 4 >>= fun _ => d else d) bytes a := by
  unfold alignmentSize at hbytes
  split_ifs at hbytes ⊢
  · have hfield := field_reads 4 (hbytes ▸ littleEndian_lt bytes)
    rw [← hbytes, toLittleEndian_littleEndian, hbytes] at hfield
    have hpadded : Reads (field 4 >>= fun _ => d) (bytes ++ []) a := hfield.bind hd
    rwa [List.append_nil] at hpadded
  · rw [List.eq_nil_of_length_eq_zero hbytes]
    exact hd

theorem SpellsRecord.reads {bytes : Bytes} {r : Record} (h : SpellsRecord bytes r) :
    Reads record bytes r := by
  obtain ⟨id, offset, flags, gap, alignment, hlocations, hlocationCount, hliveOuts,
    hliveOutCount, halignment⟩ := h
  have hlocationRoom := hlocations.length_mul_le fun _ _ hl => hl.length_eq.ge
  have hliveOutRoom := hliveOuts.length_mul_le fun _ _ hl => hl.length_eq.ge
  refine (word_reads id).bind <| (field_reads 4 offset.toNat_lt).bind <|
    (field_reads 2 flags.toNat_lt).bind <| (field_reads 2 hlocationCount).bind <|
    require_reads ?_ <| (hlocations.reads fun _ _ hl => hl.reads).bind <|
    (field_reads 2 gap.toNat_lt).bind <| (field_reads 2 hliveOutCount).bind <|
    require_reads ?_ <| (hliveOuts.reads fun _ _ hl => hl.reads).bind <|
    alignment_reads halignment ?_
  · rw [List.length_append]
    omega
  · rw [List.length_append]
    omega
  · rw [UInt32.ofNat_toNat, UInt16.ofNat_toNat]
    exact .pure _

theorem SpellsRecord.length_ge {bytes : Bytes} {r : Record} (h : SpellsRecord bytes r) :
    16 ≤ bytes.length := by
  cases h
  simp only [List.length_append, toLittleEndian_length]
  omega

theorem SpellsMap.reads {bytes : Bytes} {map : StackMap} (h : SpellsMap bytes map) :
    Reads contents bytes map := by
  obtain @⟨functions, constants, records, recordPart, hfunctions, hconstants, hrecords,
    hrecordCount⟩ := h
  have hfunctionRoom := length_mul_le_flatMap FunctionEntry.encode 16 functions
    fun entry => by simp [FunctionEntry.encode]
  have hconstantRoom := length_mul_le_flatMap (fun w : Word => toLittleEndian 8 w.toNat) 8
    constants fun w => by simp
  have hrecordRoom := hrecords.length_mul_le fun _ _ hr => hr.length_ge
  refine (field_reads 4 (show version < 256 ^ 4 by decide)).bind ?_
  rw [if_pos rfl]
  refine (field_reads 4 hfunctions).bind <| (field_reads 4 hconstants).bind <|
    (field_reads 4 hrecordCount).bind <| require_reads ?_ <|
    (Reads.repeated_self fun entry _ => functionEntry_reads entry).bind <| require_reads ?_ <|
    (Reads.repeated_self fun w _ => word_reads w).bind <| require_reads hrecordRoom <|
    (hrecords.reads fun _ _ hr => hr.reads).bind_pure _
  · rw [List.length_append]
    omega
  · rw [List.length_append]
    omega

/-! What is read was spelled -/

/-- Whatever the decoder accepts, the bytes it consumed spell the result. -/
def Spends {α : Type} (d : Decoder Fault α) (spells : Bytes → α → Prop) : Prop :=
  ∀ s a t, d s = .ok a t → ∃ bytes, s.rest = bytes ++ t.rest ∧ spells bytes a

section
variable {s t : ByteStream}

theorem field_ok {width n : Nat} (h : field width s = .ok n t) :
    n < 256 ^ width ∧ s.rest = toLittleEndian width n ++ t.rest := by
  unfold field fixed at h
  split at h
  · rename_i front s' htake
    cases h
    unfold ByteStream.take? at htake
    dsimp only at htake
    split_ifs at htake with hlength
    cases htake
    have hlt := littleEndian_lt (s.rest.take width)
    have hspelled := toLittleEndian_littleEndian (s.rest.take width)
    rw [hlength] at hlt hspelled
    exact ⟨hlt, by rw [hspelled, List.take_append_drop]⟩
  · cases h

theorem byte_ok {n : Nat} (h : field 1 s = .ok n t) : s.rest = [UInt8.ofNat n] ++ t.rest :=
  (field_ok h).2

theorem word_ok {w : Word} (h : word s = .ok w t) :
    s.rest = toLittleEndian 8 w.toNat ++ t.rest := by
  obtain ⟨n, hfield, rfl⟩ := bind_pure_ok h
  obtain ⟨hn, hrest⟩ := field_ok hfield
  rwa [UInt64.toNat_ofNat_of_lt' hn]

theorem functionEntry_ok {entry : FunctionEntry} (h : functionEntry s = .ok entry t) :
    s.rest = entry.encode ++ t.rest := by
  obtain ⟨address, s₁, haddress, h⟩ := bind_ok h
  obtain ⟨frameSize, hframeSize, rfl⟩ := bind_pure_ok h
  rw [word_ok haddress, word_ok hframeSize, FunctionEntry.encode, List.append_assoc]

theorem require_bind_ok {α : Type} {d : Unit → Decoder Fault α} {needed : Nat} {a : α}
    (h : (require needed >>= d) s = .ok a t) : d () s = .ok a t := by
  obtain ⟨_, s', hrequire, h⟩ := bind_ok h
  unfold require at hrequire
  split_ifs at hrequire
  cases hrequire
  exact h

theorem repeatedAfter_ok {α : Type} {item : Decoder Fault α} {spells : Bytes → α → Prop}
    (hitem : Spends item spells) {count : Nat} {before items : List α}
    (h : repeatedAfter item count before s = .ok items t) :
    ∃ bytes new, s.rest = bytes ++ t.rest ∧ items = before.reverse ++ new ∧
      new.length = count ∧ SpellsList spells bytes new := by
  induction count generalizing before s with
  | zero =>
      cases h
      exact ⟨[], [], rfl, (List.append_nil _).symm, rfl, .nil⟩
  | succ count ih =>
      simp only [repeatedAfter] at h
      split at h
      · rename_i a s' hfirst
        obtain ⟨front, hfront, hspells⟩ := hitem s a s' hfirst
        obtain ⟨back, new, hback, rfl, hcount, hnew⟩ := ih h
        refine ⟨front ++ back, a :: new, ?_, ?_, ?_, .cons hspells hnew⟩
        · rw [hfront, hback, List.append_assoc]
        · simp
        · rw [List.length_cons, hcount]
      · cases h

theorem repeated_ok {α : Type} {item : Decoder Fault α} {spells : Bytes → α → Prop}
    (hitem : Spends item spells) {count : Nat} {items : List α}
    (h : repeated count item s = .ok items t) :
    items.length = count ∧ ∃ bytes, s.rest = bytes ++ t.rest ∧ SpellsList spells bytes items := by
  obtain ⟨bytes, new, hrest, rfl, hcount, hnew⟩ := repeatedAfter_ok hitem h
  exact ⟨hcount, bytes, hrest, hnew⟩

/-- A list of items with one spelling each is spelled by their concatenation. -/
theorem SpellsList.eq_flatMap {α : Type} {encode : α → Bytes} {bytes : Bytes} {items : List α}
    (h : SpellsList (fun bytes a => bytes = encode a) bytes items) :
    bytes = items.flatMap encode := by
  induction h with
  | nil => rfl
  | cons hitem _ ih => rw [hitem, ih, List.flatMap_cons]

end

/-- A stored location that is understood is one of the grammar. -/
theorem spells_of_decode {tag : UInt8} {register : Register} {payload : Int32} {loc : Location}
    (size : UInt8) (h : StoredLocation.decode ⟨tag, register, payload⟩ = .ok loc) :
    SpellsLocation (locationBytes tag size register payload) loc := by
  unfold StoredLocation.decode at h
  dsimp only at h
  split_ifs at h with h₁ h₂ h₃ h₄ h₅ hnegative <;> cases h
  · exact h₁ ▸ .register size register payload
  · exact h₂ ▸ .direct size register payload
  · exact h₃ ▸ .indirect size register payload
  · exact h₄ ▸ .constant size register payload
  · exact h₅ ▸ .pooled size register (Int32.not_lt.mp hnegative)

theorem location_spends : Spends location SpellsLocation := by
  intro s loc t h
  obtain ⟨tag, s₁, htag, h⟩ := bind_ok h
  obtain ⟨size, s₂, hsize, h⟩ := bind_ok h
  obtain ⟨register, s₃, hregister, h⟩ := bind_ok h
  obtain ⟨payload, s₄, hpayload, h⟩ := bind_ok h
  obtain ⟨hregisterLt, hregisterRest⟩ := field_ok hregister
  obtain ⟨hpayloadLt, hpayloadRest⟩ := field_ok hpayload
  dsimp only at h
  generalize hdecode : StoredLocation.decode _ = decoded at h
  cases decoded with
  | error fault => cases h
  | ok found =>
      cases h
      have hspells := spells_of_decode (UInt8.ofNat size) hdecode
      refine ⟨_, ?_, hspells⟩
      rw [byte_ok htag, byte_ok hsize, hregisterRest, hpayloadRest, locationBytes,
        UInt16.toNat_ofNat_of_lt' hregisterLt, UInt32.toUInt32_toInt32,
        UInt32.toNat_ofNat_of_lt' hpayloadLt]
      simp

theorem liveOut_spends : Spends liveOut SpellsLiveOut := by
  intro s live t h
  obtain ⟨register, s₁, hregister, h⟩ := bind_ok h
  obtain ⟨reserved, s₂, hreserved, h⟩ := bind_ok h
  obtain ⟨size, hsize, rfl⟩ := bind_pure_ok h
  obtain ⟨hregisterLt, hregisterRest⟩ := field_ok hregister
  refine ⟨_, ?_, .intro _ (UInt8.ofNat reserved)⟩
  rw [hregisterRest, byte_ok hreserved, byte_ok hsize, UInt16.toNat_ofNat_of_lt' hregisterLt]
  simp

theorem alignment_ok {α : Type} {d : Decoder Fault α} {a : α} {count : Nat} {s t : ByteStream}
    (h : (if count % 2 = 0 then field 4 >>= fun _ => d else d) s = .ok a t) :
    ∃ bytes s', s.rest = bytes ++ s'.rest ∧ bytes.length = alignmentSize count ∧
      d s' = .ok a t := by
  unfold alignmentSize
  split_ifs at h ⊢
  · obtain ⟨n, s', hfield, h⟩ := bind_ok h
    exact ⟨_, s', (field_ok hfield).2, toLittleEndian_length 4 n, h⟩
  · exact ⟨[], s, rfl, rfl, h⟩

theorem record_spends : Spends record SpellsRecord := by
  intro s r t h
  obtain ⟨id, s₁, hid, h⟩ := bind_ok h
  obtain ⟨offset, s₂, hoffset, h⟩ := bind_ok h
  obtain ⟨flags, s₃, hflags, h⟩ := bind_ok h
  obtain ⟨locationCount, s₄, hlocationCount, h⟩ := bind_ok h
  replace h := require_bind_ok h
  obtain ⟨locations, s₅, hlocations, h⟩ := bind_ok h
  obtain ⟨gap, s₆, hgap, h⟩ := bind_ok h
  obtain ⟨liveOutCount, s₇, hliveOutCount, h⟩ := bind_ok h
  replace h := require_bind_ok h
  obtain ⟨liveOuts, s₈, hliveOuts, h⟩ := bind_ok h
  obtain ⟨alignment, s₉, halignment, hsize, h⟩ := alignment_ok h
  cases h
  obtain ⟨rfl, locationPart, hlocationRest, hlocations⟩ := repeated_ok location_spends hlocations
  obtain ⟨rfl, liveOutPart, hliveOutRest, hliveOuts⟩ := repeated_ok liveOut_spends hliveOuts
  obtain ⟨hoffsetLt, hoffsetRest⟩ := field_ok hoffset
  obtain ⟨hflagsLt, hflagsRest⟩ := field_ok hflags
  obtain ⟨hgapLt, hgapRest⟩ := field_ok hgap
  obtain ⟨hlocationsLt, hlocationCountRest⟩ := field_ok hlocationCount
  obtain ⟨hliveOutsLt, hliveOutCountRest⟩ := field_ok hliveOutCount
  refine ⟨_, ?_, .intro id (UInt32.ofNat offset) (UInt16.ofNat flags) (UInt16.ofNat gap) alignment
    hlocations hlocationsLt hliveOuts hliveOutsLt hsize⟩
  rw [word_ok hid, hoffsetRest, hflagsRest, hlocationCountRest, hlocationRest, hgapRest,
    hliveOutCountRest, hliveOutRest, halignment, UInt32.toNat_ofNat_of_lt' hoffsetLt,
    UInt16.toNat_ofNat_of_lt' hflagsLt, UInt16.toNat_ofNat_of_lt' hgapLt]
  simp only [List.append_assoc]

theorem contents_spends : Spends contents SpellsMap := by
  intro s map t h
  obtain ⟨header, s₁, hheader, h⟩ := bind_ok h
  dsimp only at h
  split_ifs at h with hversion
  · subst hversion
    obtain ⟨functionCount, s₂, hfunctionCount, h⟩ := bind_ok h
    obtain ⟨constantCount, s₃, hconstantCount, h⟩ := bind_ok h
    obtain ⟨recordCount, s₄, hrecordCount, h⟩ := bind_ok h
    replace h := require_bind_ok h
    obtain ⟨functions, s₅, hfunctions, h⟩ := bind_ok h
    replace h := require_bind_ok h
    obtain ⟨constants, s₆, hconstants, h⟩ := bind_ok h
    replace h := require_bind_ok h
    obtain ⟨records, hrecords, rfl⟩ := bind_pure_ok h
    have hentry : Spends functionEntry fun bytes entry => bytes = entry.encode :=
      fun _ _ _ h => ⟨_, functionEntry_ok h, rfl⟩
    have hword : Spends word fun bytes w => bytes = toLittleEndian 8 w.toNat :=
      fun _ _ _ h => ⟨_, word_ok h, rfl⟩
    obtain ⟨rfl, functionPart, hfunctionRest, hfunctions⟩ := repeated_ok hentry hfunctions
    obtain ⟨rfl, constantPart, hconstantRest, hconstants⟩ := repeated_ok hword hconstants
    obtain ⟨rfl, recordPart, hrecordRest, hrecords⟩ := repeated_ok record_spends hrecords
    obtain ⟨hfunctionsLt, hfunctionCountRest⟩ := field_ok hfunctionCount
    obtain ⟨hconstantsLt, hconstantCountRest⟩ := field_ok hconstantCount
    obtain ⟨hrecordsLt, hrecordCountRest⟩ := field_ok hrecordCount
    refine ⟨_, ?_, .intro hfunctionsLt hconstantsLt hrecords hrecordsLt⟩
    rw [(field_ok hheader).2, hfunctionCountRest, hconstantCountRest, hrecordCountRest,
      hfunctionRest, hconstantRest, hrecordRest, hfunctions.eq_flatMap, hconstants.eq_flatMap]
    simp only [List.append_assoc]
    rfl
  · cases h

/-- The decoder accepts exactly the strings of the grammar, as what they spell. -/
theorem decode_ok_iff {bytes : Bytes} {map : StackMap} :
    StackMap.decode bytes = .ok map ↔ SpellsMap bytes map := by
  constructor
  · intro h
    unfold StackMap.decode outcome at h
    split at h
    · rename_i found t hfound
      cases h
      obtain ⟨_, s, hcontents, hend⟩ := bind_ok hfound
      obtain ⟨_, hatEnd, rfl⟩ := bind_pure_ok hend
      obtain ⟨spelled, hrest, hspells⟩ := contents_spends _ _ _ hcontents
      unfold atEnd at hatEnd
      split_ifs at hatEnd with hempty
      cases hatEnd
      rw [List.isEmpty_iff.mp hempty, List.append_nil] at hrest
      have hbytes : bytes = spelled := hrest
      rwa [hbytes]
    · cases h
  · intro h
    have hcontents := h.reads [] 0
    rw [List.append_nil] at hcontents
    simp only [StackMap.decode, Decoder.outcome, ByteStream.ofBytes, bind_of_ok hcontents]
    rfl

end StackMapGrammar
end StackUnwind
