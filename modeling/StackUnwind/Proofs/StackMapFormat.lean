import StackUnwind.Proofs.StackMapRoundTrip
import Mathlib

/-!
# What a stack map forgets

A blob that is accepted has exactly the length of its map, and differs from
the map's own encoding only in bytes without a meaning: the flags of records,
the sizes of locations, registers of constants, payloads of registers, the
reserved byte of a live-out and padding. `cares` marks the bytes that do have
one. It is computed from the map alone, as the counts and the kinds of the
locations say where every field stands.
-/
namespace StackUnwind.StackMapFormat

open StackMap StackMapGrammar StackMapRoundTrip

/-! Bytes that have a meaning -/

def locationCares : Location → List Bool
  | .register _ => [true, false, true, true, false, false, false, false]
  | .direct .. | .indirect .. => [true, false, true, true, true, true, true, true]
  | .constant _ | .pooled _ => [true, false, false, false, true, true, true, true]

def liveOutCares : List Bool := [true, true, false, true]

/-- Identifier, offset, flags, the count of locations and the locations,
padding, the count of live-outs and the live-outs, alignment. -/
def recordCares (record : Record) : List Bool :=
  List.replicate 8 true ++ (List.replicate 4 true ++ (List.replicate 2 false ++
    (List.replicate 2 true ++ (record.locations.flatMap locationCares ++
      (List.replicate 2 false ++ (List.replicate 2 true ++
        (record.liveOuts.flatMap (fun _ => liveOutCares) ++
          List.replicate (alignmentSize record.liveOuts.length) false)))))))

/-- For each byte of a map, whether it has a meaning: the header and three
counts, the functions, the constants and the records. -/
def cares (map : StackMap) : List Bool :=
  List.replicate 4 true ++ (List.replicate 4 true ++ (List.replicate 4 true ++
    (List.replicate 4 true ++ (List.replicate (16 * map.functions.length) true ++
      (List.replicate (8 * map.constants.length) true ++ map.records.flatMap recordCares)))))

def recordSize (record : Record) : Nat :=
  20 + 8 * record.locations.length + 4 * record.liveOuts.length +
    if record.liveOuts.length % 2 = 0 then 4 else 0

def mapSize (map : StackMap) : Nat :=
  16 + 16 * map.functions.length + 8 * map.constants.length + (map.records.map recordSize).sum

theorem recordCares_length (record : Record) : (recordCares record).length = recordSize record := by
  have hlocations : (record.locations.flatMap locationCares).length =
      8 * record.locations.length := by
    have height : ∀ l, (locationCares l).length = 8 := fun l => by cases l <;> rfl
    simp [List.length_flatMap, height, Nat.mul_comm]
  have hliveOuts : (record.liveOuts.flatMap fun _ => liveOutCares).length =
      4 * record.liveOuts.length := by
    simp [List.length_flatMap, liveOutCares, Nat.mul_comm]
  simp only [recordCares, recordSize, alignmentSize, List.length_append, List.length_replicate,
    hlocations, hliveOuts]
  omega

theorem cares_length (map : StackMap) : (cares map).length = mapSize map := by
  have hrecords : map.records.map (fun record => (recordCares record).length) =
      map.records.map recordSize :=
    List.map_congr_left fun record _ => recordCares_length record
  simp only [cares, mapSize, List.length_append, List.length_replicate, List.length_flatMap,
    hrecords]
  omega

theorem recordSize_aligned (record : Record) : 8 ∣ recordSize record := by
  unfold recordSize
  split <;> omega

theorem mapSize_aligned (map : StackMap) : 8 ∣ mapSize map := by
  have hrecords : 8 ∣ (map.records.map recordSize).sum := by
    apply List.dvd_sum
    intro size hsize
    obtain ⟨record, -, rfl⟩ := List.mem_map.mp hsize
    exact recordSize_aligned record
  unfold mapSize
  omega

/-! Agreement of two byte strings -/

/-- Two strings of one length that agree on the bytes that are marked. -/
inductive Agree : List Bool → Bytes → Bytes → Prop
  | nil : Agree [] [] []
  | same {cares bytes bytes'} (b : UInt8) (h : Agree cares bytes bytes') :
      Agree (true :: cares) (b :: bytes) (b :: bytes')
  | free {cares bytes bytes'} (b b' : UInt8) (h : Agree cares bytes bytes') :
      Agree (false :: cares) (b :: bytes) (b' :: bytes')

namespace Agree

variable {cares cares' : List Bool} {front front' back back' : Bytes}

theorem append (hfront : Agree cares front front') (hback : Agree cares' back back') :
    Agree (cares ++ cares') (front ++ back) (front' ++ back') := by
  induction hfront with
  | nil => exact hback
  | same b _ ih => exact .same b ih
  | free b b' _ ih => exact .free b b' ih

theorem refl {n : Nat} {bytes : Bytes} (h : bytes.length = n) :
    Agree (List.replicate n true) bytes bytes := by
  subst h
  induction bytes with
  | nil => exact .nil
  | cons b bytes ih => exact .same b ih

theorem ofLength {n : Nat} {bytes bytes' : Bytes} (h : bytes.length = n) (h' : bytes'.length = n) :
    Agree (List.replicate n false) bytes bytes' := by
  induction n generalizing bytes bytes' with
  | zero =>
      rw [List.eq_nil_of_length_eq_zero h, List.eq_nil_of_length_eq_zero h']
      exact .nil
  | succ n ih =>
      obtain ⟨b, bytes, rfl⟩ := List.exists_cons_of_length_eq_add_one h
      obtain ⟨b', bytes', rfl⟩ := List.exists_cons_of_length_eq_add_one h'
      exact .free b b' (ih (Nat.succ.inj h) (Nat.succ.inj h'))

theorem length_eq (h : Agree cares front front') :
    front.length = cares.length ∧ front'.length = cares.length := by
  induction h with
  | nil => exact ⟨rfl, rfl⟩
  | same _ _ ih | free _ _ _ ih =>
      simp only [List.length_cons, ih.1, ih.2, and_self]

theorem getElem?_eq (h : Agree cares front front') {i : Nat} (hi : cares[i]? = some true) :
    front[i]? = front'[i]? := by
  induction h generalizing i with
  | nil => rfl
  | same b _ ih =>
      cases i with
      | zero => rfl
      | succ i => exact ih hi
  | free b b' _ ih =>
      cases i with
      | zero => cases hi
      | succ i => exact ih hi

theorem flatMap {α : Type} {spells : Bytes → α → Prop} {cares : α → List Bool}
    {encode : α → Bytes} {bytes : Bytes} {items : List α}
    (hitem : ∀ bytes a, spells bytes a → Agree (cares a) bytes (encode a))
    (h : SpellsList spells bytes items) :
    Agree (items.flatMap cares) bytes (items.flatMap encode) := by
  induction h with
  | nil => exact .nil
  | cons ha _ ih => exact (hitem _ _ ha).append ih

end Agree

/-! The encoding of what was decoded -/

section
variable {bytes : Bytes}

theorem location_agrees {loc : Location} (h : SpellsLocation bytes loc) :
    Agree (locationCares loc) bytes loc.store.encode := by
  have hregister (reg : Register) := Agree.refl (toLittleEndian_length 2 reg.toNat)
  have hpayload (payload : Int32) := Agree.refl (toLittleEndian_length 4 payload.toUInt32.toNat)
  have hanyRegister (reg reg' : Register) := Agree.ofLength (toLittleEndian_length 2 reg.toNat)
    (toLittleEndian_length 2 reg'.toNat)
  have hanyPayload (payload payload' : Int32) :=
    Agree.ofLength (toLittleEndian_length 4 payload.toUInt32.toNat)
      (toLittleEndian_length 4 payload'.toUInt32.toNat)
  cases h with
  | register size reg payload =>
      exact .same 1 (.free size 8 ((hregister reg).append (hanyPayload payload 0)))
  | direct size base offset =>
      exact .same 2 (.free size 8 ((hregister base).append (hpayload offset)))
  | indirect size base offset =>
      exact .same 3 (.free size 8 ((hregister base).append (hpayload offset)))
  | constant size reg value =>
      have hvalue : value.toInt64.toInt32 = value := Int32.toInt32_toInt64 value
      rw [Location.store, hvalue]
      exact .same 4 (.free size 8 ((hanyRegister reg 0).append (hpayload value)))
  | @pooled size reg index hindex =>
      have hvalue : index.toUInt32.toInt32 = index := Int32.toInt32_toUInt32 index
      rw [Location.store, hvalue]
      exact .same 5 (.free size 8 ((hanyRegister reg 0).append (hpayload index)))

theorem liveOut_agrees {live : LiveOut} (h : SpellsLiveOut bytes live) :
    Agree liveOutCares bytes live.encode := by
  obtain ⟨live, reserved⟩ := h
  exact (Agree.refl (toLittleEndian_length 2 live.register.toNat)).append
    (.free reserved 0 (.same live.size .nil))

theorem record_agrees {record : Record} (h : SpellsRecord bytes record) :
    Agree (recordCares record) bytes record.encode := by
  obtain @⟨id, offset, flags, gap, locationPart, liveOutPart, locations, liveOuts, alignment,
    hlocations, -, hliveOuts, -, halignment⟩ := h
  have hlocationPart : Agree (locations.flatMap locationCares) locationPart
      (locations.flatMap fun l => l.store.encode) :=
    .flatMap (fun _ _ => location_agrees) hlocations
  have hliveOutPart : Agree (liveOuts.flatMap fun _ => liveOutCares) liveOutPart
      (liveOuts.flatMap LiveOut.encode) :=
    .flatMap (fun _ _ => liveOut_agrees) hliveOuts
  rw [record_encode_eq]
  exact (Agree.refl (toLittleEndian_length 8 id.toNat)).append <|
    (Agree.refl (toLittleEndian_length 4 offset.toNat)).append <|
    (Agree.ofLength (toLittleEndian_length 2 _) (toLittleEndian_length 2 0)).append <|
    (Agree.refl (toLittleEndian_length 2 _)).append <|
    hlocationPart.append <|
    (Agree.ofLength (toLittleEndian_length 2 _) (toLittleEndian_length 2 0)).append <|
    (Agree.refl (toLittleEndian_length 2 _)).append <|
    hliveOutPart.append <| Agree.ofLength halignment (toLittleEndian_length _ 0)

theorem map_agrees {map : StackMap} (h : SpellsMap bytes map) :
    Agree (cares map) bytes map.encode := by
  obtain @⟨functions, constants, records, recordPart, -, -, hrecords, -⟩ := h
  have hfunctions : (functions.flatMap FunctionEntry.encode).length = 16 * functions.length := by
    simp [List.length_flatMap, FunctionEntry.encode, Nat.mul_comm]
  have hconstants : (constants.flatMap fun w => toLittleEndian 8 w.toNat).length =
      8 * constants.length := by
    simp [List.length_flatMap, Nat.mul_comm]
  rw [map_encode_eq]
  exact (Agree.refl (toLittleEndian_length 4 1)).append <|
    (Agree.refl (toLittleEndian_length 4 _)).append <|
    (Agree.refl (toLittleEndian_length 4 _)).append <|
    (Agree.refl (toLittleEndian_length 4 _)).append <|
    (Agree.refl hfunctions).append <| (Agree.refl hconstants).append <|
    Agree.flatMap (fun _ _ => record_agrees) hrecords

/-- The list has only items that are spelled. -/
theorem exists_spelling {α : Type} {spells : Bytes → α → Prop} {items : List α}
    (h : SpellsList spells bytes items) : ∀ a ∈ items, ∃ part, spells part a := by
  induction h with
  | nil => exact fun _ ha => absurd ha List.not_mem_nil
  | cons ha _ ih => exact List.forall_mem_cons.mpr ⟨⟨_, ha⟩, ih⟩

theorem location_storable {loc : Location} (h : SpellsLocation bytes loc) : Storable loc := by
  cases h with
  | register | direct | indirect => trivial
  | constant size reg value =>
      have hlo := value.le_toInt
      have hhi := value.toInt_lt
      simp only [Storable, Int32.toInt_toInt64]
      omega
  | @pooled size reg index hindex =>
      have hvalue : index.toInt = if 2 * index.toUInt32.toNat < 2 ^ 32 then
          (index.toUInt32.toNat : Int) else index.toUInt32.toNat - 2 ^ 32 :=
        BitVec.toInt_eq_toNat_cond index.toBitVec
      have hnonneg : 0 ≤ index.toInt := Int32.le_iff_toInt_le.mp hindex
      have hlt := index.toUInt32.toNat_lt
      simp only [Storable]
      split at hvalue <;> omega

theorem record_fits {record : Record} (h : SpellsRecord bytes record) : RecordFits record := by
  obtain ⟨id, offset, flags, gap, alignment, hlocations, hlocationCount, -, hliveOutCount, -⟩ := h
  constructor
  · exact Nat.le_of_lt_succ hlocationCount
  · exact Nat.le_of_lt_succ hliveOutCount
  · intro location hlocation
    obtain ⟨part, hpart⟩ := exists_spelling hlocations location hlocation
    exact location_storable hpart

/-- A map that was decoded can be encoded, and its encoding is a spelling of it
with the flags cleared. -/
theorem encode_spells {map : StackMap} (h : SpellsMap bytes map) :
    SpellsMap map.encode
      { map with records := map.records.map fun record => { record with flags := 0 } } := by
  obtain ⟨hfunctions, hconstants, hrecords, hrecordCount⟩ := h
  apply map_spelled hfunctions hconstants hrecordCount
  intro record hrecord
  obtain ⟨part, hpart⟩ := exists_spelling hrecords record hrecord
  exact record_fits hpart

end

/-- The decoder accepts exactly the strings of the grammar. What it accepts is
as long as its map says, in whole words of eight bytes. Encoding the map again
gives a string of that length, which has the same meaning but for cleared
flags, and the two strings agree on every byte that has a meaning. -/
theorem accepts_exactly (bytes : Bytes) (map : StackMap) :
    (StackMap.decode bytes = .ok map ↔ SpellsMap bytes map) ∧
    (StackMap.decode bytes = .ok map →
      bytes.length = mapSize map ∧ 8 ∣ bytes.length ∧ map.encode.length = bytes.length ∧
      StackMap.decode map.encode = .ok
        { map with records := map.records.map fun record => { record with flags := 0 } } ∧
      (cares map).length = bytes.length ∧
      ∀ i : Nat, (cares map)[i]? = some true → bytes[i]? = map.encode[i]?) := by
  refine ⟨decode_ok_iff, fun h => ?_⟩
  have hspells := decode_ok_iff.mp h
  have hagree := map_agrees hspells
  obtain ⟨hbytes, hencode⟩ := hagree.length_eq
  have hsize : bytes.length = mapSize map := hbytes.trans (cares_length map)
  refine ⟨hsize, hsize ▸ mapSize_aligned map, hencode.trans hbytes.symm,
    decode_ok_iff.mpr (encode_spells hspells), hbytes.symm, fun i hi => hagree.getElem?_eq hi⟩

/-- Every byte without a meaning is set to something that no encoder writes,
the flags of the first record included. -/
def looseBlob : Bytes :=
  [0x01, 0, 0, 0, 0x01, 0, 0, 0, 0x01, 0, 0, 0, 0x02, 0, 0, 0,
    0x00, 0x10, 0, 0, 0, 0, 0, 0, 0x20, 0, 0, 0, 0, 0, 0, 0,
    0x63, 0, 0, 0, 0, 0, 0, 0,
    0x0a, 0, 0, 0, 0, 0, 0, 0, 0x08, 0, 0, 0, 0x07, 0x70, 0x05, 0,
    0x01, 0xaa, 0x0e, 0, 0x01, 0x02, 0x03, 0x04,
    0x02, 0xaa, 0x06, 0, 0xd8, 0xff, 0xff, 0xff,
    0x03, 0xaa, 0x07, 0, 0x10, 0, 0, 0,
    0x04, 0xaa, 0x09, 0x09, 0xff, 0xff, 0xff, 0xff,
    0x05, 0xaa, 0x09, 0x09, 0x02, 0, 0, 0,
    0xbe, 0xef, 0x01, 0, 0x03, 0, 0x77, 0x08,
    0x0b, 0, 0, 0, 0, 0, 0, 0, 0xff, 0xff, 0xff, 0xff, 0, 0, 0, 0,
    0xbe, 0xef, 0, 0, 0xde, 0xad, 0xbe, 0xef]

def looseMap : StackMap where
  functions := [⟨0x1000, 32⟩]
  constants := [99]
  records :=
    [⟨10, 8, 0x7007,
        [.register 14, .direct 6 (-40), .indirect 7 16, .constant (-1), .pooled 2], [⟨3, 8⟩]⟩,
      ⟨11, 0xffffffff, 0, [], []⟩]

/-- The blob is not what its map is encoded to, but is as long and agrees with
it, for instance on the tag of the last location. -/
theorem looseBlob_accepted :
    StackMap.decode looseBlob = .ok looseMap ∧ looseBlob.length = 128 ∧
      looseMap.encode ≠ looseBlob ∧ looseMap.encode.length = 128 ∧
      StackMap.decode looseMap.encode = .ok
        { looseMap with records := looseMap.records.map fun record => { record with flags := 0 } } ∧
      looseMap.encode[88]? = some 0x05 := by
  have haccepted : StackMap.decode looseBlob = .ok looseMap := by cbv
  obtain ⟨hsize, -, hlength, hagain, -, hagree⟩ :=
    (accepts_exactly looseBlob looseMap).2 haccepted
  have hmapSize : looseBlob.length = 128 := hsize
  refine ⟨haccepted, hmapSize, by decide, hlength.trans hmapSize, hagain, ?_⟩
  rw [← hagree 88 (by decide)]
  rfl

end StackUnwind.StackMapFormat
