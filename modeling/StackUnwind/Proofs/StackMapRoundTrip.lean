import StackUnwind.Proofs.StackMapGrammar
import Mathlib

/-!
# Stack maps are read back as they were written

A map whose counts fit in their fields, and whose constants and pool indices
fit in 32 signed bits, is decoded to the functions, constants and records it
was encoded from, in their order. Only the flags of a record are lost, for
which zero is written.

What the encoder writes for each part spells that part in the sense of the
format's grammar, and what spells a part is read as it, exactly to its end.
-/
namespace StackUnwind.StackMapRoundTrip

open Decoder StackMap StackMapGrammar

/-! Locations -/

/-- The location survives a payload of 32 signed bits. -/
def Storable : Location → Prop
  | .constant value => -2 ^ 31 ≤ value.toInt ∧ value.toInt < 2 ^ 31
  | .pooled index => index.toNat < 2 ^ 31
  | _ => True

theorem toInt64_toInt32 {value : Int64} (hlo : -2 ^ 31 ≤ value.toInt)
    (hhi : value.toInt < 2 ^ 31) : value.toInt32.toInt64 = value := by
  apply Int64.toInt_inj.mp
  rw [Int32.toInt_toInt64, Int64.toInt_toInt32]
  exact Int.bmod_eq_of_le (by omega) (by omega)

theorem toInt32_nonneg {index : UInt32} (h : index.toNat < 2 ^ 31) : ¬ index.toInt32 < 0 := by
  have hsmall : 2 * index.toBitVec.toNat < 2 ^ 32 := by
    change 2 * index.toNat < 2 ^ 32
    omega
  have hvalue : index.toInt32.toInt = index.toNat := BitVec.toInt_eq_toNat_of_lt hsmall
  rw [Int32.lt_iff_toInt_lt, hvalue, Int32.toInt_zero]
  omega

theorem decode_store {location : Location} (h : Storable location) :
    location.store.decode = .ok location := by
  cases location with
  | register reg => rfl
  | direct base offset => rfl
  | indirect base offset => rfl
  | constant value =>
      have hvalue := toInt64_toInt32 h.1 h.2
      change Except.ok (Location.constant value.toInt32.toInt64) = _
      rw [hvalue]
  | pooled index =>
      have hindex := toInt32_nonneg h
      simp [Location.store, StoredLocation.decode, hindex]

theorem location_spelled {loc : Location} (h : Storable loc) :
    SpellsLocation loc.store.encode loc := by
  have hbytes : loc.store.encode =
      locationBytes loc.store.tag 8 loc.store.register loc.store.payload := by
    simp [StoredLocation.encode, locationBytes]
  rw [hbytes]
  exact spells_of_decode 8 (decode_store h)

/-! Records -/

/-- The counts of a record fit in 16 bits, and its locations in their payloads. -/
structure RecordFits (record : Record) : Prop where
  locations : record.locations.length ≤ 65535
  liveOuts : record.liveOuts.length ≤ 65535
  storable : ∀ location ∈ record.locations, Storable location

theorem record_encode_eq (r : Record) :
    r.encode = toLittleEndian 8 r.id.toNat ++ (toLittleEndian 4 r.offset.toNat ++
      (toLittleEndian 2 0 ++ (toLittleEndian 2 r.locations.length ++
        (r.locations.flatMap (fun l => l.store.encode) ++ (toLittleEndian 2 0 ++
          (toLittleEndian 2 r.liveOuts.length ++ (r.liveOuts.flatMap LiveOut.encode ++
            toLittleEndian (alignmentSize r.liveOuts.length) 0))))))) := by
  have halignment : toLittleEndian (alignmentSize r.liveOuts.length) 0 =
      if r.liveOuts.length % 2 = 0 then toLittleEndian 4 0 else [] := by
    unfold alignmentSize
    split <;> rfl
  simp [Record.encode, halignment]

theorem record_spelled {r : Record} (h : RecordFits r) :
    SpellsRecord r.encode { r with flags := 0 } := by
  have hlocations : SpellsList SpellsLocation
      (r.locations.flatMap fun l => l.store.encode) r.locations := by
    have hspelled := spellsList_flatMap fun l hl => location_spelled (h.storable l hl)
    rwa [List.map_id'] at hspelled
  have hliveOuts : SpellsList SpellsLiveOut (r.liveOuts.flatMap LiveOut.encode) r.liveOuts := by
    have hspelled := spellsList_flatMap fun live (_ : live ∈ r.liveOuts) =>
      SpellsLiveOut.intro live 0
    rwa [List.map_id'] at hspelled
  have hlocationCount := h.locations
  have hliveOutCount := h.liveOuts
  rw [record_encode_eq]
  exact .intro r.id r.offset 0 0 _ hlocations (by omega) hliveOuts (by omega)
    (toLittleEndian_length _ 0)

/-! Maps -/

theorem map_encode_eq (map : StackMap) :
    map.encode = toLittleEndian 4 1 ++ (toLittleEndian 4 map.functions.length ++
      (toLittleEndian 4 map.constants.length ++ (toLittleEndian 4 map.records.length ++
        (map.functions.flatMap FunctionEntry.encode ++
          (map.constants.flatMap (fun w => toLittleEndian 8 w.toNat) ++
            map.records.flatMap Record.encode))))) := by
  simp [StackMap.encode, version]

section
variable {map : StackMap} (hfunctions : map.functions.length < 2 ^ 32)
  (hconstants : map.constants.length < 2 ^ 32) (hrecords : map.records.length < 2 ^ 32)
  (hfits : ∀ record ∈ map.records, RecordFits record)
include hfunctions hconstants hrecords hfits

theorem map_spelled :
    SpellsMap map.encode
      { map with records := map.records.map fun record => { record with flags := 0 } } := by
  have hspelled := spellsList_flatMap fun record hrecord => record_spelled (hfits record hrecord)
  rw [← List.length_map fun record : Record => { record with flags := 0 }] at hrecords
  have hmap := SpellsMap.intro hfunctions hconstants hspelled hrecords
  rw [List.length_map] at hmap
  rwa [map_encode_eq]

theorem contents_reads :
    Reads contents map.encode
      { map with records := map.records.map fun record => { record with flags := 0 } } :=
  (map_spelled hfunctions hconstants hrecords hfits).reads

end

/-- A map with fewer than `2 ^ 32` functions, constants and records, whose
records fit, is decoded to what it was encoded from, with zero for the flags. -/
theorem decode_encode (map : StackMap) (hfunctions : map.functions.length < 2 ^ 32)
    (hconstants : map.constants.length < 2 ^ 32) (hrecords : map.records.length < 2 ^ 32)
    (hfits : ∀ record ∈ map.records, RecordFits record) :
    StackMap.decode map.encode =
      .ok { map with records := map.records.map fun record => { record with flags := 0 } } := by
  have hcontents := contents_reads hfunctions hconstants hrecords hfits [] 0
  rw [List.append_nil] at hcontents
  simp only [StackMap.decode, Decoder.outcome, ByteStream.ofBytes, bind_of_ok hcontents]
  rfl

/-- A record with every kind of location and an odd number of live-outs, in
front of one with neither, which carries flags. -/
def sampleMap : StackMap where
  functions := [⟨0, 32⟩]
  constants := [99, 0xffffffffffffffff]
  records :=
    [⟨10, 0x08, 0,
        [.register 14, .direct 6 (-40), .indirect 7 16, .constant (-2147483648),
          .pooled 2147483647],
        [⟨3, 8⟩, ⟨12, 4⟩, ⟨13, 8⟩]⟩,
      ⟨11, 0xffffffff, 7, [], []⟩]

theorem sampleMap_fits : ∀ record ∈ sampleMap.records, RecordFits record := by
  intro record hrecord
  simp only [sampleMap, List.mem_cons, List.not_mem_nil, or_false] at hrecord
  rcases hrecord with rfl | rfl
  · refine ⟨by decide, by decide, ?_⟩
    simp [Storable]
  · exact ⟨by decide, by decide, by simp⟩

/-- Both records are found again, although the first is not aligned by a word
of padding and the second is; the flags of the second are gone. -/
theorem sampleMap_read_back :
    StackMap.decode sampleMap.encode = .ok
      { sampleMap with
        records :=
          [⟨10, 0x08, 0,
              [.register 14, .direct 6 (-40), .indirect 7 16, .constant (-2147483648),
                .pooled 2147483647],
              [⟨3, 8⟩, ⟨12, 4⟩, ⟨13, 8⟩]⟩,
            ⟨11, 0xffffffff, 0, [], []⟩] } :=
  decode_encode sampleMap (by decide) (by decide) (by decide) sampleMap_fits

end StackUnwind.StackMapRoundTrip
