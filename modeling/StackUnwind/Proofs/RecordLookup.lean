import StackUnwind.Proofs.ReturnOffset
import Mathlib

/-!
# Finding the record that was emitted for a call

What the two lookups of a stack map give, in terms of the list of records alone:
the first record with an identifier, some record with an offset, and nothing
exactly if there is no such record. Where no offset is repeated, a record is
found at its own offset, so that the state of a frame is read from the record
that was emitted for its return address and from no other.
-/
namespace StackUnwind.StackMap

open ReturnOffset

theorem recordOf_missing {region : CodeRegion} {ip bp sp : Word} {file : RegisterFile}
    {offset : UInt32} (h : region.offsetOf? ip = some offset) {map : StackMap}
    (hmap : region.stackMap? = some map)
    (hmissing : ∀ record ∈ map.records, record.offset ≠ offset) :
    DeoptState.recordOf (.compiled region ip bp sp file) = .error (.noStackMapRecord offset) := by
  simp only [DeoptState.recordOf, h, hmap, Option.bind_some, recordAt?_eq_none_iff.mpr hmissing]

theorem ofFrame_of_distinct {map : StackMap} (hdistinct : (map.records.map (·.offset)).Nodup)
    {record : Record} (hmem : record ∈ map.records) {region : CodeRegion} {ip : Word}
    (hmap : region.stackMap? = some map) (h : region.offsetOf? ip = some record.offset)
    (hooks : Hooks) (memory : Memory) (bp sp : Word) (file : RegisterFile) :
    DeoptState.ofFrame hooks memory (.compiled region ip bp sp file) =
      stateOf hooks memory (.compiled region ip bp sp file) region file record :=
  ofFrame_of_record
    (recordOf_inside h hmap ((recordAt?_eq_some_iff hdistinct).mpr ⟨hmem, rfl⟩)) hooks memory

/-- The lookups of a map whose records are in any order and may repeat identifiers
and offsets. If no offset is repeated, then the state of a frame is that of the
only record with its offset. -/
theorem lookups_find_emitted (map : StackMap) :
    (∀ id record, map.recordById? id = some record ↔
      ∃ front back, map.records = front ++ record :: back ∧ record.id = id ∧
        ∀ earlier ∈ front, earlier.id ≠ id) ∧
    (∀ id, map.recordById? id = none ↔ ∀ record ∈ map.records, record.id ≠ id) ∧
    (∀ offset record, map.recordAt? offset = some record →
      record ∈ map.records ∧ record.offset = offset) ∧
    (∀ offset, map.recordAt? offset = none ↔ ∀ record ∈ map.records, record.offset ≠ offset) ∧
    ((map.records.map (·.offset)).Nodup →
      (∀ offset record, map.recordAt? offset = some record ↔
        record ∈ map.records ∧ record.offset = offset) ∧
      ∀ record ∈ map.records, ∀ hooks memory region ip bp sp file,
        region.stackMap? = some map → region.offsetOf? ip = some record.offset →
          DeoptState.ofFrame hooks memory (.compiled region ip bp sp file) =
            stateOf hooks memory (.compiled region ip bp sp file) region file record) ∧
    ∀ offset, (∀ record ∈ map.records, record.offset ≠ offset) →
      ∀ hooks memory region ip bp sp file,
        region.stackMap? = some map → region.offsetOf? ip = some offset →
          DeoptState.ofFrame hooks memory (.compiled region ip bp sp file) =
            .error (.noStackMapRecord offset) := by
  refine ⟨fun _ _ => recordById?_eq_some_iff, fun _ => recordById?_eq_none_iff,
    fun _ _ => recordAt?_some, fun _ => recordAt?_eq_none_iff,
    fun hdistinct => ⟨fun _ _ => recordAt?_eq_some_iff hdistinct, ?_⟩, ?_⟩
  · intro record hmem hooks memory region ip bp sp file hmap hoffset
    exact ofFrame_of_distinct hdistinct hmem hmap hoffset hooks memory bp sp file
  · intro offset hmissing hooks memory region ip bp sp file hmap hoffset
    exact ofFrame_of_fault (recordOf_missing hoffset hmap hmissing) hooks memory

/-- Five records out of order, of which two share an identifier. -/
def shuffledMap : StackMap where
  functions := []
  constants := []
  records := [⟨7, 0x40, 0, [], []⟩, ⟨9, 0x10, 0, [], []⟩, ⟨5, 0x50, 0, [], []⟩,
    ⟨7, 0x30, 0, [.constant 3], []⟩, ⟨2, 0x20, 0, [], []⟩]

def shuffledRegion : CodeRegion :=
  { start := 0x1000, size := 0x100, tier := .optimized, functionId := 3
    stackMap? := some shuffledMap }

/-- The same with two calls that return to one offset. -/
def repeatedMap : StackMap :=
  { shuffledMap with records := ⟨4, 0x30, 0, [], []⟩ :: shuffledMap.records }

/-- The second record of an identifier is found by its offset only. One byte further
there is none, and where an offset is repeated one of its records is found. -/
theorem shuffled_and_repeated_found :
    shuffledMap.recordById? 7 = some ⟨7, 0x40, 0, [], []⟩ ∧
    shuffledMap.recordById? 8 = none ∧
    (∀ hooks memory, DeoptState.ofFrame hooks memory
        (.compiled shuffledRegion 0x1030 0x7010 0x7000 .empty) =
      stateOf hooks memory (.compiled shuffledRegion 0x1030 0x7010 0x7000 .empty) shuffledRegion
        .empty ⟨7, 0x30, 0, [.constant 3], []⟩) ∧
    (∀ hooks memory, DeoptState.ofFrame hooks memory
        (.compiled shuffledRegion 0x1031 0x7010 0x7000 .empty) =
      .error (.noStackMapRecord 0x31)) ∧
    ∃ record, repeatedMap.recordAt? 0x30 = some record ∧ record ∈ repeatedMap.records ∧
      record.offset = 0x30 := by
  obtain ⟨hfirst, hnoId, -, -, hdistinct, hmissing⟩ := lookups_find_emitted shuffledMap
  obtain ⟨-, -, hsome, -⟩ := lookups_find_emitted repeatedMap
  have hnodup : (shuffledMap.records.map (·.offset)).Nodup := by decide
  have hrepeated : repeatedMap.recordAt? 0x30 = some ⟨7, 0x30, 0, [.constant 3], []⟩ := by cbv
  refine ⟨(hfirst _ _).mpr ⟨[], _, rfl, rfl, by simp⟩, (hnoId 8).mpr (by decide), ?_, ?_,
    _, hrepeated, hsome _ _ hrepeated⟩
  · intro hooks memory
    exact (hdistinct hnodup).2 _ (by decide) hooks memory _ _ _ _ _ rfl (by decide)
  · intro hooks memory
    exact hmissing 0x31 (by decide) hooks memory _ _ _ _ _ rfl (by decide)

end StackUnwind.StackMap
