import StackUnwind.StackMap.Basic
import Mathlib.Data.List.FinRange

/-!
# The indexes of a stack map

Records are found through positions: by identifier in a table that keeps the
first position entered, by offset in the positions sorted by offset. Both
lookups are reduced to the list of records in the order of emission.

The table of identifiers is built by entering one position after the other, and
looking it up is looking for the first position that was entered. The search
for an offset halves the sorted positions. Nothing is lost on the way, as the
sorted positions are all positions.

Identifiers and offsets may be repeated, and the records may be in any order.
-/
namespace StackUnwind.StackMap

/-! Identifiers -/

theorem lookup_enter {α : Type} (index : List (Word × α)) (id key : Word) (entry : α) :
    (enter index id entry).lookup key =
      (index.lookup key).or (if id == key then some entry else none) := by
  by_cases hkey : id = key
  · subst hkey
    cases hold : index.lookup id with
    | none => simp [enter, hold]
    | some old => simp [enter, hold]
  · have hne : (id == key) = false := beq_false_of_ne hkey
    have hne' : (key == id) = false := beq_false_of_ne (Ne.symm hkey)
    rw [hne, if_neg Bool.false_ne_true, Option.or_none, enter]
    split_ifs
    · rfl
    · rw [List.lookup_cons, hne']

/-- The first of some positions with the identifier is found, unless the identifier
was there before. -/
theorem lookup_foldl_enter {α : Type} (idOf : α → Word) (positions : List α)
    (index : List (Word × α)) (key : Word) :
    (positions.foldl (fun index position => enter index (idOf position) position) index).lookup
        key =
      (index.lookup key).or (positions.find? fun position => idOf position == key) := by
  induction positions generalizing index with
  | nil => simp
  | cons position positions ih =>
      rw [List.foldl_cons, ih, lookup_enter, Option.or_assoc, List.find?_cons]
      cases idOf position == key <;> simp

theorem recordById?_eq_find? (map : StackMap) (id : Word) :
    map.recordById? id = map.records.find? fun record => record.id == id := by
  rw [recordById?, byId, lookup_foldl_enter fun position => (map.records.get position).id]
  conv_rhs => rw [← List.map_get_finRange map.records, List.find?_map]
  rfl

theorem recordById?_eq_some_iff {map : StackMap} {id : Word} {record : Record} :
    map.recordById? id = some record ↔
      ∃ front back, map.records = front ++ record :: back ∧ record.id = id ∧
        ∀ earlier ∈ front, earlier.id ≠ id := by
  rw [recordById?_eq_find?, List.find?_eq_some_iff_append]
  simp only [beq_iff_eq, Bool.not_eq_true', beq_eq_false_iff_ne]
  constructor
  · rintro ⟨hid, front, back, hrecords, hfront⟩
    exact ⟨front, back, hrecords, hid, hfront⟩
  · rintro ⟨front, back, hrecords, hid, hfront⟩
    exact ⟨hid, front, back, hrecords, hfront⟩

theorem recordById?_eq_none_iff {map : StackMap} {id : Word} :
    map.recordById? id = none ↔ ∀ record ∈ map.records, record.id ≠ id := by
  simp [recordById?_eq_find?]

/-! Offsets -/

theorem mem_byOffset (map : StackMap) (i : Fin map.records.length) : i ∈ map.byOffset :=
  (List.mergeSort_perm _ _).mem_iff.mpr (List.mem_finRange i)

theorem byOffset_sorted (map : StackMap) :
    map.byOffset.Pairwise fun i j =>
      (map.records.get i).offset.toNat ≤ (map.records.get j).offset.toNat := by
  refine (List.pairwise_mergeSort ?_ ?_ _).imp fun h =>
    UInt32.le_iff_toNat_le.mp (of_decide_eq_true h)
  · intro i j k hij hjk
    exact decide_eq_true (UInt32.le_trans (of_decide_eq_true hij) (of_decide_eq_true hjk))
  · intro i j
    simpa using UInt32.le_total _ _

/-- No record has the offset, or the search ends at one that has it. -/
theorem recordAt?_cases (map : StackMap) (offset : UInt32) :
    (map.recordAt? offset = none ∧ ∀ record ∈ map.records, record.offset ≠ offset) ∨
      ∃ record ∈ map.records, record.offset = offset ∧ map.recordAt? offset = some record := by
  rcases Search.placeOf?_cases map.byOffset_sorted offset.toNat with
    ⟨hnone, hothers⟩ | ⟨front, i, back, hindex, hoffset, -, hplace⟩
  · refine .inl ⟨by rw [recordAt?, hnone, Option.bind_none], fun record hmem heq => ?_⟩
    obtain ⟨i, rfl⟩ := List.mem_iff_get.mp hmem
    exact hothers i (map.mem_byOffset i) (congrArg UInt32.toNat heq)
  · refine .inr ⟨map.records.get i, List.get_mem _ i, UInt32.toNat_inj.mp hoffset, ?_⟩
    rw [recordAt?, hplace, Option.bind_some, hindex, List.getElem?_append_right (Nat.le_refl _),
      Nat.sub_self, List.getElem?_cons_zero, Option.map_some]

theorem recordAt?_some {map : StackMap} {offset : UInt32} {record : Record}
    (h : map.recordAt? offset = some record) : record ∈ map.records ∧ record.offset = offset := by
  rcases map.recordAt?_cases offset with ⟨hnone, -⟩ | ⟨found, hmem, hoffset, hfound⟩
  · cases hnone.symm.trans h
  · cases hfound.symm.trans h
    exact ⟨hmem, hoffset⟩

/-- The search ends at a record with the offset if there is one. -/
theorem exists_recordAt? {map : StackMap} {given : Record} (hmem : given ∈ map.records) :
    ∃ record, map.recordAt? given.offset = some record := by
  rcases map.recordAt?_cases given.offset with ⟨-, hothers⟩ | ⟨found, -, -, hfound⟩
  · exact absurd rfl (hothers given hmem)
  · exact ⟨found, hfound⟩

theorem recordAt?_eq_none_iff {map : StackMap} {offset : UInt32} :
    map.recordAt? offset = none ↔ ∀ record ∈ map.records, record.offset ≠ offset := by
  constructor
  · rintro hnone record hmem rfl
    obtain ⟨found, hfound⟩ := exists_recordAt? hmem
    cases hnone.symm.trans hfound
  · intro h
    rw [Option.eq_none_iff_forall_ne_some]
    intro record hrecord
    obtain ⟨hmem, hoffset⟩ := recordAt?_some hrecord
    exact h record hmem hoffset

theorem recordAt?_eq_some_iff {map : StackMap} (hdistinct : (map.records.map (·.offset)).Nodup)
    {offset : UInt32} {record : Record} :
    map.recordAt? offset = some record ↔ record ∈ map.records ∧ record.offset = offset := by
  refine ⟨recordAt?_some, ?_⟩
  rintro ⟨hmem, rfl⟩
  obtain ⟨found, hfound⟩ := exists_recordAt? hmem
  obtain ⟨hfoundMem, hoffset⟩ := recordAt?_some hfound
  rw [hfound, List.inj_on_of_nodup_map hdistinct hfoundMem hmem hoffset]

end StackUnwind.StackMap
