import StackUnwind.Proofs.ChainBudget
import StackUnwind.Proofs.Consumption
import Mathlib

/-!
# The guard of an action chain

The records of a chain are read one after the other, whatever their filters
are, until one cannot be read or has no link. `Visits` is that process without
a budget. It ends or it comes back to an offset where it was before: every
offset that it visits lies in the table, so one of them has to come up again.

The guard against the second case counts records, as many as fit into the
table side by side and one more. Chains of records that do not overlap are read
to their end. Links may lead into the middle of other records, however, so
that a chain which visits no offset twice can have nearly as many records as
there are bytes. The guard stops such a chain as if it were circular. It is
shown here which chains it stops, and where.
-/
namespace StackUnwind.ActionRecord

open Relation

/-- The record at an offset leads on to another. -/
def Links (table : Bytes) (offset next : Word) : Prop :=
  ∃ record, readAt table offset = .ok record ∧ record.next? = some next

/-- Following links from an offset reads these records and arrives at `last`. -/
inductive Visits (table : Bytes) : Word → List ActionRecord → Word → Prop
  | here {offset} : Visits table offset [] offset
  | further {offset next last record records} (hread : readAt table offset = .ok record)
      (hnext : record.next? = some next) (hrest : Visits table next records last) :
      Visits table offset (record :: records) last

/-- Following links ends at `last`, where a record cannot be read or has no link. -/
def EndsAt (table : Bytes) (first : Word) (records : List ActionRecord) (last : Word) : Prop :=
  Visits table first records last ∧ ∀ next, ¬ Links table last next

/-- Following links visits some offset twice. -/
def Circular (table : Bytes) (first : Word) : Prop :=
  ∃ offset, ReflTransGen (Links table) first offset ∧ TransGen (Links table) offset offset

/-- The record at an offset takes the bytes up to `stop`. -/
def Spans (table : Bytes) (offset : Word) (stop : Nat) : Prop :=
  ∃ found t, fields ⟨table.drop offset.toNat, offset.toNat⟩ = .ok found t ∧
    stop + t.rest.length = table.length

/-- No two of the records that are visited share a byte. -/
def Apart (table : Bytes) (first : Word) : Prop :=
  ∀ a b, ReflTransGen (Links table) first a → ReflTransGen (Links table) first b → a ≠ b →
    ∀ stopA stopB, Spans table a stopA → Spans table b stopB →
      stopA ≤ b.toNat ∨ stopB ≤ a.toNat

variable {table : Bytes} {first offset next last : Word} {records : List ActionRecord}

/-! One link -/

theorem Links.unique {other : Word} (h : Links table offset next)
    (hother : Links table offset other) : next = other := by
  obtain ⟨record, hread, hnext⟩ := h
  obtain ⟨record', hread', hnext'⟩ := hother
  cases hread.symm.trans hread'
  exact Option.some.inj (hnext.symm.trans hnext')

theorem fields_takes : Decoder.Takes (1 + 1) fields := by
  have hread : Decoder.Takes 1 Leb128.readSigned := Leb128.readSigned_consumes.takes
  refine hread.bind fun filter => ?_
  intro s found u h
  rw [Decoder.get_bind] at h
  obtain ⟨distance, hdistance, -⟩ := Decoder.bind_pure_ok h
  exact hread s distance u hdistance

/-- A record that is read lies in the table and takes two bytes of it at least. -/
theorem exists_spans {record : ActionRecord} (h : readAt table offset = .ok record) :
    ∃ stop, Spans table offset stop ∧ offset.toNat + 2 ≤ stop ∧ stop ≤ table.length := by
  unfold readAt at h
  split_ifs at h with hoffset
  cases hfields : fields ⟨table.drop offset.toNat, offset.toNat⟩ with
  | error cause t =>
      simp only [Decoder.outcome, hfields] at h
      cases h
  | ok found t =>
      have hlength : t.rest.length + 2 ≤ table.length - offset.toNat := by
        simpa using fields_takes _ _ _ hfields
      exact ⟨table.length - t.rest.length, ⟨found, t, hfields, by omega⟩, by omega, by omega⟩

theorem Links.lt (h : Links table offset next) : offset.toNat < table.length := by
  obtain ⟨record, hread, -⟩ := h
  obtain ⟨stop, -, hspan, hstop⟩ := exists_spans hread
  omega

/-! Chains that end and chains that do not -/

theorem Circular.link (h : Circular table first) :
    ∃ next, Links table first next ∧ Circular table next := by
  obtain ⟨offset, hreach, hcycle⟩ := h
  rcases ReflTransGen.cases_head hreach with rfl | ⟨next, hlink, hrest⟩
  · obtain ⟨next, hlink, hback⟩ := TransGen.head'_iff.mp hcycle
    exact ⟨next, hlink, first, hback, hcycle⟩
  · exact ⟨next, hlink, offset, hrest, hcycle⟩

/-- A path that never ends stays in the table, so it meets some offset again. -/
theorem circular_of_path {path : Nat → Word} (hpath : ∀ n, Links table (path n) (path (n + 1))) :
    Circular table (path 0) := by
  have hreach : ∀ i k, ReflTransGen (Links table) (path i) (path (i + k)) := by
    intro i k
    induction k with
    | zero => exact .refl
    | succ k ih => exact ih.tail (hpath (i + k))
  have hmaps : Set.MapsTo (fun n => (path n).toNat) (Finset.range (table.length + 1))
      (Finset.range table.length) := by
    intro n _
    simpa using (hpath n).lt
  obtain ⟨i, -, j, -, hne, heq⟩ :=
    Finset.exists_ne_map_eq_of_card_lt_of_maps_to (by simp) hmaps
  have hsame : path i = path j := UInt64.toNat_inj.mp heq
  wlog hless : i < j generalizing i j with hwlog
  · exact hwlog j i hne.symm heq.symm hsame.symm (by omega)
  obtain ⟨k, rfl⟩ : ∃ k, j = i + 1 + k := ⟨j - (i + 1), by omega⟩
  refine ⟨path i, by simpa using hreach 0 i, ?_⟩
  have hcycle := TransGen.head' (hpath i) (hreach (i + 1) k)
  rwa [← hsame] at hcycle

theorem ends_or_circular (table : Bytes) (first : Word) :
    (∃ records last, EndsAt table first records last) ∨ Circular table first := by
  by_cases hacc : Acc (fun next offset => Links table offset next) first
  · left
    induction hacc with
    | intro offset _ ih =>
        by_cases hlink : ∃ next, Links table offset next
        · obtain ⟨next, record, hread, hnext⟩ := hlink
          obtain ⟨records, last, hvisits, hfinal⟩ := ih next ⟨record, hread, hnext⟩
          exact ⟨record :: records, last, .further hread hnext hvisits, hfinal⟩
        · exact ⟨[], offset, .here, not_exists.mp hlink⟩
  · right
    obtain ⟨path, rfl, hpath⟩ := not_acc_iff_exists_descending_chain.mp hacc
    exact circular_of_path hpath

theorem EndsAt.not_circular (h : EndsAt table first records last) : ¬ Circular table first := by
  obtain ⟨hvisits, hfinal⟩ := h
  induction hvisits with
  | here =>
      intro hcircular
      obtain ⟨next, hlink, -⟩ := hcircular.link
      exact hfinal next hlink
  | further hread hnext _ ih =>
      intro hcircular
      obtain ⟨next', hlink, hrest⟩ := hcircular.link
      cases hlink.unique ⟨_, hread, hnext⟩
      exact ih hfinal hrest

theorem Circular.exists_visits (h : Circular table first) (n : Nat) :
    ∃ records last, Visits table first records last ∧ records.length = n := by
  induction n generalizing first with
  | zero => exact ⟨[], first, .here, rfl⟩
  | succ n ih =>
      obtain ⟨next, ⟨record, hread, hnext⟩, hcircular⟩ := h.link
      obtain ⟨records, last, hvisits, hlength⟩ := ih hcircular
      exact ⟨record :: records, last, .further hread hnext hvisits, by rw [List.length_cons, hlength]⟩

/-- The first `n` records of a chain lead to an offset of their own. -/
theorem Visits.take (h : Visits table first records last) {n : Nat} (hn : n ≤ records.length) :
    ∃ offset, Visits table first (records.take n) offset := by
  induction h generalizing n with
  | here => exact ⟨_, by rw [List.take_nil]; exact .here⟩
  | further hread hnext _ ih =>
      cases n with
      | zero => exact ⟨_, .here⟩
      | succ n =>
          obtain ⟨offset, hvisits⟩ := ih (Nat.le_of_succ_le_succ hn)
          exact ⟨offset, .further hread hnext hvisits⟩

/-! Reading within the budget -/

theorem chainWithin_of_visits (h : Visits table first records last) (budget : Nat) :
    chainWithin table (records.length + budget) (some first) =
      records.map .ok ++ chainWithin table budget (some last) := by
  induction h with
  | here => rw [List.length_nil, Nat.zero_add, List.map_nil, List.nil_append]
  | further hread hnext _ ih =>
      rw [List.length_cons, Nat.add_right_comm, List.map_cons, List.cons_append, ← ih]
      simp only [chainWithin, hread, hnext]

theorem chainWithin_of_final (h : ∀ next, ¬ Links table last next) (budget : Nat) :
    chainWithin table (budget + 1) (some last) = [readAt table last] := by
  cases hread : readAt table last with
  | error fault => simp only [chainWithin, hread]
  | ok record =>
      cases hnext : record.next? with
      | none => simp only [chainWithin, hread, hnext]
      | some next => exact absurd ⟨record, hread, hnext⟩ (h next)

theorem chain_of_short (h : EndsAt table first records last)
    (hshort : records.length ≤ table.length / 2) :
    chain table first = records.map .ok ++ [readAt table last] := by
  have hbudget : table.length / 2 + 1 = records.length + (table.length / 2 - records.length + 1) := by
    omega
  rw [chain, hbudget, chainWithin_of_visits h.1, chainWithin_of_final h.2]

/-- The guard stops a chain at the first record that is not in the budget. -/
theorem chain_of_long (h : Visits table first records last)
    (hlong : table.length / 2 < records.length) :
    ∃ offset, Visits table first (records.take (table.length / 2 + 1)) offset ∧
      chain table first = (records.take (table.length / 2 + 1)).map .ok ++
        [.error (.actionOutOfRange offset.toInt64)] := by
  obtain ⟨offset, hfront⟩ := h.take hlong
  refine ⟨offset, hfront, ?_⟩
  have hread := chainWithin_of_visits hfront 0
  rwa [List.length_take_of_le hlong] at hread

theorem length_chainWithin_le (table : Bytes) (budget : Nat) (first? : Option Word) :
    (chainWithin table budget first?).length ≤ budget + 1 := by
  fun_induction chainWithin table budget first? with
  | case1 => exact Nat.zero_le _
  | case2 => exact Nat.le_refl _
  | case3 => exact Nat.le_add_left _ _
  | case4 _ _ _ _ ih => exact Nat.succ_le_succ ih

/-- A fault is the last item. -/
theorem chainWithin_after_fault {budget : Nat} {first? : Option Word} {fault : Fault}
    {front back : List (Except Fault ActionRecord)}
    (h : chainWithin table budget first? = front ++ .error fault :: back) : back = [] := by
  fun_induction chainWithin table budget first? generalizing front with
  | case1 => simp at h
  | case2 | case3 => cases front <;> simp_all
  | case4 _ _ _ _ ih =>
      cases front with
      | nil => cases h
      | cons item front => exact ih (List.cons.inj h).2

/-! Records that do not overlap -/

/-- The offsets that lead on from a chain that ends are all different. -/
theorem EndsAt.exists_offsets (h : EndsAt table first records last) :
    ∃ offsets : List Word, offsets.length = records.length ∧ offsets.Nodup ∧
      ∀ offset ∈ offsets, ReflTransGen (Links table) first offset ∧
        ∃ next, Links table offset next := by
  obtain ⟨hvisits, hfinal⟩ := h
  induction hvisits with
  | here => exact ⟨[], rfl, List.nodup_nil, by simp⟩
  | @further offset next last record records hread hnext hrest ih =>
      have hlink : Links table offset next := ⟨record, hread, hnext⟩
      obtain ⟨offsets, hlength, hnodup, hoffsets⟩ := ih hfinal
      refine ⟨offset :: offsets, by rw [List.length_cons, List.length_cons, hlength], ?_, ?_⟩
      · refine List.nodup_cons.mpr ⟨fun hmem => ?_, hnodup⟩
        have hends : EndsAt table offset (record :: records) last :=
          ⟨.further hread hnext hrest, hfinal⟩
        exact hends.not_circular ⟨offset, .refl, .head' hlink (hoffsets offset hmem).1⟩
      · intro other hmem
        rcases List.mem_cons.mp hmem with rfl | hmem
        · exact ⟨.refl, next, hlink⟩
        · obtain ⟨hreach, hothers⟩ := hoffsets other hmem
          exact ⟨.head hlink hreach, hothers⟩

theorem Apart.length_le (hapart : Apart table first) (h : EndsAt table first records last) :
    records.length ≤ table.length / 2 := by
  obtain ⟨offsets, hlength, hnodup, hoffsets⟩ := h.exists_offsets
  have hisolated : ∀ position ∈ offsets.map UInt64.toNat,
      position + 1 < table.length ∧ position + 1 ∉ offsets.map UInt64.toNat := by
    intro position hmem
    obtain ⟨a, ha, rfl⟩ := List.mem_map.mp hmem
    obtain ⟨hreachA, _, recordA, hreadA, -⟩ := hoffsets a ha
    obtain ⟨stopA, hspansA, hleA, hstopA⟩ := exists_spans hreadA
    refine ⟨by omega, fun hnext => ?_⟩
    -- The next offset would lie inside the record.
    obtain ⟨b, hb, hsucc⟩ := List.mem_map.mp hnext
    obtain ⟨hreachB, _, recordB, hreadB, -⟩ := hoffsets b hb
    obtain ⟨stopB, hspansB, hleB, -⟩ := exists_spans hreadB
    have hne : a ≠ b := by
      rintro rfl
      omega
    have := hapart a b hreachA hreachB hne stopA stopB hspansA hspansB
    omega
  have hroom := two_mul_length_le_of_isolated
    (hnodup.map fun _ _ heq => UInt64.toNat_inj.mp heq) hisolated
  rw [List.length_map, hlength] at hroom
  omega

/-- A chain that ends is read to its end, with the fault of a record that cannot
be read, unless it follows more links than the table has pairs of bytes. Such a
chain is stopped by the guard behind the records of the budget, and so is
every circular one, which are those that do not end. Where the records do not
overlap, only the circular ones are stopped. There is at most one item more than
records in the budget, and none behind a fault. -/
theorem guard_stops_long_chains (table : Bytes) (first : Word) :
    (∀ records last, EndsAt table first records last → records.length ≤ table.length / 2 →
      chain table first = records.map .ok ++ [readAt table last]) ∧
    (∀ records last, Visits table first records last → table.length / 2 < records.length →
      ∃ offset, Visits table first (records.take (table.length / 2 + 1)) offset ∧
        chain table first = (records.take (table.length / 2 + 1)).map .ok ++
          [.error (.actionOutOfRange offset.toInt64)]) ∧
    (Circular table first →
      ∃ records offset, Visits table first records offset ∧
        records.length = table.length / 2 + 1 ∧
        chain table first = records.map .ok ++ [.error (.actionOutOfRange offset.toInt64)]) ∧
    (Circular table first ↔ ¬ ∃ records last, EndsAt table first records last) ∧
    (Apart table first → ∀ records last, EndsAt table first records last →
      chain table first = records.map .ok ++ [readAt table last]) ∧
    (chain table first).length ≤ table.length / 2 + 2 ∧
    ∀ front fault back, chain table first = front ++ .error fault :: back → back = [] := by
  refine ⟨fun _ _ => chain_of_short, fun _ _ => chain_of_long, ?_, ⟨?_, ?_⟩, ?_,
    length_chainWithin_le table _ _, fun _ _ _ => chainWithin_after_fault⟩
  · intro hcircular
    obtain ⟨records, last, hvisits, hlength⟩ := hcircular.exists_visits (table.length / 2 + 1)
    obtain ⟨offset, hfront, hchain⟩ := chain_of_long hvisits (by omega)
    rw [List.take_of_length_le (Nat.le_of_eq hlength)] at hfront hchain
    exact ⟨records, offset, hfront, hlength, hchain⟩
  · rintro hcircular ⟨records, last, hends⟩
    exact hends.not_circular hcircular
  · exact (ends_or_circular table first).resolve_left
  · exact fun hapart _ _ hends => chain_of_short hends (hapart.length_le hends)

/-- Every record from the second byte on leads to the byte in front of it, so that
each overlaps the next one of the chain. -/
def descendingTable : Bytes := [0x00, 0x00, 0x7e, 0x7e, 0x7e]

/-- Two records side by side, of which the first leads to the second. -/
def adjacentTable : Bytes := [0x00, 0x01, 0x03, 0x00]

theorem descendingTable_visits :
    Visits descendingTable 3 [⟨-2, some 2⟩, ⟨-2, some 1⟩, ⟨0, some 0⟩] 0 :=
  .further (by cbv) rfl (.further (by cbv) rfl (.further (by cbv) rfl .here))

/-- Offset by offset the chain is read back to the start of the table, where it
ends. It visits no offset twice, but the guard stops it before its end. -/
theorem descending_chain_stopped :
    EndsAt descendingTable 3 [⟨-2, some 2⟩, ⟨-2, some 1⟩, ⟨0, some 0⟩] 0 ∧
    readAt descendingTable 0 = .ok ⟨0, none⟩ ∧ ¬ Circular descendingTable 3 ∧
    chain descendingTable 3 =
      [.ok ⟨-2, some 2⟩, .ok ⟨-2, some 1⟩, .ok ⟨0, some 0⟩, .error (.actionOutOfRange 0)] := by
  have hlast : readAt descendingTable 0 = .ok ⟨0, none⟩ := by cbv
  have hends : EndsAt descendingTable 3 [⟨-2, some 2⟩, ⟨-2, some 1⟩, ⟨0, some 0⟩] 0 := by
    refine ⟨descendingTable_visits, ?_⟩
    rintro next ⟨record, hread, hnext⟩
    cases hlast.symm.trans hread
    cases hnext
  exact ⟨hends, hlast, hends.not_circular, chainWithin_of_visits descendingTable_visits 0⟩

theorem adjacentTable_first : readAt adjacentTable 0 = .ok ⟨0, some 2⟩ := by cbv

theorem adjacentTable_second : readAt adjacentTable 2 = .ok ⟨3, none⟩ := by cbv

theorem adjacentTable_ends : EndsAt adjacentTable 0 [⟨0, some 2⟩] 2 := by
  refine ⟨.further adjacentTable_first rfl .here, ?_⟩
  rintro next ⟨record, hread, hnext⟩
  cases adjacentTable_second.symm.trans hread
  cases hnext

theorem adjacentTable_apart : Apart adjacentTable 0 := by
  have hreach : ∀ a, ReflTransGen (Links adjacentTable) 0 a → a = 0 ∨ a = 2 := by
    intro a h
    induction h with
    | refl => exact .inl rfl
    | tail _ hlink ih =>
        rcases ih with rfl | rfl
        · exact .inr (hlink.unique ⟨_, adjacentTable_first, rfl⟩)
        · exact absurd hlink (adjacentTable_ends.2 _)
  have hfirst : ∀ stop, Spans adjacentTable 0 stop → stop = 2 := by
    rintro stop ⟨found, t, hfields, hstop⟩
    have hread : fields ⟨adjacentTable, 0⟩ = .ok (0, 1, 1) ⟨[0x03, 0x00], 2⟩ := by cbv
    cases hread.symm.trans hfields
    exact Nat.add_right_cancel hstop
  intro a b ha hb hne stopA stopB hA hB
  rcases hreach a ha with rfl | rfl <;> rcases hreach b hb with rfl | rfl
  · exact absurd rfl hne
  · exact .inl (Nat.le_of_eq (hfirst stopA hA))
  · exact .inr (Nat.le_of_eq (hfirst stopB hB))
  · exact absurd rfl hne

/-- The guard lets records side by side pass, and stops a chain that overlaps
itself as it stops a circular one. -/
theorem adjacent_read_others_stopped :
    Apart adjacentTable 0 ∧ EndsAt adjacentTable 0 [⟨0, some 2⟩] 2 ∧
    chain adjacentTable 0 = [.ok ⟨0, some 2⟩, .ok ⟨3, none⟩] ∧
    (∃ offset, chain descendingTable 3 =
      [.ok ⟨-2, some 2⟩, .ok ⟨-2, some 1⟩, .ok ⟨0, some 0⟩, .error (.actionOutOfRange offset)]) ∧
    Circular Action.circularTable 0 ∧
    ∃ (records : List ActionRecord) (offset : Int64), records.length = 2 ∧
      chain Action.circularTable 0 = records.map .ok ++ [.error (.actionOutOfRange offset)] := by
  have hcircular : Circular Action.circularTable 0 :=
    ⟨0, .refl, .single ⟨⟨0, some 0⟩, by cbv, rfl⟩⟩
  obtain ⟨-, -, -, -, happly, -⟩ := guard_stops_long_chains adjacentTable 0
  obtain ⟨-, hlong, -⟩ := guard_stops_long_chains descendingTable 3
  obtain ⟨-, -, hround, -⟩ := guard_stops_long_chains Action.circularTable 0
  have hread := happly adjacentTable_apart _ _ adjacentTable_ends
  rw [adjacentTable_second] at hread
  obtain ⟨offset, -, hstopped⟩ := hlong _ _ descendingTable_visits (by decide)
  obtain ⟨records, last, -, hlength, hrefused⟩ := hround hcircular
  exact ⟨adjacentTable_apart, adjacentTable_ends, hread, ⟨_, hstopped⟩, hcircular, records, _,
    hlength, hrefused⟩

end StackUnwind.ActionRecord
