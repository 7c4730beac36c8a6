import StackUnwind.Handler.Table
import StackUnwind.Proofs.Reading
import Mathlib

/-!
# The budget of an action chain

A chain is followed from one record to the next until a record decides: it
cannot be read, its filter is not zero, or it ends the chain. Left alone this
process may go round in circles, so it is given a budget of one record for each
two bytes of the table, and one more. Links lead anywhere, also into the middle
of other records, so records overlap and there may be nearly as many of them as
there are bytes.

The budget is enough all the same. What counts are the links that are followed.
The byte in front of such a link is the last one of a filter that is zero, and
so is zero itself, while the link's own first byte is not. No byte is both, so
a table has room for one link in two bytes. And a process that ends follows no
link twice, because where a link leads does not depend on the record it is read
with.

The bytes of the table are arbitrary, and so is the offset of the first record.
-/
namespace StackUnwind

/-! Padded zeros -/

namespace Leb128

theorem dvd_of_ofInt_eq_zero {n : Int} (h : Int64.ofInt n = 0) : (2 ^ 64 : Int) ∣ n := by
  apply Int.dvd_of_bmod_eq_zero
  rw [← Int64.toInt_ofInt, h]
  rfl

/-- A number is completed to zero by the zero byte only. The groups before it
are below bit 63, so a sign bit in the last one cannot be carried away. -/
theorem last_byte_of_zero {shift value : Nat} {b : UInt8} (hdvd : 7 ∣ shift) (hshift : shift ≤ 63)
    (hvalue : value < 2 ^ shift) (hlast : ¬ (shift = 63 ∧ b ≠ 0x00 ∧ b ≠ 0x7f))
    (hb : b.toNat < 128)
    (h : Int64.ofInt (if shift + 7 < 64 ∧ 64 ≤ b.toNat
      then ((value + b.toNat * 2 ^ shift : Nat) : Int) - 2 ^ (shift + 7)
      else ((value + b.toNat * 2 ^ shift : Nat) : Int)) = 0) : b = 0x00 := by
  have hmul := dvd_of_ofInt_eq_zero h
  by_cases hlow : shift + 7 < 64
  · have hpow : (2 : Int) ^ (shift + 7) = 2 ^ shift * 128 := by rw [pow_add]; rfl
    have hbound : (2 : Int) ^ shift ≤ 2 ^ 56 := pow_le_pow_right₀ (by decide) (by omega)
    have hpos : (0 : Int) < 2 ^ shift := by positivity
    have hvalue' : (value : Int) < 2 ^ shift := by exact_mod_cast hvalue
    have hn : (b.toNat : Int) < 128 := by exact_mod_cast hb
    -- Either way the number is too small to be another multiple of `2 ^ 64`.
    split_ifs at hmul with hsign
    · have heq := Int.eq_zero_of_abs_lt_dvd hmul (by
        rw [abs_lt, hpow]
        push_cast
        constructor <;> nlinarith)
      rw [hpow] at heq
      push_cast at heq
      nlinarith
    · have heq := Int.eq_zero_of_abs_lt_dvd hmul (by
        rw [abs_lt]
        push_cast
        constructor <;> nlinarith)
      have hnat : value + b.toNat * 2 ^ shift = 0 := by exact_mod_cast heq
      have hprod := (Nat.add_eq_zero_iff.mp hnat).2
      exact UInt8.toNat_inj.mp ((Nat.mul_eq_zero.mp hprod).resolve_right (by positivity))
  · obtain rfl : shift = 63 := by omega
    rcases not_and_or.mp (not_and.mp hlast rfl) with h0 | h7f
    · exact not_not.mp h0
    · obtain rfl := not_not.mp h7f
      rw [if_neg (by omega), show (0x7f : UInt8).toNat = 127 by rfl] at hmul
      omega

/-- Reading zero consumes a zero byte last. -/
theorem signedAfter_zero {shift value offset : Nat} {bytes : Bytes} {t : ByteStream}
    (hdvd : 7 ∣ shift) (hshift : shift ≤ 63) (hvalue : value < 2 ^ shift)
    (h : signedAfter shift value offset bytes = .ok 0 t) :
    ∃ k, bytes[k]? = some 0x00 ∧ t = ⟨bytes.drop (k + 1), offset + (k + 1)⟩ := by
  induction bytes generalizing shift value offset with
  | nil => cases h
  | cons b bs ih =>
      by_cases hlast : shift = 63 ∧ b ≠ 0x00 ∧ b ≠ 0x7f
      · rw [signedAfter, if_pos hlast] at h
        cases h
      · rw [signedAfter, if_neg hlast] at h
        dsimp only at h
        by_cases hb : b < 0x80
        · have hsmall : b.toNat < 128 := UInt8.lt_iff_toNat_lt.mp hb
          rw [if_pos hb, Nat.mod_eq_of_lt hsmall] at h
          simp only [Nat.shiftLeft_eq, Nat.one_mul, Nat.cast_pow, Nat.cast_ofNat] at h
          injection h with hzero ht
          obtain rfl := last_byte_of_zero hdvd hshift hvalue hlast hsmall hzero
          exact ⟨0, rfl, ht.symm⟩
        · rw [if_neg hb, Nat.shiftLeft_eq] at h
          -- The tenth byte is never followed by another.
          have hnext : shift + 7 ≤ 63 := by
            have hne : shift ≠ 63 := by
              rintro rfl
              refine hlast ⟨rfl, ?_, ?_⟩
              all_goals
                rintro rfl
                exact hb (by decide)
            omega
          have hgroup : value + b.toNat % 128 * 2 ^ shift < 2 ^ (shift + 7) := by
            have hpow : 2 ^ (shift + 7) = 2 ^ shift * 128 := by rw [pow_add]; rfl
            have hmod : b.toNat % 128 < 128 := Nat.mod_lt _ (by decide)
            nlinarith
          obtain ⟨k, hk, ht⟩ := ih (by omega) hnext hgroup h
          refine ⟨k + 1, by simpa using hk, ?_⟩
          rw [ht, List.drop_succ_cons]
          congr 1
          omega

/-- A number other than zero does not begin with the zero byte. -/
theorem first_byte_of_nonzero {n : Int64} {bytes : Bytes} {offset : Nat} {t : ByteStream}
    (h : readSigned ⟨bytes, offset⟩ = .ok n t) (hn : n ≠ 0) :
    ∃ b, bytes[0]? = some b ∧ b ≠ 0x00 := by
  cases bytes with
  | nil => cases h
  | cons b bs =>
      refine ⟨b, rfl, ?_⟩
      rintro rfl
      apply hn
      cases h
      rfl

end Leb128

/-! The links of a table -/

namespace ActionRecord

variable {table : Bytes} {offset next : Word} {position : Nat}

/-- The record is for cleanup and leads on to another. -/
def Continues (table : Bytes) (offset next : Word) : Prop :=
  ∃ record, readAt table offset = .ok record ∧ record.filter = 0 ∧ record.next? = some next

/-- Where the distance stored at a position leads. -/
def LeadsTo (table : Bytes) (position : Nat) (next : Word) : Prop :=
  ∃ distance t, Leb128.readSigned ⟨table.drop position, position⟩ = .ok distance t ∧
    next = UInt64.ofNat (position + distance.toInt).toNat

/-- A byte that is not zero behind one that is. -/
def Rises (table : Bytes) (position : Nat) : Prop :=
  ∃ before b, position = before + 1 ∧ table[before]? = some 0x00 ∧ table[position]? = some b ∧
    b ≠ 0x00

theorem fields_ok {s : ByteStream} {filter distance : Int64} {position : Nat}
    (h : fields.outcome s = .ok (filter, position, distance)) :
    ∃ t u, Leb128.readSigned s = .ok filter t ∧ Leb128.readSigned t = .ok distance u ∧
      position = t.offset := by
  unfold Decoder.outcome at h
  split at h
  · rename_i found u hfields
    cases h
    obtain ⟨filter, t, hfilter, hrest⟩ := Decoder.bind_ok hfields
    rw [Decoder.get_bind] at hrest
    obtain ⟨distance, hdistance, hfound⟩ := Decoder.bind_pure_ok hrest
    cases hfound
    exact ⟨t, u, hfilter, hdistance, rfl⟩
  · cases h

/-- A record that leads on is read as a filter and a distance, which is not zero. -/
theorem readAt_next {record : ActionRecord} (h : readAt table offset = .ok record)
    (hnext : record.next? = some next) :
    ∃ t distance u, Leb128.readSigned ⟨table.drop offset.toNat, offset.toNat⟩ = .ok record.filter t ∧
      Leb128.readSigned t = .ok distance u ∧ distance ≠ 0 ∧
      next = UInt64.ofNat (t.offset + distance.toInt).toNat := by
  unfold readAt at h
  split_ifs at h
  split at h
  · cases h
  · rename_i filter position distance hfields
    obtain ⟨t, u, hfilter, hdistance, rfl⟩ := fields_ok hfields
    dsimp only at h
    split_ifs at h with hzero hrange
    · cases h
      cases hnext
    · cases h
      cases hnext
      exact ⟨t, distance, u, hfilter, hdistance, hzero, rfl⟩

theorem Continues.link (h : Continues table offset next) :
    ∃ position, Rises table position ∧ LeadsTo table position next := by
  obtain ⟨record, hread, hzero, hnext⟩ := h
  obtain ⟨t, distance, u, hfilter, hlink, hne, rfl⟩ := readAt_next hread hnext
  rw [hzero] at hfilter
  obtain ⟨k, hk, rfl⟩ := Leb128.signedAfter_zero (Nat.dvd_zero 7) (by decide) (by decide) hfilter
  rw [List.drop_drop] at hlink
  refine ⟨offset.toNat + (k + 1), ⟨offset.toNat + k, ?_⟩, distance, u, hlink, rfl⟩
  obtain ⟨b, hb, hb0⟩ := Leb128.first_byte_of_nonzero hlink hne
  rw [List.getElem?_drop] at hk hb
  exact ⟨b, rfl, hk, hb, hb0⟩

theorem Continues.unique {other : Word} (h : Continues table offset next)
    (hother : Continues table offset other) : next = other := by
  obtain ⟨record, hread, -, hnext⟩ := h
  obtain ⟨record', hread', -, hnext'⟩ := hother
  cases hread.symm.trans hread'
  exact Option.some.inj (hnext.symm.trans hnext')

theorem LeadsTo.unique {other : Word} (h : LeadsTo table position next)
    (hother : LeadsTo table position other) : next = other := by
  obtain ⟨distance, t, hread, rfl⟩ := h
  obtain ⟨distance', t', hread', rfl⟩ := hother
  cases hread.symm.trans hread'
  rfl

theorem Continues.ofChain (h : Continues table offset next) (budget : Nat) (seen : Bool) :
    Action.ofChain seen (chainWithin table (budget + 1) (some offset)) =
      Action.ofChain true (chainWithin table budget (some next)) := by
  obtain ⟨record, hread, hzero, hnext⟩ := h
  simp only [chainWithin, hread, Action.ofChain, if_pos hzero, hnext]

theorem readAt_ne_emptyActionChain (table : Bytes) (offset : Word) :
    readAt table offset ≠ .error .emptyActionChain := by
  intro h
  unfold readAt at h
  split_ifs at h
  · split at h
    · cases h
    · dsimp only at h
      split_ifs at h
      cases h
  · cases h

/-- Positions of which none is next to another take two places each. -/
theorem two_mul_length_le_of_isolated {positions : List Nat} {n : Nat} (hnodup : positions.Nodup)
    (h : ∀ position ∈ positions, position + 1 < n ∧ position + 1 ∉ positions) :
    2 * positions.length ≤ n := by
  have hpairs : (positions ++ positions.map (· + 1)).Nodup := by
    refine List.nodup_append.mpr ⟨hnodup, hnodup.map (fun _ _ heq => Nat.succ.inj heq), ?_⟩
    rintro position hposition _ hmem rfl
    obtain ⟨before, hbefore, rfl⟩ := List.mem_map.mp hmem
    exact (h before hbefore).2 hposition
  have hplaces : positions ++ positions.map (· + 1) ⊆ List.range n := by
    intro place hmem
    rw [List.mem_range]
    rcases List.mem_append.mp hmem with hmem | hmem
    · exact Nat.lt_of_succ_lt (h place hmem).1
    · obtain ⟨before, hbefore, rfl⟩ := List.mem_map.mp hmem
      exact (h before hbefore).1
  have hlength := (hpairs.subperm hplaces).length_le
  rw [List.length_append, List.length_map, List.length_range] at hlength
  omega

/-- The byte before a rise is zero and so is none of the rises. -/
theorem two_mul_length_le_of_rises {positions : List Nat} (hnodup : positions.Nodup)
    (h : ∀ position ∈ positions, Rises table position) :
    2 * positions.length ≤ table.length := by
  have hbefore : (positions.map (· - 1)).Nodup := by
    refine hnodup.map_on fun p hp q hq heq => ?_
    obtain ⟨p', -, rfl, -⟩ := h p hp
    obtain ⟨q', -, rfl, -⟩ := h q hq
    exact congrArg (· + 1) heq
  have hroom := two_mul_length_le_of_isolated (n := table.length) hbefore (by
    intro before hmem
    obtain ⟨position, hposition, rfl⟩ := List.mem_map.mp hmem
    obtain ⟨before, b, rfl, -, hb, hne⟩ := h position hposition
    obtain ⟨hlt, -⟩ := List.getElem?_eq_some_iff.mp hb
    refine ⟨hlt, fun hnext => ?_⟩
    obtain ⟨other, hother, heq⟩ := List.mem_map.mp hnext
    obtain ⟨place, -, rfl, hplace, -⟩ := h other hother
    obtain rfl : place = before + 1 := heq
    exact hne (Option.some.inj (hb.symm.trans hplace)))
  rwa [List.length_map] at hroom

end ActionRecord

/-! Reading without a budget -/

namespace Action
open ActionRecord

/-- The record at an offset decides at once. -/
inductive Stops (table : Bytes) (offset : Word) : Except Fault Action → Prop
  | fault {fault} (h : readAt table offset = .error fault) : Stops table offset (.error fault)
  | catches {record} (h : readAt table offset = .ok record) (hfilter : 0 < record.filter) :
      Stops table offset (.ok (.catches record.filter))
  | negative {record} (h : readAt table offset = .ok record) (hfilter : record.filter < 0) :
      Stops table offset (.error (.negativeTypeFilter record.filter))
  | cleanup {record} (h : readAt table offset = .ok record) (hfilter : record.filter = 0)
      (hnext : record.next? = none) : Stops table offset (.ok .cleanup)

/-- Reading one record after the other ends with a result, once this many
links were followed. -/
inductive Ends (table : Bytes) : (links : Nat) → Word → Except Fault Action → Prop
  | here {offset result} (h : Stops table offset result) : Ends table 0 offset result
  | further {links offset next result} (hlink : Continues table offset next)
      (hrest : Ends table links next result) : Ends table (links + 1) offset result

/-- There is always another record to read. -/
def Endless (table : Bytes) (first : Word) : Prop :=
  ∃ path : Nat → Word, path 0 = first ∧ ∀ n, Continues table (path n) (path (n + 1))

variable {table : Bytes} {offset next first : Word} {result : Except Fault Action}
variable {links budget : Nat}

theorem stops_or_continues (table : Bytes) (offset : Word) :
    (∃ result, Stops table offset result) ∨ ∃ next, Continues table offset next := by
  cases hread : readAt table offset with
  | error fault => exact .inl ⟨_, .fault hread⟩
  | ok record =>
      by_cases hfilter : record.filter = 0
      · cases hnext : record.next? with
        | none => exact .inl ⟨_, .cleanup hread hfilter hnext⟩
        | some next => exact .inr ⟨next, record, hread, hfilter, hnext⟩
      · rcases Int64.lt_or_lt_of_ne hfilter with hsign | hsign
        · exact .inl ⟨_, .negative hread hsign⟩
        · exact .inl ⟨_, .catches hread hsign⟩

/-- A process that does not end goes on for ever. -/
theorem ends_or_endless (table : Bytes) (first : Word) :
    (∃ links result, Ends table links first result) ∨ Endless table first := by
  by_cases hacc : Acc (fun next offset => Continues table offset next) first
  · left
    induction hacc with
    | intro offset _ ih =>
        rcases stops_or_continues table offset with ⟨result, hstops⟩ | ⟨next, hlink⟩
        · exact ⟨0, result, .here hstops⟩
        · obtain ⟨links, result, hrest⟩ := ih next hlink
          exact ⟨links + 1, result, .further hlink hrest⟩
  · right
    exact not_acc_iff_exists_descending_chain.mp hacc

theorem Stops.not_continues (h : Stops table offset result) : ¬ Continues table offset next := by
  rintro ⟨found, hread, hzero, hnext⟩
  cases h with
  | fault h => cases h.symm.trans hread
  | catches h hfilter =>
      cases h.symm.trans hread
      rw [hzero] at hfilter
      exact Int64.lt_irrefl hfilter
  | negative h hfilter =>
      cases h.symm.trans hread
      rw [hzero] at hfilter
      exact Int64.lt_irrefl hfilter
  | cleanup h _ hnone =>
      cases h.symm.trans hread
      cases hnone.symm.trans hnext

/-- Each offset has its own number of links to the end. -/
theorem Ends.links_unique {others : Nat} {result' : Except Fault Action}
    (h : Ends table links offset result) (hother : Ends table others offset result') :
    links = others := by
  induction h generalizing others with
  | here hstops =>
      cases hother with
      | here => rfl
      | further hlink _ => exact absurd hlink hstops.not_continues
  | further hlink _ ih =>
      cases hother with
      | here hstops => exact absurd hlink hstops.not_continues
      | further hlink' hrest' =>
          cases hlink.unique hlink'
          rw [ih hrest']

/-- The links that are followed are all different: behind equal ones there
would be equally many left. -/
theorem Ends.exists_positions (h : Ends table links offset result) :
    ∃ positions : List Nat, positions.length = links ∧ positions.Nodup ∧
      ∀ position ∈ positions, Rises table position ∧
        ∃ left < links, ∃ next, LeadsTo table position next ∧ Ends table left next result := by
  induction h with
  | here => exact ⟨[], rfl, List.nodup_nil, by simp⟩
  | @further links offset next result hlink hrest ih =>
      obtain ⟨positions, hlength, hnodup, hpositions⟩ := ih
      obtain ⟨position, hrises, hleads⟩ := hlink.link
      refine ⟨position :: positions, by rw [List.length_cons, hlength], ?_, ?_⟩
      · refine List.nodup_cons.mpr ⟨fun hmem => ?_, hnodup⟩
        obtain ⟨-, left, hless, next', hleads', hends⟩ := hpositions position hmem
        cases hleads.unique hleads'
        exact absurd (hends.links_unique hrest) (Nat.ne_of_lt hless)
      · intro other hmem
        rcases List.mem_cons.mp hmem with rfl | hmem
        · exact ⟨hrises, links, Nat.lt_succ_self links, next, hleads, hrest⟩
        · obtain ⟨hother, left, hless, hleft⟩ := hpositions other hmem
          exact ⟨hother, left, Nat.lt_succ_of_lt hless, hleft⟩

theorem Ends.links_le (h : Ends table links offset result) : links ≤ table.length / 2 := by
  obtain ⟨positions, rfl, hnodup, hpositions⟩ := h.exists_positions
  have hroom := two_mul_length_le_of_rises hnodup fun position hmem => (hpositions position hmem).1
  omega

/-! Following the chain within the budget -/

theorem Stops.ofChain (h : Stops table offset result) (seen : Bool) :
    Action.ofChain seen (chainWithin table (budget + 1) (some offset)) = result := by
  cases h with
  | fault h => simp only [chainWithin, h, Action.ofChain]
  | catches h hfilter =>
      have hne := (Int64.ne_of_lt hfilter).symm
      simp only [chainWithin, h, Action.ofChain, if_neg hne, if_pos hfilter]
  | negative h hfilter =>
      have hne := Int64.ne_of_lt hfilter
      simp only [chainWithin, h, Action.ofChain, if_neg hne, if_neg (Int64.lt_asymm hfilter)]
  | cleanup h hfilter hnext =>
      simp only [chainWithin, h, Action.ofChain, if_pos hfilter, hnext]

theorem Ends.ofChain (h : Ends table links offset result) (hbudget : links < budget)
    (seen : Bool) : Action.ofChain seen (chainWithin table budget (some offset)) = result := by
  induction h generalizing budget seen with
  | here hstops =>
      obtain ⟨budget, rfl⟩ : ∃ b, budget = b + 1 := ⟨budget - 1, by omega⟩
      exact hstops.ofChain seen
  | further hlink _ ih =>
      obtain ⟨budget, rfl⟩ : ∃ b, budget = b + 1 := ⟨budget - 1, by omega⟩
      rw [hlink.ofChain]
      exact ih (by omega) true

theorem Endless.ofChain (h : Endless table first) (budget : Nat) (seen : Bool) :
    ∃ offset, Action.ofChain seen (chainWithin table budget (some first)) =
      .error (.actionOutOfRange offset) := by
  obtain ⟨path, rfl, hpath⟩ := h
  induction budget generalizing path seen with
  | zero => exact ⟨(path 0).toInt64, by simp only [chainWithin, Action.ofChain]⟩
  | succ budget ih =>
      rw [(hpath 0).ofChain]
      exact ih true (fun n => path (n + 1)) fun n => hpath (n + 1)

theorem Ends.determine (h : Ends table links first result) :
    Action.determine table (some first) = result :=
  h.ofChain (Nat.lt_succ_of_le h.links_le) false

theorem Endless.determine (h : Endless table first) :
    ∃ offset, Action.determine table (some first) = .error (.actionOutOfRange offset) :=
  h.ofChain _ false

/-! What can come out -/

theorem Ends.not_endless (h : Ends table links offset result) : ¬ Endless table offset := by
  induction h with
  | here hstops =>
      rintro ⟨path, rfl, hpath⟩
      exact hstops.not_continues (hpath 0)
  | further hlink _ ih =>
      rintro ⟨path, rfl, hpath⟩
      exact ih ⟨fun n => path (n + 1), (hpath 0).unique hlink, fun n => hpath (n + 1)⟩

theorem Ends.exists_stops (h : Ends table links offset result) :
    ∃ last, Stops table last result := by
  induction h with
  | here hstops => exact ⟨_, hstops⟩
  | further _ _ ih => exact ih

/-- Without a chain there is only cleanup. Otherwise the result is that of some
record, or the budget's own fault. -/
theorem determine_cases (table : Bytes) (first? : Option Word) :
    determine table first? = .ok .cleanup ∨
      (∃ last, Stops table last (determine table first?)) ∨
      ∃ offset, determine table first? = .error (.actionOutOfRange offset) := by
  cases first? with
  | none => exact .inl rfl
  | some first =>
      right
      rcases ends_or_endless table first with ⟨links, result, hends⟩ | hendless
      · left
        rw [hends.determine]
        exact hends.exists_stops
      · exact .inr hendless.determine

theorem determine_catches {first? : Option Word} {filter : Int64}
    (h : determine table first? = .ok (.catches filter)) : 0 < filter := by
  rcases determine_cases table first? with hnone | ⟨last, hstops⟩ | ⟨offset, hbudget⟩
  · cases hnone.symm.trans h
  · rw [h] at hstops
    cases hstops with
    | catches _ hfilter => exact hfilter
  · cases hbudget.symm.trans h

theorem determine_ne_emptyActionChain (table : Bytes) (first? : Option Word) :
    determine table first? ≠ .error .emptyActionChain := by
  intro h
  rcases determine_cases table first? with hnone | ⟨last, hstops⟩ | ⟨offset, hbudget⟩
  · cases hnone.symm.trans h
  · rw [h] at hstops
    cases hstops with
    | fault hread => exact readAt_ne_emptyActionChain table last hread
  · cases hbudget.symm.trans h

theorem selector_eq_zero_iff {first? : Option Word} {action : Action}
    (h : determine table first? = .ok action) : action.selector = 0 ↔ action = .cleanup := by
  cases action with
  | cleanup => exact ⟨fun _ => rfl, fun _ => rfl⟩
  | catches filter =>
      have hne : filter ≠ 0 := (Int64.ne_of_lt (determine_catches h)).symm
      exact ⟨fun hzero => absurd hzero hne, fun heq => by cases heq⟩

/-- The action of a chain is the result of reading it without a budget, if it
ends, and the budget's fault if it does not. So a catch has a positive filter,
a selector of zero asks for cleanup, and no chain is found empty. -/
theorem budget_refuses_endless_only (table : Bytes) (first : Word) :
    (∀ links result, Ends table links first result →
      determine table (some first) = result) ∧
    (Endless table first →
      ∃ offset, determine table (some first) = .error (.actionOutOfRange offset)) ∧
    (Endless table first ↔ ¬ ∃ links result, Ends table links first result) ∧
    ∀ first?,
      (∀ filter, determine table first? = .ok (.catches filter) → 0 < filter) ∧
      (∀ action, determine table first? = .ok action →
        (action.selector = 0 ↔ action = .cleanup)) ∧
      determine table first? ≠ .error .emptyActionChain := by
  refine ⟨fun _ _ hends => hends.determine, Endless.determine, ⟨?_, ?_⟩, fun first? => ?_⟩
  · rintro hendless ⟨links, result, hends⟩
    exact hends.not_endless hendless
  · exact (ends_or_endless table first).resolve_left
  · exact ⟨fun _ => determine_catches, fun _ => selector_eq_zero_iff,
      determine_ne_emptyActionChain table first?⟩

/-- Records at 0 and 2, of which the second leads back to 1, into the link of
the first. All four bytes belong to links that are followed. -/
def overlappingTable : Bytes := [0x00, 0x01, 0x00, 0x7e]

/-- The record leads to itself. -/
def circularTable : Bytes := [0x00, 0x7f]

/-- The overlapping records take the whole budget and still decide, while the
circular one is refused. -/
theorem overlapping_decides_circular_refused :
    Ends overlappingTable (overlappingTable.length / 2) 0 (.ok (.catches 1)) ∧
    determine overlappingTable (some 0) = .ok (.catches 1) ∧
    Endless circularTable 0 ∧
    ∃ offset, determine circularTable (some 0) = .error (.actionOutOfRange offset) := by
  have hfirst : Continues overlappingTable 0 2 := ⟨⟨0, some 2⟩, by cbv, rfl, rfl⟩
  have hsecond : Continues overlappingTable 2 1 := ⟨⟨0, some 1⟩, by cbv, rfl, rfl⟩
  have hlast : readAt overlappingTable 1 = .ok ⟨1, none⟩ := by cbv
  have hends : Ends overlappingTable 2 0 (.ok (.catches 1)) :=
    .further hfirst (.further hsecond (.here (.catches hlast (by decide))))
  have hendless : Endless circularTable 0 :=
    ⟨fun _ => 0, rfl, fun _ => ⟨⟨0, some 0⟩, by cbv, rfl, rfl⟩⟩
  exact ⟨hends, (budget_refuses_endless_only overlappingTable 0).1 2 _ hends, hendless,
    (budget_refuses_endless_only circularTable 0).2.1 hendless⟩

end Action
end StackUnwind
