import StackUnwind.Proofs.CallFrameRows
import StackUnwind.Proofs.Consumption
import Mathlib

/-!
# The index of a call-frame section

A section keeps its descriptions in the order of their starts, and those with
one start in the order in which they were read. An address is looked up by the
last description that starts at or before it, and by no other. Nothing keeps
descriptions from overlapping, though. Where one starts inside another and ends
before it, it hides the rest of the other: the addresses there have a
description, but none is found for them. The main statement is that no address
is missed in any other way, and that the description that is found always
contains the address.
-/
namespace StackUnwind
namespace CallFrame

/-! The descriptions of a section -/

/-- Reading on from a place in the section gives these descriptions, up to the
end of the bytes or an entry of length zero. -/
inductive Image.Lists (image : Image) : ByteStream → List Description → Prop
  | used {s} (hempty : s.rest = []) : image.Lists s []
  | closed {s t} (hread : Entry.read? { sectionAddress := image.address } s = .ok none t) :
      image.Lists s []
  | common {s t entry descriptions}
      (hread : Entry.read? { sectionAddress := image.address } s = .ok (some (.common entry)) t)
      (hrest : image.Lists t descriptions) : image.Lists s descriptions
  | description {s t offset body common description descriptions}
      (hread : Entry.read? { sectionAddress := image.address } s =
        .ok (some (.description offset body)) t)
      (hcommon : image.commonAt offset = .ok common)
      (hdescription : (Description.read image common).outcome body = .ok description)
      (hrest : image.Lists t descriptions) : image.Lists s (description :: descriptions)

theorem Image.Lists.of_empty {image : Image} {s : ByteStream} {descriptions : List Description}
    (h : image.Lists s descriptions) (hempty : s.rest = []) : descriptions = [] := by
  cases h with
  | used | closed => rfl
  | common hread | description hread =>
      exact absurd hread ((Entry.read?_consumes _).ne_ok_of_empty hempty)

/-- As many rounds as bytes suffice, because every entry takes some of them. -/
theorem Image.descriptionsWithin_eq_ok_iff {image : Image} {rounds : Nat} {s : ByteStream}
    {descriptions : List Description} (hrounds : s.rest.length ≤ rounds) :
    image.descriptionsWithin rounds s = .ok descriptions ↔ image.Lists s descriptions := by
  induction rounds generalizing s descriptions with
  | zero =>
      have hempty : s.rest = [] := List.length_eq_zero_iff.mp (Nat.le_zero.mp hrounds)
      constructor
      · intro h
        cases h
        exact .used hempty
      · intro h
        rw [h.of_empty hempty]
        rfl
  | succ rounds ih =>
      have hless : ∀ {found? t}, Entry.read? { sectionAddress := image.address } s = .ok found? t →
          t.rest.length ≤ rounds := by
        intro found? t hread
        have hlt := Entry.read?_consumes _ s found? t hread
        omega
      constructor
      · intro h
        unfold descriptionsWithin at h
        split_ifs at h with hempty
        · cases h
          exact .used (List.isEmpty_iff.mp hempty)
        · split at h
          · cases h
          · rename_i hread
            cases h
            exact .closed hread
          · rename_i hread
            exact .common hread ((ih (hless hread)).mp h)
          · rename_i hread
            obtain ⟨common, hcommon, h⟩ := exists_of_bind_ok h
            obtain ⟨description, hdescription, h⟩ := exists_of_bind_ok h
            obtain ⟨rest, hrest, h⟩ := exists_of_bind_ok h
            cases h
            exact .description hread hcommon hdescription ((ih (hless hread)).mp hrest)
      · intro h
        unfold descriptionsWithin
        split_ifs with hempty
        · rw [h.of_empty (List.isEmpty_iff.mp hempty)]
        · cases h with
          | used hnone => exact absurd (List.isEmpty_iff.mpr hnone) hempty
          | closed hread => rw [hread]
          | common hread hrest =>
              rw [hread]
              exact (ih (hless hread)).mpr hrest
          | description hread hcommon hdescription hrest =>
              rw [hread]
              simp only [hcommon, hdescription, (ih (hless hread)).mpr hrest, bind, Except.bind]
              rfl

theorem Image.descriptions_eq_ok_iff {image : Image} {descriptions : List Description} :
    image.descriptions = .ok descriptions ↔
      image.Lists (.ofBytes image.bytes) descriptions :=
  descriptionsWithin_eq_ok_iff (Nat.le_refl _)

/-! The last one to start -/

/-- The address lies in the code of the description. -/
def Description.Contains (description : Description) (pc : Word) : Prop :=
  description.start ≤ pc ∧ pc < description.stop

/-- Of the descriptions that start at or before an address, none starts behind
this one, and none of those that follow it starts where it does. -/
def LastToStart (descriptions : List Description) (pc : Word) (d : Description) : Prop :=
  d.start ≤ pc ∧ ∃ before after, descriptions = before ++ d :: after ∧
    (∀ e ∈ before, e.start ≤ pc → e.start ≤ d.start) ∧
    ∀ e ∈ after, e.start ≤ pc → e.start < d.start

variable {descriptions : List Description} {pc : Word} {d e : Description}

theorem LastToStart.mem (h : LastToStart descriptions pc d) : d ∈ descriptions := by
  obtain ⟨-, before, after, rfl, -⟩ := h
  simp

theorem LastToStart.start_le (h : LastToStart descriptions pc d) (he : e ∈ descriptions)
    (hstart : e.start ≤ pc) : e.start ≤ d.start := by
  obtain ⟨-, before, after, rfl, hbefore, hafter⟩ := h
  rcases List.mem_append.mp he with he | he
  · exact hbefore e he hstart
  · rcases List.mem_cons.mp he with rfl | he
    · exact UInt64.le_refl _
    · exact UInt64.le_of_lt (hafter e he hstart)

theorem exists_lastToStart (he : e ∈ descriptions) (hstart : e.start ≤ pc) :
    ∃ d, LastToStart descriptions pc d := by
  induction descriptions generalizing e with
  | nil => cases he
  | cons first rest ih =>
      by_cases hrest : ∃ d, LastToStart rest pc d
      · obtain ⟨d, hd⟩ := hrest
        by_cases hfirst : first.start ≤ pc ∧ d.start < first.start
        · refine ⟨first, hfirst.1, [], rest, rfl, List.forall_mem_nil _, ?_⟩
          intro other hother hle
          exact UInt64.lt_of_le_of_lt (hd.start_le hother hle) hfirst.2
        · obtain ⟨hle, before, after, rfl, hbefore, hafter⟩ := hd
          refine ⟨d, hle, first :: before, after, rfl, ?_, hafter⟩
          rw [List.forall_mem_cons]
          exact ⟨fun hfirstle => UInt64.not_lt.mp fun hlt => hfirst ⟨hfirstle, hlt⟩, hbefore⟩
      · have hnone : ∀ other ∈ rest, ¬other.start ≤ pc :=
          fun other hother hle => hrest (ih hother hle)
        rcases List.mem_cons.mp he with rfl | he
        · exact ⟨e, hstart, [], rest, rfl, List.forall_mem_nil _,
            fun other hother hle => absurd hle (hnone other hother)⟩
        · exact absurd hstart (hnone e he)

/-! Searching the sorted list -/

/-- The descriptions in the order of the index. -/
def inOrder (descriptions : List Description) : List Description :=
  descriptions.mergeSort fun a b => a.start ≤ b.start

theorem start_le_trans (a b c : Description) (hab : decide (a.start ≤ b.start) = true)
    (hbc : decide (b.start ≤ c.start) = true) : decide (a.start ≤ c.start) = true := by
  rw [decide_eq_true_iff] at hab hbc ⊢
  exact UInt64.le_trans hab hbc

theorem start_le_total (a b : Description) :
    (decide (a.start ≤ b.start) || decide (b.start ≤ a.start)) = true := by
  rw [Bool.or_eq_true, decide_eq_true_iff, decide_eq_true_iff]
  exact UInt64.le_total _ _

theorem pairwise_inOrder (descriptions : List Description) :
    (inOrder descriptions).Pairwise fun a b => a.start ≤ b.start := by
  have hpairwise := List.pairwise_mergeSort start_le_trans start_le_total descriptions
  exact hpairwise.imp of_decide_eq_true

theorem mem_inOrder : d ∈ inOrder descriptions ↔ d ∈ descriptions :=
  (List.mergeSort_perm _ _).mem_iff

/-- Descriptions with one start keep their order. -/
theorem filter_inOrder (descriptions : List Description) (start : Word) :
    ((inOrder descriptions).filter fun d => d.start = start) =
      descriptions.filter fun d => d.start = start := by
  have hsorted : (descriptions.filter fun d => d.start = start).Pairwise
      fun a b => decide (a.start ≤ b.start) = true := by
    rw [List.pairwise_filter]
    refine List.pairwise_of_forall fun a b ha hb => ?_
    rw [decide_eq_true_iff] at ha hb ⊢
    exact ha.trans hb.symm ▸ UInt64.le_refl _
  have hsublist := (List.sublist_mergeSort start_le_trans start_le_total hsorted
    List.filter_sublist).filter fun d => d.start = start
  rw [List.filter_filter] at hsublist
  simp only [Bool.and_self] at hsublist
  refine (hsublist.eq_of_length ?_).symm
  exact ((List.mergeSort_perm descriptions _).filter _).length_eq.symm

theorem takeWhile_eq_filter (h : descriptions.Pairwise fun a b => a.start ≤ b.start) :
    (descriptions.takeWhile fun d => d.start ≤ pc) = descriptions.filter fun d => d.start ≤ pc := by
  induction descriptions with
  | nil => rfl
  | cons first rest ih =>
      obtain ⟨hfirst, hrest⟩ := List.pairwise_cons.mp h
      by_cases hle : first.start ≤ pc
      · rw [List.takeWhile_cons_of_pos (by simpa using hle),
          List.filter_cons_of_pos (by simpa using hle), ih hrest]
      · have hnone : ∀ d ∈ rest, ¬decide (d.start ≤ pc) = true := by
          intro d hd hdle
          exact hle (UInt64.le_trans (hfirst d hd) (of_decide_eq_true hdle))
        rw [List.takeWhile_cons_of_neg (by simpa using hle),
          List.filter_cons_of_neg (by simpa using hle), List.filter_eq_nil_iff.mpr hnone]

/-- In the order of the index, the last of those with the latest start is the
last of them in the section. -/
theorem LastToStart.getLast?_filter (h : LastToStart descriptions pc d) :
    ((inOrder descriptions).filter fun e => e.start = d.start).getLast? = some d := by
  obtain ⟨hstart, before, after, rfl, -, hafter⟩ := h
  have hnone : ∀ e ∈ after, ¬decide (e.start = d.start) = true := by
    intro e he heq
    have hsame := of_decide_eq_true heq
    have hlt := hafter e he (hsame ▸ hstart)
    rw [hsame] at hlt
    exact UInt64.lt_irrefl _ hlt
  rw [filter_inOrder, List.filter_append, List.filter_cons_of_pos (by simp),
    List.filter_eq_nil_iff.mpr hnone, List.getLast?_concat]

/-- The search ends at the last description to start. -/
theorem LastToStart.getLast? (h : LastToStart descriptions pc d) :
    ((inOrder descriptions).takeWhile fun e => e.start ≤ pc).getLast? = some d := by
  rw [takeWhile_eq_filter (pairwise_inOrder descriptions)]
  have hd : d ∈ (inOrder descriptions).filter fun e => e.start ≤ pc :=
    List.mem_filter.mpr ⟨mem_inOrder.mpr h.mem, decide_eq_true h.1⟩
  have hsorted := (pairwise_inOrder descriptions).filter fun e => decide (e.start ≤ pc)
  cases hlast : ((inOrder descriptions).filter fun e => e.start ≤ pc).getLast? with
  | none =>
      rw [List.getLast?_eq_none_iff.mp hlast] at hd
      cases hd
  | some last =>
      obtain ⟨hmem, hle⟩ := List.mem_filter.mp (List.mem_of_getLast? hlast)
      obtain ⟨front, hfront⟩ := List.getLast?_eq_some_iff.mp hlast
      have hstart : last.start = d.start := by
        apply UInt64.le_antisymm
        · exact h.start_le (mem_inOrder.mp hmem) (of_decide_eq_true hle)
        · rw [hfront] at hd hsorted
          rcases List.mem_append.mp hd with hd | hd
          · exact (List.pairwise_append.mp hsorted).2.2 d hd last List.mem_cons_self
          · rw [List.mem_singleton.mp hd]
            exact UInt64.le_refl _
      -- Both ends are kept when only the descriptions with this start are left.
      have hsame : ((inOrder descriptions).filter fun e => e.start = d.start) =
          ((inOrder descriptions).filter fun e => e.start ≤ pc).filter
            fun e => e.start = d.start := by
        rw [List.filter_filter]
        apply List.filter_congr
        intro e _
        by_cases heq : e.start = d.start
        · simp [heq, h.1]
        · simp [heq]
      have hfilter := h.getLast?_filter
      rw [hsame, hfront, List.filter_append, List.filter_cons_of_pos (by simpa using hstart),
        List.filter_nil, List.getLast?_concat] at hfilter
      exact hfilter

theorem getLast?_inOrder_iff :
    ((inOrder descriptions).takeWhile fun e => e.start ≤ pc).getLast? = some d ↔
      LastToStart descriptions pc d := by
  constructor
  · intro h
    have hmem := List.mem_of_getLast? h
    have hstart := List.mem_takeWhile_imp hmem
    have hd := mem_inOrder.mp ((List.takeWhile_prefix _).subset hmem)
    obtain ⟨last, hlast⟩ := exists_lastToStart hd (of_decide_eq_true hstart)
    cases hlast.getLast?.symm.trans h
    exact hlast
  · exact LastToStart.getLast?

/-! Finding an address -/

/-- A description contains the address, but the last one to start has ended
before it. -/
def Hidden (descriptions : List Description) (pc : Word) : Prop :=
  (∃ d ∈ descriptions, d.Contains pc) ∧
    ∃ last, LastToStart descriptions pc last ∧ last.stop ≤ pc

/-- No description that starts inside another ends before it. -/
def Staggered (descriptions : List Description) : Prop :=
  ∀ a ∈ descriptions, ∀ b ∈ descriptions, a.start ≤ b.start → b.start < a.stop → a.stop ≤ b.stop

theorem Staggered.not_hidden (h : Staggered descriptions) (pc : Word) :
    ¬Hidden descriptions pc := by
  rintro ⟨⟨d, hd, hstart, hstop⟩, last, hlast, hended⟩
  have hle : d.start ≤ last.start := hlast.start_le hd hstart
  have hinside : last.start < d.stop := UInt64.lt_of_le_of_lt hlast.1 hstop
  have hreach : d.stop ≤ last.stop := h d hd last hlast.mem hle hinside
  exact UInt64.not_le.mpr hstop (UInt64.le_trans hreach hended)

namespace Section

variable {bytes : Bytes} {address : Word} {sec : Section}

theorem ofBytes_eq_ok (h : ofBytes bytes address = .ok sec) :
    ∃ descriptions, Image.Lists ⟨bytes, address⟩ (.ofBytes bytes) descriptions ∧
      sec = ⟨address, inOrder descriptions⟩ := by
  unfold ofBytes at h
  split at h
  · rename_i descriptions hread
    cases h
    exact ⟨descriptions, Image.descriptions_eq_ok_iff.mp hread, rfl⟩
  · cases h

theorem find?_inOrder_iff :
    (Section.mk address (inOrder descriptions)).find? pc = some d ↔
      LastToStart descriptions pc d ∧ d.Contains pc := by
  rw [find?, Option.filter_eq_some_iff, getLast?_inOrder_iff, decide_eq_true_iff]
  constructor
  · intro ⟨hlast, hstop⟩
    exact ⟨hlast, hlast.1, hstop⟩
  · intro ⟨hlast, hcontains⟩
    exact ⟨hlast, hcontains.2⟩

theorem covers_inOrder_iff :
    (Section.mk address (inOrder descriptions)).covers pc = true ↔
      (∃ d ∈ descriptions, d.Contains pc) ∧ ¬Hidden descriptions pc := by
  rw [covers, Option.isSome_iff_exists]
  constructor
  · rintro ⟨d, hfound⟩
    obtain ⟨hlast, hcontains⟩ := find?_inOrder_iff.mp hfound
    refine ⟨⟨d, hlast.mem, hcontains⟩, ?_⟩
    rintro ⟨-, last, hother, hended⟩
    cases hlast.getLast?.symm.trans hother.getLast?
    exact UInt64.not_le.mpr hcontains.2 hended
  · rintro ⟨⟨d, hd, hcontains⟩, hnot⟩
    obtain ⟨last, hlast⟩ := exists_lastToStart hd hcontains.1
    have hstop : pc < last.stop :=
      UInt64.not_le.mp fun hended => hnot ⟨⟨d, hd, hcontains⟩, last, hlast, hended⟩
    exact ⟨last, find?_inOrder_iff.mpr ⟨hlast, hlast.1, hstop⟩⟩

/-- Whatever the order of the descriptions, the one that is found contains the address. -/
theorem contains_of_find? (h : sec.find? pc = some d) : d.Contains pc := by
  obtain ⟨hlast, hstop⟩ := Option.filter_eq_some_iff.mp h
  have hstart := List.mem_takeWhile_imp (List.mem_of_getLast? hlast)
  exact ⟨of_decide_eq_true hstart, of_decide_eq_true hstop⟩

theorem exists_of_step {file : RegisterFile} {memory : Memory} {caller : Caller}
    (h : sec.step pc file memory = .ok (some caller)) :
    ∃ d row, sec.find? pc = some d ∧
      d.row? { sectionAddress := sec.address } pc = .ok (some row) ∧
      row.apply d.common.returnColumn pc file memory = .ok caller := by
  unfold step at h
  split at h
  · cases h
  · rename_i d hfound
    split at h
    · cases h
    · cases h
    · rename_i row hrow
      obtain ⟨applied, happly, heq⟩ := exists_of_map_ok h
      cases heq
      exact ⟨d, row, hfound, hrow, happly⟩

/-- A section finds an address by the last of its descriptions to start at or
before it, provided that this one contains the address. So the addresses that
are found are those that some description contains, except where the last one
to start has ended already. There is no such address when no description that
starts inside another ends before it. A step is always by a row of a
description that contains the address. -/
theorem missed_only_if_hidden (h : ofBytes bytes address = .ok sec) :
    ∃ descriptions, Image.Lists ⟨bytes, address⟩ (.ofBytes bytes) descriptions ∧
      (∀ pc,
        (∀ d, sec.find? pc = some d ↔ LastToStart descriptions pc d ∧ d.Contains pc) ∧
        ((sec.covers pc = true ↔ ∃ d ∈ descriptions, d.Contains pc) ↔ ¬Hidden descriptions pc) ∧
        ∀ file memory caller, sec.step pc file memory = .ok (some caller) →
          ∃ d ∈ descriptions, d.Contains pc ∧
            ∃ row, d.row? { sectionAddress := address } pc = .ok (some row) ∧
              row.apply d.common.returnColumn pc file memory = .ok caller) ∧
      (Staggered descriptions →
        ∀ pc, sec.covers pc = true ↔ ∃ d ∈ descriptions, d.Contains pc) := by
  obtain ⟨descriptions, hlists, rfl⟩ := ofBytes_eq_ok h
  refine ⟨descriptions, hlists, fun pc => ⟨fun d => find?_inOrder_iff, ?_, ?_⟩, ?_⟩
  · rw [covers_inOrder_iff]
    constructor
    · intro hclaim hhidden
      exact (hclaim.mpr hhidden.1).2 hhidden
    · intro hnot
      exact and_iff_left hnot
  · intro file memory caller hstep
    obtain ⟨d, row, hfound, hrow, happly⟩ := exists_of_step hstep
    obtain ⟨hlast, hcontains⟩ := find?_inOrder_iff.mp hfound
    exact ⟨d, hlast.mem, hcontains, row, hrow, happly⟩
  · intro hstaggered pc
    rw [covers_inOrder_iff]
    exact and_iff_left (hstaggered.not_hidden pc)

/-- A common entry and two descriptions, of which the second starts and ends
inside the first. -/
def nestedBytes : Bytes :=
  toLittleEndian 4 9 ++ toLittleEndian 4 0 ++ [1, 0, 1, 0x78, 16] ++
    (toLittleEndian 4 20 ++ toLittleEndian 4 17 ++ toLittleEndian 8 0x1000 ++
      toLittleEndian 8 0x100) ++
    (toLittleEndian 4 20 ++ toLittleEndian 4 41 ++ toLittleEndian 8 0x1010 ++
      toLittleEndian 8 0x10)

def nestedCommon : Common where
  codeAlignment := 1
  dataAlignment := -8
  returnColumn := .returnAddress
  augmented := false
  handlerEncoding? := none
  addressEncoding? := none
  program := ⟨[], 13⟩

def outerDescription : Description := ⟨0x1000, 0x100, nestedCommon, ⟨[], 37⟩⟩

def innerDescription : Description := ⟨0x1010, 0x10, nestedCommon, ⟨[], 61⟩⟩

theorem nestedBytes_read :
    Image.descriptions ⟨nestedBytes, 0x3000⟩ = .ok [outerDescription, innerDescription] := by
  rfl

theorem ofBytes_nestedBytes :
    ofBytes nestedBytes 0x3000 = .ok ⟨0x3000, inOrder [outerDescription, innerDescription]⟩ := by
  unfold ofBytes
  rw [nestedBytes_read]
  rfl

theorem innerDescription_last {pc : Word} (hpc : innerDescription.start ≤ pc) :
    LastToStart [outerDescription, innerDescription] pc innerDescription := by
  refine ⟨hpc, [outerDescription], [], rfl, ?_, List.forall_mem_nil _⟩
  intro e he _
  rw [List.mem_singleton.mp he]
  decide

/-- Up to the end of the inner description every address is found. -/
theorem nestedBytes_found :
    ∃ sec, ofBytes nestedBytes 0x3000 = .ok sec ∧
      sec.find? 0x1008 = some outerDescription ∧ sec.find? 0x1018 = some innerDescription := by
  refine ⟨_, ofBytes_nestedBytes, ?_⟩
  obtain ⟨descriptions, hlists, hall, -⟩ := missed_only_if_hidden ofBytes_nestedBytes
  cases nestedBytes_read.symm.trans (Image.descriptions_eq_ok_iff.mpr hlists)
  have houter : LastToStart [outerDescription, innerDescription] 0x1008 outerDescription := by
    refine ⟨by decide, [], [innerDescription], rfl, List.forall_mem_nil _, ?_⟩
    intro e he hstart
    rw [List.mem_singleton.mp he] at hstart
    exact absurd hstart (by decide)
  constructor
  · exact ((hall 0x1008).1 outerDescription).mpr ⟨houter, by decide, by decide⟩
  · exact ((hall 0x1018).1 innerDescription).mpr
      ⟨innerDescription_last (by decide), by decide, by decide⟩

/-- Behind the inner description the outer one is hidden. -/
theorem nestedBytes_hide_outer :
    ∃ sec, ofBytes nestedBytes 0x3000 = .ok sec ∧
      Image.Lists ⟨nestedBytes, 0x3000⟩ (.ofBytes nestedBytes)
        [outerDescription, innerDescription] ∧
      outerDescription.Contains 0x1050 ∧ sec.covers 0x1050 = false := by
  have hcontains : outerDescription.Contains 0x1050 := ⟨by decide, by decide⟩
  refine ⟨_, ofBytes_nestedBytes, Image.descriptions_eq_ok_iff.mp nestedBytes_read, hcontains, ?_⟩
  rw [Bool.eq_false_iff]
  intro hcovers
  apply (covers_inOrder_iff.mp hcovers).2
  exact ⟨⟨outerDescription, List.mem_cons_self, hcontains⟩, innerDescription,
    innerDescription_last (by decide), by decide⟩

end Section

end CallFrame
end StackUnwind
