import StackUnwind.Code.Classifier
import Mathlib.Algebra.Group.Nat.Defs
import Mathlib.Data.List.Basic
import Mathlib.Tactic.SplitIfs

/-!
# Looking up code regions

A region is registered after a look at the two neighbours it would get, and an
address is looked up in the last region that does not start behind it. Both
are enough because every table that registering and retiring lead to is in
order: each region ends before any later one starts. Regions of no bytes and
regions cut off at the largest word are included. An empty region may share
its start with another one, and then stands in front of it.

Where several regions start at the address that is retired, the last of them
goes. The tables that can arise are taken more widely, with any choice among
the regions at the address.
-/
namespace StackUnwind

namespace CodeRegion

theorem start_le_stop (region : CodeRegion) : region.start ≤ region.stop := by
  have hstart := region.start.toNat_lt
  unfold stop Word.addSat
  rw [UInt64.le_iff_toNat_le]
  split_ifs with h
  · rw [UInt64.toNat_add, Nat.mod_eq_of_lt h]
    omega
  · change region.start.toNat ≤ 2 ^ 64 - 1
    omega

theorem contains_iff (region : CodeRegion) (pc : Word) :
    region.contains pc = true ↔ region.start ≤ pc ∧ pc < region.stop := by
  simp [contains]

end CodeRegion

namespace RegionTable

/-- Every region ends before any later one starts. -/
def Ordered (regions : List CodeRegion) : Prop :=
  regions.Pairwise fun r s => r.stop ≤ s.start

section
variable {regions before after : List CodeRegion} {region : CodeRegion} {pc : Word}

theorem Ordered.stop_le_last (h : Ordered regions) {last : CodeRegion}
    (hlast : regions.getLast? = some last) : ∀ r ∈ regions, r.stop ≤ last.stop := by
  obtain ⟨front, rfl⟩ := List.getLast?_eq_some_iff.mp hlast
  have hfront := (List.pairwise_append.mp h).2.2
  intro r hr
  rcases List.mem_append.mp hr with hr | hr
  · exact UInt64.le_trans (hfront r hr last List.mem_cons_self) last.start_le_stop
  · rw [List.mem_singleton.mp hr]
    exact UInt64.le_refl _

theorem Ordered.head_le_start (h : Ordered regions) {first : CodeRegion}
    (hfirst : regions.head? = some first) : ∀ r ∈ regions, first.start ≤ r.start := by
  obtain ⟨rest, rfl⟩ := List.head?_eq_some_iff.mp hfirst
  have hrest := (List.pairwise_cons.mp h).1
  intro r hr
  rcases List.mem_cons.mp hr with rfl | hr
  · exact UInt64.le_refl _
  · exact UInt64.le_trans first.start_le_stop (hrest r hr)

theorem Ordered.sorted (h : Ordered regions) :
    regions.Pairwise fun r s => r.start.toNat ≤ s.start.toNat :=
  h.imp fun {r _} hapart => UInt64.le_iff_toNat_le.mp (UInt64.le_trans r.start_le_stop hapart)

/-- A region that stays clear of its two neighbours stays clear of all. -/
theorem Ordered.insert (h : Ordered (before ++ after))
    (hprevious : ∀ r, before.getLast? = some r → r.stop ≤ region.start)
    (hnext : ∀ r, after.head? = some r → region.stop ≤ r.start) :
    Ordered (before ++ region :: after) := by
  obtain ⟨hbefore, hafter, hacross⟩ := List.pairwise_append.mp h
  have hleft : ∀ r ∈ before, r.stop ≤ region.start := by
    intro r hr
    cases hlast : before.getLast? with
    | none =>
        rw [List.getLast?_eq_none_iff.mp hlast] at hr
        cases hr
    | some last =>
        exact UInt64.le_trans (Ordered.stop_le_last hbefore hlast r hr) (hprevious last hlast)
  have hright : ∀ r ∈ after, region.stop ≤ r.start := by
    intro r hr
    cases hfirst : after.head? with
    | none =>
        rw [List.head?_eq_none_iff.mp hfirst] at hr
        cases hr
    | some first =>
        exact UInt64.le_trans (hnext first hfirst) (Ordered.head_le_start hafter hfirst r hr)
  refine List.pairwise_append.mpr ⟨hbefore, List.pairwise_cons.mpr ⟨hright, hafter⟩, ?_⟩
  intro r hr s hs
  rcases List.mem_cons.mp hs with rfl | hs
  · exact hleft r hr
  · exact hacross r hr s hs

/-- No two regions of an ordered table contain one address. -/
theorem Ordered.unique (h : Ordered regions) {i j : Nat} {r s : CodeRegion}
    (hr : regions[i]? = some r) (hs : regions[j]? = some s) (hrpc : r.contains pc = true)
    (hspc : s.contains pc = true) : i = j := by
  rw [CodeRegion.contains_iff] at hrpc hspc
  obtain ⟨hi, rfl⟩ := List.getElem?_eq_some_iff.mp hr
  obtain ⟨hj, rfl⟩ := List.getElem?_eq_some_iff.mp hs
  have hapart := List.pairwise_iff_getElem.mp h
  rcases Nat.lt_trichotomy i j with hlt | heq | hgt
  · have hle := UInt64.le_trans (hapart i j hi hj hlt) hspc.1
    exact absurd hrpc.2 (UInt64.not_lt.mpr hle)
  · exact heq
  · have hle := UInt64.le_trans (hapart j i hj hi hgt) hrpc.1
    exact absurd hspc.2 (UInt64.not_lt.mpr hle)

end

/-! Registering and retiring -/

/-- A registration is accepted when the region stays clear of the neighbours
it gets in front of the first region that does not start before it. -/
theorem register_eq_ok_iff {table next : RegionTable} {region : CodeRegion} :
    let before := table.regions.takeWhile fun r => r.start < region.start
    let after := table.regions.dropWhile fun r => r.start < region.start
    table.register region = .ok next ↔
      (∀ r, before.getLast? = some r → r.stop ≤ region.start) ∧
        (∀ r, after.head? = some r → region.stop ≤ r.start) ∧
        next = ⟨before ++ region :: after⟩ := by
  intro before after
  have hprevious : (before.getLast?.any fun r => region.start < r.stop) = false ↔
      ∀ r, before.getLast? = some r → r.stop ≤ region.start := by
    cases before.getLast? <;> simp
  have hnext : (after.head?.any fun r => r.start < region.stop) = false ↔
      ∀ r, after.head? = some r → region.stop ≤ r.start := by
    cases after.head? <;> simp
  have hregister : table.register region =
      if (before.getLast?.any fun r => region.start < r.stop) ||
          (after.head?.any fun r => r.start < region.stop)
        then .error (.regionOverlap region.start region.stop)
        else .ok ⟨before ++ region :: after⟩ := rfl
  rw [← hprevious, ← hnext, ← and_assoc, ← Bool.or_eq_false_iff, hregister]
  split_ifs with hmeets
  · simp [hmeets]
  · simp [hmeets, eq_comm]

theorem Ordered.register {table next : RegionTable} {region : CodeRegion}
    (h : Ordered table.regions) (hregister : table.register region = .ok next) :
    Ordered next.regions := by
  obtain ⟨hprevious, hnext, rfl⟩ := register_eq_ok_iff.mp hregister
  refine Ordered.insert ?_ hprevious hnext
  rwa [List.takeWhile_append_dropWhile]

/-- A region that starts at the address is removed. -/
def Retires (table : RegionTable) (start : Word) (next : RegionTable) : Prop :=
  ∃ front region back, table.regions = front ++ region :: back ∧ region.start = start ∧
    next.regions = front ++ back

/-- The table can arise from the empty one. -/
inductive Reachable : RegionTable → Prop
  | empty : Reachable {}
  | registered {table next} (region : CodeRegion) (htable : Reachable table)
      (hregister : table.register region = .ok next) : Reachable next
  | retired {table start next} (htable : Reachable table) (hretire : table.Retires start next) :
      Reachable next

theorem Reachable.ordered {table : RegionTable} (h : Reachable table) : Ordered table.regions := by
  induction h with
  | empty => exact List.Pairwise.nil
  | registered region _ hregister ih => exact ih.register hregister
  | retired _ hretire ih =>
      obtain ⟨front, region, back, hregions, -, hrest⟩ := hretire
      rw [hregions] at ih
      rw [hrest]
      exact ih.sublist (List.Sublist.append_left (List.sublist_cons_self region back) front)

/-- Retiring leaves the table as it is where no region starts at the address, and
otherwise takes out the last one that does. -/
theorem retire_cases {table : RegionTable} (h : Ordered table.regions) (start : Word) :
    ((∀ r ∈ table.regions, r.start ≠ start) ∧ table.startingAt? start = none ∧
        table.retire start = table) ∨
      ∃ front region back, table.regions = front ++ region :: back ∧ region.start = start ∧
        (∀ r ∈ back, start < r.start) ∧ table.startingAt? start = some region ∧
        table.retire start = ⟨front ++ back⟩ := by
  rcases Search.placeOf?_cases h.sorted start.toNat with
    ⟨hplace, hothers⟩ | ⟨front, region, back, hregions, hstart, hback, hplace⟩
  · rw [← placeOf?] at hplace
    refine .inl ⟨fun r hr heq => hothers r hr (congrArg UInt64.toNat heq), ?_, ?_⟩
    · rw [startingAt?, hplace, Option.bind_none]
    · rw [RegionTable.retire, hplace]
  · rw [← placeOf?] at hplace
    refine .inr ⟨front, region, back, hregions, UInt64.toNat_inj.mp hstart,
      fun r hr => UInt64.lt_iff_toNat_lt.mpr (hback r hr), ?_, ?_⟩
    · rw [startingAt?, hplace, Option.bind_some, hregions,
        List.getElem?_append_right (Nat.le_refl _), Nat.sub_self, List.getElem?_cons_zero]
    · rw [RegionTable.retire, hplace]
      simp only [hregions, List.eraseIdx_append_of_length_le (Nat.le_refl _), Nat.sub_self,
        List.eraseIdx_cons_zero]

theorem Reachable.retire {table : RegionTable} (h : Reachable table) (start : Word) :
    Reachable (table.retire start) := by
  rcases retire_cases h.ordered start with
    ⟨-, -, hsame⟩ | ⟨front, region, back, hregions, hstart, -, -, hrest⟩
  · rwa [hsame]
  · exact h.retired ⟨front, region, back, hregions, hstart, congrArg RegionTable.regions hrest⟩

/-! Lookup -/

section
variable {table : RegionTable} {region : CodeRegion} {pc : Word}

theorem lookup_some (h : table.lookup? pc = some region) :
    region ∈ table.regions ∧ region.contains pc = true := by
  obtain ⟨hlast, hcontains⟩ := Option.filter_eq_some_iff.mp h
  have hmem := List.mem_of_getLast? hlast
  exact ⟨(List.takeWhile_prefix _).subset hmem, hcontains⟩

/-- In an ordered table all regions up to the one that contains the address
start at or before it, and all later ones behind it. -/
theorem lookup_of_mem (h : Ordered table.regions) (hmem : region ∈ table.regions)
    (hcontains : region.contains pc = true) : table.lookup? pc = some region := by
  obtain ⟨front, back, hregions⟩ := List.append_of_mem hmem
  rw [hregions] at h
  obtain ⟨hstart, hstop⟩ := (region.contains_iff pc).mp hcontains
  obtain ⟨-, htail, hacross⟩ := List.pairwise_append.mp h
  have hfront : ∀ r ∈ front, decide (r.start ≤ pc) = true := by
    intro r hr
    have hle := UInt64.le_trans r.start_le_stop (hacross r hr region List.mem_cons_self)
    exact decide_eq_true (UInt64.le_trans hle hstart)
  have hback : back.takeWhile (fun r => decide (r.start ≤ pc)) = [] := by
    cases back with
    | nil => rfl
    | cons s rest =>
        have hle := (List.pairwise_cons.mp htail).1 s List.mem_cons_self
        have hbehind : ¬ s.start ≤ pc := UInt64.not_le.mpr (UInt64.lt_of_lt_of_le hstop hle)
        simp [hbehind]
  have htake : table.regions.takeWhile (fun r => decide (r.start ≤ pc)) = front ++ [region] := by
    rw [hregions, List.takeWhile_append_of_pos hfront]
    simp [hstart, hback]
  rw [lookup?, htake, List.getLast?_concat, Option.filter_some, if_pos hcontains]

theorem lookup_eq_some_iff (h : Ordered table.regions) :
    table.lookup? pc = some region ↔ region ∈ table.regions ∧ region.contains pc = true :=
  ⟨lookup_some, fun hr => lookup_of_mem h hr.1 hr.2⟩

theorem lookup_eq_none_iff (h : Ordered table.regions) :
    table.lookup? pc = none ↔ ∀ region ∈ table.regions, region.contains pc = false := by
  rw [Option.eq_none_iff_forall_ne_some]
  refine ⟨fun hnone region hmem => ?_, fun hall region hsome => ?_⟩
  · rw [Bool.eq_false_iff]
    exact fun hcontains => hnone region (lookup_of_mem h hmem hcontains)
  · obtain ⟨hmem, hcontains⟩ := lookup_some hsome
    rw [hall region hmem] at hcontains
    cases hcontains

end

end RegionTable

namespace Classifier

theorem classify_eq_compiled_iff {classifier : Classifier} {pc : Word} {region : CodeRegion} :
    classifier.classify pc = .compiled region ↔
      classifier.regions.lookup? pc = some region := by
  unfold classify
  cases classifier.regions.lookup? pc with
  | some found => simp
  | none =>
      simp only [reduceCtorEq, iff_false]
      unfold classifyFixed
      split_ifs <;> simp

theorem classify_eq_fixed_iff {classifier : Classifier} {pc : Word} :
    classifier.classify pc = classifier.classifyFixed pc ↔
      classifier.regions.lookup? pc = none := by
  cases hlookup : classifier.regions.lookup? pc with
  | some found =>
      have hcompiled := classify_eq_compiled_iff.mpr hlookup
      simp only [hcompiled, reduceCtorEq, iff_false]
      unfold classifyFixed
      split_ifs <;> simp
  | none => simp [classify, hlookup]

end Classifier

namespace RegionTable

/-- In every table that can arise, each region ends before any later one
starts, so that no address lies in two of them. Looking up an address gives a
region exactly when the region is live and contains the address. An address is
classified as compiled in that region, and by the fixed ranges exactly when no
live region contains it. Retiring leads to a table for which all this holds
again, whether or not a region starts at the address. -/
theorem lookup_exact {table : RegionTable} (h : table.Reachable) :
    (table.regions.Pairwise fun r s => r.stop ≤ s.start) ∧
    (∀ start, (table.retire start).Reachable) ∧
    (∀ pc (i j : Nat) (r s : CodeRegion), table.regions[i]? = some r →
      table.regions[j]? = some s → r.contains pc = true → s.contains pc = true → i = j) ∧
    ∀ pc,
      (∀ region, table.lookup? pc = some region ↔
        region ∈ table.regions ∧ region.contains pc = true) ∧
      ∀ classifier : Classifier, classifier.regions = table →
        (∀ region, classifier.classify pc = .compiled region ↔
          region ∈ table.regions ∧ region.contains pc = true) ∧
        (classifier.classify pc = classifier.classifyFixed pc ↔
          ∀ region ∈ table.regions, region.contains pc = false) := by
  have hordered := h.ordered
  refine ⟨hordered, h.retire, fun pc i j r s hr hs => hordered.unique hr hs,
    fun pc => ⟨fun region => ?_, ?_⟩⟩
  · exact lookup_eq_some_iff hordered
  · rintro classifier rfl
    refine ⟨fun region => ?_, ?_⟩
    · rw [Classifier.classify_eq_compiled_iff]
      exact lookup_eq_some_iff hordered
    · rw [Classifier.classify_eq_fixed_iff]
      exact lookup_eq_none_iff hordered

def filledRegion : CodeRegion :=
  { start := 0x1000, size := 0x100, tier := .baseline, functionId := 1 }

/-- Shares its start with the region above and has no bytes. -/
def emptyRegion : CodeRegion :=
  { start := 0x1000, size := 0, tier := .baseline, functionId := 2 }

/-- Would reach beyond the largest word. -/
def topRegion : CodeRegion :=
  { start := 0xfffffffffffffff0, size := 0x100, tier := .optimized, functionId := 3 }

def crowdedTable : RegionTable :=
  ⟨[emptyRegion, filledRegion, topRegion]⟩

theorem crowdedTable_reachable : Reachable crowdedTable := by
  have htop : Reachable ⟨[topRegion]⟩ := .registered topRegion .empty rfl
  have hfilled : Reachable ⟨[filledRegion, topRegion]⟩ := .registered filledRegion htop rfl
  exact .registered emptyRegion hfilled rfl

/-- Of the two regions at one start the filled one goes, which is the last. -/
theorem crowdedTable_retire : crowdedTable.retire 0x1000 = ⟨[emptyRegion, topRegion]⟩ := by
  decide +kernel

/-- The empty region hides nothing of the one behind it, and the largest word
lies in no region. Once the filled region is retired, no region is left in which
its start lies. -/
theorem crowdedTable_lookup :
    crowdedTable.lookup? 0x1000 = some filledRegion ∧
    crowdedTable.lookup? 0xfffffffffffffffe = some topRegion ∧
    (∀ classifier : Classifier, classifier.regions = crowdedTable →
      classifier.classify 0xffffffffffffffff = classifier.classifyFixed 0xffffffffffffffff) ∧
    ∀ classifier : Classifier, classifier.regions = crowdedTable.retire 0x1000 →
      classifier.classify 0x1000 = classifier.classifyFixed 0x1000 := by
  obtain ⟨-, hretire, -, hlookup⟩ := lookup_exact crowdedTable_reachable
  obtain ⟨-, -, -, hlater⟩ := lookup_exact (hretire 0x1000)
  refine ⟨((hlookup 0x1000).1 filledRegion).mpr (by decide),
    ((hlookup 0xfffffffffffffffe).1 topRegion).mpr (by decide),
    fun classifier hregions => ?_, fun classifier hregions => ?_⟩
  · exact ((hlookup 0xffffffffffffffff).2 classifier hregions).2.mpr (by decide)
  · refine ((hlater 0x1000).2 classifier hregions).2.mpr ?_
    rw [crowdedTable_retire]
    decide

end RegionTable
end StackUnwind
