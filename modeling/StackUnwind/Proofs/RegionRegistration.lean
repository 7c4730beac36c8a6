import StackUnwind.Proofs.RegionLookup
import Mathlib

/-!
# Registering code regions

A new region is compared with the two neighbours it would get. In a table that
is in order this decides about all regions: one that reaches the new region
from the left is the last that starts before it, and if any region starts in
the new one, so does the first that does not start before it.

A region without bytes meets a region in whose inside it starts, although the
two share no address. Where both have bytes, to meet is to share an address.
Regions with bytes that are pairwise apart have one order only, so a table does
not show in which order they were registered. Two regions at the largest word
are an exception. Their bytes are cut off, so that they have no address to share,
and the one that is registered later goes in front.
-/
namespace StackUnwind

namespace CodeRegion

/-- `region` starts behind the start of `other` and before its end, or has the
start of `other` in it. -/
def Meets (region other : CodeRegion) : Prop :=
  (other.start < region.start ∧ region.start < other.stop) ∨
    (region.start ≤ other.start ∧ other.start < region.stop)

instance (region other : CodeRegion) : Decidable (region.Meets other) :=
  inferInstanceAs (Decidable (_ ∨ _))

/-- No address lies in both regions. -/
def Apart (region other : CodeRegion) : Prop :=
  ∀ pc, ¬ (region.contains pc = true ∧ other.contains pc = true)

theorem Apart.symm {region other : CodeRegion} (h : region.Apart other) : other.Apart region :=
  fun pc hpc => h pc hpc.symm

theorem apart_of_stop_le {region other : CodeRegion} (h : region.stop ≤ other.start) :
    region.Apart other := by
  rintro pc ⟨hregion, hother⟩
  rw [contains_iff] at hregion hother
  exact UInt64.not_lt.mpr (UInt64.le_trans h hother.1) hregion.2

theorem stop_toNat (region : CodeRegion) :
    region.stop.toNat = min (region.start.toNat + region.size.toNat) (2 ^ 64 - 1) := by
  unfold stop Word.addSat
  split_ifs with h
  · rw [UInt64.toNat_add]
    change region.start.toNat + region.size.toNat < 2 ^ 64 at h
    omega
  · change ¬ region.start.toNat + region.size.toNat < 2 ^ 64 at h
    change 2 ^ 64 - 1 = _
    omega

/-- Bytes fit behind a start that is not the largest word. -/
theorem start_lt_stop {region : CodeRegion} (hsize : region.size ≠ 0) {limit : Word}
    (hlimit : region.start < limit) : region.start < region.stop := by
  have hpos : region.size.toNat ≠ 0 := fun hzero => hsize (UInt64.toNat_inj.mp hzero)
  have hbound := limit.toNat_lt
  rw [UInt64.lt_iff_toNat_lt] at hlimit ⊢
  rw [stop_toNat]
  omega

/-- For regions that are not empty, to meet is to share an address. -/
theorem meets_iff_shares {region other : CodeRegion} (hregion : region.size ≠ 0)
    (hother : other.size ≠ 0) :
    region.Meets other ↔ ∃ pc, region.contains pc = true ∧ other.contains pc = true := by
  simp only [contains_iff]
  constructor
  · rintro (⟨hbehind, hinside⟩ | ⟨hbefore, hinside⟩)
    · exact ⟨region.start, ⟨UInt64.le_refl _, start_lt_stop hregion hinside⟩,
        UInt64.le_of_lt hbehind, hinside⟩
    · exact ⟨other.start, ⟨hbefore, hinside⟩, UInt64.le_refl _, start_lt_stop hother hinside⟩
  · rintro ⟨pc, ⟨hstart, hstop⟩, hstart', hstop'⟩
    by_cases hbehind : other.start < region.start
    · exact .inl ⟨hbehind, UInt64.lt_of_le_of_lt hstart hstop'⟩
    · exact .inr ⟨UInt64.not_lt.mp hbehind, UInt64.lt_of_le_of_lt hstart' hstop⟩

theorem apart_iff_not_meets {region other : CodeRegion} (hregion : region.size ≠ 0)
    (hother : other.size ≠ 0) : region.Apart other ↔ ¬ region.Meets other := by
  rw [meets_iff_shares hregion hother, not_exists]
  exact Iff.rfl

/-- Only at the largest word can a region with bytes end where it starts. -/
theorem start_eq_top {region : CodeRegion} (hsize : region.size ≠ 0)
    (hend : region.stop ≤ region.start) : region.start = Word.top := by
  by_contra hne
  have hlt : region.start < Word.top := by
    rw [UInt64.lt_iff_toNat_lt]
    have hbound := region.start.toNat_lt
    have hne' : region.start.toNat ≠ Word.top.toNat := fun heq => hne (UInt64.toNat_inj.mp heq)
    have htop : Word.top.toNat = 2 ^ 64 - 1 := rfl
    omega
  exact UInt64.not_lt.mpr hend (start_lt_stop hsize hlt)

end CodeRegion

namespace RegionTable

section
variable {table : RegionTable} {region : CodeRegion}

/-- In a table in order a region stays clear of its two neighbours exactly when
it meets no region at all. -/
theorem clear_of_neighbours_iff (h : Ordered table.regions) :
    ((∀ r, (table.regions.takeWhile fun r => r.start < region.start).getLast? = some r →
        r.stop ≤ region.start) ∧
      ∀ r, (table.regions.dropWhile fun r => r.start < region.start).head? = some r →
        region.stop ≤ r.start) ↔
      ∀ r ∈ table.regions, ¬ region.Meets r := by
  have hsplit := List.takeWhile_append_dropWhile
    (p := fun r : CodeRegion => decide (r.start < region.start)) (l := table.regions)
  generalize hbefore : table.regions.takeWhile (fun r => r.start < region.start) = before
    at hsplit ⊢
  generalize hafter : table.regions.dropWhile (fun r => r.start < region.start) = after
    at hsplit ⊢
  have hbehind : ∀ r ∈ before, r.start < region.start := by
    intro r hr
    rw [← hbefore] at hr
    have hholds := List.mem_takeWhile_imp (p := fun r : CodeRegion => r.start < region.start) hr
    exact of_decide_eq_true hholds
  rw [← hsplit] at h ⊢
  obtain ⟨hleft, hright, -⟩ := List.pairwise_append.mp h
  constructor
  · rintro ⟨hprevious, hnext⟩ r hr hmeets
    rcases List.mem_append.mp hr with hr | hr
    · obtain ⟨last, hlast⟩ : ∃ last, before.getLast? = some last :=
        ⟨_, List.getLast?_eq_some_getLast (List.ne_nil_of_mem hr)⟩
      have hend : r.stop ≤ region.start :=
        UInt64.le_trans (Ordered.stop_le_last hleft hlast r hr) (hprevious last hlast)
      rcases hmeets with ⟨-, hinside⟩ | ⟨hstart, -⟩
      · exact UInt64.not_lt.mpr hend hinside
      · exact UInt64.not_lt.mpr hstart (hbehind r hr)
    · obtain ⟨first, hfirst⟩ : ∃ first, after.head? = some first :=
        ⟨_, List.head?_eq_some_head (List.ne_nil_of_mem hr)⟩
      have hend : region.stop ≤ r.start :=
        UInt64.le_trans (hnext first hfirst) (Ordered.head_le_start hright hfirst r hr)
      rcases hmeets with ⟨hstart, -⟩ | ⟨-, hinside⟩
      · exact UInt64.not_lt.mpr (UInt64.le_trans region.start_le_stop hend) hstart
      · exact UInt64.not_lt.mpr hend hinside
  · intro hclear
    constructor
    · intro r hr
      have hmem := List.mem_of_getLast? hr
      refine UInt64.not_lt.mp fun hinside => ?_
      exact hclear r (List.mem_append_left _ hmem) (.inl ⟨hbehind r hmem, hinside⟩)
    · intro r hr
      have hmem := List.mem_of_head? hr
      have hstart : region.start ≤ r.start := by
        have hfails := List.head?_dropWhile_not
          (fun r : CodeRegion => decide (r.start < region.start)) table.regions
        rw [hafter, hr] at hfails
        exact UInt64.not_lt.mp (of_decide_eq_false hfails)
      refine UInt64.not_lt.mp fun hinside => ?_
      exact hclear r (List.mem_append_right _ hmem) (.inr ⟨hstart, hinside⟩)

/-- A region that meets none goes in somewhere between the others. -/
theorem register_of_clear (h : Ordered table.regions)
    (hclear : ∀ r ∈ table.regions, ¬ region.Meets r) :
    ∃ front back, table.regions = front ++ back ∧
      table.register region = .ok ⟨front ++ region :: back⟩ := by
  obtain ⟨hprevious, hnext⟩ := (clear_of_neighbours_iff h).mpr hclear
  exact ⟨_, _, List.takeWhile_append_dropWhile.symm,
    register_eq_ok_iff.mpr ⟨hprevious, hnext, rfl⟩⟩

/-- There is one fault that a registration can have. -/
theorem register_ok_or_overlap (table : RegionTable) (region : CodeRegion) :
    (∃ next, table.register region = .ok next) ∨
      table.register region = .error (.regionOverlap region.start region.stop) := by
  unfold register
  dsimp only
  split_ifs
  · exact .inr rfl
  · exact .inl ⟨_, rfl⟩

theorem register_eq_overlap_iff (h : Ordered table.regions) :
    table.register region = .error (.regionOverlap region.start region.stop) ↔
      ∃ r ∈ table.regions, region.Meets r := by
  constructor
  · intro herror
    by_contra hnone
    push Not at hnone
    obtain ⟨front, back, -, hok⟩ := register_of_clear h hnone
    rw [hok] at herror
    cases herror
  · rintro ⟨r, hmem, hmeets⟩
    rcases register_ok_or_overlap table region with ⟨next, hok⟩ | herror
    · obtain ⟨hprevious, hnext, -⟩ := register_eq_ok_iff.mp hok
      exact absurd hmeets ((clear_of_neighbours_iff h).mp ⟨hprevious, hnext⟩ r hmem)
    · exact herror

/-! Retiring -/

/-- The one region that starts at an address is found and removed. -/
theorem retire_of_single (h : Ordered table.regions) {start : Word}
    (hone : table.regions.filter (fun r => r.start == start) = [region]) :
    table.startingAt? start = some region ∧
      table.retire start = ⟨table.regions.filter fun r => r.start != start⟩ := by
  rcases retire_cases h start with
    ⟨hnone, -, -⟩ | ⟨front, found, back, hregions, hstart, hback, hfound, hretire⟩
  · have hmem : region ∈ table.regions.filter (fun r => r.start == start) := by simp [hone]
    obtain ⟨hlive, heq⟩ := List.mem_filter.mp hmem
    exact absurd (eq_of_beq heq) (hnone region hlive)
  · have hmatches : (found.start == start) = true := beq_iff_eq.mpr hstart
    rw [hregions, List.filter_append, List.filter_cons, if_pos hmatches] at hone
    obtain ⟨hfront, hrest⟩ : front.filter (fun r => r.start == start) = [] ∧
        found :: back.filter (fun r => r.start == start) = [region] := by
      rcases List.append_eq_singleton_iff.mp hone with hsplit | ⟨-, hempty⟩
      · exact hsplit
      · cases hempty
    obtain ⟨rfl, hnothing⟩ := List.cons_eq_cons.mp hrest
    have hothers : ∀ r ∈ front ++ back, (r.start != start) = true := by
      intro r hr
      rcases List.mem_append.mp hr with hr | hr
      · simpa [bne] using List.filter_eq_nil_iff.mp hfront r hr
      · simpa [bne] using List.filter_eq_nil_iff.mp hnothing r hr
    refine ⟨hfound, ?_⟩
    rw [hretire, hregions, List.filter_append, List.filter_cons_of_neg (by simp [hstart]),
      ← List.filter_append, List.filter_eq_self.mpr hothers]

theorem retire_of_none (h : Ordered table.regions) {start : Word}
    (hnone : ∀ r ∈ table.regions, r.start ≠ start) :
    table.startingAt? start = none ∧ table.retire start = table := by
  rcases retire_cases h start with ⟨-, hsame⟩ | ⟨front, found, back, hregions, hstart, -⟩
  · exact hsame
  · exact absurd hstart (hnone found (by rw [hregions]; exact List.mem_append_cons_self))

end

/-! Registering many regions -/

/-- Registers regions one after the other, up to the first that is refused. -/
def registerAll (table : RegionTable) (added : List CodeRegion) : Except Fault RegionTable :=
  added.foldlM register table

theorem eq_of_at_top {regions : List CodeRegion} {r s : CodeRegion}
    (htop : regions.countP (fun r => r.start == Word.top) ≤ 1) (hr : r ∈ regions)
    (hs : s ∈ regions) (hrtop : r.start = Word.top) (hstop : s.start = Word.top) : r = s := by
  rw [List.countP_eq_length_filter] at htop
  have hr' : r ∈ regions.filter fun r => r.start == Word.top :=
    List.mem_filter.mpr ⟨hr, beq_iff_eq.mpr hrtop⟩
  have hs' : s ∈ regions.filter fun r => r.start == Word.top :=
    List.mem_filter.mpr ⟨hs, beq_iff_eq.mpr hstop⟩
  obtain ⟨only, honly⟩ := List.length_eq_one_iff.mp
    (Nat.le_antisymm htop (List.length_pos_of_mem hr'))
  rw [honly, List.mem_singleton] at hr' hs'
  rw [hr', hs']

/-- Regions with bytes have one order only, unless two of them are at the largest
word. -/
theorem Ordered.eq_of_perm {regions regions' : List CodeRegion} (h : Ordered regions)
    (h' : Ordered regions') (hsize : ∀ r ∈ regions, r.size ≠ 0)
    (htop : regions.countP (fun r => r.start == Word.top) ≤ 1)
    (hperm : regions.Perm regions') : regions = regions' := by
  refine List.Perm.eq_of_pairwise ?_ h h' hperm
  intro r s hr hs hrs hsr
  have hs' := hperm.mem_iff.mpr hs
  -- Each ends at or before the start of the other, so neither has an address.
  have hrend : r.stop ≤ r.start := UInt64.le_trans hrs (UInt64.le_trans s.start_le_stop hsr)
  have hsend : s.stop ≤ s.start := UInt64.le_trans hsr (UInt64.le_trans r.start_le_stop hrs)
  exact eq_of_at_top htop hr hs' (CodeRegion.start_eq_top (hsize r hr) hrend)
    (CodeRegion.start_eq_top (hsize s hs') hsend)

/-- Of two regions at the largest word the one that is registered later goes in front. -/
theorem registerAll_at_top {older newer : CodeRegion} (holder : older.start = Word.top)
    (hnewer : newer.start = Word.top) :
    ({} : RegionTable).registerAll [older, newer] = .ok ⟨[newer, older]⟩ := by
  have hstop : newer.stop ≤ Word.top := by
    have hbound := newer.stop.toNat_lt
    have htop : Word.top.toNat = 2 ^ 64 - 1 := rfl
    rw [UInt64.le_iff_toNat_le]
    omega
  have hfirst : register {} older = .ok ⟨[older]⟩ := rfl
  have hsecond : register ⟨[older]⟩ newer = .ok ⟨[newer, older]⟩ := by
    refine register_eq_ok_iff.mpr ?_
    simp [holder, hnewer, hstop]
  simp only [registerAll, List.foldlM_cons, List.foldlM_nil, hfirst]
  exact congrArg (· >>= pure) hsecond

/-- Regions that meet neither each other nor one that is live are all taken. -/
theorem exists_registerAll {table : RegionTable} (h : Ordered table.regions)
    {added : List CodeRegion} (hsize : ∀ r ∈ table.regions ++ added, r.size ≠ 0)
    (hapart : (table.regions ++ added).Pairwise CodeRegion.Apart) :
    ∃ final, table.registerAll added = .ok final ∧ Ordered final.regions ∧
      final.regions.Perm (table.regions ++ added) := by
  induction added generalizing table with
  | nil =>
      refine ⟨table, rfl, h, ?_⟩
      rw [List.append_nil]
  | cons region added ih =>
      have hregion := hsize region (List.mem_append_right _ List.mem_cons_self)
      have hclear : ∀ r ∈ table.regions, ¬ region.Meets r := by
        intro r hr
        have hacross := (List.pairwise_append.mp hapart).2.2 r hr region List.mem_cons_self
        exact (CodeRegion.apart_iff_not_meets hregion
          (hsize r (List.mem_append_left _ hr))).mp hacross.symm
      obtain ⟨front, back, hregions, hregister⟩ := register_of_clear h hclear
      have hordered : Ordered (front ++ region :: back) := h.register hregister
      have hperm :
          ((front ++ region :: back) ++ added).Perm (table.regions ++ region :: added) := by
        have hmiddle : (front ++ region :: back).Perm (region :: table.regions) :=
          hregions ▸ List.perm_middle
        exact (hmiddle.append_right added).trans List.perm_middle.symm
      obtain ⟨final, hfinal, hfinalOrdered, hfinalPerm⟩ :=
        ih hordered (fun r hr => hsize r (hperm.subset hr))
          (hapart.perm hperm.symm fun hrs => hrs.symm)
      refine ⟨final, ?_, hfinalOrdered, hfinalPerm.trans hperm⟩
      rw [registerAll, List.foldlM_cons, hregister]
      exact hfinal

/-- A table after an attempt to register a region, which stays as it was when
the region is refused. -/
def afterRegister (table : RegionTable) (region : CodeRegion) : RegionTable :=
  match table.register region with
  | .ok next => next
  | .error _ => table

/-- In every table that can arise, a region is refused exactly when it meets
some live region, which for regions with bytes is to share an address with it.
A refused region leaves the table as it is, and any other is added to it with
nothing else changed. Retiring removes the region that starts at the address if
there is one such region, and does nothing if there is none. Regions with bytes
that are apart from each other and from all live ones, at most one of them at the
largest word, are taken in any order, and every order leads to the same table. -/
theorem register_exact {table : RegionTable} (h : table.Reachable) :
    (∀ region : CodeRegion,
      (table.register region = .error (.regionOverlap region.start region.stop) ↔
        ∃ r ∈ table.regions, region.Meets r) ∧
      (∀ r ∈ table.regions, r.size ≠ 0 → region.size ≠ 0 →
        (region.Meets r ↔ ∃ pc, region.contains pc = true ∧ r.contains pc = true)) ∧
      ((∃ r ∈ table.regions, region.Meets r) → table.afterRegister region = table) ∧
      ((∀ r ∈ table.regions, ¬ region.Meets r) → ∃ front back,
        table.regions = front ++ back ∧
          table.register region = .ok ⟨front ++ region :: back⟩)) ∧
    (∀ start : Word,
      (∀ region, table.regions.filter (fun r => r.start == start) = [region] →
        table.startingAt? start = some region ∧
          table.retire start = ⟨table.regions.filter fun r => r.start != start⟩) ∧
      ((∀ r ∈ table.regions, r.start ≠ start) →
        table.startingAt? start = none ∧ table.retire start = table)) ∧
    ∀ added : List CodeRegion, (∀ r ∈ table.regions ++ added, r.size ≠ 0) →
      (table.regions ++ added).Pairwise CodeRegion.Apart →
      (table.regions ++ added).countP (fun r => r.start == Word.top) ≤ 1 →
      ∃ final : RegionTable, final.regions.Perm (table.regions ++ added) ∧
        ∀ order : List CodeRegion, order.Perm added → table.registerAll order = .ok final := by
  have hordered := h.ordered
  refine ⟨fun region => ⟨register_eq_overlap_iff hordered, ?_, ?_, register_of_clear hordered⟩,
    fun start => ⟨fun region => retire_of_single hordered, retire_of_none hordered⟩, ?_⟩
  · exact fun r _ hr hregion => CodeRegion.meets_iff_shares hregion hr
  · intro hmeets
    rw [afterRegister, (register_eq_overlap_iff hordered).mpr hmeets]
  · intro added hsize hapart htop
    obtain ⟨final, -, hfinal, hperm⟩ := exists_registerAll hordered hsize hapart
    refine ⟨final, hperm, fun order horder => ?_⟩
    have hsame := horder.append_left table.regions
    obtain ⟨other, hok, hother, hotherPerm⟩ := exists_registerAll hordered
      (fun r hr => hsize r (hsame.subset hr)) (hapart.perm hsame.symm fun hrs => hrs.symm)
    have hregions : other.regions = final.regions := by
      refine hother.eq_of_perm hfinal
        (fun r hr => hsize r (hsame.subset (hotherPerm.subset hr))) ?_
        (hotherPerm.trans (hsame.trans hperm.symm))
      rwa [(hotherPerm.trans hsame).countP_eq]
    rw [hok]
    exact congrArg Except.ok (congrArg RegionTable.mk hregions)

/-- Has no bytes and starts inside `filledRegion`. -/
def innerRegion : CodeRegion :=
  { start := 0x1080, size := 0, tier := .baseline, functionId := 4 }

/-- Starts where `filledRegion` ends. -/
def nextRegion : CodeRegion :=
  { start := 0x1100, size := 0x80, tier := .optimized, functionId := 5 }

/-- Has a byte that no address belongs to. -/
def lastRegion : CodeRegion :=
  { start := 0xffffffffffffffff, size := 1, tier := .baseline, functionId := 6 }

/-- An empty region is refused inside another one, with which it shares no
address, and a region with bytes where it is live already. One that follows the
end of another is taken. Retiring the region at the top leaves the two others,
and regions with bytes are taken in any order, also with one at the largest
word. -/
theorem crowdedTable_registers :
    crowdedTable.register innerRegion = .error (.regionOverlap 0x1080 0x1080) ∧
      innerRegion.Apart filledRegion ∧
      crowdedTable.afterRegister filledRegion = crowdedTable ∧
      (∃ front back, crowdedTable.regions = front ++ back ∧
        crowdedTable.register nextRegion = .ok ⟨front ++ nextRegion :: back⟩) ∧
      crowdedTable.retire topRegion.start = ⟨[emptyRegion, filledRegion]⟩ ∧
      ∃ final : RegionTable,
        ({} : RegionTable).registerAll [topRegion, lastRegion, filledRegion, nextRegion] =
          .ok final ∧
        ({} : RegionTable).registerAll [nextRegion, topRegion, filledRegion, lastRegion] =
          .ok final := by
  obtain ⟨hregister, hretire, -⟩ := register_exact crowdedTable_reachable
  obtain ⟨-, -, hall⟩ := register_exact Reachable.empty
  have hordered : Ordered [filledRegion, nextRegion, topRegion, lastRegion] := by
    unfold Ordered
    decide
  obtain ⟨final, -, hfinal⟩ := hall [filledRegion, nextRegion, topRegion, lastRegion] (by decide)
    (hordered.imp CodeRegion.apart_of_stop_le) (by decide)
  refine ⟨(hregister innerRegion).1.mpr ⟨filledRegion, by decide, by decide⟩, ?_,
    (hregister filledRegion).2.2.1 ⟨filledRegion, by decide, by decide⟩,
    (hregister nextRegion).2.2.2 (by decide), ((hretire topRegion.start).1 topRegion rfl).2,
    final, hfinal _ (by decide), hfinal _ (by decide)⟩
  rintro pc ⟨hinner, -⟩
  obtain ⟨hstart, hstop⟩ := (innerRegion.contains_iff pc).mp hinner
  exact UInt64.not_lt.mpr hstart hstop

end RegionTable
end StackUnwind
