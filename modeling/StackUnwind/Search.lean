/-!
# Search by halving

Lists that are sorted by a key are searched by halving. The search ends at the
last entry that is not behind the key, which is the last one with the key if any
entry has it. Keys are natural numbers and may be repeated.
-/
namespace StackUnwind.Search

/-- The last of `size` places from `base` on that is not behind, or `base` if all of
them are, found by halving. It takes the places that are behind to come last. -/
def bisect (isBehind : Nat → Bool) (base size : Nat) : Nat :=
  if 1 < size then
    let middle := base + size / 2
    bisect isBehind (if isBehind middle then base else middle) (size - size / 2)
  else base
termination_by size

/-- The place of an entry with a key. -/
def placeOf? {α : Type} (keyOf : α → Nat) (entries : List α) (key : Nat) : Option Nat :=
  let place := bisect (fun place => entries[place]?.all (key < keyOf ·)) 0 entries.length
  if entries[place]?.any (keyOf · == key) then some place else none

/-- If what is behind stays behind, then halving ends at the last place that is not,
or where it began. -/
theorem bisect_spec (isBehind : Nat → Bool)
    (hmono : ∀ i j, i ≤ j → isBehind i = true → isBehind j = true) (base size : Nat) :
    (bisect isBehind base size = base ∨ isBehind (bisect isBehind base size) = false) ∧
      ∀ place, bisect isBehind base size < place → place < base + size →
        isBehind place = true := by
  fun_induction bisect isBehind base size with
  | case1 base size hsize middle ih =>
      have hmiddle : middle = base + size / 2 := rfl
      obtain ⟨hend, hafter⟩ := ih
      cases hbehind : isBehind middle with
      | true =>
          simp only [hbehind, if_true] at hend hafter ⊢
          refine ⟨hend, fun place hplace hlast => ?_⟩
          by_cases hkept : place < base + (size - size / 2)
          · exact hafter place hplace hkept
          · exact hmono middle place (by omega) hbehind
      | false =>
          simp only [hbehind, Bool.false_eq_true, if_false, dite_false] at hend hafter ⊢
          refine ⟨.inr ?_, fun place hplace hlast => hafter place hplace (by omega)⟩
          rcases hend with hend | hend
          · rw [hend, hbehind]
          · exact hend
  | case2 base size hsize =>
      exact ⟨.inl rfl, fun place hplace hlast => by omega⟩

section
variable {α : Type} {keyOf : α → Nat} {entries : List α} {key : Nat}

theorem key_le_of_place_le (hsorted : entries.Pairwise fun a b => keyOf a ≤ keyOf b) {i j : Nat}
    {first second : α} (hle : i ≤ j) (hfirst : entries[i]? = some first)
    (hsecond : entries[j]? = some second) : keyOf first ≤ keyOf second := by
  obtain ⟨hi, rfl⟩ := List.getElem?_eq_some_iff.mp hfirst
  obtain ⟨hj, rfl⟩ := List.getElem?_eq_some_iff.mp hsecond
  rcases Nat.eq_or_lt_of_le hle with rfl | hlt
  · exact Nat.le_refl _
  · exact List.pairwise_iff_getElem.mp hsorted i j hi hj hlt

/-- Places without an entry are behind every key. -/
theorem behind_mono (hsorted : entries.Pairwise fun a b => keyOf a ≤ keyOf b) (i j : Nat)
    (hle : i ≤ j) (h : entries[i]?.all (key < keyOf ·) = true) :
    entries[j]?.all (key < keyOf ·) = true := by
  cases hj : entries[j]? with
  | none => rfl
  | some second =>
      obtain ⟨hlength, -⟩ := List.getElem?_eq_some_iff.mp hj
      have hi : entries[i]? = some entries[i] :=
        List.getElem?_eq_getElem (Nat.lt_of_le_of_lt hle hlength)
      have hkeys := key_le_of_place_le hsorted hle hi hj
      rw [hi] at h
      simp only [Option.all_some, decide_eq_true_eq] at h ⊢
      omega

/-- No entry has the key, or the search finds the last of those that have it. -/
theorem placeOf?_cases (hsorted : entries.Pairwise fun a b => keyOf a ≤ keyOf b) (key : Nat) :
    (placeOf? keyOf entries key = none ∧ ∀ entry ∈ entries, keyOf entry ≠ key) ∨
      ∃ front entry back, entries = front ++ entry :: back ∧ keyOf entry = key ∧
        (∀ later ∈ back, key < keyOf later) ∧
        placeOf? keyOf entries key = some front.length := by
  unfold placeOf?
  dsimp only
  obtain ⟨hend, hafter⟩ := bisect_spec (fun place => entries[place]?.all (key < keyOf ·))
    (behind_mono hsorted) 0 entries.length
  generalize bisect _ 0 entries.length = found at hend hafter ⊢
  by_cases hhit : entries[found]?.any (keyOf · == key) = true
  · obtain ⟨entry, hentry, hkey⟩ := (Option.any_eq_true _ _).mp hhit
    obtain ⟨hlt, rfl⟩ := List.getElem?_eq_some_iff.mp hentry
    refine .inr ⟨entries.take found, entries[found], entries.drop (found + 1), ?_,
      eq_of_beq hkey, fun later hlater => ?_, ?_⟩
    · rw [List.getElem_cons_drop, List.take_append_drop]
    · obtain ⟨i, hi⟩ := List.mem_iff_getElem?.mp hlater
      rw [List.getElem?_drop] at hi
      obtain ⟨hplace, -⟩ := List.getElem?_eq_some_iff.mp hi
      have hbehind := hafter (found + 1 + i) (by omega) (by omega)
      rw [hi] at hbehind
      simpa using hbehind
    · rw [if_pos hhit, List.length_take_of_le (Nat.le_of_lt hlt)]
  · refine .inl ⟨if_neg hhit, fun entry hmem hkey => hhit ?_⟩
    obtain ⟨i, hi⟩ := List.mem_iff_getElem?.mp hmem
    obtain ⟨hilt, -⟩ := List.getElem?_eq_some_iff.mp hi
    -- An entry with the key is not behind it, so the search cannot end in front of one.
    have hle : i ≤ found := by
      refine Nat.not_lt.mp fun hlt => ?_
      have hbehind := hafter i hlt (by omega)
      rw [hi] at hbehind
      simp [hkey] at hbehind
    rcases hend with hzero | hnot
    · obtain rfl : i = found := by omega
      simp [hi, hkey]
    · cases hfound : entries[found]? with
      | none => simp [hfound] at hnot
      | some last =>
          have hlast : keyOf last ≤ key := by simpa [hfound] using hnot
          have hfirst := key_le_of_place_le hsorted hle hi hfound
          simp only [Option.any_some, beq_iff_eq]
          omega

end

end StackUnwind.Search
