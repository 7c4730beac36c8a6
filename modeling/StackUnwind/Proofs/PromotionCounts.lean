import StackUnwind.Proofs.Reraise
import Mathlib

/-!
# Promotion over runs of a profile

A profile is used by recording exceptions of statements and by resetting
functions, in any order. What it knows of a statement depends on the records
since the last reset of its function and on nothing else. Their number is kept
up to the largest count, where it stays. So a record is flagged when it is the
one that brings the number to the threshold. The largest threshold is an
exception. Once it is reached every further record is flagged too, because the
count is still equal to it.
-/
namespace StackUnwind
namespace Profile

/-! Runs of calls -/

/-- What is done to a profile. -/
inductive Call where
  | record (key : StatementKey)
  | reset (function : Word)
  deriving DecidableEq, Repr

/-- Whether a call records the statement or resets its function. -/
def Call.concerns (key : StatementKey) : Call → Bool
  | .record recorded => recorded = key
  | .reset function => function = key.function

def perform (profile : Profile) : Call → Profile
  | .record key => profile.record key
  | .reset function => profile.reset function

/-- A new profile after some calls. -/
def after (threshold : UInt32) (calls : List Call) : Profile :=
  calls.foldl perform { threshold }

/-- How often a statement was recorded since its function was reset last. -/
def recordsSince (key : StatementKey) (calls : List Call) : Nat :=
  (calls.reverse.takeWhile (· ≠ .reset key.function)).count (.record key)

section
variable (threshold : UInt32) (key : StatementKey) (calls : List Call)

theorem after_concat (call : Call) :
    after threshold (calls ++ [call]) = (after threshold calls).perform call := by
  rw [after, List.foldl_concat, after]

theorem recordsSince_concat_reset :
    recordsSince key (calls ++ [.reset key.function]) = 0 := by
  simp [recordsSince]

theorem recordsSince_concat {call : Call} (h : call ≠ .reset key.function) :
    recordsSince key (calls ++ [call]) =
      recordsSince key calls + if call = .record key then 1 else 0 := by
  rw [recordsSince, List.reverse_concat, List.takeWhile_cons_of_pos (by simpa using h),
    List.count_cons, recordsSince]
  simp only [beq_iff_eq]

theorem recordsSince_filter :
    recordsSince key (calls.filter (·.concerns key)) = recordsSince key calls := by
  induction calls using List.reverseRecOn with
  | nil => rfl
  | append_singleton calls call ih =>
      rw [List.filter_append]
      by_cases hreset : call = .reset key.function
      · subst hreset
        rw [List.filter_cons_of_pos (by simp [Call.concerns]), List.filter_nil,
          recordsSince_concat_reset, recordsSince_concat_reset]
      · by_cases hconcerns : call.concerns key
        · rw [List.filter_cons_of_pos hconcerns, List.filter_nil, recordsSince_concat _ _ hreset,
            recordsSince_concat _ _ hreset, ih]
        · have hrecord : call ≠ .record key := by
            rintro rfl
            exact hconcerns (by simp [Call.concerns])
          rw [List.filter_cons_of_neg hconcerns, List.filter_nil, List.append_nil, ih,
            recordsSince_concat _ _ hreset, if_neg hrecord, Nat.add_zero]

/-- Without a reset the records add up. -/
theorem recordsSince_append {later : List Call} (h : .reset key.function ∉ later) :
    recordsSince key (calls ++ later) = recordsSince key calls + later.count (.record key) := by
  induction later using List.reverseRecOn with
  | nil => simp
  | append_singleton later call ih =>
      rw [List.mem_append, not_or, List.mem_singleton] at h
      rw [← List.append_assoc, recordsSince_concat _ _ (Ne.symm h.2), ih h.1, List.count_append,
        List.count_singleton, Nat.add_assoc]
      simp only [beq_iff_eq]

end

/-! Counts -/

theorem count_reset (profile : Profile) (function : Word) (key : StatementKey) :
    (profile.reset function).count key =
      if key.function = function then 0 else profile.count key := by
  unfold count reset
  dsimp only
  induction profile.counts with
  | nil => simp
  | cons entry rest ih =>
      obtain ⟨k, n⟩ := entry
      by_cases hk : k.function = function
      · rw [List.filter_cons_of_neg (by simpa using hk), ih]
        split_ifs with hkey
        · rfl
        · have hne : key ≠ k := fun heq => hkey (heq ▸ hk)
          rw [List.lookup_cons, beq_false_of_ne hne]
      · rw [List.filter_cons_of_pos (by simpa using hk), List.lookup_cons, List.lookup_cons]
        by_cases hkey : key = k
        · subst hkey
          simp [hk]
        · rw [beq_false_of_ne hkey]
          exact ih

/-- The largest count is kept, any other goes up by one. -/
theorem toNat_oneMore_eq_min (count : UInt32) :
    (oneMore count).toNat = min (count.toNat + 1) 0xffffffff := by
  by_cases h : count = 0xffffffff
  · subst h
    rfl
  · rw [toNat_oneMore h]
    have hne : count.toNat ≠ 0xffffffff := fun heq => h (UInt32.toNat_inj.mp heq)
    have hlt := count.toNat_lt
    omega

variable (threshold : UInt32) (key : StatementKey)

theorem threshold_after (calls : List Call) : (after threshold calls).threshold = threshold := by
  induction calls using List.reverseRecOn with
  | nil => rfl
  | append_singleton calls call ih =>
      rw [after_concat]
      cases call <;> exact ih

/-- The count is the number of records, as far as it can be counted. -/
theorem toNat_count_after (calls : List Call) :
    ((after threshold calls).count key).toNat = min (recordsSince key calls) 0xffffffff := by
  induction calls using List.reverseRecOn with
  | nil => rfl
  | append_singleton calls call ih =>
      rw [after_concat]
      cases call with
      | record recorded =>
          rw [recordsSince_concat _ _ (by simp), perform, count_record]
          by_cases hkey : key = recorded
          · subst hkey
            rw [if_pos rfl, if_pos rfl, toNat_oneMore_eq_min, ih]
            omega
          · rw [if_neg hkey, if_neg (by simpa using Ne.symm hkey), ih, Nat.add_zero]
      | reset function =>
          rw [perform, count_reset]
          by_cases hfunction : key.function = function
          · subst hfunction
            rw [if_pos rfl, recordsSince_concat_reset]
            rfl
          · rw [if_neg hfunction, recordsSince_concat _ _ (by simpa using Ne.symm hfunction),
              if_neg (by simp), ih, Nat.add_zero]

/-- A record is flagged if the count that it leaves is the threshold. -/
theorem promotes_after_iff (calls : List Call) :
    (after threshold calls).promotes key = true ↔
      threshold ≠ 0 ∧ min (recordsSince key calls + 1) 0xffffffff = threshold.toNat := by
  rw [promotes, threshold_after, Bool.and_eq_true, bne_iff_ne, beq_iff_eq, ← UInt32.toNat_inj,
    toNat_oneMore_eq_min, toNat_count_after]
  have hmin : min (min (recordsSince key calls) 0xffffffff + 1) 0xffffffff =
      min (recordsSince key calls + 1) 0xffffffff := by omega
  rw [hmin]

/-- Only the calls that concern a statement bear on its count. -/
theorem count_after_filter (calls : List Call) :
    (after threshold (calls.filter (·.concerns key))).count key =
      (after threshold calls).count key := by
  rw [← UInt32.toNat_inj, toNat_count_after, toNat_count_after, recordsSince_filter]

theorem promotes_after_filter (calls : List Call) :
    (after threshold (calls.filter (·.concerns key))).promotes key =
      (after threshold calls).promotes key := by
  rw [promotes, promotes, threshold_after, threshold_after, count_after_filter]

/-- A statement that was flagged is flagged again before its function is reset
only under the largest threshold, and then by every record. -/
theorem promotes_again_iff {calls later : List Call}
    (hflagged : (after threshold calls).promotes key = true)
    (hreset : .reset key.function ∉ later) :
    (after threshold (calls ++ .record key :: later)).promotes key = true ↔
      threshold = 0xffffffff := by
  obtain ⟨hzero, hreached⟩ := (promotes_after_iff threshold key calls).mp hflagged
  have hlater : .reset key.function ∉ Call.record key :: later :=
    List.not_mem_cons_of_ne_of_not_mem (by simp) hreset
  rw [promotes_after_iff, recordsSince_append key calls hlater, List.count_cons_self,
    and_iff_right hzero, ← UInt32.toNat_inj]
  have htop : (0xffffffff : UInt32).toNat = 0xffffffff := rfl
  -- Below the largest count one record more is too many; at it the count stays.
  omega

/-- A record of a statement is flagged exactly if the threshold is not zero and
the records since the last reset of its function, this one included, are as
many as the threshold says, or more than that if the threshold is the largest
count. So flagging is by the number of records exactly unless the largest
threshold was passed. Calls that concern other statements or functions change
neither the count nor what is flagged. Between two resets a statement is
flagged twice under the largest threshold only. -/
theorem flagged_at_threshold (calls : List Call) :
    let profile := after threshold calls
    let records := recordsSince key calls + 1
    (profile.promotes key = true ↔
      threshold ≠ 0 ∧
        (records = threshold.toNat ∨ threshold = 0xffffffff ∧ threshold.toNat < records)) ∧
    ((profile.promotes key = true ↔ threshold ≠ 0 ∧ records = threshold.toNat) ↔
      ¬(threshold = 0xffffffff ∧ threshold.toNat < records)) ∧
    ((after threshold (calls.filter (·.concerns key))).count key = profile.count key ∧
      (after threshold (calls.filter (·.concerns key))).promotes key = profile.promotes key) ∧
    ∀ later : List Call, .reset key.function ∉ later → profile.promotes key = true →
      ((after threshold (calls ++ .record key :: later)).promotes key = true ↔
        threshold = 0xffffffff) := by
  intro profile records
  have htop : (0xffffffff : UInt32).toNat = 0xffffffff := rfl
  have hbound := threshold.toNat_lt
  have hflag : profile.promotes key = true ↔
      threshold ≠ 0 ∧
        (records = threshold.toNat ∨ threshold = 0xffffffff ∧ threshold.toNat < records) := by
    rw [promotes_after_iff]
    refine and_congr_right fun _ => ?_
    rw [← UInt32.toNat_inj, htop]
    dsimp only [records]
    omega
  refine ⟨hflag, ?_, ⟨count_after_filter threshold key calls,
    promotes_after_filter threshold key calls⟩,
    fun later hreset hflagged => promotes_again_iff threshold key hflagged hreset⟩
  rw [hflag]
  constructor
  · rintro hclaim ⟨rfl, hpassed⟩
    have hexact := (hclaim.mp ⟨by decide, .inr ⟨rfl, hpassed⟩⟩).2
    omega
  · intro hnot
    rw [or_iff_left hnot]

/-- The third record since the reset is flagged, whatever happens to others,
and the fourth is not. -/
theorem thirdRecord_flagged :
    let key : StatementKey := ⟨7, 5⟩
    let calls : List Call :=
      [.record key, .record key, .reset 7, .record key, .record ⟨7, 6⟩, .reset 8, .record key]
    (after 3 calls).promotes key = true ∧
      (after 3 (calls ++ [.record key])).promotes key = false := by
  intro key calls
  obtain ⟨hflag, -, -, hagain⟩ := flagged_at_threshold 3 key calls
  have hflagged : (after 3 calls).promotes key = true :=
    hflag.mpr ⟨by decide, .inl (by decide)⟩
  have honce := hagain [] (List.not_mem_nil) hflagged
  refine ⟨hflagged, Bool.eq_false_iff.mpr fun htwice => ?_⟩
  exact absurd (honce.mp htwice) (by decide)

/-- Under the largest threshold a statement is flagged by two records in a row. -/
theorem top_flagged_twice :
    let key : StatementKey := ⟨7, 5⟩
    let calls := fun records => List.replicate records (Call.record key)
    (∀ records, recordsSince key (calls records) = records) ∧
      (after 0xffffffff (calls 0xfffffffe)).promotes key = true ∧
      (after 0xffffffff (calls 0xffffffff)).promotes key = true := by
  intro key calls
  have hrecords : ∀ records, recordsSince key (calls records) = records := by
    intro records
    have hreset : .reset key.function ∉ calls records := by simp [calls]
    have happend := recordsSince_append key [] hreset
    rw [List.nil_append, List.count_replicate_self] at happend
    exact happend.trans (Nat.zero_add records)
  refine ⟨hrecords, ?_, ?_⟩
  · rw [promotes_after_iff, hrecords]
    exact ⟨by decide, rfl⟩
  · rw [promotes_after_iff, hrecords]
    exact ⟨by decide, rfl⟩

end Profile
end StackUnwind
