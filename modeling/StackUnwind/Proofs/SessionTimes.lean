import StackUnwind.Episode.Statistics
import Mathlib

/-!
# Session times over runs of the counters

The counters are used by recording events and by resetting all of them, in any
order. What they say about times depends on the sessions that ended since the
last reset and on nothing else: their number and the sum of their times, both
up to wrapping, and the longest of the times, which does not wrap. Wrapping
only makes the sum smaller, so it stays at most the number of sessions times
the longest of them, and the average stays at most the longest. This needs the
number not to have wrapped, for an average over too few sessions can be longer
than all of them.
-/
namespace StackUnwind
namespace Statistics

/-! Runs of calls -/

/-- What is done to the counters. -/
inductive Call where
  | sessionBegun
  | sessionEnded (nanoseconds : Nat)
  | frameUnwound
  | cleanupLanding
  | catchLanding
  | tracebackEntry
  | promotionCandidate
  | deoptState
  | reset
  deriving DecidableEq, Repr

/-- The time of the session that a call ends, of which a word is kept. -/
def Call.time? : Call → Option Nat
  | .sessionEnded nanoseconds => some (nanoseconds % 2 ^ 64)
  | _ => none

def perform (s : Statistics) : Call → Statistics
  | .sessionBegun => s.sessionBegun
  | .sessionEnded nanoseconds => s.sessionEnded nanoseconds
  | .frameUnwound => s.frameUnwound
  | .cleanupLanding => s.cleanupLanding
  | .catchLanding => s.catchLanding
  | .tracebackEntry => s.tracebackEntry
  | .promotionCandidate => s.promotionCandidate
  | .deoptState => s.deoptState
  | .reset => s.reset

/-- New counters after some calls. -/
def after (calls : List Call) : Statistics :=
  calls.foldl perform {}

/-- The times of the sessions that ended since the last reset. -/
def timesSince (calls : List Call) : List Nat :=
  (calls.rtakeWhile (· ≠ .reset)).filterMap Call.time?

section
variable (calls : List Call)

theorem after_concat (call : Call) : after (calls ++ [call]) = (after calls).perform call := by
  rw [after, List.foldl_concat, after]

theorem timesSince_concat_reset : timesSince (calls ++ [.reset]) = [] := by
  rw [timesSince, List.rtakeWhile_concat_neg _ _ _ (by simp), List.filterMap_nil]

theorem timesSince_concat {call : Call} (h : call ≠ .reset) :
    timesSince (calls ++ [call]) = timesSince calls ++ call.time?.toList := by
  rw [timesSince, List.rtakeWhile_concat_pos _ _ _ (by simpa using h), List.filterMap_append,
    timesSince]
  cases htime : call.time? <;> simp [htime]

end

/-! What the counters keep of the times -/

theorem toNat_longest_sessionEnded (s : Statistics) (nanoseconds : Nat) :
    (s.sessionEnded nanoseconds).longestNanoseconds.toNat =
      max (nanoseconds % 2 ^ 64) s.longestNanoseconds.toNat := by
  rw [sessionEnded]
  split_ifs with hlonger <;>
    rw [UInt64.lt_iff_toNat_lt, UInt64.toNat_ofNat'] at hlonger
  · rw [UInt64.toNat_ofNat', max_eq_left hlonger.le]
  · rw [max_eq_right (not_lt.mp hlonger)]

/-- The counters tell the number and the sum of some times as words, and the
longest of them, which is zero if there are none. -/
structure Reckons (s : Statistics) (times : List Nat) : Prop where
  count : s.sessionsEnded.toNat = times.length % 2 ^ 64
  total : s.totalNanoseconds.toNat = times.sum % 2 ^ 64
  longest : IsLUB {time | time ∈ times} s.longestNanoseconds.toNat

namespace Reckons

theorem fresh : Reckons {} [] where
  count := rfl
  total := rfl
  longest := by simp

variable {s : Statistics} {times : List Nat}

theorem sessionEnded (h : Reckons s times) (nanoseconds : Nat) :
    Reckons (s.sessionEnded nanoseconds) (times ++ [nanoseconds % 2 ^ 64]) where
  count := by
    have hcount := h.count
    simp only [Statistics.sessionEnded, UInt64.toNat_add, UInt64.toNat_one, List.length_append,
      List.length_singleton]
    omega
  total := by
    have htotal := h.total
    simp only [Statistics.sessionEnded, UInt64.toNat_add, UInt64.toNat_ofNat', List.sum_append,
      List.sum_singleton]
    omega
  longest := by
    have hset : {time | time ∈ times ++ [nanoseconds % 2 ^ 64]} =
        insert (nanoseconds % 2 ^ 64) {time | time ∈ times} := by
      ext time
      simp [or_comm]
    rw [toNat_longest_sessionEnded, hset]
    exact h.longest.insert _

/-- Every call but a reset goes on with the times so far. -/
theorem perform (h : Reckons s times) {call : Call} (hreset : call ≠ .reset) :
    Reckons (s.perform call) (times ++ call.time?.toList) := by
  cases call with
  | reset => exact absurd rfl hreset
  | sessionEnded nanoseconds => exact h.sessionEnded nanoseconds
  | sessionBegun | frameUnwound | cleanupLanding | catchLanding | tracebackEntry
  | promotionCandidate | deoptState =>
      -- None of these counters tells about times.
      change Reckons _ (times ++ [])
      rw [List.append_nil]
      exact ⟨h.count, h.total, h.longest⟩

/-- Wrapping leaves the sum at most the number of sessions times the longest. -/
theorem sum_mod_le (h : Reckons s times) :
    times.sum % 2 ^ 64 ≤ times.length * s.longestNanoseconds.toNat :=
  calc
    times.sum % 2 ^ 64 ≤ times.sum := Nat.mod_le _ _
    _ ≤ times.length * s.longestNanoseconds.toNat :=
      times.sum_le_card_nsmul _ fun _ hmem => h.longest.1 hmem

/-- The average divides what is left of the sum by what is left of the number,
and is zero where nothing is left of the number. -/
theorem toNat_average (h : Reckons s times) :
    s.averageNanoseconds.toNat = times.sum % 2 ^ 64 / (times.length % 2 ^ 64) := by
  rw [averageNanoseconds]
  split_ifs with hzero
  · rw [← h.count, hzero, UInt64.toNat_zero, Nat.div_zero]
  · rw [UInt64.toNat_div, h.total, h.count]

theorem average_le_longest (h : Reckons s times) (hcount : times.length < 2 ^ 64) :
    s.averageNanoseconds ≤ s.longestNanoseconds := by
  rw [UInt64.le_iff_toNat_le, h.toNat_average, Nat.mod_eq_of_lt hcount]
  exact Nat.div_le_of_le_mul h.sum_mod_le

theorem average_eq_zero (h : Reckons s []) : s.averageNanoseconds = 0 :=
  UInt64.toNat_inj.mp h.toNat_average

end Reckons

/-- The counters reckon with the sessions since the last reset. -/
theorem reckons_after (calls : List Call) : Reckons (after calls) (timesSince calls) := by
  -- From the end, because the last reset decides which times are left.
  induction calls using List.reverseRecOn with
  | nil => exact .fresh
  | append_singleton calls call ih =>
      rw [after_concat]
      by_cases hreset : call = .reset
      · subst hreset
        rw [timesSince_concat_reset]
        exact .fresh
      · rw [timesSince_concat _ hreset]
        exact ih.perform hreset

/-- As long as fewer than `2 ^ 64` sessions ended since the last reset, which is
so in every run of fewer than `2 ^ 64` calls, the average is at most the
longest, whether or not the sum has wrapped. The longest is the greatest of the
times since the reset. The average is zero if there are none, and their mean,
rounded down, if their sum is a word. -/
theorem average_at_most_longest (calls : List Call)
    (hcount : (timesSince calls).length < 2 ^ 64) :
    let s := after calls
    let times := timesSince calls
    s.averageNanoseconds ≤ s.longestNanoseconds ∧
      IsLUB {time | time ∈ times} s.longestNanoseconds.toNat ∧
      (times = [] → s.averageNanoseconds = 0) ∧
      (times.sum < 2 ^ 64 → s.averageNanoseconds.toNat = times.sum / times.length) := by
  intro s times
  have hreckons : Reckons s times := reckons_after calls
  refine ⟨hreckons.average_le_longest hcount, hreckons.longest, fun hnone => ?_, fun hsum => ?_⟩
  · rw [hnone] at hreckons
    exact hreckons.average_eq_zero
  · rw [hreckons.toNat_average, Nat.mod_eq_of_lt hsum, Nat.mod_eq_of_lt hcount]

/-- A sum that wraps, a sum that does not, and no session since the reset. -/
theorem averages_after_reset :
    let wrapping : List Call := [.sessionEnded 900, .reset, .sessionEnded (2 ^ 64 - 1),
      .frameUnwound, .sessionEnded (2 ^ 64 + 3)]
    let fitting : List Call :=
      [.sessionEnded 900, .reset, .sessionEnded 100, .sessionBegun, .sessionEnded 301]
    let cleared : List Call := [.sessionEnded 900, .reset, .catchLanding]
    (timesSince wrapping = [2 ^ 64 - 1, 3] ∧
        (after wrapping).averageNanoseconds ≤ (after wrapping).longestNanoseconds) ∧
      (after fitting).averageNanoseconds.toNat = 200 ∧
      (after cleared).averageNanoseconds = 0 := by
  intro wrapping fitting cleared
  obtain ⟨hwrapping, -⟩ := average_at_most_longest wrapping (by decide)
  obtain ⟨-, -, -, hmean⟩ := average_at_most_longest fitting (by decide)
  obtain ⟨-, -, hzero, -⟩ := average_at_most_longest cleared (by decide)
  have hfitting : (timesSince fitting).sum / (timesSince fitting).length = 200 := by decide
  exact ⟨⟨by decide, hwrapping⟩, (hmean (by decide)).trans hfitting, hzero (by decide)⟩

/-! Past the largest number of sessions -/

/-- Some sessions that took no time, and two that took the same time. -/
def idleThenTwo (idle time : Nat) : List Call :=
  List.replicate idle (.sessionEnded 0) ++ [.sessionEnded time] ++ [.sessionEnded time]

theorem timesSince_idleThenTwo (idle : Nat) {time : Nat} (htime : time < 2 ^ 64) :
    timesSince (idleThenTwo idle time) = List.replicate idle 0 ++ [time] ++ [time] := by
  have hidle : timesSince (List.replicate idle (.sessionEnded 0)) = List.replicate idle 0 := by
    rw [timesSince, List.rtakeWhile_eq_self_iff.mpr (by simp)]
    exact List.filterMap_replicate_of_some rfl
  have hkept : (Call.sessionEnded time).time?.toList = [time] := by
    rw [Call.time?, Nat.mod_eq_of_lt htime, Option.toList_some]
  rw [idleThenTwo, timesSince_concat _ (by simp), timesSince_concat _ (by simp), hidle, hkept]

/-- Once the number of sessions has wrapped the average can be more than the
longest. With one session more than it wraps at, it can be twice as long. -/
theorem average_twice_longest {idle time : Nat} (hidle : idle + 1 = 2 ^ 64)
    (htime : 2 * time < 2 ^ 64) :
    let s := after (idleThenTwo idle time)
    s.longestNanoseconds.toNat = time ∧ s.averageNanoseconds.toNat = 2 * time := by
  intro s
  have hreckons : Reckons s (List.replicate idle 0 ++ [time] ++ [time]) := by
    rw [← timesSince_idleThenTwo idle (by omega)]
    exact reckons_after _
  have hgreatest : IsGreatest {t | t ∈ List.replicate idle 0 ++ [time] ++ [time]} time := by
    refine ⟨List.mem_concat_self, fun t hmem => ?_⟩
    simp only [Set.mem_ofPred_eq, List.mem_append, List.mem_replicate, List.mem_singleton] at hmem
    omega
  have hsum : (List.replicate idle 0 ++ [time] ++ [time]).sum % 2 ^ 64 = 2 * time := by
    simp only [List.sum_append, List.sum_replicate, List.sum_singleton, nsmul_zero]
    omega
  have hcount : (List.replicate idle 0 ++ [time] ++ [time]).length % 2 ^ 64 = 1 := by
    simp only [List.length_append, List.length_replicate, List.length_singleton]
    omega
  refine ⟨hreckons.longest.unique hgreatest.isLUB, ?_⟩
  rw [hreckons.toNat_average, hsum, hcount, Nat.div_one]

end Statistics
end StackUnwind
