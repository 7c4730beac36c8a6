import StackUnwind.Text
import StackUnwind.Word

/-!
# Statistics

Counters of what unwinding did. They are diagnostics and decide nothing. All
of them, and the total of the durations, wrap.
-/
namespace StackUnwind

structure Statistics where
  sessionsBegun : Word := 0
  /-- Episodes that ended in a catch. -/
  sessionsEnded : Word := 0
  framesUnwound : Word := 0
  cleanupLandings : Word := 0
  catchLandings : Word := 0
  tracebackEntries : Word := 0
  promotionCandidates : Word := 0
  deoptStates : Word := 0
  totalNanoseconds : Word := 0
  longestNanoseconds : Word := 0
  deriving DecidableEq, Repr

namespace Statistics

def sessionBegun (s : Statistics) : Statistics :=
  { s with sessionsBegun := s.sessionsBegun + 1 }

/-- An episode ended after some nanoseconds, of which a word is kept. -/
def sessionEnded (s : Statistics) (nanoseconds : Nat) : Statistics :=
  let elapsed := UInt64.ofNat nanoseconds
  { s with
    sessionsEnded := s.sessionsEnded + 1
    totalNanoseconds := s.totalNanoseconds + elapsed
    longestNanoseconds := if s.longestNanoseconds < elapsed then elapsed else s.longestNanoseconds }

def frameUnwound (s : Statistics) : Statistics :=
  { s with framesUnwound := s.framesUnwound + 1 }

def cleanupLanding (s : Statistics) : Statistics :=
  { s with cleanupLandings := s.cleanupLandings + 1 }

def catchLanding (s : Statistics) : Statistics :=
  { s with catchLandings := s.catchLandings + 1 }

def tracebackEntry (s : Statistics) : Statistics :=
  { s with tracebackEntries := s.tracebackEntries + 1 }

def promotionCandidate (s : Statistics) : Statistics :=
  { s with promotionCandidates := s.promotionCandidates + 1 }

def deoptState (s : Statistics) : Statistics :=
  { s with deoptStates := s.deoptStates + 1 }

/-- All counters start again. -/
def reset (_ : Statistics) : Statistics := {}

/-- Mean length of the ended episodes, in whole nanoseconds. -/
def averageNanoseconds (s : Statistics) : Word :=
  if s.sessionsEnded = 0 then 0 else s.totalNanoseconds / s.sessionsEnded

def text (s : Statistics) : String :=
  String.intercalate "\n"
    ["Unwind Statistics:",
      s!"  Sessions:        {s.sessionsBegun} begun, {s.sessionsEnded} caught",
      s!"  Frames Unwound:  {s.framesUnwound}",
      s!"  Landings:        {s.cleanupLandings} cleanup, {s.catchLandings} catch",
      s!"  Traceback Lines: {s.tracebackEntries}",
      s!"  Promotions:      {s.promotionCandidates}",
      s!"  Deopt States:    {s.deoptStates}",
      "  Avg Session:     " ++ Text.duration s.averageNanoseconds.toNat,
      "  Max Session:     " ++ Text.duration s.longestNanoseconds.toNat]

end Statistics
end StackUnwind
