import StackUnwind.Episode.Profile
import StackUnwind.Episode.Statistics
import StackUnwind.Notice

/-!
# The ledger

What an engine keeps over all episodes: counters, the exception profile, the
hook calls it made and the notices it gave.
-/
namespace StackUnwind

structure Ledger where
  statistics : Statistics := {}
  profile : Profile
  calls : Array HookCall := #[]
  notices : Array Notice := #[]

namespace Ledger

def note (ledger : Ledger) (notices : List Notice) : Ledger :=
  { ledger with notices := ledger.notices.appendList notices }

def call (ledger : Ledger) (calls : List HookCall) : Ledger :=
  { ledger with calls := ledger.calls.appendList calls }

def count (ledger : Ledger) (change : Statistics → Statistics) : Ledger :=
  { ledger with statistics := change ledger.statistics }

/-- Counts an exception of a statement, and proposes the statement when it
reaches the threshold. -/
def countStatement (ledger : Ledger) (key : StatementKey) : Ledger :=
  let counted := { ledger with profile := ledger.profile.record key }
  if ledger.profile.promotes key then
    (counted.note [.statementHot key.statement key.function ledger.profile.threshold]).count
      .promotionCandidate
  else counted

/-- Counts the statement that a frame is in, if it is in one. -/
def countFrame (ledger : Ledger) (info : FrameInfo) (statement? : Option Statement) : Ledger :=
  match statement? with
  | some statement => ledger.countStatement ⟨info.functionId, statement.id⟩
  | none => ledger

end Ledger
end StackUnwind
