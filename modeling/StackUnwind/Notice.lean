import StackUnwind.CallFrame.Section
import StackUnwind.Code.Classifier
import StackUnwind.Frame
import StackUnwind.Settings
import StackUnwind.Text

/-!
# Notices

What the library reports while it works. Notices are values: an operation that
reports something returns it beside its result.
-/
namespace StackUnwind

/-- How much a notice matters, the most severe first. -/
inductive Severity where
  | error
  | warn
  | debug
  | trace
  deriving DecidableEq, Repr

namespace Severity

def rank : Severity → Nat
  | .error => 0
  | .warn => 1
  | .debug => 2
  | .trace => 3

def text : Severity → String
  | .error => "ERROR"
  | .warn => "WARN"
  | .debug => "DEBUG"
  | .trace => "TRACE"

end Severity

inductive Notice where
  | settingIgnored (key raw : String)
  | configured (settings : Settings)
  | regionRegistered (region : CodeRegion)
  | regionRetired (region : CodeRegion)
  | callFramesRegistered (descriptions : Nat)
  /-- A call-frame row was applied at `pc`. -/
  | callerRecovered (pc : Word) (caller : CallFrame.Caller)
  | registerSkipped (register : Register) (fault : Fault)
  | frameVisited (depth : Nat) (ip bp : Word) (kind : FrameKind)
  | calleeSavedMissing (missing : Nat) (ip : Word)
  | shadowDropped (frame : Frame)
  | layoutMissing (recordId function : Word)
  | statementHot (statement : UInt32) (function : Word) (threshold : UInt32)
  | episodeBegun (value : Word)
  | frameSkipped (ip bp : Word)
  | landed (pad bp : Word) (action : Action) (frames : Nat)
  deriving DecidableEq, Repr

namespace Notice

def severity : Notice → Severity
  | .settingIgnored .. => .warn
  | .configured .. | .regionRegistered .. | .regionRetired .. | .callFramesRegistered ..
  | .layoutMissing .. | .statementHot .. | .episodeBegun .. | .landed .. => .debug
  | .callerRecovered .. | .registerSkipped .. | .frameVisited .. | .calleeSavedMissing ..
  | .shadowDropped .. | .frameSkipped .. => .trace

def message : Notice → String
  | .settingIgnored key raw => s!"ignoring unparsable {key}=" ++ Text.quoted raw
  | .configured settings => "unwind engine configured: " ++ settings.text
  | .regionRegistered region =>
      "registered " ++ region.tier.text ++ " region " ++
        Text.addressRange region.start region.stop ++ s!" for function {region.functionId}"
  | .regionRetired region =>
      "retired region " ++ Text.addressRange region.start region.stop ++
        s!" for function {region.functionId}"
  | .callFramesRegistered descriptions => s!"registered CFI section with {descriptions} FDEs"
  | .callerRecovered pc caller =>
      "cfi step at " ++ Text.hex pc.toNat ++ ": cfa=" ++ Text.hex caller.frameAddress.toNat ++
        " caller=" ++ caller.registers.text
  | .registerSkipped register fault => s!"register {register} skipped: " ++ fault.message
  | .frameVisited depth ip bp kind =>
      s!"walk frame {depth}: ip=" ++ Text.hex ip.toNat ++ " bp=" ++ Text.hex bp.toNat ++ " " ++
        kind.text
  | .calleeSavedMissing missing ip =>
      s!"{missing} callee-saved registers unavailable at " ++ Text.hex ip.toNat
  | .shadowDropped frame => "dropping shadow frame " ++ frame.text
  | .layoutMissing recordId function =>
      s!"no frame layout for record {recordId} of function {function}"
  | .statementHot statement function threshold =>
      s!"statement {statement} of function {function} reached {threshold} exceptions"
  | .episodeBegun value => "unwinding exception " ++ Text.hex value.toNat
  | .frameSkipped ip bp =>
      "skipping frame ip=" ++ Text.hex ip.toNat ++ " bp=" ++ Text.hex bp.toNat ++ " after cleanup"
  | .landed pad bp action frames =>
      "landing at " ++ Text.hex pad.toNat ++ " (bp=" ++ Text.hex bp.toNat ++ ", " ++ action.text ++
        s!") after {frames} frames"

/-- The line of a notice in a log. -/
def text (notice : Notice) : String :=
  notice.severity.text ++ " " ++ notice.message

/-- Whether a log of some severity keeps the notice. -/
def isKeptAt (notice : Notice) (level : Severity) : Bool :=
  notice.severity.rank ≤ level.rank

/-- The settings that could not be read. -/
def ofLookup (lookup : String → Option String) : List Notice :=
  (Settings.unreadable lookup).map fun (key, raw) => .settingIgnored key raw

/-- The row that was applied, if a step by call frames found one. -/
def ofStep (pc : Word) (step : Except Fault (Option CallFrame.Caller)) : List Notice :=
  match step with
  | .ok (some caller) => [.callerRecovered pc caller]
  | _ => []

end Notice
end StackUnwind
