import StackUnwind.Text

/-!
# Settings

Settings are read once from named strings. A name that is not set, or whose
string cannot be read, leaves its default in place; a number that cannot be
read is reported.
-/
namespace StackUnwind

structure Settings where
  /-- Traceback lines kept in one episode; zero for any number. -/
  tracebackLimit : Nat := 0
  /-- Exceptions at which a statement is proposed for promotion; zero for never. -/
  promotionThreshold : UInt32 := 100
  /-- Whether a landing pad must lie in the code of its frame. -/
  verifyLandingPads : Bool := true
  /-- Physical frames that one walk may visit. -/
  maxWalkDepth : Nat := 100000
  /-- Whether a fatal report lists the code regions. -/
  dumpRegionsOnFatal : Bool := true
  deriving DecidableEq, Repr

namespace Settings

def tracebackLimitKey : String := "PRISM_UNWIND_TRACEBACK_LIMIT"
def promotionThresholdKey : String := "PRISM_UNWIND_PROMOTION_THRESHOLD"
def verifyLandingPadsKey : String := "PRISM_UNWIND_VERIFY_LANDING_PADS"
def maxWalkDepthKey : String := "PRISM_UNWIND_MAX_WALK_DEPTH"

/-- The settings that are numbers, in the order in which they are read, and
the bound each stays below. -/
def numberKeys : List (String × Nat) :=
  [(tracebackLimitKey, UInt64.size), (promotionThresholdKey, UInt32.size),
    (maxWalkDepthKey, UInt64.size)]

def readNumber (bound : Nat) (raw : String) : Option Nat :=
  Text.decimalBelow? bound (Text.trimBlank raw)

def readFlag (raw : String) : Option Bool :=
  let word := (Text.trimBlank raw).map Char.toLower
  if ["1", "true", "yes", "on"].contains word then some true
  else if ["0", "false", "no", "off"].contains word then some false
  else none

def ofLookup (lookup : String → Option String) : Settings :=
  let default : Settings := {}
  let number (key : String) (bound fallback : Nat) : Nat :=
    ((lookup key).bind (readNumber bound)).getD fallback
  { tracebackLimit := number tracebackLimitKey UInt64.size default.tracebackLimit
    promotionThreshold := UInt32.ofNat
      (number promotionThresholdKey UInt32.size default.promotionThreshold.toNat)
    verifyLandingPads :=
      ((lookup verifyLandingPadsKey).bind readFlag).getD default.verifyLandingPads
    maxWalkDepth := number maxWalkDepthKey UInt64.size default.maxWalkDepth
    dumpRegionsOnFatal := default.dumpRegionsOnFatal }

/-- The numbers that are set and cannot be read, with their strings. -/
def unreadable (lookup : String → Option String) : List (String × String) :=
  numberKeys.filterMap fun (key, bound) =>
    match lookup key with
    | some raw => if (readNumber bound raw).isNone then some (key, raw) else none
    | none => none

/-- Whether a traceback of `lines` lines may grow. -/
def tracebackHasRoom (settings : Settings) (lines : Nat) : Bool :=
  settings.tracebackLimit == 0 || lines < settings.tracebackLimit

def text (settings : Settings) : String :=
  Text.namedFields "UnwindConfig"
    [("traceback_limit", toString settings.tracebackLimit),
      ("promotion_threshold", toString settings.promotionThreshold.toNat),
      ("verify_landing_pads", toString settings.verifyLandingPads),
      ("max_walk_depth", toString settings.maxWalkDepth),
      ("dump_regions_on_fatal", toString settings.dumpRegionsOnFatal)]

end Settings
end StackUnwind
