import StackUnwind.Handler.Action
import StackUnwind.Handler.CallSite

/-!
# Exception tables

The language-specific data of a function: a header, the call-site table and
the action table. Landing pads must be relative to the function; the type
table is skipped, because every positive filter catches.

The whole call-site table is decoded before it is searched. `Header.find`
searches while decoding and may stop before a fault further on.
-/
namespace StackUnwind

/-- The header's contents and the two tables behind it. -/
structure HandlerHeader where
  typeEncoding : UInt8
  /-- Distance to the end of the type table, when there is one. -/
  typeTableEnd? : Option Word
  siteEncoding : SiteEncoding
  callSites : Bytes
  actions : Bytes
  deriving DecidableEq, Repr

/-- The encoding byte of a field that is left out. -/
def omittedEncoding : UInt8 := 0xff

namespace HandlerHeader

def readTypeTableEnd (encoding : UInt8) : Decoder DwarfFault (Option Word) :=
  if encoding = omittedEncoding then pure none else some <$> Leb128.readUnsigned

def read : Decoder Fault HandlerHeader := do
  let padBase ← Dwarf.byte.mapFault .dwarf
  unless padBase = omittedEncoding do
    throw (.unsupportedEncoding .landingPadBase padBase)
  let typeEncoding ← Dwarf.byte.mapFault .dwarf
  let typeTableEnd? ← (readTypeTableEnd typeEncoding).mapFault .dwarf
  let code ← Dwarf.byte.mapFault .dwarf
  let siteEncoding ← match SiteEncoding.ofCode code with
    | .ok encoding => pure encoding
    | .error fault => throw fault
  let length ← Leb128.readUnsigned.mapFault .dwarf
  match (← get).take? length.toNat with
  | none => throw .callSiteTableOverrun
  | some (callSites, s) =>
      return { typeEncoding, typeTableEnd?, siteEncoding, callSites, actions := s.rest }

def ofBytes (bytes : Bytes) : Except Fault HandlerHeader :=
  read.outcome (.ofBytes bytes)

def items (header : HandlerHeader) (functionStart : Word) : List (Except Fault CallSite) :=
  CallSite.items header.siteEncoding functionStart header.callSites

/-- The entry that covers `pc`, searched while decoding. -/
def find (header : HandlerHeader) (functionStart pc : Word) : Except Fault (Option CallSite) :=
  CallSite.find pc (header.items functionStart)

def determineAction (header : HandlerHeader) (site : CallSite) : Except Fault Action :=
  Action.determine header.actions site.action?

end HandlerHeader

/-- The exception table of the function that starts at `functionStart`. -/
structure HandlerTable where
  bytes : Bytes
  functionStart : Word
  deriving DecidableEq, Repr

namespace HandlerTable

def header (table : HandlerTable) : Except Fault HandlerHeader :=
  HandlerHeader.ofBytes table.bytes

/-- Every call site, in table order. -/
def callSites (table : HandlerTable) : Except Fault (List CallSite) := do
  CallSite.collect ((← table.header).items table.functionStart)

/-- The entry of the decoded table that covers `pc`. -/
def find (table : HandlerTable) (pc : Word) : Except Fault (Option CallSite) := do
  CallSite.find pc ((← table.callSites).map .ok)

def determineAction (table : HandlerTable) (site : CallSite) : Except Fault Action := do
  (← table.header).determineAction site

/-- Whether each landing pad lies in `[start, stop)`. -/
def checkPads (start stop : Word) : List CallSite → Except Fault Unit
  | [] => .ok ()
  | site :: rest =>
      match site.landingPad? with
      | none => checkPads start stop rest
      | some pad =>
          if start ≤ pad ∧ pad < stop then checkPads start stop rest
          else .error (.landingPadOutOfRange pad start stop)

/-- The whole table decodes and every landing pad lies in `[start, stop)`. -/
def validate (table : HandlerTable) (start stop : Word) : Except Fault Unit := do
  checkPads start stop (← table.callSites)

end HandlerTable
end StackUnwind
