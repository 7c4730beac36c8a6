import StackUnwind.Dwarf.Field
import StackUnwind.Fault

/-!
# Call sites

A call-site table maps ranges of a function's instructions to landing pads and
action chains. Its entries are sorted by start. Starts and landing pads are
stored relative to the function, lengths relative to the start, and all sums
wrap.
-/
namespace StackUnwind

/-- How the three addresses of an entry are stored. -/
inductive SiteEncoding where
  | uleb128
  | udata4
  deriving DecidableEq, Repr

namespace SiteEncoding

def code : SiteEncoding → UInt8
  | .uleb128 => 0x01
  | .udata4 => 0x03

def ofCode? (code : UInt8) : Option SiteEncoding :=
  if code = 0x01 then some .uleb128 else if code = 0x03 then some .udata4 else none

/-- The encoding a byte stands for; others are a fault. -/
def ofCode (code : UInt8) : Except Fault SiteEncoding :=
  match ofCode? code with
  | some encoding => .ok encoding
  | none => .error (.unsupportedEncoding .callSiteTable code)

def readField : SiteEncoding → Decoder DwarfFault Word
  | .uleb128 => Leb128.readUnsigned
  | .udata4 => Dwarf.unsignedField 4

end SiteEncoding

/-- The half-open range `[lo, hi)` of instructions and what it asks for. -/
structure CallSite where
  lo : Word
  hi : Word
  landingPad? : Option Word
  /-- Where the action chain starts in the action table. -/
  action? : Option Word
  deriving DecidableEq, Repr

namespace CallSite

def contains (site : CallSite) (pc : Word) : Bool :=
  site.lo ≤ pc && pc < site.hi

/-- The entry stored as four numbers. Zero stands for no landing pad, and
action offsets are stored plus one. -/
def ofStored (base start length pad actionPlusOne : Word) : CallSite where
  lo := base + start
  hi := base + start + length
  landingPad? := if pad = 0 then none else some (base + pad)
  action? := if actionPlusOne = 0 then none else some (actionPlusOne - 1)

def read (encoding : SiteEncoding) (base : Word) : Decoder DwarfFault CallSite := do
  let start ← encoding.readField
  let length ← encoding.readField
  let pad ← encoding.readField
  let actionPlusOne ← Leb128.readUnsigned
  return ofStored base start length pad actionPlusOne

/-- An entry that ends behind the table would reach into the action table. -/
def faultOf : DwarfFault → Fault
  | .endOfInput => .callSiteTableOverrun
  | cause => .dwarf cause

/-- The next entry of a table, if any is left. -/
def next (encoding : SiteEncoding) (base : Word) : Decoder Fault (Option CallSite) := fun s =>
  if s.rest.isEmpty then .ok none s
  else (some <$> read encoding base).mapFault faultOf s

/-- What some calls of `next` in a row give, and after each whether the table
is used up. A fault does not end the row: the reader stays behind what it
looked at. -/
def readings (encoding : SiteEncoding) (base : Word) :
    (calls : Nat) → ByteStream → List (Except Fault (Option CallSite) × Bool)
  | 0, _ => []
  | calls + 1, s =>
      match next encoding base s with
      | .ok site? s => (.ok site?, s.rest.isEmpty) :: readings encoding base calls s
      | .error fault s => (.error fault, s.rest.isEmpty) :: readings encoding base calls s

/-- The entries of a table up to the first fault. An entry takes at least one
byte, so as many rounds as there are bytes reach the end. -/
def itemsWithin (encoding : SiteEncoding) (base : Word) :
    (rounds : Nat) → ByteStream → List (Except Fault CallSite)
  | 0, _ => []
  | rounds + 1, s =>
      match next encoding base s with
      | .ok none _ => []
      | .ok (some site) s => .ok site :: itemsWithin encoding base rounds s
      | .error fault _ => [.error fault]

def items (encoding : SiteEncoding) (base : Word) (table : Bytes) : List (Except Fault CallSite) :=
  itemsWithin encoding base table.length (.ofBytes table)

/-- The entry that covers `pc`. The table is sorted, so an entry that begins
behind `pc` ends the search; a fault reached before that is the result. -/
def find (pc : Word) : List (Except Fault CallSite) → Except Fault (Option CallSite)
  | [] => .ok none
  | .error fault :: _ => .error fault
  | .ok site :: rest =>
      if site.contains pc then .ok (some site)
      else if pc < site.lo then .ok none
      else find pc rest

/-- All entries, or the first fault. -/
def collect : List (Except Fault CallSite) → Except Fault (List CallSite)
  | [] => .ok []
  | .error fault :: _ => .error fault
  | .ok site :: rest =>
      match collect rest with
      | .ok sites => .ok (site :: sites)
      | .error fault => .error fault

end CallSite
end StackUnwind
