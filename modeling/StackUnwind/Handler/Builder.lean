import StackUnwind.Handler.Table

/-!
# Building exception tables

Emits what the reader accepts: landing pads relative to the function, no type
table, and call sites in one of the two encodings. Call sites are to be added
in ascending order of their starts.
-/
namespace StackUnwind

/-- A call site as it is stored. -/
structure StoredSite where
  start : Word
  length : Word
  pad : Word
  actionPlusOne : Word
  deriving DecidableEq, Repr

structure HandlerBuilder where
  /-- The encoding byte of the call-site table. -/
  encoding : UInt8
  sites : List StoredSite := []
  actions : Bytes := []
  deriving DecidableEq, Repr

/-- The records of a chain, back to back: each links to the byte behind its
own one-byte link, and the last one ends the chain. -/
def encodeChain : List Int64 → Bytes
  | [] => []
  | [filter] => Leb128.signed filter.toInt ++ Leb128.signed 0
  | filter :: rest => Leb128.signed filter.toInt ++ Leb128.signed 1 ++ encodeChain rest

def StoredSite.encode (encoding : UInt8) (site : StoredSite) : Bytes :=
  let field (w : Word) : Bytes :=
    if encoding = SiteEncoding.udata4.code then toLittleEndian 4 w.toNat
    else Leb128.unsigned w.toNat
  field site.start ++ field site.length ++ field site.pad ++
    Leb128.unsigned site.actionPlusOne.toNat

namespace HandlerBuilder

/-- Appends a chain and returns where it starts. -/
def addChain (builder : HandlerBuilder) (filters : List Int64) : HandlerBuilder × Word :=
  ({ builder with actions := builder.actions ++ encodeChain filters },
    UInt64.ofNat builder.actions.length)

/-- Appends some chains and returns where each starts. -/
def addChains (builder : HandlerBuilder) : List (List Int64) → HandlerBuilder × List Word
  | [] => (builder, [])
  | filters :: rest =>
      let (builder, first) := builder.addChain filters
      let (builder, others) := builder.addChains rest
      (builder, first :: others)

def addSite (builder : HandlerBuilder) (start length : Word) (pad? action? : Option Word) :
    HandlerBuilder :=
  let site : StoredSite :=
    { start, length, pad := pad?.getD 0, actionPlusOne := (action?.map (· + 1)).getD 0 }
  { builder with sites := builder.sites ++ [site] }

def finish (builder : HandlerBuilder) : Bytes :=
  let table := builder.sites.flatMap (StoredSite.encode builder.encoding)
  [omittedEncoding, omittedEncoding, builder.encoding] ++ Leb128.unsigned table.length ++
    table ++ builder.actions

end HandlerBuilder
end StackUnwind
