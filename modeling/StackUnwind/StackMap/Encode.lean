import StackUnwind.StackMap.Decode

/-!
# Encoding stack maps

Writes the format that decoding reads, with zero for record flags, reserved
fields and padding. The counts of locations and live-outs are cut to their 16
bits, while every item is written and the alignment goes by the real number.
-/
namespace StackUnwind

def StoredLocation.encode (stored : StoredLocation) : Bytes :=
  [stored.tag, 8] ++ toLittleEndian 2 stored.register.toNat ++
    toLittleEndian 4 stored.payload.toUInt32.toNat

namespace StackMap

def FunctionEntry.encode (entry : FunctionEntry) : Bytes :=
  toLittleEndian 8 entry.address.toNat ++ toLittleEndian 8 entry.frameSize.toNat

def LiveOut.encode (live : LiveOut) : Bytes :=
  toLittleEndian 2 live.register.toNat ++ [0, live.size]

def Record.encode (record : Record) : Bytes :=
  toLittleEndian 8 record.id.toNat ++ toLittleEndian 4 record.offset.toNat ++
    toLittleEndian 2 0 ++ toLittleEndian 2 record.locations.length ++
    record.locations.flatMap (fun location => location.store.encode) ++
    toLittleEndian 2 0 ++ toLittleEndian 2 record.liveOuts.length ++
    record.liveOuts.flatMap LiveOut.encode ++
    (if record.liveOuts.length % 2 = 0 then toLittleEndian 4 0 else [])

def encode (map : StackMap) : Bytes :=
  toLittleEndian 4 version ++ toLittleEndian 4 map.functions.length ++
    toLittleEndian 4 map.constants.length ++ toLittleEndian 4 map.records.length ++
    map.functions.flatMap FunctionEntry.encode ++
    map.constants.flatMap (fun word => toLittleEndian 8 word.toNat) ++
    map.records.flatMap Record.encode

end StackMap
end StackUnwind
