/-!
# Faults of DWARF data

What can be wrong with data in the DWARF formats: the LEB128 numbers of
exception tables, and the entries and instructions of call-frame sections.
-/
namespace StackUnwind

inductive DwarfFault where
  | endOfInput
  | badUnsignedLeb128
  | badSignedLeb128
  | reservedLength
  | unknownVersion
  | offsetOutOfBounds
  | notACommonEntry
  | noEntryAtOffset
  | unknownAugmentation
  | unknownPointerEncoding
  | omittedPointer
  | unsupportedPointerEncoding
  | noTextBase
  | noDataBase
  | noFunctionBase
  | registerTooLarge
  | unknownInstruction
  | instructionOutOfContext
  | addressRangeReversed
  | addressOverflow
  | nothingRemembered
  | rowStackFull
  | tooManyRules
  deriving DecidableEq, Repr

def DwarfFault.message : DwarfFault → String
  | .endOfInput => "Hit the end of input before it was expected"
  | .badUnsignedLeb128 => "An error parsing an unsigned LEB128 value"
  | .badSignedLeb128 => "An error parsing a signed LEB128 value"
  | .reservedLength => "Found an unknown reserved length value"
  | .unknownVersion => "Found an unknown DWARF version"
  | .offsetOutOfBounds => "The given offset is out of bounds."
  | .notACommonEntry => "Expected to find the CIE ID, but found something else."
  | .noEntryAtOffset => "Did not find an entry at the given offset."
  | .unknownAugmentation => "Found an unknown CFI augmentation."
  | .unknownPointerEncoding => "The given pointer encoding is either unknown or invalid."
  | .omittedPointer => "Cannot parse a pointer with a `DW_EH_PE_omit` encoding."
  | .unsupportedPointerEncoding => "We do not support the given pointer encoding yet."
  | .noTextBase => "Found a `.text` relative pointer, but the `.text` base is undefined."
  | .noDataBase => "Found a data relative pointer, but the data base is undefined."
  | .noFunctionBase =>
      "Found a function relative pointer in a context that does not have a function base."
  | .registerTooLarge => "Registers larger than `u16` are not supported."
  | .unknownInstruction => "An unknown DW_CFA_* instructiion"
  | .instructionOutOfContext =>
      "Encountered a call frame instruction in a context in which it is not valid."
  | .addressRangeReversed => "The end of an address range must not be before the beginning."
  | .addressOverflow => "An address calculation overflowed."
  | .nothingRemembered =>
      "When evaluating call frame instructions, found a `DW_CFA_restore_state` stack pop " ++
        "instruction, but the stack was empty, and had nothing to pop."
  | .rowStackFull => "Attempted to push onto the CFI stack, but it was already at full capacity."
  | .tooManyRules => "The CFI program defined more register rules than we have storage for."

end StackUnwind
