import StackUnwind.Proofs.ReturnOffset
import Mathlib

/-!
# What the locals of a frame are read from

The locals of a compiled frame are the slots of its layout that are not the
compiler's own and whose flag, if they have one, is not zero. Flags and values
are read from registers, from memory or from the constant pool, and a slot that
is not bound may well point at memory that was never written.

`Source.Needs` collects the addresses behind the flags of the program's slots
and behind the values of those that are bound. Nothing else in memory has an
influence on the state of the frame, not even on the fault when it cannot be
read, and the place of a value that is not shown is never looked at.
-/
namespace StackUnwind

/-- The address that a location is read from, if it is in memory and its
register was recovered. -/
def Location.address? (file : RegisterFile) : Location → Option Word
  | .direct base offset | .indirect base offset =>
      (file.value? base).map fun word => word.displace offset.toInt64
  | .register _ | .constant _ | .pooled _ => none

theorem RegisterFile.value?_of_get {file : RegisterFile} {register : Register} {word : Word}
    (h : file.get register = .ok word) : file.value? register = some word := by
  unfold get at h
  split_ifs at h
  split at h
  · rename_i hvalue
    cases h
    exact hvalue
  · cases h

namespace Location

variable {file : RegisterFile} {memory other : Memory}

theorem readSlot_congr {base : Register} {offset : Int32}
    (h : ∀ word, file.value? base = some word →
      other.word? (word.displace offset.toInt64) = memory.word? (word.displace offset.toInt64)) :
    readSlot base offset file other = readSlot base offset file memory := by
  unfold readSlot
  cases hbase : file.get base with
  | error fault => rfl
  | ok word =>
      change other.read _ = memory.read _
      rw [Memory.read, Memory.read, h word (RegisterFile.value?_of_get hbase)]

theorem resolve_congr {location : Location} (pool : List Word)
    (h : ∀ address, location.address? file = some address →
      other.word? address = memory.word? address) :
    location.resolve file pool other = location.resolve file pool memory := by
  cases location with
  | register reg => rfl
  | direct base offset =>
      exact readSlot_congr fun word hword => h _ (by rw [address?, hword, Option.map_some])
  | indirect base offset =>
      exact readSlot_congr fun word hword => h _ (by rw [address?, hword, Option.map_some])
  | constant value => rfl
  | pooled index => rfl

end Location

namespace DeoptState

/-! Reading slots -/

/-- Two readings of a slot agree on its flag and, if it is bound, on its value. -/
structure Alike (value value' : NamedSlot → Nat → Except Fault Word) (slot slot' : NamedSlot) :
    Prop where
  name : slot'.name = slot.name
  bound : isBound value' slot' = isBound value slot
  location : isBound value slot = .ok true → value' slot' slot'.location = value slot slot.location

theorem isBound_congr {value value' : NamedSlot → Nat → Except Fault Word} {slot slot' : NamedSlot}
    (hflag : slot'.flag? = slot.flag?)
    (h : ∀ flag ∈ slot.flag?, value' slot' flag = value slot flag) :
    isBound value' slot' = isBound value slot := by
  unfold isBound
  rw [hflag]
  cases hsome : slot.flag? with
  | none => rfl
  | some flag =>
      dsimp only
      rw [h flag (by rw [hsome]; rfl)]

theorem readSlots_congr {value value' : NamedSlot → Nat → Except Fault Word}
    {slots slots' : List NamedSlot} (h : List.Forall₂ (Alike value value') slots slots') :
    readSlots value' slots' = readSlots value slots := by
  induction h with
  | nil => rfl
  | @cons slot slot' rest rest' hslot _ ih =>
      rw [readSlots, readSlots, hslot.bound, ih]
      cases hbound : isBound value slot with
      | error fault => rfl
      | ok bound =>
          cases bound with
          | false => rfl
          | true => rw [hslot.location hbound, hslot.name]

section
variable {value : NamedSlot → Nat → Except Fault Word} {slot : NamedSlot} {rest : List NamedSlot}

theorem readSlots_of_fault {fault : Fault} (h : isBound value slot = .error fault) :
    readSlots value (slot :: rest) = .error fault := by
  rw [readSlots, h]
  rfl

theorem readSlots_of_unbound (h : isBound value slot = .ok false) :
    readSlots value (slot :: rest) = readSlots value rest := by
  rw [readSlots, h]
  rfl

theorem readSlots_of_bound (h : isBound value slot = .ok true) {locals : List (String × Word)} :
    readSlots value (slot :: rest) = .ok locals ↔
      ∃ word tail, value slot slot.location = .ok word ∧ readSlots value rest = .ok tail ∧
        locals = (slot.name, word) :: tail := by
  rw [readSlots, h]
  change (value slot slot.location >>= fun word =>
    readSlots value rest >>= fun tail => pure ((slot.name, word) :: tail)) = .ok locals ↔ _
  cases value slot slot.location with
  | error fault => simp [bind, Except.bind]
  | ok word =>
      cases readSlots value rest with
      | error fault => simp [bind, Except.bind]
      | ok tail => simp [bind, Except.bind, pure, Except.pure, eq_comm]

end

/-- What the values of a frame are read with, besides memory. -/
structure Source where
  record : StackMap.Record
  region : CodeRegion
  file : RegisterFile

namespace Source

/-- The frame has a record, which is read with its code and registers. -/
def Of (source : Source) (frame : Frame) : Prop :=
  recordOf frame = .ok (source.record, source.region, source.file)

/-- The names that the region gives to the record's values, none without a layout. -/
def layout (source : Source) : FrameLayout :=
  (source.region.layout? source.record.id).getD []

/-- The value at a location of the record, if there is one and it can be read. -/
def value? (source : Source) (memory : Memory) (index : Nat) : Option Word :=
  source.record.locations[index]?.bind fun location =>
    (location.resolve source.file source.region.constants memory).toOption

/-- The address that a location of the record is read from, if there is one. -/
def address? (source : Source) (index : Nat) : Option Word :=
  source.record.locations[index]?.bind (Location.address? source.file)

/-- The slot has no flag, or one that is not zero. -/
def Bound (source : Source) (memory : Memory) (slot : NamedSlot) : Prop :=
  ∀ flag ∈ slot.flag?, ∃ word ∈ source.value? memory flag, word ≠ 0

instance (source : Source) (memory : Memory) (slot : NamedSlot) :
    Decidable (source.Bound memory slot) :=
  inferInstanceAs (Decidable (∀ flag ∈ slot.flag?, ∃ word ∈ source.value? memory flag, word ≠ 0))

/-- The slots that become locals, in the order of the layout. -/
def shown (source : Source) (memory : Memory) : List NamedSlot :=
  source.layout.filter fun slot => !slot.isInternal && decide (source.Bound memory slot)

/-- Every flag of the program's slots can be read, and the locals are the slots
shown, each with its value. -/
structure Materializes (source : Source) (memory : Memory) (locals : List (String × Word)) :
    Prop where
  flags : ∀ slot ∈ source.layout, slot.isInternal = false →
    ∀ flag ∈ slot.flag?, (source.value? memory flag).isSome
  values : List.Forall₂
    (fun slot entry => entry.1 = slot.name ∧ source.value? memory slot.location = some entry.2)
    (source.shown memory) locals

/-- The addresses of the flags of the program's slots, and of the values of
those that are bound. -/
def Needs (source : Source) (memory : Memory) (address : Word) : Prop :=
  ∃ slot ∈ source.layout, slot.isInternal = false ∧
    ((∃ flag ∈ slot.flag?, source.address? flag = some address) ∨
      (source.Bound memory slot ∧ source.address? slot.location = some address))

instance (source : Source) (memory : Memory) (address : Word) :
    Decidable (source.Needs memory address) :=
  inferInstanceAs (Decidable (∃ slot ∈ source.layout, _ ∧ (_ ∨ _)))

/-- The slots differ at most in the place of a value that is not shown. -/
def Relocates (source : Source) (memory : Memory) (slot slot' : NamedSlot) : Prop :=
  slot'.name = slot.name ∧ slot'.flag? = slot.flag? ∧
    (slot.isInternal = false → source.Bound memory slot → slot'.location = slot.location)

variable {source : Source} {memory other : Memory} {slot : NamedSlot} {index : Nat} {word : Word}

/-- The values of the source, with the faults of reading them. -/
def reading (source : Source) (memory : Memory) : NamedSlot → Nat → Except Fault Word :=
  slotValue source.record source.region source.file memory

theorem reading_eq_ok_iff :
    source.reading memory slot index = .ok word ↔ source.value? memory index = some word := by
  unfold reading slotValue value?
  cases source.record.locations[index]? with
  | none => simp
  | some location =>
      dsimp only [Option.bind_some]
      cases location.resolve source.file source.region.constants memory with
      | error fault => simp [Except.toOption]
      | ok found => simp [Except.toOption]

theorem reading_congr (h : ∀ address, source.address? index = some address →
      other.word? address = memory.word? address) (slot : NamedSlot) :
    source.reading other slot index = source.reading memory slot index := by
  unfold reading slotValue
  cases hlocation : source.record.locations[index]? with
  | none => rfl
  | some location =>
      apply Location.resolve_congr
      intro address haddress
      apply h
      rw [address?, hlocation, Option.bind_some, haddress]

theorem isBound_eq_ok_iff {bound : Bool} :
    isBound (source.reading memory) slot = .ok bound ↔
      (∀ flag ∈ slot.flag?, (source.value? memory flag).isSome) ∧
        (bound = true ↔ source.Bound memory slot) := by
  unfold isBound Bound
  cases slot.flag? with
  | none => cases bound <;> simp
  | some flag =>
      cases hread : source.reading memory slot flag with
      | error fault =>
          have hnone : source.value? memory flag = none := by
            rw [Option.eq_none_iff_forall_ne_some]
            intro word hword
            cases hread.symm.trans (reading_eq_ok_iff.mpr hword)
          simp [bind, Except.bind, hread, hnone]
      | ok word =>
          have hsome := reading_eq_ok_iff.mp hread
          cases bound <;> simp [bind, Except.bind, pure, Except.pure, hread, hsome]

theorem isBound_eq_true_iff :
    isBound (source.reading memory) slot = .ok true ↔ source.Bound memory slot := by
  rw [isBound_eq_ok_iff]
  constructor
  · exact fun h => h.2.mp rfl
  · refine fun h => ⟨fun flag hflag => ?_, fun _ => h, fun _ => rfl⟩
    obtain ⟨word, hword, -⟩ := h flag hflag
    rw [Option.mem_def.mp hword]
    rfl

/-- Slots are read when all flags can be and the bound ones have values. -/
theorem readSlots_eq_ok_iff {slots : List NamedSlot} {locals : List (String × Word)} :
    readSlots (source.reading memory) slots = .ok locals ↔
      (∀ slot ∈ slots, ∀ flag ∈ slot.flag?, (source.value? memory flag).isSome) ∧
      List.Forall₂
        (fun slot entry => entry.1 = slot.name ∧ source.value? memory slot.location = some entry.2)
        (slots.filter fun slot => source.Bound memory slot) locals := by
  induction slots generalizing locals with
  | nil => cases locals <;> simp [readSlots]
  | cons slot rest ih =>
      rw [List.forall_mem_cons]
      cases hbound : isBound (source.reading memory) slot with
      | error fault =>
          rw [readSlots_of_fault hbound]
          constructor
          · exact fun h => by cases h
          · rintro ⟨⟨hflags, -⟩, -⟩
            have hok := isBound_eq_ok_iff.mpr ⟨hflags, decide_eq_true_iff⟩
            cases hbound.symm.trans hok
      | ok bound =>
          obtain ⟨hflags, hiff⟩ := isBound_eq_ok_iff.mp hbound
          cases bound with
          | false =>
              have hnot : ¬ source.Bound memory slot := fun h => by cases hiff.mpr h
              rw [readSlots_of_unbound hbound, ih, List.filter_cons_of_neg (by simpa using hnot)]
              exact and_congr_left' (iff_and_self.mpr fun _ => hflags)
          | true =>
              rw [readSlots_of_bound hbound, List.filter_cons_of_pos (by simpa using hiff.mp rfl),
                List.forall₂_cons_left_iff]
              constructor
              · rintro ⟨word, tail, hword, htail, rfl⟩
                obtain ⟨hrest, hvalues⟩ := ih.mp htail
                exact ⟨⟨hflags, hrest⟩, _, _, ⟨rfl, reading_eq_ok_iff.mp hword⟩, hvalues, rfl⟩
              · rintro ⟨⟨-, hrest⟩, ⟨name, word⟩, tail, ⟨rfl, hword⟩, hvalues, rfl⟩
                exact ⟨word, tail, reading_eq_ok_iff.mpr hword, ih.mpr ⟨hrest, hvalues⟩, rfl⟩

theorem readSlots_layout_iff {locals : List (String × Word)} :
    readSlots (source.reading memory) (source.layout.filter fun slot => !slot.isInternal) =
      .ok locals ↔ source.Materializes memory locals := by
  have hshown : ((source.layout.filter fun slot => !slot.isInternal).filter fun slot =>
      source.Bound memory slot) = source.shown memory := by
    rw [List.filter_filter, shown]
    simp only [Bool.and_comm]
  rw [readSlots_eq_ok_iff, hshown]
  constructor
  · rintro ⟨hflags, hvalues⟩
    exact ⟨fun slot hmem hname => hflags slot (List.mem_filter.mpr ⟨hmem, by simp [hname]⟩), hvalues⟩
  · rintro ⟨hflags, hvalues⟩
    refine ⟨fun slot hmem => ?_, hvalues⟩
    obtain ⟨hlayout, hname⟩ := List.mem_filter.mp hmem
    exact hflags slot hlayout (by simpa using hname)

/-! The state of a frame -/

variable {frame : Frame} (hooks : Hooks)

theorem map_locals_ofFrame (h : source.Of frame) :
    (ofFrame hooks memory frame).map locals =
      readSlots (source.reading memory) (source.layout.filter fun slot => !slot.isInternal) := by
  rw [ReturnOffset.ofFrame_of_record h, ReturnOffset.stateOf]
  unfold reading layout
  generalize readSlots _ _ = slots
  cases slots <;> rfl

theorem exists_source_of_ofFrame {state : DeoptState}
    (h : ofFrame hooks memory frame = .ok state) : ∃ source : Source, source.Of frame := by
  cases hrecord : recordOf frame with
  | error fault =>
      rw [ReturnOffset.ofFrame_of_fault hrecord] at h
      cases h
  | ok found =>
      obtain ⟨record, region, file⟩ := found
      exact ⟨⟨record, region, file⟩, hrecord⟩

/-- Memories that agree where the source needs them read every slot alike. -/
theorem alike_of_needs
    (h : ∀ address, source.Needs memory address → other.word? address = memory.word? address)
    (hslot : slot ∈ source.layout) (hname : slot.isInternal = false) :
    Alike (source.reading memory) (source.reading other) slot slot where
  name := rfl
  bound := isBound_congr rfl fun flag hflag => reading_congr
    (fun address haddress => h address ⟨slot, hslot, hname, .inl ⟨flag, hflag, haddress⟩⟩) slot
  location hbound := reading_congr
    (fun address haddress => h address
      ⟨slot, hslot, hname, .inr ⟨isBound_eq_true_iff.mp hbound, haddress⟩⟩) slot

theorem ofFrame_congr
    (h : ∀ source : Source, source.Of frame → ∀ address, source.Needs memory address →
      other.word? address = memory.word? address) :
    ofFrame hooks other frame = ofFrame hooks memory frame := by
  cases hrecord : recordOf frame with
  | error fault =>
      rw [ReturnOffset.ofFrame_of_fault hrecord, ReturnOffset.ofFrame_of_fault hrecord]
  | ok found =>
      obtain ⟨record, region, file⟩ := found
      let source : Source := ⟨record, region, file⟩
      have hslots : List.Forall₂ (Alike (source.reading memory) (source.reading other))
          (source.layout.filter fun slot => !slot.isInternal)
          (source.layout.filter fun slot => !slot.isInternal) := by
        rw [List.forall₂_same]
        intro slot hmem
        obtain ⟨hlayout, hname⟩ := List.mem_filter.mp hmem
        exact alike_of_needs (h source hrecord) hlayout (by simpa using hname)
      have hread : readSlots (slotValue record region file other) _ =
          readSlots (slotValue record region file memory) _ := readSlots_congr hslots
      rw [ReturnOffset.ofFrame_of_record hrecord, ReturnOffset.ofFrame_of_record hrecord,
        ReturnOffset.stateOf, ReturnOffset.stateOf]
      exact congrArg _ hread

/-- The source with another layout for its record. -/
def relaid (source : Source) (layout : FrameLayout) : Source :=
  { source with region := source.region.withLayout source.record.id layout }

theorem layout_relaid (source : Source) (layout : FrameLayout) :
    (source.relaid layout).layout = layout := by
  simp [relaid, Source.layout, CodeRegion.layout?, CodeRegion.withLayout]

theorem relaid_of {ip bp sp : Word} {region : CodeRegion} {file : RegisterFile}
    (h : source.Of (.compiled region ip bp sp file)) (layout : FrameLayout) :
    (source.relaid layout).Of
      (.compiled (region.withLayout source.record.id layout) ip bp sp file) := by
  have hoffset : (region.withLayout source.record.id layout).offsetOf? ip = region.offsetOf? ip := rfl
  have hmap : (region.withLayout source.record.id layout).stackMap? = region.stackMap? := rfl
  rw [Of, recordOf] at h ⊢
  rw [hoffset, hmap]
  cases hsome : region.offsetOf? ip with
  | none =>
      rw [hsome] at h
      cases h
  | some offset =>
      rw [hsome] at h
      dsimp only at h ⊢
      cases hrecord : region.stackMap?.bind (·.recordAt? offset) with
      | none =>
          rw [hrecord] at h
          cases h
      | some record =>
          rw [hrecord] at h
          obtain ⟨_, _, _⟩ := source
          cases h
          rfl

theorem Relocates.alike {slot' : NamedSlot} {layout : FrameLayout} (hname : slot.isInternal = false)
    (h : source.Relocates memory slot slot') :
    Alike (source.reading memory) ((source.relaid layout).reading memory) slot slot' := by
  obtain ⟨hsame, hflag, hlocation⟩ := h
  have hread : ∀ index, (source.relaid layout).reading memory slot' index =
      source.reading memory slot index := by
    intro index
    unfold reading slotValue
    rw [hsame]
    rfl
  refine ⟨hsame, isBound_congr hflag fun flag _ => hread flag, fun hbound => ?_⟩
  rw [hlocation hname (isBound_eq_true_iff.mp hbound)]
  exact hread slot.location

theorem Relocates.isInternal {slot' : NamedSlot} (h : source.Relocates memory slot slot') :
    slot'.isInternal = slot.isInternal := by
  unfold NamedSlot.isInternal
  rw [h.1]

theorem alike_of_relocates {slots slots' layout : FrameLayout}
    (h : List.Forall₂ (source.Relocates memory) slots slots') :
    List.Forall₂ (Alike (source.reading memory) ((source.relaid layout).reading memory))
      (slots.filter fun slot => !slot.isInternal) (slots'.filter fun slot => !slot.isInternal) := by
  induction h with
  | nil => exact .nil
  | @cons slot slot' rest rest' hslot _ ih =>
      cases hname : slot.isInternal with
      | true =>
          rw [List.filter_cons_of_neg (by simp [hname]),
            List.filter_cons_of_neg (by simp [hslot.isInternal, hname])]
          exact ih
      | false =>
          rw [List.filter_cons_of_pos (by simp [hname]),
            List.filter_cons_of_pos (by simp [hslot.isInternal, hname])]
          exact .cons (Relocates.alike hname hslot) ih

theorem map_locals_relaid {ip bp sp : Word} {region : CodeRegion} {file : RegisterFile}
    (h : source.Of (.compiled region ip bp sp file)) {layout : FrameLayout}
    (hlayout : List.Forall₂ (source.Relocates memory) source.layout layout) :
    (ofFrame hooks memory
      (.compiled (region.withLayout source.record.id layout) ip bp sp file)).map locals =
    (ofFrame hooks memory (.compiled region ip bp sp file)).map locals := by
  rw [map_locals_ofFrame hooks h, map_locals_ofFrame hooks (relaid_of h layout), layout_relaid]
  exact readSlots_congr (alike_of_relocates hlayout)

/-- The locals of a frame are the slots of its layout that are not internal and
whose flag, if any, is not zero, each with its value, and the frame has a state
exactly when these flags and values can be read. Memory outside the needed
addresses makes no difference to the result, and the place of a slot that is
not shown makes none to the locals or the fault. -/
theorem locals_need_bound_slots_only (hooks : Hooks) (memory : Memory) (region : CodeRegion)
    (ip bp sp : Word) (file : RegisterFile) :
    (∀ locals,
      (∃ state, ofFrame hooks memory (.compiled region ip bp sp file) = .ok state ∧
        state.locals = locals) ↔
      ∃ source : Source, source.Of (.compiled region ip bp sp file) ∧
        source.Materializes memory locals) ∧
    (∀ other : Memory,
      (∀ source : Source, source.Of (.compiled region ip bp sp file) → ∀ address,
        source.Needs memory address → other.word? address = memory.word? address) →
      ofFrame hooks other (.compiled region ip bp sp file) =
        ofFrame hooks memory (.compiled region ip bp sp file)) ∧
    ∀ (source : Source) (layout : FrameLayout), source.Of (.compiled region ip bp sp file) →
      List.Forall₂ (source.Relocates memory) source.layout layout →
      (ofFrame hooks memory
        (.compiled (region.withLayout source.record.id layout) ip bp sp file)).map locals =
      (ofFrame hooks memory (.compiled region ip bp sp file)).map locals := by
  refine ⟨fun locals => ?_, fun other h => ofFrame_congr hooks h,
    fun source layout h hlayout => map_locals_relaid hooks h hlayout⟩
  constructor
  · rintro ⟨state, hstate, rfl⟩
    obtain ⟨source, hsource⟩ := exists_source_of_ofFrame hooks hstate
    refine ⟨source, hsource, readSlots_layout_iff.mp ?_⟩
    rw [← map_locals_ofFrame hooks hsource, hstate]
    rfl
  · rintro ⟨source, hsource, hlocals⟩
    have hmap := (map_locals_ofFrame hooks hsource).trans (readSlots_layout_iff.mpr hlocals)
    cases hstate : ofFrame hooks memory (.compiled region ip bp sp file) with
    | error fault =>
        rw [hstate] at hmap
        cases hmap
    | ok state =>
        rw [hstate] at hmap
        exact ⟨state, rfl, Except.ok.inj hmap⟩

/-- A value in a register, one that may be unbound and has no place of its own,
one of the compiler's, and one in the constant pool. The first flag is in
memory. -/
def sparseSource : Source where
  record := ⟨17, 0x40, 0, [.register .rbx, .direct .rbp (-8), .direct .rbp (-24), .pooled 0,
    .constant 1], []⟩
  region :=
    { start := 0x1000, size := 0x100, tier := .optimized, functionId := 3
      stackMap? := some
        { functions := [], constants := [0xc0ffee]
          records := [⟨17, 0x40, 0, [.register .rbx, .direct .rbp (-8), .direct .rbp (-24),
            .pooled 0, .constant 1], []⟩] }
      layouts := [(17, [⟨"x", 0, none⟩, ⟨"y", 9, some 1⟩, ⟨"!tmp", 2, none⟩, ⟨"k", 3, some 4⟩])] }
  file := RegisterFile.empty.putAll [(.rbx, 41), (.rbp, 0x7000)]

def sparseFrame : Frame :=
  .compiled sparseSource.region 0x1040 0x7000 0x6f00 sparseSource.file

/-- The flag of the unbound value is all that is there. -/
def sparseMemory : Memory :=
  Memory.empty.write 0x6ff8 0

/-- The unbound value and the internal one point outside the record, or at
memory that cannot be read, and the frame still has its two locals, whatever is
written there and wherever else they point. -/
theorem sparseFrame_locals :
    sparseSource.Of sparseFrame ∧
    ∀ hooks,
      (∃ state, ofFrame hooks sparseMemory sparseFrame = .ok state ∧
        state.locals = [("x", 41), ("k", 0xc0ffee)]) ∧
      (∀ word, ofFrame hooks (sparseMemory.write 0x6fe8 word) sparseFrame =
        ofFrame hooks sparseMemory sparseFrame) ∧
      (ofFrame hooks sparseMemory
        (.compiled (sparseSource.region.withLayout 17
          [⟨"x", 0, none⟩, ⟨"y", 2, some 1⟩, ⟨"!tmp", 99, none⟩, ⟨"k", 3, some 4⟩])
          0x1040 0x7000 0x6f00 sparseSource.file)).map locals =
        (ofFrame hooks sparseMemory sparseFrame).map locals := by
  have hsource : sparseSource.Of sparseFrame := by cbv
  refine ⟨hsource, fun hooks => ?_⟩
  obtain ⟨hstate, hmemory, hlayout⟩ := locals_need_bound_slots_only hooks sparseMemory
    sparseSource.region 0x1040 0x7000 0x6f00 sparseSource.file
  refine ⟨(hstate _).mpr ⟨sparseSource, hsource, ?_, ?_⟩, fun word => hmemory _ ?_,
    hlayout sparseSource _ hsource ?_⟩
  · decide
  · have hshown : sparseSource.shown sparseMemory = [⟨"x", 0, none⟩, ⟨"k", 3, some 4⟩] := by decide
    rw [hshown]
    exact .cons ⟨rfl, by decide⟩ (.cons ⟨rfl, by decide⟩ .nil)
  · intro source hof address hneeds
    obtain ⟨record, region, file⟩ := source
    cases hsource.symm.trans hof
    have hne : address ≠ 0x6fe8 := by
      rintro rfl
      exact absurd hneeds (by decide)
    simp [Memory.write, hne]
  · exact .cons ⟨rfl, rfl, fun _ _ => rfl⟩ (.cons ⟨rfl, rfl, fun _ h => absurd h (by decide)⟩
      (.cons ⟨rfl, rfl, fun h => absurd h (by decide)⟩ (.cons ⟨rfl, rfl, fun _ _ => rfl⟩ .nil)))

end Source
end DeoptState
end StackUnwind
