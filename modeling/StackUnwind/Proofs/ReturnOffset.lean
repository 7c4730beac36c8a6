import StackUnwind.Deopt
import StackUnwind.Proofs.RecordIndex
import StackUnwind.Proofs.RegionLookup
import StackUnwind.Proofs.ValueFaults
import Mathlib.Algebra.Group.Nat.Defs
import Mathlib.Data.List.Basic

/-!
# Tables that are keyed by return addresses

A frame that waits in a call is classified by the byte before its return
address, while the stack map and the release table of its region are keyed by
the return address itself. The two agree on every call but one: behind a call
that ends its region the return address is the region's end, which the region
does not contain. There neither a record nor a registration is found.

Both sides of this boundary are stated. The offset of the return address must
fit in 32 bits; beyond that nothing is assumed of the region, its tables or the
cursor, which may be captured or live.
-/
namespace StackUnwind.ReturnOffset

/-- The cursor stands on a frame that waits in a call of `region`, and that
frame is captured as `frame`. -/
structure WaitsIn (classifier : Classifier) (cursor : Cursor) (region : CodeRegion)
    (frame : Frame) : Prop where
  waiting : ∃ activation, cursor.activation? = some activation ∧ activation.exact = false
  kind : classifier.classify cursor.lookupPc = .compiled region
  captured : cursor.capture? (.compiled region) = some frame

/-- The locations registered for a return offset, in the order of registration. -/
def registeredAt (region : CodeRegion) (offset : UInt32) : List Location :=
  (region.releases.filter fun registration => registration.1 = offset).flatMap (·.2)

/-- The state of a frame as one record of the stack map gives it. -/
def stateOf (hooks : Hooks) (memory : Memory) (frame : Frame) (region : CodeRegion)
    (file : RegisterFile) (record : StackMap.Record) : Except Fault DeoptState :=
  (DeoptState.readSlots (DeoptState.slotValue record region file memory)
    (((region.layout? record.id).getD []).filter fun slot => !slot.isInternal)).map fun locals =>
      { locals, region
        info? := hooks.frameInfo frame
        statement? := hooks.statement frame
        recordId := record.id }

/-! The two notions of being inside -/

theorem contains_iff_toNat (region : CodeRegion) (pc : Word) :
    region.contains pc = true ↔
      region.start.toNat ≤ pc.toNat ∧ pc.toNat < region.stop.toNat := by
  rw [CodeRegion.contains_iff, UInt64.le_iff_toNat_le, UInt64.lt_iff_toNat_lt]

theorem predSat_toNat (ip : Word) : (Word.predSat ip).toNat = ip.toNat - 1 := by
  unfold Word.predSat
  split_ifs with h
  · subst h
    rfl
  · have hpos : 1 ≤ ip := by
      rw [UInt64.le_iff_toNat_le]
      have : ip.toNat ≠ 0 := fun h0 => h (UInt64.toNat_inj.mp h0)
      exact Nat.one_le_iff_ne_zero.mpr this
    exact UInt64.toNat_sub_of_le ip 1 hpos

/-- The byte before an address and the address itself are inside together,
unless the address is the end. -/
theorem contains_iff_ne_stop {region : CodeRegion} {ip : Word}
    (h : region.contains (Word.predSat ip) = true) :
    region.contains ip = true ↔ ip ≠ region.stop := by
  rw [contains_iff_toNat, predSat_toNat] at h
  rw [contains_iff_toNat, ne_eq, ← UInt64.toNat_inj]
  omega

theorem offsetOf_eq {region : CodeRegion} {ip : Word}
    (h : region.contains (Word.predSat ip) = true)
    (hoffset : ip.toNat - region.start.toNat < 2 ^ 32) :
    region.offsetOf? ip =
      if ip = region.stop then none else some (ip - region.start).toUInt32 := by
  have hiff := contains_iff_ne_stop h
  by_cases hstop : ip = region.stop
  · have hout : region.contains ip = false := by
      rw [Bool.eq_false_iff, ne_eq, hiff]
      exact fun hne => hne hstop
    rw [if_pos hstop, CodeRegion.offsetOf?, hout]
    rfl
  · have hin : region.contains ip = true := hiff.mpr hstop
    have hle : region.start ≤ ip := UInt64.le_iff_toNat_le.mpr ((contains_iff_toNat _ _).mp hin).1
    have hsmall : (ip - region.start).toNat < UInt32.size := by
      rw [UInt64.toNat_sub_of_le ip region.start hle]
      exact hoffset
    rw [if_neg hstop, CodeRegion.offsetOf?, if_pos]
    simp only [hin, hsmall, decide_true, Bool.and_self]

theorem WaitsIn.frame_eq {classifier : Classifier} {cursor : Cursor} {region : CodeRegion}
    {frame : Frame} (h : WaitsIn classifier cursor region frame) :
    frame = .compiled region cursor.ip cursor.bp cursor.sp cursor.registers :=
  (Option.some.inj h.captured).symm

theorem WaitsIn.contains_pred {classifier : Classifier} {cursor : Cursor} {region : CodeRegion}
    {frame : Frame} (h : WaitsIn classifier cursor region frame) :
    region.contains (Word.predSat cursor.ip) = true := by
  obtain ⟨activation, ha, hexact⟩ := h.waiting
  have hpc : cursor.lookupPc = Word.predSat cursor.ip := by
    simp [Cursor.lookupPc, Cursor.ip, ha, Activation.lookupPc, hexact]
  rw [← hpc]
  exact (RegionTable.lookup_some (Classifier.classify_eq_compiled_iff.mp h.kind)).2

/-! Reading the state of a frame -/

theorem slotValue_ne_notCompiled (record : StackMap.Record) (region : CodeRegion)
    (file : RegisterFile) (memory : Memory) (slot : NamedSlot) (index : Nat) (pc : Word) :
    DeoptState.slotValue record region file memory slot index ≠ .error (.notCompiled pc) := by
  unfold DeoptState.slotValue
  split
  · exact Location.resolve_error
  · simp

theorem isBound_error {value : NamedSlot → Nat → Except Fault Word} {slot : NamedSlot}
    {fault : Fault} (h : DeoptState.isBound value slot = .error fault) :
    ∃ flag, value slot flag = .error fault := by
  unfold DeoptState.isBound at h
  split at h
  · simp at h
  · rename_i flag _
    refine ⟨flag, ?_⟩
    cases hv : value slot flag with
    | error e => simpa [bind, Except.bind, hv] using h
    | ok word => simp [bind, Except.bind, hv, pure, Except.pure] at h

/-- A fault of reading slots is the fault of one of the values read. -/
theorem readSlots_error {value : NamedSlot → Nat → Except Fault Word} {slots : List NamedSlot}
    {fault : Fault} (h : DeoptState.readSlots value slots = .error fault) :
    ∃ slot index, value slot index = .error fault := by
  induction slots with
  | nil => simp [DeoptState.readSlots] at h
  | cons slot rest ih =>
      rw [DeoptState.readSlots] at h
      cases hb : DeoptState.isBound value slot with
      | error e =>
          rw [hb] at h
          obtain rfl : e = fault := Except.error.inj h
          obtain ⟨flag, hv⟩ := isBound_error hb
          exact ⟨slot, flag, hv⟩
      | ok bound =>
          rw [hb] at h
          cases bound with
          | false => exact ih h
          | true =>
              cases hv : value slot slot.location with
              | error e =>
                  refine ⟨slot, slot.location, ?_⟩
                  simpa [bind, Except.bind, hv] using h
              | ok word =>
                  cases hr : DeoptState.readSlots value rest with
                  | error e =>
                      apply ih
                      simpa [bind, Except.bind, hv, hr] using h
                  | ok words => simp [bind, Except.bind, hv, hr, pure, Except.pure] at h

theorem stateOf_ne_notCompiled (hooks : Hooks) (memory : Memory) (frame : Frame)
    (region : CodeRegion) (file : RegisterFile) (record : StackMap.Record) (pc : Word) :
    stateOf hooks memory frame region file record ≠ .error (.notCompiled pc) := by
  intro h
  unfold stateOf at h
  generalize hs : DeoptState.readSlots _ _ = slots at h
  cases slots with
  | error fault =>
      obtain rfl : fault = .notCompiled pc := Except.error.inj h
      obtain ⟨slot, index, hv⟩ := readSlots_error hs
      exact slotValue_ne_notCompiled record region file memory slot index pc hv
  | ok locals => simp [Except.map] at h

theorem ofFrame_of_record {frame : Frame} {record : StackMap.Record} {region : CodeRegion}
    {file : RegisterFile} (h : DeoptState.recordOf frame = .ok (record, region, file))
    (hooks : Hooks) (memory : Memory) :
    DeoptState.ofFrame hooks memory frame = stateOf hooks memory frame region file record := by
  rw [DeoptState.ofFrame, h, stateOf]
  change (DeoptState.readSlots _ _ >>= fun locals => pure _) = _
  generalize DeoptState.readSlots _ _ = slots
  cases slots <;> rfl

theorem ofFrame_of_fault {frame : Frame} {fault : Fault}
    (h : DeoptState.recordOf frame = .error fault) (hooks : Hooks) (memory : Memory) :
    DeoptState.ofFrame hooks memory frame = .error fault := by
  rw [DeoptState.ofFrame, h]
  rfl

/-! Both sides of the boundary -/

theorem recordAt_some {map : StackMap} {offset : UInt32}
    (h : ∃ record ∈ map.records, record.offset = offset) :
    ∃ record ∈ map.records, record.offset = offset ∧ map.recordAt? offset = some record := by
  obtain ⟨given, hmem, rfl⟩ := h
  obtain ⟨record, hrecord⟩ := StackMap.exists_recordAt? hmem
  obtain ⟨hrecords, hoffset⟩ := StackMap.recordAt?_some hrecord
  exact ⟨record, hrecords, hoffset, hrecord⟩

theorem recordOf_inside {region : CodeRegion} {ip bp sp : Word} {file : RegisterFile}
    {offset : UInt32} (h : region.offsetOf? ip = some offset) {map : StackMap}
    (hmap : region.stackMap? = some map) {record : StackMap.Record}
    (hrecord : map.recordAt? offset = some record) :
    DeoptState.recordOf (.compiled region ip bp sp file) = .ok (record, region, file) := by
  simp only [DeoptState.recordOf, h, hmap, Option.bind_some, hrecord]

/-- Inside the region a frame fails for want of a record, never for want of a region. -/
theorem ofFrame_ne_notCompiled {region : CodeRegion} {ip bp sp : Word} {file : RegisterFile}
    {offset : UInt32} (h : region.offsetOf? ip = some offset) (hooks : Hooks) (memory : Memory)
    (pc : Word) :
    DeoptState.ofFrame hooks memory (.compiled region ip bp sp file) ≠
      .error (.notCompiled pc) := by
  cases hr : DeoptState.recordOf (.compiled region ip bp sp file) with
  | error fault =>
      rw [ofFrame_of_fault hr]
      simp only [DeoptState.recordOf, h] at hr
      split at hr
      · obtain rfl : Fault.noStackMapRecord offset = fault := Except.error.inj hr
        simp
      · simp at hr
  | ok found =>
      rw [ofFrame_of_record hr]
      exact stateOf_ne_notCompiled _ _ _ _ _ _ _

theorem releasesAt_inside {region : CodeRegion} {returnAddress : Word} {offset : UInt32}
    (h : region.offsetOf? returnAddress = some offset) :
    region.releasesAt returnAddress = registeredAt region offset := by
  simp only [CodeRegion.releasesAt, h, registeredAt]
  induction region.releases with
  | nil => rfl
  | cons registration rest ih =>
      by_cases ho : registration.1 = offset <;> simp [ho, ih]

theorem finalizePending_eq {session : Session} {frame : Frame} (h : session.pending? = some frame)
    (memory : Memory) (ledger : Ledger) :
    session.finalizePending memory ledger =
      ({ session with pending? := none },
        ledger.call ((frame.scopedValues memory).1.map .release ++ [.cleanup frame]),
        (frame.scopedValues memory).2) := by
  simp only [Session.finalizePending, h, Session.pause, Session.resume, Frame.finalCalls]

/-- The tables of a region answer for a frame that waits in one of its calls
exactly when the return address is not the end of the region. Before the end
the frame's state is read from a record of the return offset, if there is one,
and the values registered for the offset are released in their order. At the
end the frame counts as not compiled and nothing is released. -/
theorem tables_answer_before_the_end {classifier : Classifier} {cursor : Cursor}
    {region : CodeRegion} {frame : Frame} (h : WaitsIn classifier cursor region frame)
    (hoffset : cursor.ip.toNat - region.start.toNat < 2 ^ 32) :
    (cursor.ip ≠ region.stop →
      (∀ map, region.stackMap? = some map →
        (∃ record ∈ map.records, record.offset = (cursor.ip - region.start).toUInt32) →
        ∃ record ∈ map.records, record.offset = (cursor.ip - region.start).toUInt32 ∧
          ∀ hooks memory, DeoptState.ofFrame hooks memory frame =
            stateOf hooks memory frame region cursor.registers record) ∧
      (∀ hooks memory pc,
        DeoptState.ofFrame hooks memory frame ≠ .error (.notCompiled pc)) ∧
      ∀ memory (session : Session) (ledger : Ledger), session.pending? = some frame →
        session.finalizePending memory ledger =
          let (values, result) := resolveAll
            (fun location => location.resolve cursor.registers region.constants memory)
            (registeredAt region (cursor.ip - region.start).toUInt32)
          ({ session with pending? := none },
            ledger.call (values.map .release ++ [.cleanup frame]), result)) ∧
    (cursor.ip = region.stop →
      (∀ hooks memory,
        DeoptState.ofFrame hooks memory frame = .error (.notCompiled cursor.ip)) ∧
      ∀ memory (session : Session) (ledger : Ledger), session.pending? = some frame →
        session.finalizePending memory ledger =
          ({ session with pending? := none }, ledger.call [.cleanup frame], .ok ())) := by
  have hoff := offsetOf_eq h.contains_pred hoffset
  obtain rfl := h.frame_eq
  refine ⟨fun hne => ?_, fun hend => ?_⟩
  · rw [if_neg hne] at hoff
    refine ⟨?_, fun hooks memory pc => ofFrame_ne_notCompiled hoff hooks memory pc, ?_⟩
    · intro map hmap hrecords
      obtain ⟨record, hmem, hrecord, hat⟩ := recordAt_some hrecords
      exact ⟨record, hmem, hrecord, ofFrame_of_record (recordOf_inside hoff hmap hat)⟩
    · intro memory session ledger hpending
      rw [finalizePending_eq hpending, Frame.scopedValues, releasesAt_inside hoff]
  · rw [if_pos hend] at hoff
    refine ⟨?_, ?_⟩
    · have hrecord : DeoptState.recordOf
          (.compiled region cursor.ip cursor.bp cursor.sp cursor.registers) =
            .error (.notCompiled cursor.ip) := by
        simp only [DeoptState.recordOf, hoff]
      exact ofFrame_of_fault hrecord
    · intro memory session ledger hpending
      have hnone : region.releasesAt cursor.ip = [] := by
        simp only [CodeRegion.releasesAt, hoff]
      rw [finalizePending_eq hpending, Frame.scopedValues, hnone]
      rfl

/-- A region with a record and a value to release for the call that returns to `offset`. -/
def regionWithCall (offset : UInt32) : CodeRegion :=
  CodeRegion.withReleases
    { start := 0x1000, size := 0x100, tier := .baseline, functionId := 7
      stackMap? := some
        { functions := [], constants := [], records := [⟨1, offset, 0, [.constant 5], []⟩] } }
    offset [.constant 9]

/-- The innermost frame waits in the call that returns to `offset`. -/
def waitingCursor (offset : UInt32) : Cursor :=
  .captured
    { frames := []
      memory := .empty
      position? := some 0
      current? := some { toActivation := .ofPointers (0x1000 + offset.toUInt64) 0x7000 0x7010 } }

def waitingFrame (offset : UInt32) : Frame :=
  .compiled (regionWithCall offset) (0x1000 + offset.toUInt64) 0x7010 0x7000
    (waitingCursor offset).registers

/-- Sixteen bytes into the region the record is read and the value is released. -/
theorem tables_answer_inside :
    WaitsIn { regions := ⟨[regionWithCall 0x10]⟩ } (waitingCursor 0x10) (regionWithCall 0x10)
      (waitingFrame 0x10) ∧
    (∀ hooks, ∃ state, DeoptState.ofFrame hooks .empty (waitingFrame 0x10) = .ok state ∧
      state.recordId = 1) ∧
    ∀ ledger : Ledger,
      Session.finalizePending .empty { slot := 0, pending? := some (waitingFrame 0x10) } ledger =
        ({ slot := 0 }, ledger.call [.release 9, .cleanup (waitingFrame 0x10)], .ok ()) := by
  have hwaits : WaitsIn { regions := ⟨[regionWithCall 0x10]⟩ } (waitingCursor 0x10)
      (regionWithCall 0x10) (waitingFrame 0x10) := ⟨⟨_, rfl, rfl⟩, by decide, rfl⟩
  obtain ⟨hrecord, -, hrelease⟩ :=
    (tables_answer_before_the_end hwaits (by decide)).1 (by decide)
  refine ⟨hwaits, fun hooks => ?_, fun ledger => hrelease .empty _ ledger rfl⟩
  obtain ⟨record, hmem, -, hstate⟩ := hrecord _ rfl ⟨_, List.mem_singleton_self _, by decide⟩
  obtain rfl := List.mem_singleton.mp hmem
  exact ⟨_, hstate hooks .empty, rfl⟩

/-- A call that ends its region has a record and a value to release, and
neither is found. -/
theorem tables_silent_at_the_end :
    WaitsIn { regions := ⟨[regionWithCall 0x100]⟩ } (waitingCursor 0x100) (regionWithCall 0x100)
      (waitingFrame 0x100) ∧
    (waitingCursor 0x100).ip = (regionWithCall 0x100).stop ∧
    ((regionWithCall 0x100).stackMap?.bind (·.recordAt? 0x100)).isSome ∧
    registeredAt (regionWithCall 0x100) 0x100 = [.constant 9] ∧
    (∀ hooks, DeoptState.ofFrame hooks .empty (waitingFrame 0x100) =
      .error (.notCompiled 0x1100)) ∧
    ∀ ledger : Ledger,
      Session.finalizePending .empty { slot := 0, pending? := some (waitingFrame 0x100) } ledger =
        ({ slot := 0 }, ledger.call [.cleanup (waitingFrame 0x100)], .ok ()) := by
  refine ⟨⟨⟨_, rfl, rfl⟩, by decide, rfl⟩, by decide, by cbv, by decide, ?_, ?_⟩
  · exact fun hooks => ofFrame_of_fault (by decide) hooks .empty
  · intro ledger
    have hvalues : (waitingFrame 0x100).scopedValues .empty = ([], .ok ()) := by rfl
    rw [finalizePending_eq rfl .empty ledger, hvalues]
    rfl

end StackUnwind.ReturnOffset
