import StackUnwind.Episode.Unwind
import StackUnwind.Proofs.TableFaults
import StackUnwind.Proofs.ValueFaults

/-!
# Faults on the way to a landing

An unwinding moves outwards and asks each frame's table for a landing pad.
Moving fails for a call-frame row that cannot be evaluated, for a value that
cannot be read or for a stack that does not go on outwards; a table fails for
what it holds, for a call that it does not list and for a pad outside the
frame's code. A frame that cannot be landed in is a fault of its own, which
none of these steps reports.
-/
namespace StackUnwind

/-- The frame that was found cannot be landed in. -/
def Fault.RefusesFrame (fault : Fault) : Prop :=
  ∃ ip register, fault = .incompleteRegisters ip register

/-- The fault can come from moving a cursor outwards. -/
def Fault.IsOfStep : Fault → Prop
  | .dwarf _ | .unsupportedRow .. | .stepFailed .. => True
  | fault => fault.IsOfValue

/-- The fault can come from asking a frame for its landing pad. -/
def Fault.IsOfPad (fault : Fault) : Prop :=
  fault.IsOfTable ∨ (∃ pc, fault = .noCallSite pc) ∨
    ∃ pad start stop, fault = .landingPadOutOfRange pad start stop

variable {fault : Fault}

theorem Fault.IsOfValue.isOfStep (h : fault.IsOfValue) : fault.IsOfStep := by
  unfold IsOfStep
  split
  · trivial
  · trivial
  · trivial
  · exact h

theorem Fault.IsOfStep.not_refusesFrame (h : fault.IsOfStep) : ¬ fault.RefusesFrame := by
  rintro ⟨ip, register, rfl⟩
  exact h

theorem Fault.IsOfPad.not_refusesFrame (h : fault.IsOfPad) : ¬ fault.RefusesFrame := by
  rintro ⟨ip, register, rfl⟩
  rcases h with htable | ⟨_, hother⟩ | ⟨_, _, _, hother⟩
  · exact htable
  · cases hother
  · cases hother

/-- Whenever the computation fails, its fault is one of `P`. -/
def FailsWithin {α : Type} (P : Fault → Prop) (x : Except Fault α) : Prop :=
  ∀ fault, x = .error fault → P fault

namespace FailsWithin

variable {α β : Type} {P : Fault → Prop}

theorem ok (a : α) : FailsWithin P (.ok a) := by
  intro fault h
  cases h

theorem error (h : P fault) : FailsWithin P (.error fault : Except Fault α) := by
  intro other hother
  cases hother
  exact h

theorem bind {x : Except Fault α} {f : α → Except Fault β} (hx : FailsWithin P x)
    (hf : ∀ a, FailsWithin P (f a)) : FailsWithin P (x >>= f) := by
  cases x with
  | error e => exact error (hx e rfl)
  | ok a => exact hf a

theorem map {x : Except Fault α} (hx : FailsWithin P x) (f : α → β) :
    FailsWithin P (f <$> x) := by
  cases x with
  | error e => exact error (hx e rfl)
  | ok a => exact ok (f a)

end FailsWithin

open FailsWithin

/-! Moving outwards -/

theorem RegisterFile.get_failsWithin (file : RegisterFile) (register : Register) :
    FailsWithin Fault.IsOfStep (file.get register) :=
  fun _ h => (get_error h).isOfStep

theorem Memory.read_failsWithin (memory : Memory) (address : Word) :
    FailsWithin Fault.IsOfStep (memory.read address) :=
  fun _ h => (read_error h).isOfStep

namespace CallFrame

variable (pc : Word) (file : RegisterFile) (memory : Memory)

theorem RegisterRule.evaluate_failsWithin (rule : RegisterRule) (frameAddress : Word)
    (register : Register) :
    FailsWithin Fault.IsOfStep (rule.evaluate pc frameAddress register file memory) := by
  cases rule with
  | undefined => exact ok _
  | sameValue => exact ok _
  | offset distance => exact (memory.read_failsWithin _).map _
  | valueOffset distance => exact ok _
  | otherRegister source => exact ok _
  | expression => exact error trivial

theorem applyRules_failsWithin (frameAddress : Word) (rules : RuleList) (caller : RegisterFile) :
    FailsWithin Fault.IsOfStep (applyRules pc frameAddress file memory rules caller) := by
  induction rules generalizing caller with
  | nil => exact ok _
  | cons entry rest ih =>
      obtain ⟨register, rule⟩ := entry
      simp only [applyRules]
      split_ifs
      · exact (rule.evaluate_failsWithin pc file memory frameAddress register).bind fun _ => ih _
      · exact ih caller

theorem FrameRule.evaluate_failsWithin (rule : FrameRule) :
    FailsWithin Fault.IsOfStep (rule.evaluate pc file) := by
  cases rule with
  | registerOffset register offset => exact (file.get_failsWithin register).bind fun _ => ok _
  | expression => exact error trivial

theorem RowState.apply_failsWithin (row : RowState) (returnColumn : Register) :
    FailsWithin Fault.IsOfStep (row.apply returnColumn pc file memory) :=
  (row.frame.evaluate_failsWithin pc file).bind fun frameAddress =>
    (applyRules_failsWithin pc file memory frameAddress row.rules _).bind fun _ => ok _

theorem Table.step_failsWithin (table : Table) :
    FailsWithin Fault.IsOfStep (table.step pc file memory) := by
  unfold Table.step
  split
  · exact ok _
  · rename_i sec _
    unfold Section.step
    split
    · exact ok _
    · split
      · exact error trivial
      · exact ok _
      · rename_i description _ _ row _
        exact (row.apply_failsWithin pc file memory description.common.returnColumn).map _

end CallFrame

namespace LiveCursor

variable (a : Activation) (memory : Memory)

theorem stepByBase_failsWithin : FailsWithin Fault.IsOfStep (stepByBase a memory) := by
  unfold stepByBase
  split_ifs
  · exact ok _
  · refine (memory.read_failsWithin _).bind fun base =>
      (memory.read_failsWithin _).bind fun returnAddress => ?_
    split_ifs
    · exact ok _
    · exact error trivial
    · exact ok _

theorem callerFrame_failsWithin (registers : RegisterFile) :
    FailsWithin Fault.IsOfStep (callerFrame a registers) := by
  unfold callerFrame
  split
  · exact ok _
  · split_ifs
    · exact ok _
    · refine (registers.get_failsWithin _).bind fun sp => ?_
      split_ifs
      · exact error trivial
      · exact ok _

theorem caller_failsWithin (callFrames : CallFrame.Table) :
    FailsWithin Fault.IsOfStep (caller? callFrames a memory) := by
  have hregisters : FailsWithin Fault.IsOfStep (callerRegisters callFrames a memory) := by
    refine (callFrames.step_failsWithin _ _ _).bind fun caller? => ?_
    cases caller? with
    | none => exact stepByBase_failsWithin a memory
    | some caller => exact ok _
  refine hregisters.bind fun registers? => ?_
  cases registers? with
  | none => exact ok _
  | some registers => exact callerFrame_failsWithin a registers

theorem step_failsWithin (callFrames : CallFrame.Table) (cursor : LiveCursor) :
    FailsWithin Fault.IsOfStep (cursor.step callFrames).2 := by
  unfold step
  split_ifs
  · exact ok _
  · exact ok _
  · cases hcaller : caller? callFrames cursor.activation cursor.memory with
    | error fault => exact error (caller_failsWithin _ _ callFrames fault hcaller)
    | ok caller? => cases caller? <;> exact ok _

end LiveCursor

theorem Cursor.step_failsWithin (callFrames : CallFrame.Table) (cursor : Cursor) :
    FailsWithin Fault.IsOfStep (cursor.step callFrames).2 := by
  cases cursor with
  | captured c => exact ok _
  | live c => exact c.step_failsWithin callFrames

/-! Asking for a landing pad -/

theorem Host.verifyPad_failsWithin (host : Host) (kind : FrameKind) (pad : Word) :
    FailsWithin Fault.IsOfPad (host.verifyPad kind pad) := by
  unfold verifyPad
  split_ifs
  · split
    · rename_i range _
      split_ifs
      · exact ok _
      · exact error (.inr (.inr ⟨pad, range.start, range.stop, rfl⟩))
    · exact ok _
  · exact ok _

theorem HandlerTable.find_failsWithin (table : HandlerTable) (pc : Word) :
    FailsWithin Fault.IsOfPad (table.find pc) := by
  intro fault h
  exact .inl (HandlerTable.callSites_error ((table.find_eq_error_iff pc fault).mp h))

theorem Host.padFor_failsWithin (host : Host) (kind : FrameKind) (table : HandlerTable)
    (pc : Word) : FailsWithin Fault.IsOfPad (host.padFor? kind table pc) := by
  refine (table.find_failsWithin pc).bind fun site? => ?_
  cases site? with
  | none => exact error (.inr (.inl ⟨pc, rfl⟩))
  | some site =>
      dsimp only
      split
      · exact ok _
      · refine (host.verifyPad_failsWithin kind _).bind fun _ => ?_
        exact FailsWithin.bind (fun fault h => .inl (HandlerTable.determineAction_error h))
          fun _ => ok _

end StackUnwind
