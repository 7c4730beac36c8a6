import StackUnwind.Proofs.LiveStepping
import Mathlib

/-!
# Where register values come from

Five of the callee-saved registers are not pointers of a frame. On a live stack
they are known for a frame only as far as call-frame rows say so: a row of a
frame gives the caller a value of its own, or leaves the register as it is in
the frame. A base record says nothing of them. So a value that is known for
a frame was given to the first frame or by a row further in, and every step from
there on was by a row that kept it. The main statement is that these are exactly
the values that are known.
-/
namespace StackUnwind

/-- The callee-saved registers that are no pointers of a frame. -/
def Register.preserved : List Register := [rbx, r12, r13, r14, r15]

theorem Register.preserved_spec {reg : Register} (h : reg ∈ preserved) :
    reg ∈ calleeSaved ∧ reg.toNat < count ∧ reg ≠ rbp ∧ reg ≠ rsp ∧ reg ≠ returnAddress := by
  obtain ⟨hrbp, hsaved⟩ : reg ≠ rbp ∧ reg ∈ calleeSaved := by
    simp only [preserved, List.mem_cons, List.not_mem_nil, or_false] at h
    rcases h with rfl | rfl | rfl | rfl | rfl <;> decide
  obtain ⟨htracked, hrsp, hreturn⟩ := calleeSaved_tracked hsaved
  exact ⟨hsaved, htracked, hrbp, hrsp, hreturn⟩

/-! Rows that keep a register and rows that give it a value -/

namespace CallFrame

/-- The row leaves the register as it is in the frame. -/
def RowState.Keeps (row : RowState) (reg : Register) : Prop :=
  row.rules.rule? reg = none ∨ row.rules.rule? reg = some .sameValue

/-- The row of a frame at `pc` finds a value for the caller's register. -/
inductive RowState.Gives (row : RowState) (pc : Word) (file : RegisterFile) (memory : Memory)
    (reg : Register) : Word → Prop
  | stored {distance : Int64} {frameAddress value : Word}
      (hrule : row.rules.rule? reg = some (.offset distance))
      (hframe : row.frame.evaluate pc file = .ok frameAddress)
      (hread : memory.read (frameAddress.displace distance) = .ok value) :
      Gives row pc file memory reg value
  | computed {distance : Int64} {frameAddress : Word}
      (hrule : row.rules.rule? reg = some (.valueOffset distance))
      (hframe : row.frame.evaluate pc file = .ok frameAddress) :
      Gives row pc file memory reg (frameAddress.displace distance)
  | copied {source : Register} {value : Word}
      (hrule : row.rules.rule? reg = some (.otherRegister source))
      (hvalue : file.value? source = some value) :
      Gives row pc file memory reg value

variable {row : RowState} {pc : Word} {file : RegisterFile} {memory : Memory} {reg : Register}
variable {value : Word}

theorem RowState.Gives.not_keeps (h : row.Gives pc file memory reg value) : ¬row.Keeps reg := by
  rintro (hkeeps | hkeeps)
  all_goals
    cases h with
    | stored hrule | computed hrule | copied hrule =>
        rw [hkeeps] at hrule
        cases hrule

section
variable {returnColumn : Register} {caller : Caller}

theorem RowState.value_of_keeps (hunique : row.rules.Unique)
    (h : row.apply returnColumn pc file memory = .ok caller)
    (hsaved : reg ∈ Register.calleeSaved) (hkeeps : row.Keeps reg) :
    caller.registers.value? reg = file.value? reg := by
  obtain ⟨htracked, hrsp, hreturn⟩ := Register.calleeSaved_tracked hsaved
  obtain ⟨frameAddress, -, hvalue⟩ := row.value_apply hunique h htracked hrsp hreturn
  rcases hkeeps with hrule | hrule
  · rw [hrule] at hvalue
    rw [hvalue, value_keptRegisters htracked, if_pos hsaved]
  · rw [hrule] at hvalue
    exact (Except.ok.inj hvalue).symm

theorem RowState.value_iff_gives (hunique : row.rules.Unique)
    (h : row.apply returnColumn pc file memory = .ok caller)
    (hreg : reg ∈ Register.preserved) (hkeeps : ¬row.Keeps reg) :
    caller.registers.value? reg = some value ↔ row.Gives pc file memory reg value := by
  obtain ⟨-, htracked, -, hrsp, hreturn⟩ := Register.preserved_spec hreg
  obtain ⟨frameAddress, hframe, hvalue⟩ := row.value_apply hunique h htracked hrsp hreturn
  constructor
  · intro hsome
    rw [hsome] at hvalue
    cases hrule : row.rules.rule? reg with
    | none => exact absurd (.inl hrule) hkeeps
    | some rule =>
        rw [hrule] at hvalue
        cases rule with
        | undefined => cases hvalue
        | sameValue => exact absurd (.inr hrule) hkeeps
        | offset distance =>
            obtain ⟨word, hread, hword⟩ := exists_of_map_ok hvalue
            cases hword
            exact .stored hrule hframe hread
        | valueOffset distance =>
            cases hvalue
            exact .computed hrule hframe
        | otherRegister source => exact .copied hrule (Except.ok.inj hvalue)
        | expression => cases hvalue
  · intro hgives
    cases hgives with
    | stored hrule hframe' hread =>
        rw [hframe] at hframe'
        cases hframe'
        rw [hrule] at hvalue
        obtain ⟨word, hread', hword⟩ := exists_of_map_ok hvalue
        rw [hread] at hread'
        cases hread'
        exact hword.symm
    | computed hrule hframe' =>
        rw [hframe] at hframe'
        cases hframe'
        rw [hrule] at hvalue
        exact (Except.ok.inj hvalue).symm
    | copied hrule hsource =>
        rw [hrule] at hvalue
        exact (Except.ok.inj hvalue).symm.trans hsource

/-- Where a row is applied, a register has the value that the row keeps for it
or gives it. -/
theorem RowState.value_apply_iff (hunique : row.rules.Unique)
    (h : row.apply returnColumn pc file memory = .ok caller) (hreg : reg ∈ Register.preserved) :
    caller.registers.value? reg = some value ↔
      (row.Keeps reg ∧ file.value? reg = some value) ∨ row.Gives pc file memory reg value := by
  by_cases hkeeps : row.Keeps reg
  · rw [row.value_of_keeps hunique h (Register.preserved_spec hreg).1 hkeeps]
    exact ⟨fun hfile => .inl ⟨hkeeps, hfile⟩,
      fun hor => hor.elim And.right fun hgives => absurd hkeeps hgives.not_keeps⟩
  · rw [row.value_iff_gives hunique h hreg hkeeps]
    exact ⟨.inr, fun hor => hor.resolve_left fun hkept => hkeeps hkept.1⟩

end

end CallFrame

namespace LiveCursor

open CallFrame (RowState)

/-! One step -/

/-- The row that describes a frame. -/
def RowOf (callFrames : CallFrame.Table) (a : Activation) (row : RowState) : Prop :=
  ∃ column, callFrames.rowAt? a.lookupPc = .ok (some (row, column))

/-- A row describes the frame and leaves the register as it is there. -/
def Kept (callFrames : CallFrame.Table) (a : Activation) (reg : Register) : Prop :=
  ∃ row, RowOf callFrames a row ∧ row.Keeps reg

/-- A row describes the frame and finds this value for the caller's register. -/
def Given (callFrames : CallFrame.Table) (a : Activation) (memory : Memory) (reg : Register)
    (value : Word) : Prop :=
  ∃ row, RowOf callFrames a row ∧ row.Gives a.lookupPc a.registers memory reg value

section
variable {callFrames : CallFrame.Table} {a outer : Activation} {memory : Memory}
variable {row : RowState} {reg : Register} {value : Word}

theorem RowOf.unique {other : RowState} (h : RowOf callFrames a row)
    (hother : RowOf callFrames a other) : row = other := by
  obtain ⟨column, hrow⟩ := h
  obtain ⟨column', hother⟩ := hother
  rw [hrow] at hother
  cases hother
  rfl

theorem RowOf.kept_iff (h : RowOf callFrames a row) : Kept callFrames a reg ↔ row.Keeps reg := by
  constructor
  · rintro ⟨other, hother, hkeeps⟩
    rwa [h.unique hother]
  · exact fun hkeeps => ⟨row, h, hkeeps⟩

theorem RowOf.given_iff (h : RowOf callFrames a row) :
    Given callFrames a memory reg value ↔
      row.Gives a.lookupPc a.registers memory reg value := by
  constructor
  · rintro ⟨other, hother, hgives⟩
    rwa [h.unique hother]
  · exact fun hgives => ⟨row, h, hgives⟩

/-- A frame that a row describes is not left by its base record. -/
theorem RowOf.not_byBase (h : RowOf callFrames a row) : ¬ByBase callFrames a memory := by
  intro hbase
  obtain ⟨column, hrow⟩ := h
  rw [ByBase, CallFrame.Table.step_eq, hrow] at hbase
  obtain ⟨caller, -, hcaller⟩ := exists_of_map_ok hbase
  cases hcaller

/-- A base record says nothing of the registers that are not pointers. -/
theorem value_of_stepByBase {registers : RegisterFile}
    (h : stepByBase a memory = .ok (some registers)) (hreg : reg ∈ Register.preserved) :
    registers.value? reg = none := by
  obtain ⟨base, returnAddress, -, rfl⟩ := stepByBase_some h
  obtain ⟨-, -, hrbp, hrsp, hreturn⟩ := Register.preserved_spec hreg
  have hother : reg ∉ [(.rbp, base), (.rsp, a.bp + 16), (.returnAddress, returnAddress)].map
      Prod.fst := by
    simp [hrbp, hrsp, hreturn]
  rw [RegisterFile.value_putAll_of_not_mem _ hother, RegisterFile.value_empty]

/-- A register is known for the caller when a row keeps its value or gives it one. -/
theorem value_caller_iff (h : caller? callFrames a memory = .ok (some outer))
    (hreg : reg ∈ Register.preserved) :
    outer.registers.value? reg = some value ↔
      (Kept callFrames a reg ∧ a.registers.value? reg = some value) ∨
        Given callFrames a memory reg value := by
  obtain ⟨registers, hregisters, hcalled⟩ := caller_some h
  rw [hcalled.registers]
  rcases callerRegisters_some hregisters with ⟨caller, hstep, rfl⟩ | ⟨hbase, hrecord⟩
  · rw [CallFrame.Table.step_eq] at hstep
    split at hstep
    · cases hstep
    · cases hstep
    · rename_i row column hrow
      obtain ⟨applied, happly, heq⟩ := exists_of_map_ok hstep
      cases heq
      have hunique := CallFrame.Table.rowAt_unique hrow
      have hrow : RowOf callFrames a row := ⟨column, hrow⟩
      rw [row.value_apply_iff hunique happly hreg, hrow.kept_iff, hrow.given_iff]
  · rw [value_of_stepByBase hrecord hreg]
    constructor
    · intro hnone
      cases hnone
    · rintro (⟨⟨row, hrow, -⟩, -⟩ | ⟨row, hrow, -⟩)
      all_goals exact absurd hbase hrow.not_byBase

end

/-! Many steps -/

/-- The frame that is reached by `k` steps from the innermost one. -/
def frame (callFrames : CallFrame.Table) (c : LiveCursor) (k : Nat) : Activation :=
  (c.afterCalls callFrames (k + 1)).activation

/-- A cursor that has not moved, at a frame of which some registers are given. -/
def seeded (memory : Memory) (ip sp bp : Word) (seeds : List (Register × Word)) (exact : Bool) :
    LiveCursor where
  memory := memory
  activation := { (Activation.ofPointers ip sp bp).setAll seeds with exact }

/-- A register gets a value at frame `j`: it is the last one that the innermost
frame was given, or a row of the frame before gives it. -/
inductive Origin (callFrames : CallFrame.Table) (c : LiveCursor) (seeds : List (Register × Word))
    (reg : Register) (value : Word) : Nat → Prop
  | seed (hseed : seeds.reverse.lookup reg = some value) : Origin callFrames c seeds reg value 0
  | row {i : Nat} (hgiven : Given callFrames (c.frame callFrames i) c.memory reg value) :
      Origin callFrames c seeds reg value (i + 1)

/-- Every step from frame `j` to frame `k` is by a row that keeps the register. -/
def KeptBetween (callFrames : CallFrame.Table) (c : LiveCursor) (reg : Register) (j k : Nat) :
    Prop :=
  ∀ i, j ≤ i → i < k → Kept callFrames (c.frame callFrames i) reg

section
variable {callFrames : CallFrame.Table} {c : LiveCursor}
variable {seeds : List (Register × Word)} {reg : Register} {value : Word} {j k : Nat}

theorem frame_zero (hfresh : c.started = false) (h : c.answer callFrames 0 = .ok true) :
    c.frame callFrames 0 = c.activation :=
  (h ▸ calls_after callFrames c 0).activation_of_fresh hfresh

theorem caller_frame (h : c.answer callFrames (k + 1) = .ok true) :
    caller? callFrames (c.frame callFrames k) c.memory =
      .ok (some (c.frame callFrames (k + 1))) := by
  have hstarted := started_after (Nat.lt_add_one k) (answer_of_later (Nat.le_succ k) h)
  rw [← memory_after callFrames c (k + 1)]
  exact (h ▸ calls_after callFrames c (k + 1)).caller_of_started hstarted

theorem keptBetween_succ_iff (hjk : j ≤ k) :
    c.KeptBetween callFrames reg j (k + 1) ↔
      c.KeptBetween callFrames reg j k ∧ Kept callFrames (c.frame callFrames k) reg := by
  constructor
  · intro h
    exact ⟨fun i hji hik => h i hji (Nat.lt_succ_of_lt hik), h k hjk (Nat.lt_add_one k)⟩
  · rintro ⟨hkept, hlast⟩ i hji hik
    rcases Nat.lt_succ_iff_lt_or_eq.mp hik with hik | rfl
    · exact hkept i hji hik
    · exact hlast

/-- What is known of a register comes from an origin, from which on it was kept. -/
theorem value_iff_origin (hfresh : c.started = false)
    (hfirst : c.activation.registers.value? reg = seeds.reverse.lookup reg)
    (hreg : reg ∈ Register.preserved) (h : c.answer callFrames k = .ok true) :
    (c.frame callFrames k).registers.value? reg = some value ↔
      ∃ j ≤ k, c.Origin callFrames seeds reg value j ∧ c.KeptBetween callFrames reg j k := by
  induction k with
  | zero =>
      rw [frame_zero hfresh h, hfirst]
      constructor
      · intro hseed
        exact ⟨0, le_rfl, .seed hseed, fun i _ hi => absurd hi (Nat.not_lt_zero i)⟩
      · rintro ⟨j, hj, horigin, -⟩
        cases Nat.le_zero.mp hj
        cases horigin with
        | seed hseed => exact hseed
  | succ k ih =>
      have hvalue := ih (answer_of_later (Nat.le_succ k) h)
      rw [value_caller_iff (caller_frame h) hreg]
      constructor
      · rintro (⟨hlast, hbefore⟩ | hgiven)
        · obtain ⟨j, hj, horigin, hkept⟩ := hvalue.mp hbefore
          exact ⟨j, Nat.le_succ_of_le hj, horigin,
            (keptBetween_succ_iff hj).mpr ⟨hkept, hlast⟩⟩
        · exact ⟨k + 1, le_rfl, .row hgiven, fun i hi hik => absurd hik (Nat.not_lt_of_le hi)⟩
      · rintro ⟨j, hj, horigin, hkept⟩
        rcases Nat.le_succ_iff.mp hj with hj | rfl
        · obtain ⟨hkept, hlast⟩ := (keptBetween_succ_iff hj).mp hkept
          exact .inl ⟨hlast, hvalue.mpr ⟨j, hj, horigin, hkept⟩⟩
        · cases horigin with
          | row hgiven => exact .inr hgiven

/-- What is known behind a base record was given by a row behind it. -/
theorem exists_given_after_base (hfresh : c.started = false)
    (hfirst : c.activation.registers.value? reg = seeds.reverse.lookup reg)
    (hreg : reg ∈ Register.preserved) (h : c.answer callFrames k = .ok true) {i : Nat}
    (hik : i < k) (hbase : ByBase callFrames (c.frame callFrames i) c.memory)
    (hvalue : (c.frame callFrames k).registers.value? reg = some value) :
    ∃ m, i < m ∧ m < k ∧ Given callFrames (c.frame callFrames m) c.memory reg value := by
  obtain ⟨j, hjk, horigin, hkept⟩ := (value_iff_origin hfresh hfirst hreg h).mp hvalue
  have hij : i < j := by
    by_contra hji
    obtain ⟨row, hrow, -⟩ := hkept i (Nat.not_lt.mp hji) hik
    exact hrow.not_byBase hbase
  cases horigin with
  | seed => exact absurd hij (Nat.not_lt_zero i)
  | @row m hgiven =>
      refine ⟨m, ?_, hjk, hgiven⟩
      rcases Nat.lt_succ_iff_lt_or_eq.mp hij with him | rfl
      · exact him
      · obtain ⟨row, hrow, -⟩ := hgiven
        exact absurd hbase hrow.not_byBase

/-- A frame with an unknown callee-saved register cannot be landed in. -/
theorem resume_of_missing (hsaved : reg ∈ Register.calleeSaved)
    (h : c.activation.registers.value? reg = none) :
    ∃ first, (Register.calleeSaved.find? fun r => (c.activation.registers.value? r).isNone) =
        some first ∧
      c.resume = .error (.incompleteRegisters c.activation.ip first) := by
  have hmissing : (Register.calleeSaved.find? fun r => (c.activation.registers.value? r).isNone) =
      c.activation.registers.missingCalleeSaved.head? := by
    rw [RegisterFile.missingCalleeSaved, List.head?_filter]
    simp [RegisterFile.isAvailable]
  have hmem : reg ∈ c.activation.registers.missingCalleeSaved := by
    simp [RegisterFile.missingCalleeSaved, RegisterFile.isAvailable, hsaved, h]
  rw [hmissing, resume]
  cases hlist : c.activation.registers.missingCalleeSaved with
  | nil =>
      rw [hlist] at hmem
      cases hmem
  | cons first rest => exact ⟨first, rfl, rfl⟩

end

end LiveCursor

/-- Of the values that a frame is given, the last one for a register stays. -/
theorem Activation.value_setAll {reg : Register} (hreg : reg.toNat < Register.count)
    (a : Activation) (values : List (Register × Word)) :
    (a.setAll values).registers.value? reg =
      (values.reverse.lookup reg).or (a.registers.value? reg) := by
  induction values generalizing a with
  | nil => rfl
  | cons pair rest ih =>
      obtain ⟨r, value⟩ := pair
      have hcons : a.setAll ((r, value) :: rest) =
          ((a.set r value).toOption.getD a).setAll rest := rfl
      have hset : ((a.set r value).toOption.getD a).registers = a.registers.put r (some value) := by
        unfold Activation.set RegisterFile.set
        by_cases hr : r.toNat < Register.count
        · rw [if_pos hr]
          rfl
        · rw [if_neg hr, RegisterFile.put, dif_neg hr]
          rfl
      rw [hcons, ih, hset, List.reverse_cons, List.lookup_append, Option.or_assoc]
      congr 1
      by_cases heq : reg = r
      · subst heq
        rw [RegisterFile.value_put_self _ hreg, List.lookup_cons_self]
        rfl
      · rw [RegisterFile.value_put_of_ne _ heq, List.lookup_cons, beq_eq_false_iff_ne.mpr heq]
        rfl

namespace LiveCursor

theorem value_seeded {reg : Register} (hreg : reg ∈ Register.preserved) (memory : Memory)
    (ip sp bp : Word) (seeds : List (Register × Word)) (exact : Bool) :
    (seeded memory ip sp bp seeds exact).activation.registers.value? reg =
      seeds.reverse.lookup reg := by
  obtain ⟨-, htracked, hrbp, hrsp, hreturn⟩ := Register.preserved_spec hreg
  have hother : reg ∉ [(.returnAddress, ip), (.rsp, sp), (.rbp, bp)].map Prod.fst := by
    simp [hrbp, hrsp, hreturn]
  have hpointers : (Activation.ofPointers ip sp bp).registers.value? reg = none := by
    rw [Activation.ofPointers, RegisterFile.value_putAll_of_not_mem _ hother,
      RegisterFile.value_empty]
  rw [seeded, Activation.value_setAll htracked, hpointers, Option.or_none]

/-- A register that is not a pointer is known for a frame with just the value
of an origin, a seed or a row that gives it, from which on every step was by a
row that kept it. A base record leaves all of them unknown until a row gives
them a value again. A frame at which one of them has no origin cannot be landed
in, and the fault names the first callee-saved register that is unknown. -/
theorem known_iff_kept_from_origin (callFrames : CallFrame.Table) (memory : Memory)
    (ip sp bp : Word) (seeds : List (Register × Word)) (exact : Bool) :
    let c := seeded memory ip sp bp seeds exact
    ∀ k, c.answer callFrames k = .ok true →
      (∀ reg ∈ Register.preserved, ∀ value,
        (c.frame callFrames k).registers.value? reg = some value ↔
          ∃ j ≤ k, c.Origin callFrames seeds reg value j ∧ c.KeptBetween callFrames reg j k) ∧
      (∀ i < k, ByBase callFrames (c.frame callFrames i) memory → ∀ reg ∈ Register.preserved,
        (c.frame callFrames (i + 1)).registers.value? reg = none ∧
        ((∀ m value, i < m → m < k →
            ¬Given callFrames (c.frame callFrames m) memory reg value) →
          (c.frame callFrames k).registers.value? reg = none)) ∧
      ((∃ reg ∈ Register.preserved, ¬∃ value, ∃ j ≤ k,
          c.Origin callFrames seeds reg value j ∧ c.KeptBetween callFrames reg j k) →
        ∃ first, (Register.calleeSaved.find? fun r =>
            ((c.frame callFrames k).registers.value? r).isNone) = some first ∧
          (c.afterCalls callFrames (k + 1)).resume =
            .error (.incompleteRegisters (c.frame callFrames k).ip first)) := by
  intro c k hk
  have hfirst : ∀ reg ∈ Register.preserved,
      c.activation.registers.value? reg = seeds.reverse.lookup reg :=
    fun reg hreg => value_seeded hreg memory ip sp bp seeds exact
  have hknown : ∀ reg ∈ Register.preserved, ∀ value,
      (c.frame callFrames k).registers.value? reg = some value ↔
        ∃ j ≤ k, c.Origin callFrames seeds reg value j ∧ c.KeptBetween callFrames reg j k :=
    fun reg hreg value => value_iff_origin rfl (hfirst reg hreg) hreg hk
  refine ⟨hknown, fun i hi hbase reg hreg => ⟨?_, ?_⟩, ?_⟩
  · rw [Option.eq_none_iff_forall_ne_some]
    intro value hvalue
    obtain ⟨m, him, hmi, -⟩ := exists_given_after_base rfl (hfirst reg hreg) hreg
      (answer_of_later hi hk) (Nat.lt_add_one i) hbase hvalue
    omega
  · intro hnone
    rw [Option.eq_none_iff_forall_ne_some]
    intro value hvalue
    obtain ⟨m, him, hmk, hgiven⟩ := exists_given_after_base rfl (hfirst reg hreg) hreg
      hk hi hbase hvalue
    exact hnone m value him hmk hgiven
  · rintro ⟨reg, hreg, hnone⟩
    apply resume_of_missing (Register.preserved_spec hreg).1
    rw [Option.eq_none_iff_forall_ne_some]
    exact fun value hvalue => hnone ⟨value, (hknown reg hreg value).mp hvalue⟩

/-- Code whose frames take two words, the return address and the caller's `rbx`. -/
def twoWordFrames : CallFrame.Table where
  sections := [(0, {
    address := 0x3000
    descriptions := [{
      start := 0x1000
      length := 0x100
      common := {
        codeAlignment := 1
        dataAlignment := -8
        returnColumn := .returnAddress
        augmented := false
        handlerEncoding? := none
        addressEncoding? := none
        program := .ofBytes [0x0c, 7, 16, 0x90, 1] }
      program := .ofBytes [0x83, 2] }] })]

def mixedMemory : Memory :=
  (((((Memory.empty.write 0x7000 0xb0).write 0x7008 0x9010).write 0x7030 0x7060).write
    0x7038 0x1020).write 0x7040 0xb3).write 0x7048 0x9020

/-- A frame in that code, then one with a base record only, and one in that code
again. The first is given a value of `r12` twice. -/
def mixedStack : LiveCursor :=
  seeded mixedMemory 0x1010 0x7000 0x7030 [(.r12, 0xc1), (.r12, 0xc0)] false

/-- The second frame has the seed of `r12`. The base record loses both registers,
and the row behind it gives `rbx` another value, but no value of `r12`. -/
theorem mixedStack_known :
    (∃ j ≤ 1, mixedStack.Origin twoWordFrames [(.r12, 0xc1), (.r12, 0xc0)] .r12 0xc0 j ∧
      mixedStack.KeptBetween twoWordFrames .r12 j 1) ∧
    (∀ reg ∈ Register.preserved,
      (mixedStack.frame twoWordFrames 2).registers.value? reg = none) ∧
    (∃ j ≤ 3, mixedStack.Origin twoWordFrames [(.r12, 0xc1), (.r12, 0xc0)] .rbx 0xb3 j ∧
      mixedStack.KeptBetween twoWordFrames .rbx j 3) ∧
    (mixedStack.afterCalls twoWordFrames 4).resume =
      .error (.incompleteRegisters 0x9020 Register.r12) := by
  have hall := known_iff_kept_from_origin twoWordFrames mixedMemory 0x1010 0x7000 0x7030
    [(.r12, 0xc1), (.r12, 0xc0)] false
  obtain ⟨hsecond, -, -⟩ := hall 1 rfl
  obtain ⟨-, hbase, -⟩ := hall 2 rfl
  obtain ⟨hlast, -, hresume⟩ := hall 3 rfl
  refine ⟨(hsecond .r12 (by decide) 0xc0).mp rfl,
    fun reg hreg => (hbase 1 Nat.one_lt_two rfl reg hreg).1,
    (hlast .rbx (by decide) 0xb3).mp rfl, ?_⟩
  have hlost : ¬∃ value, ∃ j ≤ 3,
      mixedStack.Origin twoWordFrames [(.r12, 0xc1), (.r12, 0xc0)] .r12 value j ∧
        mixedStack.KeptBetween twoWordFrames .r12 j 3 := by
    rintro ⟨value, horigin⟩
    cases (hlast .r12 (by decide) value).mpr horigin
  obtain ⟨first, hfirst, hfault⟩ := hresume ⟨Register.r12, by decide, hlost⟩
  cases hfirst
  exact hfault

end LiveCursor
end StackUnwind
