import StackUnwind.Proofs.CallFrameRows
import StackUnwind.Proofs.SplicedWalk
import Mathlib

/-!
# Stepping along a live stack

Each call of `step` moves a live cursor outwards, tells it that the outermost
frame was passed, or fails. `Calls` lists what a call can do. Whatever memory
and call-frame tables hold, a frame is only reached when its stack pointer is
above the one before, so a cursor comes to an end. The last answer then stays,
and so does the state of the last frame.

Going on in a resumer sets the stack pointer to any value, and contexts may lead
back to the generator they came from. A walk ends nevertheless, as it counts the
frames at which it looks.
-/
namespace StackUnwind

namespace LiveCursor

/-- The cursor after some calls of `step`, whatever they answered. -/
def afterCalls (callFrames : CallFrame.Table) (c : LiveCursor) : Nat → LiveCursor
  | 0 => c
  | n + 1 => ((c.afterCalls callFrames n).step callFrames).1

/-- The answer of the call that follows `n` others. -/
def answer (callFrames : CallFrame.Table) (c : LiveCursor) (n : Nat) : Except Fault Bool :=
  ((c.afterCalls callFrames n).step callFrames).2

/-- No row describes the frame, whose caller is then found by the base record. -/
def ByBase (callFrames : CallFrame.Table) (a : Activation) (memory : Memory) : Prop :=
  callFrames.step a.lookupPc a.registers memory = .ok none

/-! The caller of a frame -/

section
variable {callFrames : CallFrame.Table} {a outer : Activation} {memory : Memory}
variable {registers : RegisterFile}

/-- The registers by the base record: the base that it holds is zero or further
up, and nothing but the three pointers is known. -/
theorem stepByBase_some (h : stepByBase a memory = .ok (some registers)) :
    ∃ base returnAddress, (base = 0 ∨ a.bp < base) ∧
      registers = RegisterFile.empty.putAll
        [(.rbp, base), (.rsp, a.bp + 16), (.returnAddress, returnAddress)] := by
  unfold stepByBase at h
  split_ifs at h
  · cases h
  · obtain ⟨base, -, h⟩ := exists_of_bind_ok h
    obtain ⟨returnAddress, -, h⟩ := exists_of_bind_ok h
    split_ifs at h with hzero hdescends
    · cases h
    · cases h
      refine ⟨base, returnAddress, ?_, rfl⟩
      by_cases hnone : base = 0
      · exact .inl hnone
      · exact .inr (UInt64.not_le.mp fun hle => hdescends ⟨hnone, hle⟩)

/-- The registers of a caller come from a row, or from the base record where
there is no row. -/
theorem callerRegisters_some (h : callerRegisters callFrames a memory = .ok (some registers)) :
    (∃ caller, callFrames.step a.lookupPc a.registers memory = .ok (some caller) ∧
      registers = caller.registers) ∨
    (ByBase callFrames a memory ∧ stepByBase a memory = .ok (some registers)) := by
  obtain ⟨caller?, hstep, h⟩ := exists_of_bind_ok h
  cases caller? with
  | none => exact .inr ⟨hstep, h⟩
  | some caller =>
      cases h
      exact .inl ⟨caller, hstep, rfl⟩

/-- A frame and the frame that called it, of which the registers are known. -/
structure CalledFrom (a : Activation) (recovered : RegisterFile) (outer : Activation) : Prop where
  registers : outer.registers = recovered
  sp : a.sp < outer.sp
  bp : outer.bp = (recovered.value? .rbp).getD 0

theorem callerFrame_some (h : callerFrame a registers = .ok (some outer)) :
    CalledFrom a registers outer := by
  unfold callerFrame at h
  split at h
  · cases h
  · split_ifs at h with hip
    · cases h
    · obtain ⟨sp, -, h⟩ := exists_of_bind_ok h
      split_ifs at h with hbelow
      cases h
      exact ⟨rfl, UInt64.not_le.mp hbelow, rfl⟩

theorem caller_some (h : caller? callFrames a memory = .ok (some outer)) :
    ∃ registers, callerRegisters callFrames a memory = .ok (some registers) ∧
      CalledFrom a registers outer := by
  obtain ⟨registers?, hregisters, h⟩ := exists_of_bind_ok h
  cases registers? with
  | none => cases h
  | some registers => exact ⟨registers, hregisters, callerFrame_some h⟩

/-- The base record leads to a base that is zero or further up. -/
theorem caller_bp_of_byBase (hbase : ByBase callFrames a memory)
    (h : caller? callFrames a memory = .ok (some outer)) : outer.bp = 0 ∨ a.bp < outer.bp := by
  obtain ⟨registers, hregisters, hcalled⟩ := caller_some h
  rcases callerRegisters_some hregisters with ⟨caller, hrow, -⟩ | ⟨-, hrecord⟩
  · rw [hbase] at hrow
    cases hrow
  · obtain ⟨base, returnAddress, hascends, rfl⟩ := stepByBase_some hrecord
    have hrbp : outer.bp = base := by
      have hvalue : (RegisterFile.empty.putAll [(.rbp, base), (.rsp, a.bp + 16),
          (.returnAddress, returnAddress)]).value? .rbp = some base := by
        apply RegisterFile.value_putAll_of_mem _ _ (by decide) List.mem_cons_self
        simp only [List.map_cons, List.map_nil]
        decide
      rw [hcalled.bp, hvalue]
      rfl
    rwa [hrbp]

end

/-! One call -/

/-- What a call does: the cursor that it leaves, and its answer. -/
inductive Calls (callFrames : CallFrame.Table) (c : LiveCursor) :
    LiveCursor → Except Fault Bool → Prop
  | passed (hfinished : c.finished = true) : Calls callFrames c c (.ok false)
  | innermost (hfinished : c.finished = false) (hstarted : c.started = false)
      (hip : c.activation.ip ≠ 0) :
      Calls callFrames c { c with started := true } (.ok true)
  | blank (hfinished : c.finished = false) (hstarted : c.started = false)
      (hip : c.activation.ip = 0) :
      Calls callFrames c { c with started := true, finished := true } (.ok false)
  | outward (hfinished : c.finished = false) (hstarted : c.started = true) {outer : Activation}
      (hcaller : caller? callFrames c.activation c.memory = .ok (some outer)) :
      Calls callFrames c { c with activation := outer } (.ok true)
  | outermost (hfinished : c.finished = false) (hstarted : c.started = true)
      (hcaller : caller? callFrames c.activation c.memory = .ok none) :
      Calls callFrames c { c with finished := true } (.ok false)
  | failed (hfinished : c.finished = false) (hstarted : c.started = true) {fault : Fault}
      (hcaller : caller? callFrames c.activation c.memory = .error fault) :
      Calls callFrames c c (.error fault)

theorem step_of_finished {callFrames : CallFrame.Table} {c : LiveCursor}
    (h : c.finished = true) : c.step callFrames = (c, .ok false) := by
  rw [step, if_pos h]

theorem calls (callFrames : CallFrame.Table) (c : LiveCursor) :
    Calls callFrames c (c.step callFrames).1 (c.step callFrames).2 := by
  cases hfinished : c.finished with
  | true =>
      rw [step_of_finished hfinished]
      exact .passed hfinished
  | false =>
      cases hstarted : c.started with
      | false =>
          have hstep : c.step callFrames =
              ({ c with started := true, finished := c.activation.ip == 0 },
                .ok !(c.activation.ip == 0)) := by
            simp [step, hfinished, hstarted]
          rw [hstep]
          by_cases hip : c.activation.ip = 0
          · simp only [hip, beq_self_eq_true, Bool.not_true]
            exact .blank hfinished hstarted hip
          · simp only [beq_eq_false_iff_ne.mpr hip, Bool.not_false]
            rw [← hfinished]
            exact .innermost hfinished hstarted hip
      | true =>
          rw [step, if_neg (by simp [hfinished]), if_neg (by simp [hstarted])]
          cases hcaller : caller? callFrames c.activation c.memory with
          | error fault => exact .failed hfinished hstarted hcaller
          | ok outer? =>
              cases outer? with
              | none => exact .outermost hfinished hstarted hcaller
              | some outer => exact .outward hfinished hstarted hcaller

section
variable {callFrames : CallFrame.Table} {c next : LiveCursor} {result : Except Fault Bool}

theorem Calls.started_of_started (h : Calls callFrames c next result) (hc : c.started = true) :
    next.started = true := by
  cases h with
  | innermost | blank => rfl
  | passed | outward | outermost | failed => exact hc

theorem Calls.started_of_moved (h : Calls callFrames c next (.ok true)) : next.started = true := by
  cases h with
  | innermost => rfl
  | outward _ hstarted => exact hstarted

theorem Calls.memory (h : Calls callFrames c next result) : next.memory = c.memory := by
  cases h <;> rfl

/-- The first call moves onto the frame at which the cursor was made. -/
theorem Calls.activation_of_fresh (h : Calls callFrames c next (.ok true))
    (hc : c.started = false) : next.activation = c.activation := by
  cases h with
  | innermost => rfl
  | outward _ hstarted =>
      rw [hc] at hstarted
      cases hstarted

/-- Every later one moves onto the caller. -/
theorem Calls.caller_of_started (h : Calls callFrames c next (.ok true)) (hc : c.started = true) :
    caller? callFrames c.activation c.memory = .ok (some next.activation) := by
  cases h with
  | innermost _ hfresh =>
      rw [hc] at hfresh
      cases hfresh
  | outward _ _ hcaller => exact hcaller

theorem Calls.sp_lt (h : Calls callFrames c next (.ok true)) (hc : c.started = true) :
    c.activation.sp < next.activation.sp := by
  obtain ⟨registers, -, hcalled⟩ := caller_some (h.caller_of_started hc)
  exact hcalled.sp

theorem Calls.sp_le (h : Calls callFrames c next result) :
    c.activation.sp ≤ next.activation.sp := by
  cases h with
  | outward hfinished hstarted hcaller =>
      have hmoved := Calls.outward hfinished hstarted hcaller
      exact UInt64.le_of_lt (hmoved.sp_lt hstarted)
  | passed | innermost | blank | outermost | failed => exact UInt64.le_refl _

theorem Calls.of_false (h : Calls callFrames c next (.ok false)) :
    next.finished = true ∧ next.activation = c.activation := by
  cases h with
  | passed hfinished => exact ⟨hfinished, rfl⟩
  | blank | outermost => exact ⟨rfl, rfl⟩

theorem Calls.of_error {fault : Fault} (h : Calls callFrames c next (.error fault)) :
    next = c := by
  cases h
  rfl

end

/-! Many calls -/

section
variable {callFrames : CallFrame.Table} {c : LiveCursor}

theorem calls_after (callFrames : CallFrame.Table) (c : LiveCursor) (n : Nat) :
    Calls callFrames (c.afterCalls callFrames n) (c.afterCalls callFrames (n + 1))
      (c.answer callFrames n) :=
  calls callFrames _

theorem memory_after (callFrames : CallFrame.Table) (c : LiveCursor) (n : Nat) :
    (c.afterCalls callFrames n).memory = c.memory := by
  induction n with
  | zero => rfl
  | succ n ih => exact (calls_after callFrames c n).memory.trans ih

theorem started_after {i j : Nat} (hij : i < j) (h : c.answer callFrames i = .ok true) :
    (c.afterCalls callFrames j).started = true := by
  induction j, hij using Nat.le_induction with
  | base => exact (h ▸ calls_after callFrames c i).started_of_moved
  | succ j _ ih => exact (calls_after callFrames c j).started_of_started ih

theorem sp_le_after {i j : Nat} (hij : i ≤ j) :
    (c.afterCalls callFrames i).activation.sp ≤ (c.afterCalls callFrames j).activation.sp := by
  induction j, hij using Nat.le_induction with
  | base => exact UInt64.le_refl _
  | succ j _ ih => exact UInt64.le_trans ih (calls_after callFrames c j).sp_le

/-- The frames that are reached one after the other lie further and further up. -/
theorem sp_lt_after {i j : Nat} (hij : i < j) (hi : c.answer callFrames i = .ok true)
    (hj : c.answer callFrames j = .ok true) :
    (c.afterCalls callFrames (i + 1)).activation.sp <
      (c.afterCalls callFrames (j + 1)).activation.sp := by
  have hmoved := (hj ▸ calls_after callFrames c j).sp_lt (started_after hij hi)
  exact UInt64.lt_of_le_of_lt (sp_le_after hij) hmoved

/-- Each frame but the innermost takes the stack pointer up by one at least. -/
theorem add_le_sp_after {n : Nat} (h : ∀ k ≤ n, c.answer callFrames k = .ok true) :
    c.activation.sp.toNat + n ≤ (c.afterCalls callFrames (n + 1)).activation.sp.toNat := by
  induction n with
  | zero => exact UInt64.le_iff_toNat_le.mp (sp_le_after (Nat.zero_le 1))
  | succ n ih =>
      have hbelow := ih fun k hk => h k (Nat.le_succ_of_le hk)
      have hmoved := UInt64.lt_iff_toNat_lt.mp
        (sp_lt_after (Nat.lt_add_one n) (h n (Nat.le_succ n)) (h (n + 1) le_rfl))
      omega

theorem exists_last_answer (callFrames : CallFrame.Table) (c : LiveCursor) :
    ∃ n ≤ 2 ^ 64 - c.activation.sp.toNat, c.answer callFrames n ≠ .ok true := by
  by_contra hnone
  push Not at hnone
  have hbelow := add_le_sp_after hnone
  have hsp := c.activation.sp.toNat_lt
  have hbound := (c.afterCalls callFrames
    (2 ^ 64 - c.activation.sp.toNat + 1)).activation.sp.toNat_lt
  omega

/-- A finished cursor stays as it is. -/
theorem afterCalls_of_finished {n k : Nat} (hnk : n ≤ k)
    (h : (c.afterCalls callFrames n).finished = true) :
    c.afterCalls callFrames k = c.afterCalls callFrames n := by
  induction k, hnk using Nat.le_induction with
  | base => rfl
  | succ k _ ih =>
      have hfinished : (c.afterCalls callFrames k).finished = true := by rw [ih, h]
      rw [afterCalls, step_of_finished hfinished]
      exact ih

theorem answer_after_false {n k : Nat} (hnk : n ≤ k) (h : c.answer callFrames n = .ok false) :
    c.answer callFrames k = .ok false ∧
      (c.afterCalls callFrames (k + 1)).activation = (c.afterCalls callFrames n).activation := by
  obtain ⟨hfinished, hactivation⟩ := (h ▸ calls_after callFrames c n).of_false
  have hlater : ∀ m, n + 1 ≤ m → c.afterCalls callFrames m = c.afterCalls callFrames (n + 1) :=
    fun m hm => afterCalls_of_finished hm hfinished
  refine ⟨?_, by rw [hlater (k + 1) (Nat.succ_le_succ hnk), hactivation]⟩
  rcases Nat.eq_or_lt_of_le hnk with rfl | hlt
  · exact h
  · rw [answer, hlater k hlt, step_of_finished hfinished]

theorem answer_after_error {n k : Nat} {fault : Fault} (hnk : n ≤ k)
    (h : c.answer callFrames n = .error fault) :
    c.answer callFrames k = .error fault ∧
      c.afterCalls callFrames (k + 1) = c.afterCalls callFrames n := by
  induction k, hnk using Nat.le_induction with
  | base => exact ⟨h, (h ▸ calls_after callFrames c n).of_error⟩
  | succ k _ ih =>
      -- The next call is made on the same cursor, and so has the same outcome.
      have hagain : c.answer callFrames (k + 1) = .error fault := by
        rw [answer, ih.2]
        exact h
      exact ⟨hagain, ((hagain ▸ calls_after callFrames c (k + 1)).of_error).trans ih.2⟩

/-- No frame is reached but through all those before. -/
theorem answer_of_later {i k : Nat} (hik : i ≤ k) (h : c.answer callFrames k = .ok true) :
    c.answer callFrames i = .ok true := by
  cases hi : c.answer callFrames i with
  | error fault =>
      rw [(answer_after_error hik hi).1] at h
      cases h
  | ok moved =>
      cases moved with
      | true => rfl
      | false =>
          rw [(answer_after_false hik hi).1] at h
          cases h

theorem bp_of_byBase {n : Nat} (hstarted : (c.afterCalls callFrames n).started = true)
    (hbase : ByBase callFrames (c.afterCalls callFrames n).activation
      (c.afterCalls callFrames n).memory)
    (h : c.answer callFrames n = .ok true) :
    (c.afterCalls callFrames (n + 1)).activation.bp = 0 ∨
      (c.afterCalls callFrames n).activation.bp <
        (c.afterCalls callFrames (n + 1)).activation.bp := by
  have hcaller := (h ▸ calls_after callFrames c n).caller_of_started hstarted
  exact caller_bp_of_byBase hbase hcaller

end

end LiveCursor

/-! Walks that do not come to an end -/

namespace Walk

variable {σ : Type} {host : Host} {visit : σ → WalkEvent → Visit σ}

/-- A walk looks at no more frames than its budget allows. -/
theorem runTraced_length_le (budget : Nat) (onFrame : Bool) (walk : Walk σ) :
    (runTraced host visit budget onFrame walk).1.length ≤ budget := by
  induction budget generalizing onFrame walk with
  | zero =>
      rw [runTraced]
      obtain ⟨walk, _ | _ | _⟩ := walk.advance host onFrame <;> exact le_rfl
  | succ left ih =>
      rw [runTraced]
      obtain ⟨walk, _ | _ | _⟩ := walk.advance host onFrame
      · exact Nat.zero_le _
      · exact Nat.zero_le _
      · dsimp only
        generalize inspect host visit (host.settings.maxWalkDepth - left) _ = turn
        cases turn with
        | next walk => exact Nat.succ_le_succ (ih false walk)
        | moved walk => exact Nat.succ_le_succ (ih true walk)
        | stop walk result => exact Nat.succ_le_succ (Nat.zero_le left)

/-- Generators that resume each other: from each of these cursors, which all
stand at the entry of a generator, the saved context leads to another one. -/
def Circular (host : Host) (among : Cursor → Prop) : Prop :=
  ∀ cursor, among cursor → host.classifier.classify cursor.lookupPc = .generatorEntry ∧
    ∃ address next, host.hooks.savedContext cursor.bp = some address ∧
      cursor.reanchor address = .ok next ∧ among next

theorem inspect_of_circular {among : Cursor → Prop} (h : Circular host among) {walk : Walk σ}
    (hwalk : among walk.cursor) (depth : Nat) :
    ∃ walk', walk.inspect host visit depth = .moved walk' ∧ among walk'.cursor := by
  obtain ⟨hkind, address, next, haddress, hnext, hamong⟩ := h walk.cursor hwalk
  refine ⟨{ walk.note [.frameVisited depth walk.cursor.ip walk.cursor.bp .generatorEntry] with
    cursor := next }, ?_, hamong⟩
  unfold inspect
  simp only [hkind, splice, note, haddress, hnext]

/-- A walk in a circle looks at as many frames as it may and is then too deep. -/
theorem runTraced_of_circular {among : Cursor → Prop} (h : Circular host among) (budget : Nat)
    {walk : Walk σ} (hwalk : among walk.cursor) :
    (runTraced host visit budget true walk).1.length = budget ∧
      (runTraced host visit budget true walk).2.2 =
        .error (.walkTooDeep host.settings.maxWalkDepth) := by
  induction budget generalizing walk with
  | zero =>
      rw [SplicedWalk.runTraced_spent]
      exact ⟨rfl, rfl⟩
  | succ left ih =>
      obtain ⟨walk', hinspect, hwalk'⟩ :=
        inspect_of_circular h hwalk (host.settings.maxWalkDepth - left)
      obtain ⟨hlength, hresult⟩ := ih hwalk'
      rw [SplicedWalk.runTraced_on_frame, hinspect]
      exact ⟨congrArg Nat.succ hlength, hresult⟩

end Walk

namespace LiveCursor

/-- The frames that a live cursor reaches have ever larger stack pointers, and
there are at most as many as words above the first; then a call answers that the
outermost frame was passed, or fails. A step by the base record leads to a base
of zero or one further up. The answer that the outermost frame was passed is
given again by every later call, and the frame stays the last one that was
reached. A call that fails changes nothing, and all later ones fail alike. A
walk, also over other cursors and through generators, looks at no more frames
than its limit allows. In a circle of generators it looks at exactly that many
before it fails. -/
theorem steps_ascend_and_end (callFrames : CallFrame.Table) (c : LiveCursor) :
    (∀ i j, i < j → c.answer callFrames i = .ok true → c.answer callFrames j = .ok true →
      (c.afterCalls callFrames (i + 1)).activation.sp <
        (c.afterCalls callFrames (j + 1)).activation.sp) ∧
    (∃ n ≤ 2 ^ 64 - c.activation.sp.toNat, c.answer callFrames n ≠ .ok true) ∧
    (∀ n, (c.afterCalls callFrames n).started = true →
      ByBase callFrames (c.afterCalls callFrames n).activation
        (c.afterCalls callFrames n).memory →
      c.answer callFrames n = .ok true →
      (c.afterCalls callFrames (n + 1)).activation.bp = 0 ∨
        (c.afterCalls callFrames n).activation.bp <
          (c.afterCalls callFrames (n + 1)).activation.bp) ∧
    (∀ n, c.answer callFrames n = .ok false → ∀ k ≥ n, c.answer callFrames k = .ok false ∧
      (c.afterCalls callFrames (k + 1)).activation = (c.afterCalls callFrames n).activation) ∧
    (∀ n fault, c.answer callFrames n = .error fault → ∀ k ≥ n,
      c.answer callFrames k = .error fault ∧
        c.afterCalls callFrames (k + 1) = c.afterCalls callFrames n) ∧
    ∀ {σ : Type} (host : Host) (visit : σ → WalkEvent → Visit σ) (state : σ) (cursor : Cursor),
      let limit := host.settings.maxWalkDepth
      let traced := Walk.runTraced host visit limit false { cursor, state }
      traced.2 = cursor.walk host visit state ∧ traced.1.length ≤ limit ∧
      ∀ among first, Walk.Circular host among →
        cursor.step host.callFrames = (first, .ok true) → among first →
        traced.1.length = limit ∧ traced.2.2 = .error (.walkTooDeep limit) := by
  refine ⟨fun i j => sp_lt_after, exists_last_answer callFrames c, fun n => bp_of_byBase,
    fun n h k hk => answer_after_false hk h, fun n fault h k hk => answer_after_error hk h, ?_⟩
  intro σ host visit state cursor limit traced
  refine ⟨Walk.runTraced_eq_run limit false _, Walk.runTraced_length_le limit false _, ?_⟩
  intro among first hcircular hstep hfirst
  have honFrame : traced = _ := Walk.runTraced_of_moved hstep limit
  rw [honFrame]
  exact Walk.runTraced_of_circular hcircular limit hfirst

/-- Two frames found by their base records, the second without a caller. -/
def baseChain : LiveCursor where
  memory := (((Memory.empty.write 0x7010 0x7030).write 0x7018 0x9020).write 0x7030 0).write 0x7038 0
  activation := .ofPointers 0x9010 0x7000 0x7010

/-- The base record of the frame points to itself. -/
def loopedBase : LiveCursor where
  memory := (Memory.empty.write 0x7010 0x7010).write 0x7018 0x9020
  activation := .ofPointers 0x9010 0x7000 0x7010

/-- At the entry of a generator whose context returns to that entry. -/
def resumesItself : LiveCursor where
  memory := SplicedWalk.returningTo 0x6210 0x7030
  activation := .ofPointers 0x6210 0x7000 0x7030

def AtItsEntry (cursor : Cursor) : Prop :=
  ∃ c : LiveCursor, cursor = .live c ∧ c.memory = resumesItself.memory ∧
    c.activation.ip = 0x6210 ∧ c.activation.bp = 0x7030 ∧ c.activation.exact = false

theorem atItsEntry_circular : Walk.Circular SplicedWalk.generatorHost AtItsEntry := by
  rintro _ ⟨c, rfl, hmemory, hip, hbp, hexact⟩
  have hpc : (Cursor.live c).lookupPc = 0x620f := by
    change c.activation.lookupPc = 0x620f
    rw [Activation.lookupPc, hexact, hip]
    rfl
  have hbase : (Cursor.live c).bp = 0x7030 := hbp
  have hread : SavedContext.read c.memory 0x7400 = .ok
      { r15 := 15, r14 := 14, r13 := 13, r12 := 12, rbx := 3, rbp := 0x7030, rip := 0x6210 } := by
    rw [hmemory]
    rfl
  have hreanchor : ∃ next, (Cursor.live c).reanchor 0x7400 = .ok next ∧ AtItsEntry next := by
    simp only [Cursor.reanchor, reanchor, hread]
    exact ⟨_, rfl, _, rfl, hmemory, rfl, rfl, rfl⟩
  obtain ⟨next, hnext, hentry⟩ := hreanchor
  exact ⟨by rw [hpc]; rfl, 0x7400, next, by rw [hbase]; rfl, hnext, hentry⟩

/-- The chain of bases ends behind its second frame, and the looped one at once.
The generator that resumes itself stops the walk at the limit. -/
theorem baseChain_ends :
    baseChain.activation.sp < (baseChain.afterCalls {} 2).activation.sp ∧
    (∀ k ≥ 2, baseChain.answer {} k = .ok false ∧
      (baseChain.afterCalls {} (k + 1)).activation.ip = 0x9020) ∧
    (∀ k ≥ 1, loopedBase.answer {} k =
        .error (.stepFailed 0x9010 .framePointerNotAscending) ∧
      (loopedBase.afterCalls {} (k + 1)).activation = loopedBase.activation) ∧
    (Cursor.walk SplicedWalk.generatorHost SplicedWalk.collect [] (.live resumesItself)).2 =
      .error (.walkTooDeep 100000) := by
  obtain ⟨hascends, -, -, hpassed, -, hwalks⟩ := steps_ascend_and_end {} baseChain
  obtain ⟨-, -, -, -, hfailed, -⟩ := steps_ascend_and_end {} loopedBase
  obtain ⟨hsame, -, hcircle⟩ := hwalks SplicedWalk.generatorHost SplicedWalk.collect []
    (.live resumesItself)
  refine ⟨hascends 0 1 Nat.one_pos rfl rfl, fun k hk => ?_, fun k hk => ?_, ?_⟩
  · obtain ⟨hanswer, hactivation⟩ := hpassed 2 rfl k hk
    exact ⟨hanswer, by rw [hactivation]; rfl⟩
  · obtain ⟨hanswer, hcursor⟩ := hfailed 1 _ rfl k hk
    exact ⟨hanswer, by rw [hcursor]; rfl⟩
  · rw [← hsame]
    exact (hcircle AtItsEntry (.live { resumesItself with started := true }) atItsEntry_circular
      rfl ⟨_, rfl, rfl, rfl, rfl, rfl⟩).2

end LiveCursor
end StackUnwind
