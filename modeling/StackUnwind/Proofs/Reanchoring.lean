import StackUnwind.Proofs.CapturedUnwinding
import Mathlib

/-!
# Going on in a resumer

A context that was saved for a generator says to which frame it returns and
what that frame's registers are. On a captured stack the frame is looked for
among those further out, and the nearest that fits is taken, with the stack
pointer and the eight registers that the context gives it; everything else of
it is as it was captured. It fails when a word of the context cannot be read
or no frame further out fits.
-/
namespace StackUnwind

/-! Registers of a context -/

namespace RegisterFile

theorem value_put_of_ne (file : RegisterFile) {register other : Register} (h : other ≠ register)
    (value? : Option Word) : (file.put register value?).value? other = file.value? other := by
  have hnat : register.toNat ≠ other.toNat := fun heq => h (UInt16.toNat_inj.mp heq).symm
  unfold put
  split_ifs
  · simp only [RegisterFile.value?, Vector.getElem_set, if_neg hnat]
  · rfl

theorem value_put_self (file : RegisterFile) {register : Register}
    (h : register.toNat < Register.count) (value? : Option Word) :
    (file.put register value?).value? register = value? := by
  simp only [put, dif_pos h, RegisterFile.value?, Vector.getElem_set_self]

theorem value_putAll_of_not_mem (file : RegisterFile) {values : List (Register × Word)}
    {register : Register} (h : register ∉ values.map Prod.fst) :
    (file.putAll values).value? register = file.value? register := by
  induction values generalizing file with
  | nil => rfl
  | cons pair rest ih =>
      rw [List.map_cons, List.mem_cons, not_or] at h
      exact (ih _ h.2).trans (file.value_put_of_ne h.1 _)

theorem value_putAll_of_mem (file : RegisterFile) {values : List (Register × Word)}
    {register : Register} {value : Word} (hkeys : (values.map Prod.fst).Nodup)
    (htracked : register.toNat < Register.count) (hmem : (register, value) ∈ values) :
    (file.putAll values).value? register = some value := by
  induction values generalizing file with
  | nil => cases hmem
  | cons pair rest ih =>
      rw [List.map_cons, List.nodup_cons] at hkeys
      rcases List.mem_cons.mp hmem with rfl | hrest
      · exact (value_putAll_of_not_mem _ hkeys.1).trans (file.value_put_self htracked _)
      · exact ih _ hkeys.2 hrest

theorem ext_value {a b : RegisterFile} (h : ∀ register, a.value? register = b.value? register) :
    a = b := by
  obtain ⟨slots⟩ := a
  obtain ⟨slots'⟩ := b
  congr 1
  ext i hi : 1
  have hnat : (UInt16.ofNat i).toNat = i :=
    UInt16.toNat_ofNat_of_lt' (hi.trans (by decide))
  have hslot := h (UInt16.ofNat i)
  simpa only [value?, hnat, dif_pos hi] using hslot

end RegisterFile

/-- `resumed` is the captured frame with the stack pointer and the registers
that the context stored at `address` gives it. -/
structure CapturedFrame.Resumed (frame : CapturedFrame) (context : SavedContext) (address : Word)
    (resumed : CapturedFrame) : Prop where
  ip : resumed.ip = frame.ip
  bp : resumed.bp = frame.bp
  exact : resumed.exact = frame.exact
  handlers : resumed.handlers? = frame.handlers?
  sp : resumed.sp = address + 56
  given : ∀ register value, (register, value) ∈ context.values address →
    resumed.registers.value? register = some value
  kept : ∀ register, register ∉ (context.values address).map Prod.fst →
    resumed.registers.value? register = frame.registers.value? register

theorem Memory.read_bind_error {α : Type} {memory : Memory} {address : Word}
    {f : Word → Except Fault α} {fault : Fault} (h : (memory.read address >>= f) = .error fault) :
    (memory.word? address = none ∧ fault = .invalidRead address) ∨
      ∃ word, f word = .error fault := by
  unfold read at h
  cases hword : memory.word? address with
  | none =>
      rw [hword] at h
      cases h
      exact .inl ⟨rfl, rfl⟩
  | some word =>
      rw [hword] at h
      exact .inr ⟨word, h⟩

namespace SavedContext

theorem registers_toList (context : SavedContext) (address : Word) :
    (context.registers address).toList =
      [(.rbx, context.rbx), (.rbp, context.rbp), (.rsp, resumerSp address), (.r12, context.r12),
        (.r13, context.r13), (.r14, context.r14), (.r15, context.r15),
        (.returnAddress, context.rip)] := by
  cbv

theorem values_tracked (context : SavedContext) (address : Word) {register : Register}
    (h : register ∈ (context.values address).map Prod.fst) : register.toNat < Register.count := by
  have hkeys : (context.values address).map Prod.fst =
      [.r15, .r14, .r13, .r12, .rbx, .rbp, .returnAddress, .rsp] := rfl
  rw [hkeys] at h
  simp only [List.mem_cons, List.not_mem_nil, or_false] at h
  rcases h with rfl | rfl | rfl | rfl | rfl | rfl | rfl | rfl <;> decide

/-- The addresses of the words of a context. -/
def addresses (address : Word) : List Word :=
  [address, address + 8, address + 16, address + 24, address + 32, address + 40, address + 48]

/-- A context that cannot be read has a word that cannot be read. -/
theorem read_error {memory : Memory} {address : Word} {fault : Fault}
    (h : read memory address = .error fault) :
    ∃ bad ∈ addresses address, memory.word? bad = none ∧ fault = .invalidRead bad := by
  unfold read at h
  rcases Memory.read_bind_error h with hbad | ⟨r15, h⟩
  · exact ⟨_, by simp [addresses], hbad⟩
  rcases Memory.read_bind_error h with hbad | ⟨r14, h⟩
  · exact ⟨_, by simp [addresses], hbad⟩
  rcases Memory.read_bind_error h with hbad | ⟨r13, h⟩
  · exact ⟨_, by simp [addresses], hbad⟩
  rcases Memory.read_bind_error h with hbad | ⟨r12, h⟩
  · exact ⟨_, by simp [addresses], hbad⟩
  rcases Memory.read_bind_error h with hbad | ⟨rbx, h⟩
  · exact ⟨_, by simp [addresses], hbad⟩
  rcases Memory.read_bind_error h with hbad | ⟨rbp, h⟩
  · exact ⟨_, by simp [addresses], hbad⟩
  rcases Memory.read_bind_error h with hbad | ⟨rip, h⟩
  · exact ⟨_, by simp [addresses], hbad⟩
  cases h

/-- Whether the context returns to a frame. -/
def ReturnsTo (context : SavedContext) (frame : CapturedFrame) : Prop :=
  frame.ip = context.rip ∧ frame.bp = context.rbp

end SavedContext

namespace CapturedFrame

variable (frame : CapturedFrame) (context : SavedContext) (address : Word)

theorem inContext_registers :
    (frame.inContext context address).registers =
      frame.registers.putAll (context.registers address).toList := by
  rw [inContext]

theorem inContext_given {register : Register} {value : Word}
    (hmem : (register, value) ∈ context.values address) :
    (frame.inContext context address).registers.value? register = some value := by
  rw [inContext_registers, SavedContext.registers_toList]
  have htracked : register.toNat < Register.count :=
    SavedContext.values_tracked context address (List.mem_map_of_mem hmem)
  apply RegisterFile.value_putAll_of_mem _ _ htracked
  · simp only [SavedContext.values, List.mem_cons, List.not_mem_nil] at hmem ⊢
    tauto
  · simp only [List.map_cons, List.map_nil]
    decide

theorem inContext_kept {register : Register}
    (hmem : register ∉ (context.values address).map Prod.fst) :
    (frame.inContext context address).registers.value? register =
      frame.registers.value? register := by
  rw [inContext_registers, SavedContext.registers_toList]
  apply RegisterFile.value_putAll_of_not_mem
  simp only [SavedContext.values, List.map_cons, List.map_nil, List.mem_cons,
    List.not_mem_nil] at hmem ⊢
  tauto

theorem inContext_resumed :
    frame.Resumed context address (frame.inContext context address) where
  ip := rfl
  bp := rfl
  exact := rfl
  handlers := rfl
  sp := by rw [inContext, SavedContext.resumerSp]
  given _ _ := inContext_given frame context address
  kept _ := inContext_kept frame context address

/-- The context determines the resumed frame. -/
theorem Resumed.eq_inContext {frame resumed : CapturedFrame} {context : SavedContext}
    {address : Word} (h : frame.Resumed context address resumed) :
    resumed = frame.inContext context address := by
  have hsame := frame.inContext_resumed context address
  have hregisters : resumed.registers = (frame.inContext context address).registers := by
    apply RegisterFile.ext_value
    intro register
    by_cases hmem : register ∈ (context.values address).map Prod.fst
    · obtain ⟨⟨_, value⟩, hvalue, rfl⟩ := List.mem_map.mp hmem
      rw [h.given _ _ hvalue, hsame.given _ _ hvalue]
    · rw [h.kept _ hmem, hsame.kept _ hmem]
  obtain ⟨⟨ip, sp, bp, registers, exact⟩, handlers?⟩ := resumed
  obtain ⟨hip, hbp, hexact, hhandlers, hsp, -, -⟩ := h
  dsimp only [inContext] at hip hbp hexact hhandlers hsp hregisters
  rw [hip, hbp, hexact, hhandlers, hsp, hregisters, inContext, SavedContext.resumerSp]

end CapturedFrame

/-! The resumer -/

/-- The frame at `q` is the nearest one outside position `p` to which the context returns. -/
structure NearestResumer (frames : List CapturedFrame) (context : SavedContext) (p q : Nat)
    (found : CapturedFrame) : Prop where
  outside : p < q
  frame : frames[q]? = some found
  returns : context.ReturnsTo found
  nearest : ∀ r other, p < r → r < q → frames[r]? = some other → ¬ context.ReturnsTo other

namespace CapturedCursor

variable {c : CapturedCursor} {p : Nat} {address : Word} {context : SavedContext}

theorem reanchor_of_unreadable {fault : Fault}
    (hread : SavedContext.read c.memory address = .error fault) :
    c.reanchor address = .error fault := by
  unfold reanchor
  rw [hread]
  rfl

/-- The frames further out, counted from the position behind the current one. -/
theorem getElem?_further (hposition : c.position? = some p) (i : Nat) :
    (c.frames.drop c.nextPosition)[i]? = c.frames[p + 1 + i]? := by
  rw [List.getElem?_drop, nextPosition, hposition]

theorem reanchor_of_nearest {q : Nat} {found : CapturedFrame} (hposition : c.position? = some p)
    (hread : SavedContext.read c.memory address = .ok context)
    (h : NearestResumer c.frames context p q found) :
    c.reanchor address = .ok { c with
      position? := some q
      current? := some (found.inContext context address) } := by
  -- The search counts from the frame behind the current one.
  obtain ⟨index, rfl⟩ : ∃ index, q = p + 1 + index := ⟨q - (p + 1), by have := h.outside; omega⟩
  have hnext : c.nextPosition = p + 1 := by simp only [nextPosition, hposition]
  obtain ⟨hlt, hfound⟩ := List.getElem?_eq_some_iff.mp
    ((getElem?_further hposition index).trans h.frame)
  have hreturns : (found.ip == context.rip && found.bp == context.rbp) = true := by
    simpa [SavedContext.ReturnsTo] using h.returns
  have hnearer : ∀ j (hj : j < index), ((c.frames.drop c.nextPosition)[j].ip == context.rip &&
      (c.frames.drop c.nextPosition)[j].bp == context.rbp) = false := by
    intro j hj
    have hother := h.nearest (p + 1 + j) (c.frames.drop c.nextPosition)[j] (by omega) (by omega)
      ((getElem?_further hposition j).symm.trans (List.getElem?_eq_getElem _))
    simpa [SavedContext.ReturnsTo] using hother
  have hindex : (c.frames.drop c.nextPosition).findIdx? (fun frame =>
      frame.ip == context.rip && frame.bp == context.rbp) = some index := by
    refine List.findIdx?_eq_some_iff_getElem.mpr ⟨hlt, ?_, fun j hj => ?_⟩
    · rw [hfound, hreturns]
    · rw [hnearer j hj]
      decide
  have hfind : (c.frames.drop c.nextPosition).find? (fun frame =>
      frame.ip == context.rip && frame.bp == context.rbp) = some found := by
    refine List.find?_eq_some_iff_getElem.mpr ⟨hreturns, index, hlt, hfound, fun j hj => ?_⟩
    rw [hnearer j hj]
    rfl
  unfold reanchor
  rw [hread]
  dsimp only [bind, Except.bind]
  rw [hindex, hfind, hnext]
  rfl

theorem reanchor_of_unmatched (hposition : c.position? = some p)
    (hread : SavedContext.read c.memory address = .ok context)
    (h : ∀ q other, p < q → c.frames[q]? = some other → ¬ context.ReturnsTo other) :
    c.reanchor address = .error (.stepFailed context.rip .noMatchingFrame) := by
  have hnone : (c.frames.drop c.nextPosition).findIdx? (fun frame =>
      frame.ip == context.rip && frame.bp == context.rbp) = none := by
    rw [List.findIdx?_eq_none_iff]
    intro other hother
    obtain ⟨i, hi⟩ := List.mem_iff_getElem?.mp hother
    rw [getElem?_further hposition] at hi
    simpa [SavedContext.ReturnsTo] using h _ other (by omega) hi
  unfold reanchor
  rw [hread]
  dsimp only [bind, Except.bind]
  rw [hnone]

end CapturedCursor
end StackUnwind
