import StackUnwind.Proofs.CallFrameRows
import Mathlib

/-!
# Applying the rules of a row at once

The rules of a row are applied one after the other to a file that holds the
callee-saved registers of the frame. A rule may name a register for which a
value was found already, as two rules that exchange registers do. But every
rule reads the registers of the frame, never those found so far, and no two
rules write one register. So the caller is what all rules give at once, and
their order does not matter. The stack pointer is written last and is the frame
address whatever its rule, and rules for registers that are not tracked are
passed over.
-/
namespace StackUnwind

theorem RegisterFile.value_ofFn (f : Register → Option Word) {reg : Register}
    (hreg : reg.toNat < Register.count) : (ofFn f).value? reg = f reg := by
  simp only [ofFn, value?, dif_pos hreg, Vector.getElem_ofFn, UInt16.ofNat_toNat]

theorem RegisterFile.value_of_untracked (file : RegisterFile) {reg : Register}
    (hreg : ¬reg.toNat < Register.count) : file.value? reg = none :=
  dif_neg hreg

namespace CallFrame

/-! Rules by register -/

namespace RuleList

variable {rules other : RuleList} {reg : Register} {rule : RegisterRule}

theorem Unique.perm (h : rules.Unique) (hperm : other.Perm rules) : other.Unique :=
  (hperm.map Prod.fst).nodup_iff.mpr h

/-- Where each register has one rule, its place in the list does not matter. -/
theorem rule?_perm (hunique : rules.Unique) (hperm : other.Perm rules) (reg : Register) :
    other.rule? reg = rules.rule? reg := by
  apply Option.ext
  intro rule
  rw [rule?_eq_some_iff (hunique.perm hperm), rule?_eq_some_iff hunique, hperm.mem_iff]

/-- The rules for registers that are tracked. -/
def tracked (rules : RuleList) : RuleList :=
  rules.filter fun entry => entry.1.toNat < Register.count

theorem mem_tracked_iff {entry : Register × RegisterRule} :
    entry ∈ rules.tracked ↔ entry ∈ rules ∧ entry.1.toNat < Register.count := by
  simp [tracked]

theorem Unique.tracked (h : rules.Unique) : rules.tracked.Unique :=
  (List.filter_sublist.map Prod.fst).nodup h

theorem rule?_tracked (hunique : rules.Unique) (hreg : reg.toNat < Register.count) :
    rules.tracked.rule? reg = rules.rule? reg := by
  apply Option.ext
  intro rule
  rw [rule?_eq_some_iff hunique.tracked, rule?_eq_some_iff hunique, mem_tracked_iff,
    and_iff_left hreg]

end RuleList

/-! What the rules give at once -/

section
variable {frameAddress : Word} {file : RegisterFile} {memory : Memory}

/-- The caller's value under a rule, from the registers and the memory of the frame. -/
def RegisterRule.value? (frameAddress : Word) (file : RegisterFile) (memory : Memory)
    (reg : Register) : RegisterRule → Option Word
  | .undefined => none
  | .sameValue => file.value? reg
  | .offset distance => memory.word? (frameAddress.displace distance)
  | .valueOffset distance => some (frameAddress.displace distance)
  | .otherRegister source => file.value? source
  | .expression => none

/-- The rule is no expression, and the word that it looks for can be read. -/
def RegisterRule.Applies (frameAddress : Word) (memory : Memory) : RegisterRule → Prop
  | .offset distance => (memory.word? (frameAddress.displace distance)).isSome
  | .expression => False
  | .undefined | .sameValue | .valueOffset _ | .otherRegister _ => True

instance (frameAddress : Word) (memory : Memory) (rule : RegisterRule) :
    Decidable (rule.Applies frameAddress memory) :=
  match rule with
  | .offset distance =>
      inferInstanceAs (Decidable ((memory.word? (frameAddress.displace distance)).isSome = true))
  | .expression => .isFalse id
  | .undefined | .sameValue | .valueOffset _ | .otherRegister _ => .isTrue trivial

/-- The rules for tracked registers can be applied. -/
def RuleList.Applicable (rules : RuleList) (frameAddress : Word) (memory : Memory) : Prop :=
  ∀ entry ∈ rules, entry.1.toNat < Register.count → entry.2.Applies frameAddress memory

/-- The caller's register when all rules are taken at once. -/
def RuleList.callerValue? (rules : RuleList) (frameAddress : Word) (file : RegisterFile)
    (memory : Memory) (reg : Register) : Option Word :=
  if reg = .rsp then some frameAddress
  else
    match rules.rule? reg with
    | some rule => rule.value? frameAddress file memory reg
    | none => if reg ∈ Register.calleeSaved then file.value? reg else none

theorem RegisterRule.evaluate_eq_value {rule : RegisterRule} (pc : Word) (reg : Register)
    (h : rule.Applies frameAddress memory) :
    rule.evaluate pc frameAddress reg file memory =
      .ok (rule.value? frameAddress file memory reg) := by
  cases rule with
  | undefined | sameValue | valueOffset | otherRegister => rfl
  | offset distance =>
      obtain ⟨word, hword⟩ := Option.isSome_iff_exists.mp h
      simp only [evaluate, value?, Memory.read, hword]
      rfl
  | expression => exact h.elim

variable {rules : RuleList}

theorem RuleList.Applicable.perm {other : RuleList} (h : rules.Applicable frameAddress memory)
    (hperm : other.Perm rules) : other.Applicable frameAddress memory :=
  fun entry hmem => h entry (hperm.mem_iff.mp hmem)

theorem RuleList.Applicable.tracked (h : rules.Applicable frameAddress memory) :
    rules.tracked.Applicable frameAddress memory :=
  fun entry hmem => h entry (mem_tracked_iff.mp hmem).1

/-- Rules that can be applied are. -/
theorem exists_applyRules (pc : Word) (file : RegisterFile)
    (h : rules.Applicable frameAddress memory) (caller : RegisterFile) :
    ∃ result, applyRules pc frameAddress file memory rules caller = .ok result := by
  induction rules generalizing caller with
  | nil => exact ⟨caller, rfl⟩
  | cons entry rest ih =>
      obtain ⟨reg, rule⟩ := entry
      have hrest : RuleList.Applicable rest frameAddress memory :=
        fun later hmem => h later (List.mem_cons_of_mem _ hmem)
      unfold applyRules
      split_ifs with hreg
      · rw [rule.evaluate_eq_value pc reg (h _ List.mem_cons_self hreg)]
        exact ih hrest _
      · exact ih hrest caller

/-- One after the other, rules for distinct registers give what they give at once. -/
theorem value_applyRules_at_once {pc : Word} {result : RegisterFile} (hunique : rules.Unique)
    (happlicable : rules.Applicable frameAddress memory)
    (h : applyRules pc frameAddress file memory rules (keptRegisters file) = .ok result)
    {reg : Register} (hreg : reg.toNat < Register.count) (hrsp : reg ≠ .rsp) :
    result.value? reg = rules.callerValue? frameAddress file memory reg := by
  have hvalue := value_applyRules hunique hreg h
  rw [RuleList.callerValue?, if_neg hrsp]
  cases hrule : rules.rule? reg with
  | none =>
      rw [hrule] at hvalue
      exact hvalue.trans (value_keptRegisters hreg)
  | some rule =>
      rw [hrule] at hvalue
      have happlies :=
        happlicable (reg, rule) ((RuleList.rule?_eq_some_iff hunique).mp hrule) hreg
      dsimp only at hvalue
      rw [rule.evaluate_eq_value pc reg happlies] at hvalue
      exact (Except.ok.inj hvalue).symm

variable {base : Register} {offset : Int64} {start : Word}

/-- A row whose return column is the return address gives the caller at once. -/
theorem RowState.apply_eq_at_once (pc : Word) (hbase : file.value? base = some start)
    (hunique : rules.Unique) (happlicable : rules.Applicable (start.displace offset) memory) :
    (RowState.mk (.registerOffset base offset) rules).apply .returnAddress pc file memory =
      .ok ⟨start.displace offset,
        .ofFn (rules.callerValue? (start.displace offset) file memory)⟩ := by
  have htracked : base.toNat < Register.count := by
    by_contra hnot
    rw [file.value_of_untracked hnot] at hbase
    cases hbase
  have hframe : (FrameRule.registerOffset base offset).evaluate pc file =
      .ok (start.displace offset) := by
    simp only [FrameRule.evaluate, RegisterFile.get, if_pos htracked, hbase]
    rfl
  obtain ⟨result, hresult⟩ := exists_applyRules pc file happlicable (keptRegisters file)
  have hcaller : result.put .rsp (some (start.displace offset)) =
      .ofFn (rules.callerValue? (start.displace offset) file memory) := by
    apply RegisterFile.ext_value
    intro reg
    by_cases hreg : reg.toNat < Register.count
    · rw [RegisterFile.value_ofFn _ hreg]
      by_cases hrsp : reg = .rsp
      · subst hrsp
        rw [RegisterFile.value_put_self _ hreg, RuleList.callerValue?, if_pos rfl]
      · rw [RegisterFile.value_put_of_ne _ hrsp]
        exact value_applyRules_at_once hunique happlicable hresult hreg hrsp
    · rw [RegisterFile.value_of_untracked _ hreg, RegisterFile.value_of_untracked _ hreg]
  simp only [RowState.apply, hframe, hresult, bind, Except.bind, if_pos, hcaller]
  rfl

/-- Applying a row gives every register of the caller as if all rules were
taken at once. The stack pointer is the frame address. Any other tracked
register with a rule has the value of its rule under the frame's registers and
memory. A callee-saved register without a rule is as it is in the frame, and
nothing is known of the others. No order of the rules changes the caller, and
neither do rules for registers that are not tracked. -/
theorem RowState.caller_at_once (pc : Word) (hbase : file.value? base = some start)
    (hunique : rules.Unique) (happlicable : rules.Applicable (start.displace offset) memory) :
    let frameAddress := start.displace offset
    let applied := fun rules : RuleList =>
      (RowState.mk (.registerOffset base offset) rules).apply .returnAddress pc file memory
    ∃ caller : RegisterFile,
      applied rules = .ok ⟨frameAddress, caller⟩ ∧
      caller.value? .rsp = some frameAddress ∧
      (∀ reg rule, (reg, rule) ∈ rules → reg.toNat < Register.count → reg ≠ .rsp →
        caller.value? reg = rule.value? frameAddress file memory reg) ∧
      (∀ reg ∈ Register.calleeSaved, reg ∉ rules.map Prod.fst →
        caller.value? reg = file.value? reg) ∧
      (∀ reg, reg ≠ .rsp → reg ∉ Register.calleeSaved → reg ∉ rules.map Prod.fst →
        caller.value? reg = none) ∧
      (∀ other : RuleList, other.Perm rules → applied other = .ok ⟨frameAddress, caller⟩) ∧
      applied rules.tracked = .ok ⟨frameAddress, caller⟩ := by
  intro frameAddress applied
  have hvalue : ∀ {reg : Register}, reg.toNat < Register.count →
      (RegisterFile.ofFn (rules.callerValue? frameAddress file memory)).value? reg =
        rules.callerValue? frameAddress file memory reg :=
    fun hreg => RegisterFile.value_ofFn _ hreg
  refine ⟨.ofFn (rules.callerValue? frameAddress file memory),
    apply_eq_at_once pc hbase hunique happlicable, ?_, ?_, ?_, ?_, ?_, ?_⟩
  · rw [hvalue (by decide), RuleList.callerValue?, if_pos rfl]
  · intro reg rule hmem hreg hrsp
    rw [hvalue hreg, RuleList.callerValue?, if_neg hrsp,
      (RuleList.rule?_eq_some_iff hunique).mpr hmem]
  · intro reg hsaved hnone
    obtain ⟨hreg, hrsp, -⟩ := Register.calleeSaved_tracked hsaved
    rw [hvalue hreg, RuleList.callerValue?, if_neg hrsp, RuleList.rule?_eq_none_iff.mpr hnone]
    exact if_pos hsaved
  · intro reg hrsp hsaved hnone
    by_cases hreg : reg.toNat < Register.count
    · rw [hvalue hreg, RuleList.callerValue?, if_neg hrsp, RuleList.rule?_eq_none_iff.mpr hnone]
      exact if_neg hsaved
    · exact RegisterFile.value_of_untracked _ hreg
  · intro other hperm
    have hsame : other.callerValue? frameAddress file memory =
        rules.callerValue? frameAddress file memory := by
      funext reg
      rw [RuleList.callerValue?, RuleList.rule?_perm hunique hperm, ← RuleList.callerValue?]
    rw [← hsame]
    exact apply_eq_at_once pc hbase (hunique.perm hperm) (happlicable.perm hperm)
  · have hsame : RegisterFile.ofFn (rules.tracked.callerValue? frameAddress file memory) =
        .ofFn (rules.callerValue? frameAddress file memory) := by
      apply RegisterFile.ext_value
      intro reg
      by_cases hreg : reg.toNat < Register.count
      · rw [RegisterFile.value_ofFn _ hreg, hvalue hreg, RuleList.callerValue?,
          RuleList.rule?_tracked hunique hreg, ← RuleList.callerValue?]
      · rw [RegisterFile.value_of_untracked _ hreg, RegisterFile.value_of_untracked _ hreg]
    rw [← hsame]
    exact apply_eq_at_once pc hbase hunique.tracked happlicable.tracked

end

/-- Rules that exchange two registers, ask for an unknown one, lose one, claim
the stack pointer, and have an expression for a register that is not tracked. -/
def exchangingRules : RuleList :=
  [(.rbx, .otherRegister .r12), (.r12, .otherRegister .rbx), (.r13, .otherRegister .r14),
    (.rbp, .undefined), (.rsp, .sameValue), (20, .expression), (.returnAddress, .offset (-8))]

def exchangingFile : RegisterFile :=
  .ofFn fun reg =>
    [(.rax, 0xa0), (.rbx, 0xb0), (.rbp, 0x7100), (.rsp, 0x7000), (.r12, 0xc0), (.r13, 0xd0),
      (.r15, 0xf0)].lookup reg

/-- The registers are exchanged, whichever rule comes first. -/
theorem exchangingRules_at_once :
    let apply := fun rules : RuleList =>
      (RowState.mk (.registerOffset .rsp 16) rules).apply .returnAddress 0x1000 exchangingFile
        (Memory.empty.write 0x7008 0x2222)
    ∃ caller : RegisterFile,
      apply exchangingRules = .ok ⟨0x7010, caller⟩ ∧
      apply exchangingRules.reverse = .ok ⟨0x7010, caller⟩ ∧
      apply exchangingRules.tracked = .ok ⟨0x7010, caller⟩ ∧
      caller.value? .rsp = some 0x7010 ∧
      caller.value? .rbx = some 0xc0 ∧ caller.value? .r12 = some 0xb0 ∧
      caller.value? .r13 = none ∧ caller.value? .rbp = none ∧
      caller.value? .returnAddress = some 0x2222 ∧
      caller.value? .r15 = some 0xf0 ∧ caller.value? .rax = none := by
  intro apply
  have hunique : exchangingRules.Unique := by
    unfold RuleList.Unique
    decide
  have happlicable : exchangingRules.Applicable (Word.displace 0x7000 16)
      (Memory.empty.write 0x7008 0x2222) := by
    unfold RuleList.Applicable
    decide
  obtain ⟨caller, happly, hrsp, hruled, hkept, hnone, hperm, htracked⟩ :=
    RowState.caller_at_once 0x1000 (rfl : exchangingFile.value? .rsp = some 0x7000) hunique
      happlicable
  refine ⟨caller, happly, hperm _ (List.reverse_perm _), htracked, hrsp, ?_, ?_, ?_, ?_, ?_, ?_, ?_⟩
  · exact hruled .rbx (.otherRegister .r12) (by decide) (by decide) (by decide)
  · exact hruled .r12 (.otherRegister .rbx) (by decide) (by decide) (by decide)
  · exact hruled .r13 (.otherRegister .r14) (by decide) (by decide) (by decide)
  · exact hruled .rbp .undefined (by decide) (by decide) (by decide)
  · exact hruled .returnAddress (.offset (-8)) (by decide) (by decide) (by decide)
  · exact hkept .r15 (by decide) (by decide)
  · exact hnone .rax (by decide) (by decide) (by decide)

end CallFrame
end StackUnwind
