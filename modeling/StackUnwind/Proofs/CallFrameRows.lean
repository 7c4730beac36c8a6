import StackUnwind.CallFrame.Section
import StackUnwind.Proofs.Reanchoring
import Mathlib

/-!
# Rows of call-frame tables

The rules of a row are a list in the order in which they were made, and are
applied in that order. No instruction leaves two rules for one register, so a
row gives each register one rule at most, and setting the rule of a register
leaves those of the others. Applying the row then gives the register the value
of its rule, for which only the registers of the frame are read and not those
found so far. Without a rule the register is what it was before rules were
applied.
-/
namespace StackUnwind

section
variable {ε α β : Type} {x : Except ε α}

/-- Where a computation in two parts succeeds, both do. -/
theorem exists_of_bind_ok {f : α → Except ε β} {b : β} (h : (x >>= f) = .ok b) :
    ∃ a, x = .ok a ∧ f a = .ok b := by
  cases x with
  | error fault => cases h
  | ok a => exact ⟨a, rfl, h⟩

theorem exists_of_map_ok {f : α → β} {b : β} (h : f <$> x = .ok b) :
    ∃ a, x = .ok a ∧ f a = b := by
  cases x with
  | error fault => cases h
  | ok a => exact ⟨a, rfl, Except.ok.inj h⟩

end

theorem Register.calleeSaved_tracked {reg : Register} (h : reg ∈ calleeSaved) :
    reg.toNat < count ∧ reg ≠ rsp ∧ reg ≠ returnAddress := by
  simp only [calleeSaved, List.mem_cons, List.not_mem_nil, or_false] at h
  rcases h with rfl | rfl | rfl | rfl | rfl | rfl <;> decide

theorem RegisterFile.value_empty (reg : Register) : empty.value? reg = none := by
  simp [empty, value?]

namespace CallFrame

/-! One rule a register -/

namespace RuleList

variable {rules changed : RuleList} {reg : Register}

/-- The list has no two rules for one register. -/
def Unique (rules : RuleList) : Prop :=
  (rules.map Prod.fst).Nodup

theorem rule?_eq_none_iff : rules.rule? reg = none ↔ reg ∉ rules.map Prod.fst := by
  rw [rule?, List.lookup_eq_none_iff]
  simp only [List.mem_map, not_exists, not_and, bne_iff_ne, ne_eq]
  exact ⟨fun h p hp heq => h p hp heq.symm, fun h p hp heq => h p hp heq.symm⟩

theorem rule?_cons_self (rules : RuleList) (reg : Register) (rule : RegisterRule) :
    RuleList.rule? ((reg, rule) :: rules) reg = some rule := by
  rw [rule?, List.lookup_cons_self]

theorem rule?_cons_of_ne (rules : RuleList) {r : Register} (rule : RegisterRule) (h : reg ≠ r) :
    RuleList.rule? ((r, rule) :: rules) reg = rules.rule? reg := by
  rw [rule?, List.lookup_cons, beq_eq_false_iff_ne.mpr h]
  rfl

theorem rule?_eq_some_iff {rule : RegisterRule} (hunique : rules.Unique) :
    rules.rule? reg = some rule ↔ (reg, rule) ∈ rules := by
  induction rules with
  | nil => simp [rule?]
  | cons entry rest ih =>
      obtain ⟨r, first⟩ := entry
      obtain ⟨hfresh, hrest⟩ := List.nodup_cons.mp hunique
      by_cases heq : reg = r
      · subst heq
        rw [rule?_cons_self, List.mem_cons]
        constructor
        · intro h
          cases h
          exact .inl rfl
        · rintro (h | h)
          · cases h
            rfl
          · exact absurd (List.mem_map_of_mem h) hfresh
      · rw [rule?_cons_of_ne _ _ heq, ih hrest, List.mem_cons]
        simp [heq]

theorem keys_replace (rules : RuleList) (reg : Register) (rule : RegisterRule) :
    (rules.replace reg rule).map Prod.fst = rules.map Prod.fst := by
  induction rules with
  | nil => rfl
  | cons entry rest ih =>
      obtain ⟨r, old⟩ := entry
      unfold replace
      split_ifs
      · rfl
      · rw [List.map_cons, List.map_cons, ih]

theorem define_unique {rule : RegisterRule} (h : rules.Unique)
    (hdefine : rules.define reg rule = .ok changed) : changed.Unique := by
  unfold define at hdefine
  split_ifs at hdefine with hsome
  · cases hdefine
    rw [Unique, keys_replace]
    exact h
  · cases hdefine
    have hfresh : reg ∉ rules.map Prod.fst :=
      rule?_eq_none_iff.mp (Option.not_isSome_iff_eq_none.mp hsome)
    rw [Unique, List.map_append, List.map_singleton, ← List.concat_eq_append]
    exact List.Nodup.concat hfresh h

/-- The place of the rule that goes is taken by one from outside the list. -/
theorem fill_unique {last : Register × RegisterRule} (h : rules.Unique)
    (hlast : last.1 ∉ rules.map Prod.fst) :
    (fill reg last rules).Unique ∧
      ∀ r ∈ (fill reg last rules).map Prod.fst, r = last.1 ∨ r ∈ rules.map Prod.fst := by
  induction rules with
  | nil => exact ⟨h, fun r hr => .inr hr⟩
  | cons entry rest ih =>
      obtain ⟨r, rule⟩ := entry
      obtain ⟨hr, hrest⟩ := List.nodup_cons.mp h
      rw [List.map_cons, List.mem_cons, not_or] at hlast
      unfold fill
      split_ifs
      · refine ⟨List.nodup_cons.mpr ⟨hlast.2, hrest⟩, fun s hs => ?_⟩
        rcases List.mem_cons.mp hs with rfl | hs
        · exact .inl rfl
        · exact .inr (List.mem_cons_of_mem _ hs)
      · obtain ⟨hunique, hkeys⟩ := ih hrest hlast.2
        refine ⟨List.nodup_cons.mpr ⟨fun hmem => ?_, hunique⟩, fun s hs => ?_⟩
        · rcases hkeys r hmem with heq | hmem
          · exact hlast.1 heq.symm
          · exact hr hmem
        · rcases List.mem_cons.mp hs with rfl | hs
          · exact .inr List.mem_cons_self
          · exact (hkeys s hs).imp_right (List.mem_cons_of_mem _)

theorem undefine_unique (h : rules.Unique) (reg : Register) : (rules.undefine reg).Unique := by
  unfold undefine
  split_ifs
  · split
    · exact h
    · rename_i last hlast
      obtain ⟨front, rfl⟩ := List.getLast?_eq_some_iff.mp hlast
      rw [Unique, List.map_append, List.map_singleton] at h
      obtain ⟨hfront, -, hapart⟩ := List.nodup_append.mp h
      rw [List.dropLast_concat]
      exact (fill_unique hfront fun hmem => hapart _ hmem _ List.mem_cons_self rfl).1
  · exact h

theorem assign_unique {rule? : Option RegisterRule} (h : rules.Unique)
    (hassign : rules.assign reg rule? = .ok changed) : changed.Unique := by
  cases rule? with
  | none =>
      cases hassign
      exact undefine_unique h reg
  | some rule => exact define_unique h hassign

variable {rule : RegisterRule}

theorem rule?_replace (rules : RuleList) (reg : Register) (rule : RegisterRule) (r : Register) :
    (rules.replace reg rule).rule? r =
      if r = reg ∧ (rules.rule? reg).isSome then some rule else rules.rule? r := by
  induction rules with
  | nil => simp [replace, rule?]
  | cons entry rest ih =>
      obtain ⟨s, old⟩ := entry
      unfold replace
      by_cases hs : s = reg
      · subst hs
        rw [if_pos rfl]
        by_cases hr : r = s
        · subst hr
          simp [rule?_cons_self]
        · simp [rule?_cons_of_ne _ _ hr, hr]
      · rw [if_neg hs, rule?_cons_of_ne _ _ (Ne.symm hs)]
        by_cases hr : r = s
        · subst hr
          simp [rule?_cons_self, hs]
        · rw [rule?_cons_of_ne _ _ hr, rule?_cons_of_ne _ _ hr, ih]

theorem rule?_define (hdefine : rules.define reg rule = .ok changed) (r : Register) :
    changed.rule? r = if r = reg then some rule else rules.rule? r := by
  unfold define at hdefine
  split_ifs at hdefine with hsome
  · cases hdefine
    rw [rule?_replace]
    simp [hsome]
  · cases hdefine
    have hnone : rules.rule? reg = none := Option.not_isSome_iff_eq_none.mp hsome
    rw [rule?, List.lookup_append]
    by_cases hr : r = reg
    · subst hr
      rw [← rule?, hnone, if_pos rfl, List.lookup_cons_self]
      rfl
    · rw [← rule?, if_neg hr, List.lookup_cons, beq_eq_false_iff_ne.mpr hr]
      simp

/-- The rule for the register goes, and the last one takes its place. -/
theorem mem_fill_iff {last entry : Register × RegisterRule} (hunique : rules.Unique) :
    entry ∈ fill reg last rules ↔
      (entry ∈ rules ∧ entry.1 ≠ reg) ∨ (reg ∈ rules.map Prod.fst ∧ entry = last) := by
  induction rules with
  | nil => simp [fill]
  | cons first rest ih =>
      obtain ⟨s, old⟩ := first
      obtain ⟨hfresh, hrest⟩ := List.nodup_cons.mp hunique
      unfold fill
      by_cases hs : s = reg
      · subst hs
        have hother : entry ∈ rest → entry.1 ≠ s :=
          fun hmem heq => hfresh (List.mem_map.mpr ⟨entry, hmem, heq⟩)
        rw [if_pos rfl, List.mem_cons]
        constructor
        · rintro (rfl | hmem)
          · exact .inr ⟨List.mem_cons_self, rfl⟩
          · exact .inl ⟨List.mem_cons_of_mem _ hmem, hother hmem⟩
        · rintro (⟨hmem, hne⟩ | ⟨-, rfl⟩)
          · rcases List.mem_cons.mp hmem with rfl | hmem
            · exact absurd rfl hne
            · exact .inr hmem
          · exact .inl rfl
      · have hfirst : entry = (s, old) → entry.1 ≠ reg := fun heq => heq ▸ hs
        have hreg : reg ≠ s := Ne.symm hs
        rw [if_neg hs, List.mem_cons, ih hrest, List.map_cons, List.mem_cons, List.mem_cons,
          or_iff_right hreg, or_and_right, and_iff_left_of_imp hfirst, or_assoc]

theorem mem_undefine_iff {entry : Register × RegisterRule} (hunique : rules.Unique) :
    entry ∈ rules.undefine reg ↔ entry ∈ rules ∧ entry.1 ≠ reg := by
  unfold undefine
  split_ifs with hsome
  · split
    · rename_i hlast
      rw [List.getLast?_eq_none_iff.mp hlast]
      simp
    · rename_i last hlast
      obtain ⟨front, rfl⟩ := List.getLast?_eq_some_iff.mp hlast
      rw [Unique, List.map_append, List.map_singleton] at hunique
      obtain ⟨hfront, -, hapart⟩ := List.nodup_append.mp hunique
      have hfresh : last.1 ∉ front.map Prod.fst :=
        fun hmem => hapart _ hmem _ List.mem_cons_self rfl
      rw [List.dropLast_concat, mem_fill_iff hfront, List.mem_append, List.mem_singleton]
      by_cases hreg : reg ∈ front.map Prod.fst
      · have hlastreg : entry = last → entry.1 ≠ reg := by
          rintro rfl heq
          exact hfresh (heq ▸ hreg)
        rw [and_iff_right hreg, or_and_right, and_iff_left_of_imp hlastreg]
      · have hlastreg : entry = last → entry.1 = reg := by
          rintro rfl
          by_contra hne
          apply Option.isSome_iff_ne_none.mp hsome
          rw [rule?_eq_none_iff, List.map_append, List.mem_append, List.map_singleton,
            List.mem_singleton]
          exact not_or.mpr ⟨hreg, Ne.symm hne⟩
        rw [or_and_right, or_iff_left fun h => hreg h.1, or_iff_left fun h => h.2 (hlastreg h.1)]
  · have hnone := rule?_eq_none_iff.mp (Option.not_isSome_iff_eq_none.mp hsome)
    constructor
    · intro hmem
      exact ⟨hmem, fun heq => hnone (heq ▸ List.mem_map_of_mem hmem)⟩
    · exact And.left

theorem rule?_undefine (hunique : rules.Unique) (reg r : Register) :
    (rules.undefine reg).rule? r = if r = reg then none else rules.rule? r := by
  apply Option.ext
  intro rule
  rw [rule?_eq_some_iff (undefine_unique hunique reg), mem_undefine_iff hunique]
  by_cases hr : r = reg
  · simp [hr]
  · rw [if_neg hr, rule?_eq_some_iff hunique, and_iff_left hr]

/-- An assignment concerns its own register only. -/
theorem rule?_assign {rule? : Option RegisterRule} (hunique : rules.Unique)
    (hassign : rules.assign reg rule? = .ok changed) (r : Register) :
    changed.rule? r = if r = reg then rule? else rules.rule? r := by
  cases rule? with
  | none =>
      cases hassign
      exact rule?_undefine hunique reg r
  | some rule => exact rule?_define hassign r

end RuleList

namespace Evaluation

/-- No row that is current or remembered has two rules for one register. -/
structure Tidy (e : Evaluation) : Prop where
  row : e.row.rules.Unique
  remembered : ∀ row ∈ e.remembered, row.rules.Unique

variable {e changed : Evaluation}

theorem Tidy.setRule (h : e.Tidy) {reg : Register} {rule? : Option RegisterRule}
    (hset : e.setRule reg rule? = .ok changed) : changed.Tidy := by
  obtain ⟨rules, hassign, hpure⟩ := exists_of_bind_ok hset
  cases hpure
  exact ⟨RuleList.assign_unique h.row hassign, h.remembered⟩

theorem Tidy.startAt (h : e.Tidy) (start : Word) : ({ e with start } : Evaluation).Tidy :=
  ⟨h.row, h.remembered⟩

theorem Tidy.setFrame (h : e.Tidy) (frame : FrameRule) : (e.setFrame frame).Tidy :=
  ⟨h.row, h.remembered⟩

theorem Tidy.changeFrame (h : e.Tidy) {change : Register → Int64 → FrameRule}
    (hchange : e.changeFrame change = .ok changed) : changed.Tidy := by
  unfold Evaluation.changeFrame at hchange
  split at hchange
  · cases hchange
    exact h.setFrame _
  · cases hchange

theorem Tidy.remember (h : e.Tidy) (hremember : e.remember = .ok changed) : changed.Tidy := by
  unfold Evaluation.remember at hremember
  split_ifs at hremember
  cases hremember
  exact ⟨h.row, List.forall_mem_cons.mpr ⟨h.row, h.remembered⟩⟩

theorem Tidy.reinstate (h : e.Tidy) (hreinstate : e.reinstate = .ok changed) : changed.Tidy := by
  unfold Evaluation.reinstate at hreinstate
  split at hreinstate
  · cases hreinstate
  · rename_i row remembered hremembered
    cases hreinstate
    have hall := h.remembered
    rw [hremembered] at hall
    exact ⟨(List.forall_mem_cons.mp hall).1, (List.forall_mem_cons.mp hall).2⟩

theorem Tidy.restoreRule (h : e.Tidy) {reg : Register}
    (hrestore : e.restoreRule reg = .ok changed) : changed.Tidy := by
  unfold Evaluation.restoreRule at hrestore
  split at hrestore
  · cases hrestore
  · exact h.setRule hrestore

theorem Tidy.execute (h : e.Tidy) {common : Common} {instruction : Instruction}
    (hexecute : execute common e instruction = .ok (.change changed)) : changed.Tidy := by
  cases instruction with
  | setLocation address =>
      simp only [Evaluation.execute] at hexecute
      split_ifs at hexecute
      cases hexecute
  | advance delta =>
      obtain ⟨stop, -, hstop⟩ := exists_of_map_ok hexecute
      cases hstop
  | defineFrame | defineFrameFactored | defineFrameExpression =>
      cases hexecute
      exact h.setFrame _
  | nothing =>
      cases hexecute
      exact h
  | defineFrameRegister | defineFrameOffset | defineFrameOffsetFactored =>
      obtain ⟨next, hchange, hnext⟩ := exists_of_map_ok hexecute
      cases hnext
      exact h.changeFrame hchange
  | undefined | sameValue | offset | valueOffset | otherRegister | expression =>
      obtain ⟨next, hset, hnext⟩ := exists_of_map_ok hexecute
      cases hnext
      exact h.setRule hset
  | restore reg =>
      obtain ⟨next, hrestore, hnext⟩ := exists_of_map_ok hexecute
      cases hnext
      exact h.restoreRule hrestore
  | rememberState =>
      obtain ⟨next, hremember, hnext⟩ := exists_of_map_ok hexecute
      cases hnext
      exact h.remember hremember
  | restoreState =>
      obtain ⟨next, hreinstate, hnext⟩ := exists_of_map_ok hexecute
      cases hnext
      exact h.reinstate hreinstate

variable {context : PointerContext} {common : Common}

theorem Tidy.runCommon {rounds : Nat} {s : ByteStream} (h : e.Tidy)
    (hrun : runCommon context common rounds s e = .ok changed) : changed.Tidy := by
  induction rounds generalizing s e with
  | zero =>
      cases hrun
      exact h
  | succ rounds ih =>
      simp only [Evaluation.runCommon] at hrun
      split_ifs at hrun
      · cases hrun
        exact h
      · split at hrun
        · cases hrun
        · split at hrun
          · cases hrun
          · rename_i next hexecute
            exact ih (h.execute hexecute) hrun
          · exact ih (h.startAt _) hrun

theorem blank_tidy : blank.Tidy :=
  ⟨List.nodup_nil, List.forall_mem_nil _⟩

theorem afterCommon_tidy (h : afterCommon context common = .ok e) : e.Tidy := by
  obtain ⟨after, hrun, hsave⟩ := exists_of_bind_ok h
  have hafter : after.Tidy := blank_tidy.runCommon hrun
  unfold saveInitial at hsave
  split_ifs at hsave
  cases hsave
  exact ⟨hafter.row, hafter.remembered⟩

theorem Tidy.findRow {pc stop : Word} {rounds : Nat} {s : ByteStream} {row : RowState}
    (h : e.Tidy) (hfind : findRow context common pc stop rounds s e = .ok (some row)) :
    row.rules.Unique := by
  induction rounds generalizing s e with
  | zero =>
      simp only [Evaluation.findRow] at hfind
      split_ifs at hfind
      · cases hfind
        exact h.row
      · cases hfind
  | succ rounds ih =>
      simp only [Evaluation.findRow] at hfind
      split_ifs at hfind
      · cases hfind
        exact h.row
      · cases hfind
      · split at hfind
        · cases hfind
        · split at hfind
          · cases hfind
          · rename_i next hexecute
            exact ih (h.execute hexecute) hfind
          · split_ifs at hfind
            · cases hfind
              exact h.row
            · exact ih (h.startAt _) hfind

end Evaluation

/-- A row that is found has one rule a register. -/
theorem Description.row_unique {context : PointerContext} {description : Description} {pc : Word}
    {row : RowState} (h : description.row? context pc = .ok (some row)) : row.rules.Unique := by
  obtain ⟨initial, hcommon, hfind⟩ := exists_of_bind_ok h
  exact ((Evaluation.afterCommon_tidy hcommon).startAt _).findRow hfind

/-! Applying a row -/

section
variable {pc frameAddress : Word} {file : RegisterFile} {memory : Memory}

/-- Rules for distinct registers do not get in each other's way. -/
theorem value_applyRules {rules : RuleList} (hunique : rules.Unique)
    {caller result : RegisterFile} {reg : Register} (hreg : reg.toNat < Register.count)
    (h : applyRules pc frameAddress file memory rules caller = .ok result) :
    match rules.rule? reg with
    | none => result.value? reg = caller.value? reg
    | some rule => rule.evaluate pc frameAddress reg file memory = .ok (result.value? reg) := by
  induction rules generalizing caller with
  | nil =>
      cases h
      rfl
  | cons entry rest ih =>
      obtain ⟨r, rule⟩ := entry
      obtain ⟨hr, hrest⟩ := List.nodup_cons.mp hunique
      by_cases heq : reg = r
      · subst heq
        rw [applyRules, if_pos hreg] at h
        obtain ⟨value?, hvalue, h⟩ := exists_of_bind_ok h
        have hlater := ih hrest h
        rw [RuleList.rule?_eq_none_iff.mpr hr] at hlater
        rw [RuleList.rule?_cons_self]
        dsimp only at hlater ⊢
        rw [hlater, RegisterFile.value_put_self _ hreg, hvalue]
      · rw [RuleList.rule?_cons_of_ne _ _ heq]
        rw [applyRules] at h
        split_ifs at h
        · obtain ⟨value?, -, h⟩ := exists_of_bind_ok h
          have hlater := ih hrest h
          rwa [RegisterFile.value_put_of_ne _ heq] at hlater
        · exact ih hrest h

theorem value_foldl_put {registers : List Register} {kept : RegisterFile} {reg : Register}
    (hreg : reg.toNat < Register.count) :
    (registers.foldl (fun kept r => kept.put r (file.value? r)) kept).value? reg =
      if reg ∈ registers then file.value? reg else kept.value? reg := by
  induction registers generalizing kept with
  | nil => simp
  | cons r rest ih =>
      rw [List.foldl_cons, ih]
      by_cases heq : reg = r
      · subst heq
        rw [RegisterFile.value_put_self _ hreg]
        simp
      · rw [RegisterFile.value_put_of_ne _ heq]
        simp [heq]

theorem value_keptRegisters {reg : Register} (hreg : reg.toNat < Register.count) :
    (keptRegisters file).value? reg =
      if reg ∈ Register.calleeSaved then file.value? reg else none := by
  rw [keptRegisters, value_foldl_put hreg, RegisterFile.value_empty]

/-- A row gives the caller's value of each register that is not one of its two
pointers. -/
theorem RowState.value_apply {row : RowState} (hunique : row.rules.Unique)
    {returnColumn : Register} {caller : Caller}
    (h : row.apply returnColumn pc file memory = .ok caller) {reg : Register}
    (hreg : reg.toNat < Register.count) (hrsp : reg ≠ .rsp) (hreturn : reg ≠ .returnAddress) :
    ∃ frameAddress, row.frame.evaluate pc file = .ok frameAddress ∧
      match row.rules.rule? reg with
      | none => caller.registers.value? reg = (keptRegisters file).value? reg
      | some rule =>
          rule.evaluate pc frameAddress reg file memory = .ok (caller.registers.value? reg) := by
  obtain ⟨frameAddress, hframe, h⟩ := exists_of_bind_ok h
  obtain ⟨found, hrules, h⟩ := exists_of_bind_ok h
  have hvalue : caller.registers.value? reg = found.value? reg := by
    cases h
    dsimp only
    split_ifs
    · exact RegisterFile.value_put_of_ne _ hrsp _
    · rw [RegisterFile.value_put_of_ne _ hreturn, RegisterFile.value_put_of_ne _ hrsp]
  refine ⟨frameAddress, hframe, ?_⟩
  rw [hvalue]
  exact value_applyRules hunique hreg hrules

end

/-! The row for an address -/

/-- The row that describes an address, with the column of the return address. -/
def Section.rowAt? (sec : Section) (pc : Word) : Except DwarfFault (Option (RowState × Register)) :=
  match sec.find? pc with
  | none => .ok none
  | some description => do
      let row? ← description.row? { sectionAddress := sec.address } pc
      return row?.map fun row => (row, description.common.returnColumn)

def Table.rowAt? (table : Table) (pc : Word) : Except DwarfFault (Option (RowState × Register)) :=
  match table.sectionFor? pc with
  | none => .ok none
  | some (_, sec) => sec.rowAt? pc

variable {table : Table} {pc : Word} {file : RegisterFile} {memory : Memory}

theorem Table.rowAt_unique {row : RowState} {column : Register}
    (h : table.rowAt? pc = .ok (some (row, column))) : row.rules.Unique := by
  unfold Table.rowAt? at h
  split at h
  · cases h
  · unfold Section.rowAt? at h
    split at h
    · cases h
    · obtain ⟨row?, hrow, hpure⟩ := exists_of_bind_ok h
      cases row? with
      | none => cases hpure
      | some found =>
          cases hpure
          exact Description.row_unique hrow

/-- A step applies the row for the address of the frame, if there is one. -/
theorem Table.step_eq (table : Table) (pc : Word) (file : RegisterFile) (memory : Memory) :
    table.step pc file memory =
      match table.rowAt? pc with
      | .error cause => .error (.dwarf cause)
      | .ok none => .ok none
      | .ok (some (row, column)) => some <$> row.apply column pc file memory := by
  unfold Table.step Table.rowAt?
  cases table.sectionFor? pc with
  | none => rfl
  | some numbered =>
      obtain ⟨number, sec⟩ := numbered
      simp only [Section.step, Section.rowAt?]
      cases sec.find? pc with
      | none => rfl
      | some description =>
          dsimp only
          cases description.row? { sectionAddress := sec.address } pc with
          | error cause => rfl
          | ok row? => cases row? <;> rfl

end CallFrame
end StackUnwind
