import StackUnwind.Proofs.RegisterOrigins
import StackUnwind.Proofs.SectionIndex
import Mathlib

/-!
# Registers that are declared undefined

The instructions in force at an address are those of the common entry and those
of the description up to the row that contains the address. For each register
they say last that it has a rule, that it is undefined, or nothing. A row holds
the rules only. Whether a register was declared undefined or never named cannot
be told from it, and a callee-saved register without a rule is taken for one
that the frame left alone. So one that is declared undefined is handed to the
caller as it is in the frame, and is unknown there only if it was unknown in
the frame already.
-/
namespace StackUnwind
namespace CallFrame

/-! Instructions in force -/

namespace Instruction

/-- Where the next row starts, if the instruction ends one that starts at `start`. -/
def nextRow? (common : Common) (start : Word) : Instruction → Option Word
  | .setLocation address => some address
  | .advance delta => some (start + delta * common.codeAlignment)
  | _ => none

/-- All the instructions in a stream. -/
inductive Spelled (context : PointerContext) (encoding? : Option PointerEncoding) :
    ByteStream → List Instruction → Prop
  | done {s} (hempty : s.rest = []) : Spelled context encoding? s []
  | next {s t instruction rest} (hread : read context encoding? s = .ok instruction t)
      (hrest : Spelled context encoding? t rest) :
      Spelled context encoding? s (instruction :: rest)

/-- The instructions in a stream up to the row that contains `pc`, when the row
in front of them starts at an address at or before it. -/
inductive UpTo (context : PointerContext) (common : Common) (pc : Word) :
    Word → ByteStream → List Instruction → Prop
  | done {start s} (hempty : s.rest = []) : UpTo context common pc start s []
  | reached {start s t instruction stop}
      (hread : read context common.addressEncoding? s = .ok instruction t)
      (hnext : instruction.nextRow? common start = some stop) (hpc : pc < stop) :
      UpTo context common pc start s []
  | passed {start s t instruction stop rest}
      (hread : read context common.addressEncoding? s = .ok instruction t)
      (hnext : instruction.nextRow? common start = some stop) (hpc : stop ≤ pc)
      (hrest : UpTo context common pc stop t rest) :
      UpTo context common pc start s (instruction :: rest)
  | inside {start s t instruction rest}
      (hread : read context common.addressEncoding? s = .ok instruction t)
      (hnext : instruction.nextRow? common start = none)
      (hrest : UpTo context common pc start t rest) :
      UpTo context common pc start s (instruction :: rest)

variable {context : PointerContext} {common : Common} {pc start : Word} {s : ByteStream}

theorem Spelled.unique {encoding? : Option PointerEncoding} {a b : List Instruction}
    (ha : Spelled context encoding? s a) (hb : Spelled context encoding? s b) : a = b := by
  induction ha generalizing b with
  | done hempty =>
      cases hb with
      | done => rfl
      | next hread => exact absurd hread ((read_consumes _ _).ne_ok_of_empty hempty)
  | next hread _ ih =>
      cases hb with
      | done hempty => exact absurd hread ((read_consumes _ _).ne_ok_of_empty hempty)
      | next hread' hrest =>
          cases hread.symm.trans hread'
          rw [ih hrest]

theorem UpTo.unique {a b : List Instruction} (ha : UpTo context common pc start s a)
    (hb : UpTo context common pc start s b) : a = b := by
  induction ha generalizing b with
  | done hempty =>
      cases hb with
      | done | reached => rfl
      | passed hread | inside hread => exact absurd hread ((read_consumes _ _).ne_ok_of_empty hempty)
  | reached hread hnext hpc =>
      cases hb with
      | done | reached => rfl
      | passed hread' hnext' hpc' =>
          cases hread.symm.trans hread'
          cases hnext.symm.trans hnext'
          exact absurd hpc (UInt64.not_lt.mpr hpc')
      | inside hread' hnext' =>
          cases hread.symm.trans hread'
          cases hnext.symm.trans hnext'
  | passed hread hnext hpc _ ih =>
      cases hb with
      | done hempty => exact absurd hread ((read_consumes _ _).ne_ok_of_empty hempty)
      | reached hread' hnext' hpc' =>
          cases hread.symm.trans hread'
          cases hnext.symm.trans hnext'
          exact absurd hpc' (UInt64.not_lt.mpr hpc)
      | passed hread' hnext' _ hrest =>
          cases hread.symm.trans hread'
          cases hnext.symm.trans hnext'
          rw [ih hrest]
      | inside hread' hnext' =>
          cases hread.symm.trans hread'
          cases hnext.symm.trans hnext'
  | inside hread hnext _ ih =>
      cases hb with
      | done hempty => exact absurd hread ((read_consumes _ _).ne_ok_of_empty hempty)
      | reached hread' hnext' | passed hread' hnext' =>
          cases hread.symm.trans hread'
          cases hnext.symm.trans hnext'
      | inside hread' _ hrest =>
          cases hread.symm.trans hread'
          rw [ih hrest]

end Instruction

/-! What is said of a register -/

/-- What instructions say last of a register. -/
inductive Standing where
  | unnamed
  | undefined
  | ruled
  deriving DecidableEq, Repr

/-- What was said last of a register, what had been said when each state was
remembered, and what the common entry said. -/
structure Account where
  current : Standing := .unnamed
  remembered : List Standing := []
  initial : Standing := .unnamed
  deriving DecidableEq, Repr

namespace Account

/-- The account of `reg` after an instruction about a register. -/
def name (account : Account) (reg r : Register) (standing : Standing) : Account :=
  if r = reg then { account with current := standing } else account

theorem remembered_name (account : Account) (reg r : Register) (standing : Standing) :
    (account.name reg r standing).remembered = account.remembered := by
  unfold name
  split_ifs <;> rfl

theorem initial_name (account : Account) (reg r : Register) (standing : Standing) :
    (account.name reg r standing).initial = account.initial := by
  unfold name
  split_ifs <;> rfl

/-- The account of `reg` after an instruction. -/
def after (reg : Register) (account : Account) : Instruction → Account
  | .undefined r => account.name reg r .undefined
  | .sameValue r | .offset r _ | .valueOffset r _ | .otherRegister r _ | .expression r =>
      account.name reg r .ruled
  | .restore r => account.name reg r account.initial
  | .rememberState => { account with remembered := account.current :: account.remembered }
  | .restoreState =>
      match account.remembered with
      | [] => account
      | standing :: remembered => { account with current := standing, remembered }
  | _ => account

theorem after_restoreState {account : Account} {standing : Standing} {remembered : List Standing}
    (h : account.remembered = standing :: remembered) (reg : Register) :
    account.after reg .restoreState = { account with current := standing, remembered } := by
  cases account
  cases h
  rfl

end Account

/-- The instructions of a common entry and those of a description. -/
structure Program where
  common : List Instruction
  own : List Instruction
  deriving DecidableEq, Repr

/-- What a program says last of a register. -/
def Program.standing (program : Program) (reg : Register) : Standing :=
  let first := program.common.foldl (Account.after reg) {}
  (program.own.foldl (Account.after reg) { first with initial := first.current }).current

/-- The program in force at an address of a section. -/
def Section.InForce (sec : Section) (pc : Word) (program : Program) : Prop :=
  ∃ d, sec.find? pc = some d ∧
    Instruction.Spelled { sectionAddress := sec.address } none d.common.program program.common ∧
    Instruction.UpTo { sectionAddress := sec.address } d.common pc d.start d.program program.own

/-! Rows follow the account -/

/-- The list has a rule for the register exactly if the last word is that it has one. -/
def RuleList.Fits (rules : RuleList) (reg : Register) (standing : Standing) : Prop :=
  (rules.rule? reg).isSome ↔ standing = .ruled

/-- The current row starts at `start`, and whatever is kept of rules fits the
accounts of all registers. -/
structure Evaluation.Follows (e : Evaluation) (start : Word) (accounts : Register → Account) :
    Prop where
  start : e.start = start
  row : ∀ reg, e.row.rules.Fits reg (accounts reg).current
  remembered : ∀ reg, List.Forall₂ (fun row standing => row.rules.Fits reg standing)
    e.remembered (accounts reg).remembered
  initial : ∀ reg, ∀ rules ∈ e.initial?, RuleList.Fits rules reg (accounts reg).initial

namespace Evaluation

variable {e changed : Evaluation} {start : Word} {r : Register} {accounts : Register → Account}

theorem Follows.setRule {rule? : Option RegisterRule} {standing : Register → Standing}
    (h : e.Follows start accounts) (htidy : e.Tidy) (hset : e.setRule r rule? = .ok changed)
    (hstanding : rule?.isSome ↔ standing r = .ruled) :
    changed.Follows start fun reg => (accounts reg).name reg r (standing reg) := by
  obtain ⟨rules, hassign, hpure⟩ := exists_of_bind_ok hset
  cases hpure
  refine ⟨h.start, fun reg => ?_, fun reg => ?_, fun reg => ?_⟩
  · have hrule := RuleList.rule?_assign htidy.row hassign reg
    unfold Account.name
    split_ifs with heq
    · subst heq
      rw [if_pos rfl] at hrule
      simpa only [RuleList.Fits, hrule] using hstanding
    · rw [if_neg (Ne.symm heq)] at hrule
      simpa only [RuleList.Fits, hrule] using h.row reg
  · rw [Account.remembered_name]
    exact h.remembered reg
  · rw [Account.initial_name]
    exact h.initial reg

theorem Follows.startAt (h : e.Follows start accounts) (next : Word) :
    ({ e with start := next } : Evaluation).Follows next accounts :=
  ⟨rfl, h.row, h.remembered, h.initial⟩

theorem Follows.setFrame (h : e.Follows start accounts) (frame : FrameRule) :
    (e.setFrame frame).Follows start accounts :=
  ⟨h.start, h.row, h.remembered, h.initial⟩

theorem Follows.changeFrame {change : Register → Int64 → FrameRule} (h : e.Follows start accounts)
    (hchange : e.changeFrame change = .ok changed) : changed.Follows start accounts := by
  unfold Evaluation.changeFrame at hchange
  split at hchange
  · cases hchange
    exact h.setFrame _
  · cases hchange

theorem Follows.restoreRule (h : e.Follows start accounts) (htidy : e.Tidy)
    (hrestore : e.restoreRule r = .ok changed) :
    changed.Follows start fun reg => (accounts reg).after reg (.restore r) := by
  unfold Evaluation.restoreRule at hrestore
  split at hrestore
  · cases hrestore
  · rename_i initial hinitial
    exact h.setRule htidy hrestore (h.initial r initial hinitial)

theorem Follows.remember (h : e.Follows start accounts) (hremember : e.remember = .ok changed) :
    changed.Follows start fun reg => (accounts reg).after reg .rememberState := by
  unfold Evaluation.remember at hremember
  split_ifs at hremember
  cases hremember
  exact ⟨h.start, h.row, fun reg => .cons (h.row reg) (h.remembered reg), h.initial⟩

theorem Follows.reinstate (h : e.Follows start accounts)
    (hreinstate : e.reinstate = .ok changed) :
    changed.Follows start fun reg => (accounts reg).after reg .restoreState := by
  unfold Evaluation.reinstate at hreinstate
  split at hreinstate
  · cases hreinstate
  · rename_i row remembered hremembered
    cases hreinstate
    have hlast : ∀ reg, ∃ standing standings,
        (accounts reg).remembered = standing :: standings ∧ row.rules.Fits reg standing ∧
        List.Forall₂ (fun row standing => row.rules.Fits reg standing) remembered standings := by
      intro reg
      have hpairs := h.remembered reg
      rw [hremembered] at hpairs
      obtain ⟨standing, standings, hrow, hrest, heq⟩ := List.forall₂_cons_left_iff.mp hpairs
      exact ⟨standing, standings, heq, hrow, hrest⟩
    refine ⟨h.start, fun reg => ?_, fun reg => ?_, fun reg => ?_⟩
    all_goals
      obtain ⟨standing, standings, heq, hrow, hrest⟩ := hlast reg
      rw [Account.after_restoreState heq]
    · exact hrow
    · exact hrest
    · exact h.initial reg

variable {common : Common} {instruction : Instruction}

/-- An instruction that changes the row does not end it, and changes the
accounts accordingly. -/
theorem Follows.execute (h : e.Follows start accounts) (htidy : e.Tidy)
    (hexecute : execute common e instruction = .ok (.change changed)) :
    instruction.nextRow? common start = none ∧
      changed.Follows start fun reg => (accounts reg).after reg instruction := by
  cases instruction with
  | setLocation address =>
      simp only [Evaluation.execute] at hexecute
      split_ifs at hexecute
      cases hexecute
  | advance delta =>
      obtain ⟨stop, -, hstop⟩ := exists_of_map_ok hexecute
      cases hstop
  | defineFrame | defineFrameFactored | defineFrameExpression =>
      cases hexecute
      exact ⟨rfl, h.setFrame _⟩
  | nothing =>
      cases hexecute
      exact ⟨rfl, h⟩
  | defineFrameRegister | defineFrameOffset | defineFrameOffsetFactored =>
      obtain ⟨next, hchange, hnext⟩ := exists_of_map_ok hexecute
      cases hnext
      exact ⟨rfl, h.changeFrame hchange⟩
  | undefined | sameValue | offset | valueOffset | otherRegister | expression =>
      obtain ⟨next, hset, hnext⟩ := exists_of_map_ok hexecute
      cases hnext
      exact ⟨rfl, h.setRule htidy hset (by simp)⟩
  | restore r =>
      obtain ⟨next, hrestore, hnext⟩ := exists_of_map_ok hexecute
      cases hnext
      exact ⟨rfl, h.restoreRule htidy hrestore⟩
  | rememberState =>
      obtain ⟨next, hremember, hnext⟩ := exists_of_map_ok hexecute
      cases hnext
      exact ⟨rfl, h.remember hremember⟩
  | restoreState =>
      obtain ⟨next, hreinstate, hnext⟩ := exists_of_map_ok hexecute
      cases hnext
      exact ⟨rfl, h.reinstate hreinstate⟩

/-- An instruction that ends the row says nothing of any register. -/
theorem Follows.endRow {stop : Word} (h : e.Follows start accounts)
    (hexecute : Evaluation.execute common e instruction = .ok (.endRow stop)) :
    instruction.nextRow? common start = some stop ∧
      ({ e with start := stop } : Evaluation).Follows stop
        fun reg => (accounts reg).after reg instruction := by
  obtain rfl := h.start
  cases instruction with
  | setLocation address =>
      simp only [Evaluation.execute] at hexecute
      split_ifs at hexecute
      cases hexecute
      exact ⟨rfl, h.startAt _⟩
  | advance delta =>
      obtain ⟨next, hadvanced, hnext⟩ := exists_of_map_ok hexecute
      cases hnext
      unfold advanced Word.add? at hadvanced
      split_ifs at hadvanced
      cases hadvanced
      exact ⟨rfl, h.startAt _⟩
  | defineFrame | defineFrameFactored | defineFrameExpression | nothing => cases hexecute
  | defineFrameRegister | defineFrameOffset | defineFrameOffsetFactored | undefined | sameValue
  | offset | valueOffset | otherRegister | expression | restore | rememberState | restoreState =>
      obtain ⟨next, -, hnext⟩ := exists_of_map_ok hexecute
      cases hnext

variable {context : PointerContext} {rounds : Nat} {s : ByteStream}

/-- A run of the common entry reads its whole stream. -/
theorem Follows.runCommon (hrounds : s.rest.length ≤ rounds) (htidy : e.Tidy)
    (h : e.Follows start accounts)
    (hrun : runCommon context common rounds s e = .ok changed) :
    ∃ list stop, Instruction.Spelled context none s list ∧
      changed.Follows stop fun reg => list.foldl (Account.after reg) (accounts reg) := by
  induction rounds generalizing s e start accounts with
  | zero =>
      cases hrun
      have hempty : s.rest = [] := List.length_eq_zero_iff.mp (Nat.le_zero.mp hrounds)
      exact ⟨[], start, .done hempty, h⟩
  | succ rounds ih =>
      simp only [Evaluation.runCommon] at hrun
      split_ifs at hrun with hempty
      · cases hrun
        exact ⟨[], start, .done (List.isEmpty_iff.mp hempty), h⟩
      · split at hrun
        · cases hrun
        · rename_i instruction t hread
          have hless := Instruction.read_consumes context none s instruction t hread
          have hrest : t.rest.length ≤ rounds := by omega
          split at hrun
          · cases hrun
          · rename_i next hexecute
            obtain ⟨list, stop, hlist, hfollows⟩ :=
              ih hrest (htidy.execute hexecute) (h.execute htidy hexecute).2 hrun
            exact ⟨instruction :: list, stop, .next hread hlist, hfollows⟩
          · rename_i rowStop hexecute
            obtain ⟨list, stop, hlist, hfollows⟩ :=
              ih hrest (htidy.startAt rowStop) (h.endRow hexecute).2 hrun
            exact ⟨instruction :: list, stop, .next hread hlist, hfollows⟩

theorem Follows.saveInitial (h : e.Follows start accounts)
    (hsave : e.saveInitial = .ok changed) :
    changed.Follows start fun reg =>
      { accounts reg with initial := (accounts reg).current } := by
  unfold Evaluation.saveInitial at hsave
  split_ifs at hsave
  cases hsave
  refine ⟨h.start, h.row, h.remembered, ?_⟩
  rintro reg rules ⟨⟩
  exact h.row reg

/-- A run that finds a row has read the instructions up to it. -/
theorem Follows.findRow {pc last : Word} {row : RowState} (hrounds : s.rest.length ≤ rounds)
    (htidy : e.Tidy) (h : e.Follows start accounts) (hstart : start ≤ pc)
    (hfind : findRow context common pc last rounds s e = .ok (some row)) :
    ∃ list, Instruction.UpTo context common pc start s list ∧
      ∀ reg, row.rules.Fits reg (list.foldl (Account.after reg) (accounts reg)).current := by
  induction rounds generalizing s e start accounts with
  | zero =>
      have hempty : s.rest = [] := List.length_eq_zero_iff.mp (Nat.le_zero.mp hrounds)
      simp only [Evaluation.findRow] at hfind
      split_ifs at hfind
      · cases hfind
        exact ⟨[], .done hempty, h.row⟩
      · cases hfind
  | succ rounds ih =>
      simp only [Evaluation.findRow] at hfind
      split_ifs at hfind with hempty
      · cases hfind
        exact ⟨[], .done (List.isEmpty_iff.mp hempty), h.row⟩
      · cases hfind
      · split at hfind
        · cases hfind
        · rename_i instruction t hread
          have hless := Instruction.read_consumes context common.addressEncoding? s instruction t
            hread
          have hrest : t.rest.length ≤ rounds := by omega
          split at hfind
          · cases hfind
          · rename_i next hexecute
            obtain ⟨hnext, hfollows⟩ := h.execute htidy hexecute
            obtain ⟨list, hlist, hfits⟩ :=
              ih hrest (htidy.execute hexecute) hfollows hstart hfind
            exact ⟨instruction :: list, .inside hread hnext hlist, hfits⟩
          · rename_i stop hexecute
            obtain ⟨hnext, hfollows⟩ := h.endRow hexecute
            rw [h.start] at hfind
            split_ifs at hfind with hhere
            · cases hfind
              rw [Bool.and_eq_true, decide_eq_true_iff, decide_eq_true_iff] at hhere
              exact ⟨[], .reached hread hnext hhere.2, h.row⟩
            · -- The row does not start behind `pc`, so it must end before it.
              have hpassed : stop ≤ pc := by
                apply UInt64.not_lt.mp
                simpa [hstart] using hhere
              obtain ⟨list, hlist, hfits⟩ :=
                ih hrest (htidy.startAt stop) hfollows hpassed hfind
              exact ⟨instruction :: list, .passed hread hnext hpassed hlist, hfits⟩

end Evaluation

/-- A row has a rule for exactly the registers that the instructions in front
of it gave one last. -/
theorem Description.exists_program {context : PointerContext} {d : Description} {pc : Word}
    {row : RowState} (hstart : d.start ≤ pc) (h : d.row? context pc = .ok (some row)) :
    ∃ program : Program,
      Instruction.Spelled context none d.common.program program.common ∧
      Instruction.UpTo context d.common pc d.start d.program program.own ∧
      ∀ reg, row.rules.Fits reg (program.standing reg) := by
  obtain ⟨initial, hcommon, hfind⟩ := exists_of_bind_ok h
  have htidy := Evaluation.afterCommon_tidy hcommon
  obtain ⟨after, hrun, hsave⟩ := exists_of_bind_ok hcommon
  have hblank : Evaluation.blank.Follows 0 fun _ => {} :=
    ⟨rfl, fun _ => by simp [RuleList.Fits, Evaluation.blank, RuleList.rule?], fun _ => .nil,
      fun _ _ hrules => nomatch hrules⟩
  obtain ⟨common, stop, hspelled, hafter⟩ :=
    hblank.runCommon (Nat.le_refl _) Evaluation.blank_tidy hrun
  obtain ⟨own, hupTo, hfits⟩ := ((hafter.saveInitial hsave).startAt d.start).findRow
    (Nat.le_refl _) (htidy.startAt d.start) hstart hfind
  exact ⟨⟨common, own⟩, hspelled, hupTo, hfits⟩

namespace Section

variable {sec : Section} {pc : Word} {file : RegisterFile} {memory : Memory} {caller : Caller}

theorem InForce.unique {a b : Program} (ha : sec.InForce pc a) (hb : sec.InForce pc b) :
    a = b := by
  obtain ⟨d, hfound, hcommon, hown⟩ := ha
  obtain ⟨d', hfound', hcommon', hown'⟩ := hb
  cases hfound.symm.trans hfound'
  cases a
  cases b
  cases hcommon.unique hcommon'
  cases hown.unique hown'
  rfl

/-- Where a step finds a caller, one program is in force. A callee-saved
register that it declares undefined is in the caller what it is in the frame,
just as one that it does not name. So it is unknown there, and the caller
cannot be landed in, if it was unknown in the frame already. -/
theorem undefined_as_in_frame (h : sec.step pc file memory = .ok (some caller)) :
    ∃ program, (∀ other, sec.InForce pc other ↔ other = program) ∧
      ∀ reg ∈ Register.calleeSaved,
        program.standing reg = .undefined ∨ program.standing reg = .unnamed →
        caller.registers.value? reg = file.value? reg ∧
        (file.value? reg = none → ∀ c : LiveCursor, c.activation.registers = caller.registers →
          ∃ first, c.resume = .error (.incompleteRegisters c.activation.ip first)) := by
  obtain ⟨d, row, hfound, hrow, happly⟩ := exists_of_step h
  obtain ⟨program, hcommon, hown, hfits⟩ :=
    Description.exists_program (contains_of_find? hfound).1 hrow
  have hforce : sec.InForce pc program := ⟨d, hfound, hcommon, hown⟩
  refine ⟨program, fun other => ⟨fun hother => hother.unique hforce, fun heq => heq ▸ hforce⟩, ?_⟩
  intro reg hsaved hstanding
  have hnone : row.rules.rule? reg = none := by
    rw [← Option.not_isSome_iff_eq_none]
    intro hsome
    have hruled := (hfits reg).mp hsome
    rw [hruled] at hstanding
    exact absurd hstanding (by decide)
  have hvalue : caller.registers.value? reg = file.value? reg :=
    row.value_of_keeps (Description.row_unique hrow) happly hsaved (.inl hnone)
  refine ⟨hvalue, fun hmissing c hregisters => ?_⟩
  have hunknown : c.activation.registers.value? reg = none := by
    rw [hregisters, hvalue, hmissing]
  obtain ⟨first, -, hresume⟩ := LiveCursor.resume_of_missing hsaved hunknown
  exact ⟨first, hresume⟩

/-- A section whose one description first loses `rbx`, takes it back for a row,
and then returns to the state in which it was lost. -/
def lossyBytes : Bytes :=
  toLittleEndian 4 16 ++ toLittleEndian 4 0 ++ [1, 0, 1, 0x78, 16] ++
    [0x0c, 7, 16, 0x90, 1, 0x83, 2] ++
    (toLittleEndian 4 26 ++ toLittleEndian 4 24 ++ toLittleEndian 8 0x1000 ++
      toLittleEndian 8 0x100) ++
    [0x07, 3, 0x0a, 0xc3, 0x44, 0x0b]

def lossyCommon : Common where
  codeAlignment := 1
  dataAlignment := -8
  returnColumn := .returnAddress
  augmented := false
  handlerEncoding? := none
  addressEncoding? := none
  program := ⟨[0x0c, 7, 16, 0x90, 1, 0x83, 2], 13⟩

def lossySection : Section where
  address := 0x3000
  descriptions := [⟨0x1000, 0x100, lossyCommon, ⟨[0x07, 3, 0x0a, 0xc3, 0x44, 0x0b], 44⟩⟩]

theorem ofBytes_lossyBytes : ofBytes lossyBytes 0x3000 = .ok lossySection := by
  have hread : Image.descriptions ⟨lossyBytes, 0x3000⟩ = .ok lossySection.descriptions := by
    rfl
  unfold ofBytes
  rw [hread]
  dsimp only [lossySection]
  rw [List.mergeSort_singleton]

def lossyProgram : Program where
  common := [.defineFrame .rsp 16, .offset .returnAddress 1, .offset .rbx 2]
  own := [.undefined .rbx, .rememberState, .restore .rbx, .advance 4, .restoreState]

theorem lossyProgram_inForce : lossySection.InForce 0x1010 lossyProgram := by
  refine ⟨_, rfl, ?_, ?_⟩
  · exact .next rfl (.next rfl (.next rfl (.done rfl)))
  · exact .inside rfl rfl (.inside rfl rfl (.inside rfl rfl
      (.passed rfl rfl (by decide) (.inside rfl rfl (.done rfl)))))

/-- The registers of a frame, with or without a value of `rbx`. -/
def lossyFile (rbx? : Option Word) : RegisterFile :=
  (RegisterFile.ofFn fun reg =>
    [(.rbp, 0x7100), (.rsp, 0x7000), (.r12, 0xc2), (.r13, 0xc3), (.r14, 0xc4),
      (.r15, 0xc5)].lookup reg).put .rbx rbx?

def lossyMemory : Memory :=
  (Memory.empty.write 0x7000 0xbb).write 0x7008 0x2222

/-- The caller, to which `rbx` is handed as it is. -/
def lossyCaller (rbx? : Option Word) : Caller where
  frameAddress := 0x7010
  registers :=
    ((lossyFile rbx?).put .rsp (some 0x7010)).put .returnAddress (some 0x2222)

/-- Where the frame does not know `rbx`, the caller does not either. -/
theorem lossySection_unknown :
    ofBytes lossyBytes 0x3000 = .ok lossySection ∧
      lossySection.step 0x1010 (lossyFile none) lossyMemory = .ok (some (lossyCaller none)) ∧
      lossyProgram.standing .rbx = .undefined ∧
      (lossyCaller none).registers.value? .rbx = none ∧
      ∀ c : LiveCursor, c.activation.registers = (lossyCaller none).registers →
        ∃ first, c.resume = .error (.incompleteRegisters c.activation.ip first) := by
  have hstep : lossySection.step 0x1010 (lossyFile none) lossyMemory =
      .ok (some (lossyCaller none)) := by cbv
  have hunknown : (lossyFile none).value? .rbx = none := by cbv
  obtain ⟨program, honly, hall⟩ := undefined_as_in_frame hstep
  have hprogram : lossyProgram = program := (honly _).mp lossyProgram_inForce
  obtain ⟨hvalue, hrefused⟩ := hall .rbx (by decide) (.inl (hprogram ▸ rfl))
  exact ⟨ofBytes_lossyBytes, hstep, rfl, hvalue.trans hunknown, hrefused hunknown⟩

/-- Where the frame knows `rbx`, the caller is given its value, though it is
declared undefined, and can be landed in. -/
theorem lossySection_carries_undefined :
    ofBytes lossyBytes 0x3000 = .ok lossySection ∧
      lossySection.InForce 0x1010 lossyProgram ∧ lossyProgram.standing .rbx = .undefined ∧
      ∃ caller,
        lossySection.step 0x1010 (lossyFile (some 0xb0)) lossyMemory = .ok (some caller) ∧
        caller.registers.value? .rbx = some 0xb0 ∧
        ∀ c : LiveCursor, c.activation.registers = caller.registers →
          ∃ landed, c.resume = .ok landed := by
  have hstep : lossySection.step 0x1010 (lossyFile (some 0xb0)) lossyMemory =
      .ok (some (lossyCaller (some 0xb0))) := by cbv
  have hcomplete : (lossyCaller (some 0xb0)).registers.missingCalleeSaved = [] := by cbv
  refine ⟨ofBytes_lossyBytes, lossyProgram_inForce, rfl, _, hstep, by cbv, ?_⟩
  intro c hregisters
  rw [LiveCursor.resume, hregisters, hcomplete]
  exact ⟨_, rfl⟩

end Section

end CallFrame
end StackUnwind
