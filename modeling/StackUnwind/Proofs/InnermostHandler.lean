import StackUnwind.Engine
import StackUnwind.Proofs.CapturedUnwinding
import StackUnwind.Proofs.TableFaults

/-!
# The innermost handler

An exception that is raised on a captured stack goes to the innermost frame
that does not let it pass. A frame is silent when no exception table applies
to it, or when the entry of its call has no landing pad; the first frame that
is not silent decides, by its table alone, how the raise ends. With silent
frames only, the raise ends at the outermost frame or at the depth limit.

The session is idle, and the values released on the way can be read. The host,
the frames and the bytes of all tables are arbitrary. Nothing is said here
about tracebacks and cleanups.
-/
namespace StackUnwind.InnermostHandler

/-- The frame lets every exception pass. -/
def Silent (host : Host) (frame : CapturedFrame) : Prop :=
  host.tableOf? frame = none ∨
    ∃ table site, host.tableOf? frame = some table ∧
      table.find frame.lookupPc = .ok (some site) ∧ site.landingPad? = none

/-- Landing pads are verified, and the pad lies outside the code of the frame. -/
def Refuses (host : Host) (frame : CapturedFrame) (pad : Word) (range : CodeRange) : Prop :=
  host.settings.verifyLandingPads = true ∧
    host.classifier.landingRange? (host.kindOf frame) = some range ∧ range.contains pad = false

/-- How a raise ends that a frame decides. -/
inductive Decides (host : Host) (frame : CapturedFrame) : Except Fault Landed → Prop
  | unreadable {table fault} (htable : host.tableOf? frame = some table)
      (hsites : table.callSites = .error fault) : Decides host frame (.error fault)
  | unlisted {table} (htable : host.tableOf? frame = some table)
      (hfind : table.find frame.lookupPc = .ok none) :
      Decides host frame (.error (.noCallSite frame.lookupPc))
  | outside {table site pad range} (htable : host.tableOf? frame = some table)
      (hfind : table.find frame.lookupPc = .ok (some site)) (hpad : site.landingPad? = some pad)
      (hrefuses : Refuses host frame pad range) :
      Decides host frame (.error (.landingPadOutOfRange pad range.start range.stop))
  | undecided {table site pad fault} (htable : host.tableOf? frame = some table)
      (hfind : table.find frame.lookupPc = .ok (some site)) (hpad : site.landingPad? = some pad)
      (haccepts : ∀ range, ¬ Refuses host frame pad range)
      (haction : table.determineAction site = .error fault) : Decides host frame (.error fault)
  | lands {table site pad action} (htable : host.tableOf? frame = some table)
      (hfind : table.find frame.lookupPc = .ok (some site)) (hpad : site.landingPad? = some pad)
      (haccepts : ∀ range, ¬ Refuses host frame pad range)
      (haction : table.determineAction site = .ok action) :
      Decides host frame (.ok ⟨pad, frame.bp, action⟩)

/-! The verdict of one frame -/

variable {host : Host} {frame : CapturedFrame}

theorem verifyPad_of_refuses {pad : Word} {range : CodeRange} (h : Refuses host frame pad range) :
    host.verifyPad (host.kindOf frame) pad =
      .error (.landingPadOutOfRange pad range.start range.stop) := by
  obtain ⟨hverify, hrange, houtside⟩ := h
  simp [Host.verifyPad, hverify, hrange, houtside]

theorem verifyPad_of_accepts {pad : Word} (h : ∀ range, ¬ Refuses host frame pad range) :
    host.verifyPad (host.kindOf frame) pad = .ok () := by
  unfold Host.verifyPad
  split_ifs with hverify
  · split
    · rename_i range hrange
      cases hinside : range.contains pad with
      | true => rfl
      | false => exact absurd ⟨hverify, hrange, hinside⟩ (h range)
    · rfl
  · rfl

/-- The result that a verdict stands for, if the frame is not passed. -/
def decision (host : Host) (frame : CapturedFrame) : Option (Except Fault Landed) :=
  match host.verdict frame with
  | .error fault => some (.error fault)
  | .ok none => none
  | .ok (some (pad, action)) => some (.ok ⟨pad, frame.bp, action⟩)

theorem verdict_of_table {table : HandlerTable} (h : host.tableOf? frame = some table) :
    host.verdict frame = host.padFor? (host.kindOf frame) table frame.lookupPc := by
  simp only [Host.verdict, h]

theorem padFor_of_find {kind : FrameKind} {table : HandlerTable} {pc : Word} {site : CallSite}
    (h : table.find pc = .ok (some site)) :
    host.padFor? kind table pc =
      match site.landingPad? with
      | none => .ok none
      | some pad => do
          host.verifyPad kind pad
          return some (pad, ← table.determineAction site) := by
  rw [Host.padFor?, h]
  rfl

theorem verdict_of_silent (h : Silent host frame) : host.verdict frame = .ok none := by
  obtain hnone | ⟨table, site, htable, hfind, hpad⟩ := h
  · simp only [Host.verdict, hnone]
  · rw [verdict_of_table htable, padFor_of_find hfind, hpad]

theorem decision_of_decides {result : Except Fault Landed} (h : Decides host frame result) :
    decision host frame = some result := by
  unfold decision
  cases h with
  | unreadable htable hsites =>
      rw [verdict_of_table htable, Host.padFor?,
        (HandlerTable.find_eq_error_iff _ _ _).mpr hsites]
      rfl
  | unlisted htable hfind =>
      rw [verdict_of_table htable, Host.padFor?, hfind]
      rfl
  | outside htable hfind hpad hrefuses =>
      rw [verdict_of_table htable, padFor_of_find hfind, hpad]
      dsimp only
      rw [verifyPad_of_refuses hrefuses]
      rfl
  | undecided htable hfind hpad haccepts haction =>
      rw [verdict_of_table htable, padFor_of_find hfind, hpad]
      dsimp only
      rw [verifyPad_of_accepts haccepts, haction]
      rfl
  | lands htable hfind hpad haccepts haction =>
      rw [verdict_of_table htable, padFor_of_find hfind, hpad]
      dsimp only
      rw [verifyPad_of_accepts haccepts, haction]
      rfl

/-- A frame is silent or decides. -/
theorem silent_or_decides (host : Host) (frame : CapturedFrame) :
    Silent host frame ∨ ∃ result, Decides host frame result := by
  cases htable : host.tableOf? frame with
  | none => exact .inl (.inl htable)
  | some table =>
      cases hfind : table.find frame.lookupPc with
      | error fault =>
          have hsites := (HandlerTable.find_eq_error_iff _ _ _).mp hfind
          exact .inr ⟨_, .unreadable htable hsites⟩
      | ok site? =>
          cases site? with
          | none => exact .inr ⟨_, .unlisted htable hfind⟩
          | some site =>
              cases hpad : site.landingPad? with
              | none => exact .inl (.inr ⟨table, site, htable, hfind, hpad⟩)
              | some pad =>
                  by_cases hrefuses : ∃ range, Refuses host frame pad range
                  · obtain ⟨range, hrange⟩ := hrefuses
                    exact .inr ⟨_, .outside htable hfind hpad hrange⟩
                  · have haccepts := not_exists.mp hrefuses
                    cases haction : table.determineAction site with
                    | error fault =>
                        exact .inr ⟨_, .undecided htable hfind hpad haccepts haction⟩
                    | ok action => exact .inr ⟨_, .lands htable hfind hpad haccepts haction⟩

theorem decides_iff {result : Except Fault Landed} :
    Decides host frame result ↔ decision host frame = some result := by
  refine ⟨decision_of_decides, fun h => ?_⟩
  obtain hsilent | ⟨other, hother⟩ := silent_or_decides host frame
  · rw [decision, verdict_of_silent hsilent] at h
    cases h
  · rw [decision_of_decides hother] at h
    exact Option.some.inj h ▸ hother

theorem silent_iff : Silent host frame ↔ decision host frame = none := by
  refine ⟨fun h => by rw [decision, verdict_of_silent h], fun h => ?_⟩
  obtain hsilent | ⟨other, hother⟩ := silent_or_decides host frame
  · exact hsilent
  · rw [decision_of_decides hother] at h
    cases h

theorem decides_of_fault {fault : Fault} (h : host.verdict frame = .error fault) :
    Decides host frame (.error fault) := by
  rw [decides_iff, decision, h]

/-- The faults of a frame are not those of the stack around it. -/
theorem Decides.fault {fault : Fault} (h : Decides host frame (.error fault)) :
    fault.IsOfTable ∨ fault = .noCallSite frame.lookupPc ∨
      ∃ pad start stop, fault = .landingPadOutOfRange pad start stop := by
  cases h with
  | unreadable htable hsites => exact .inl (HandlerTable.callSites_error hsites)
  | unlisted htable hfind => exact .inr (.inl rfl)
  | outside htable hfind hpad hrefuses => exact .inr (.inr ⟨_, _, _, rfl⟩)
  | undecided htable hfind hpad haccepts haction =>
      exact .inl (HandlerTable.determineAction_error haction)

theorem Decides.ne_walkTooDeep {limit : Nat} : ¬ Decides host frame (.error (.walkTooDeep limit)) := by
  intro h
  obtain h | h | ⟨_, _, _, h⟩ := h.fault <;> cases h

theorem Decides.ne_noHandler {count : Nat} : ¬ Decides host frame (.error (.noHandler count)) := by
  intro h
  obtain h | h | ⟨_, _, _, h⟩ := h.fault <;> cases h

/-! The frames of a run -/

/-- How a run over the frames `ahead` ends: silent frames are passed, and then
the stack or the budget is used up, or a frame decides. A landing is recorded
at the position of its frame. -/
inductive Outcome (host : Host) (payload : Word) (budget position : Nat)
    (ahead : List CapturedFrame) (landing? : Option Landing) : Except Fault Landed → Prop
  | exhausted (hsilent : ∀ f ∈ ahead, Silent host f) (hlength : ahead.length ≤ budget) :
      Outcome host payload budget position ahead landing?
        (.error (.noHandler (host.settings.maxWalkDepth - budget + ahead.length)))
  | tooDeep (hsilent : ∀ f ∈ ahead.take budget, Silent host f) (hlength : budget < ahead.length) :
      Outcome host payload budget position ahead landing?
        (.error (.walkTooDeep host.settings.maxWalkDepth))
  | decided {k frame result} (hframe : ahead[k]? = some frame) (hbudget : k < budget)
      (hsilent : ∀ f ∈ ahead.take k, Silent host f) (hdecides : Decides host frame result)
      (hlanding : ∀ landed, result = .ok landed → landing? =
        some ((frame.atPad landed.ip payload landed.action.selector.toUInt64).landing
          (position + k))) :
      Outcome host payload budget position ahead landing? result

theorem Outcome.cons {payload : Word} {left position : Nat} {rest : List CapturedFrame}
    {landing? : Option Landing} {result : Except Fault Landed} (hsilent : Silent host frame)
    (hleft : left < host.settings.maxWalkDepth)
    (h : Outcome host payload left (position + 1) rest landing? result) :
    Outcome host payload (left + 1) position (frame :: rest) landing? result := by
  cases h with
  | exhausted hrest hlength =>
      have hcount : host.settings.maxWalkDepth - left + rest.length =
          host.settings.maxWalkDepth - (left + 1) + (frame :: rest).length := by
        rw [List.length_cons]
        omega
      rw [hcount]
      refine .exhausted ?_ (Nat.succ_le_succ hlength)
      exact List.forall_mem_cons.mpr ⟨hsilent, hrest⟩
  | tooDeep hrest hlength =>
      refine .tooDeep ?_ (Nat.succ_lt_succ hlength)
      rw [List.take_succ_cons]
      exact List.forall_mem_cons.mpr ⟨hsilent, hrest⟩
  | @decided k f _ hframe hbudget hrest hdecides hlanding =>
      refine .decided (k := k + 1) hframe (Nat.succ_lt_succ hbudget) ?_ hdecides ?_
      · rw [List.take_succ_cons]
        exact List.forall_mem_cons.mpr ⟨hsilent, hrest⟩
      · intro landed hlanded
        rw [hlanding landed hlanded, Nat.add_assoc, Nat.add_comm 1 k]

/-- What a run over captured frames needs: the values it releases can be read,
and an exception is in flight. -/
structure Ready (host : Host) (slot : Word) (budget : Nat) (c : CapturedCursor)
    (ahead : List CapturedFrame) (u : Unwinding) : Prop where
  cursor : u.cursor = .captured c
  skip : u.skipThrough? = none
  exception : u.session.exception?.isSome = true
  slot : u.session.slot = slot
  pending : ∀ pending, u.session.pending? = some pending → pending.Releasable c.memory
  releases : ∀ i frame, ahead[i]? = some frame → i < budget →
    (∀ f ∈ ahead.take i, Silent host f) → host.CanRelease c.memory frame

/-- A frame is accounted for, and the run stays ready for the frames outside it. -/
theorem Ready.account {slot : Word} {left : Nat} {c : CapturedCursor}
    {rest : List CapturedFrame} {u : Unwinding}
    (h : Ready host slot (left + 1) c (frame :: rest) u) :
    ∃ u', (u.onto c frame).account host frame = (u', .ok ()) ∧
      u'.cursor = .captured (c.onto frame) ∧ u'.session.exceptionAddress = slot ∧
      (Silent host frame → Ready host slot left (c.onto frame) rest u') := by
  have hmoved : (u.onto c frame).cursor = .captured (c.onto frame) := rfl
  obtain ⟨u', haccount, hcursor, hskip, -, haccounted⟩ :=
    Unwinding.account_ok host hmoved rfl h.pending
  have hexception : u'.session.exception?.isSome = true :=
    haccounted.exception ▸ h.exception
  have hslot : u'.session.slot = slot := haccounted.slot.trans h.slot
  refine ⟨u', haccount, hcursor, ?_, fun hsilent => ?_⟩
  · rw [Session.exceptionAddress, if_pos hexception, hslot]
  · refine ⟨hcursor, hskip.trans h.skip, hexception, hslot, ?_, ?_⟩
    · intro pending hpending
      rw [haccounted.pending, Option.filter_eq_some_iff] at hpending
      have hfirst := h.releases 0 frame rfl (Nat.succ_pos left) (by simp)
      exact hfirst pending (ShadowFilter.see_some hpending.1)
    · intro i f hf hi hbefore
      refine h.releases (i + 1) f hf (Nat.succ_lt_succ hi) ?_
      rw [List.take_succ_cons]
      exact List.forall_mem_cons.mpr ⟨hsilent, hbefore⟩

theorem outcome_of_run {now budget : Nat} {slot : Word} {c : CapturedCursor}
    {ahead : List CapturedFrame} {u u' : Unwinding} {result : Except Fault Landed}
    (hrun : Unwinding.Run host now budget c ahead u u' result)
    (hready : Ready host slot budget c ahead u) (hbudget : budget ≤ host.settings.maxWalkDepth) :
    Outcome host slot budget c.nextPosition ahead u'.cursor.landing? result := by
  -- `Ready` rules out the two ways to end a run that say nothing about tables:
  -- a frame to be passed over and a frame whose values cannot be released.
  induction hrun with
  | exhausted => exact .exhausted (by simp) (Nat.zero_le _)
  | tooDeep => exact .tooDeep (by simp) (Nat.succ_pos _)
  | skips hskip =>
      rw [hready.skip] at hskip
      cases hskip
  | refused _ haccount =>
      obtain ⟨_, hok, -⟩ := hready.account
      rw [hok] at haccount
      cases haccount
  | faults _ haccount hverdict =>
      exact .decided (k := 0) rfl (Nat.succ_pos _) (by simp) (decides_of_fault hverdict) nofun
  | @lands left c frame rest u u' pad action _ haccount hverdict =>
      obtain ⟨_, hok, hcursor, hpayload, -⟩ := hready.account
      rw [hok] at haccount
      cases haccount
      obtain ⟨hresult, hlanded⟩ := Unwinding.land_captured now hcursor rfl
        (host.settings.maxWalkDepth - left) pad action
      rw [hresult]
      refine .decided (k := 0) rfl (Nat.succ_pos _) (by simp) (decides_iff.mpr ?_) ?_
      · rw [decision, hverdict]
      · intro landed hlanding
        cases hlanding
        rw [hlanded, hpayload]
        rfl
  | passes _ haccount hverdict _ ih =>
      obtain ⟨_, hok, -, -, hnext⟩ := hready.account
      rw [hok] at haccount
      cases haccount
      have hsilent : Silent host _ := silent_iff.mpr (by rw [decision, hverdict])
      exact (ih (hnext hsilent) (Nat.le_of_succ_le hbudget)).cons hsilent hbudget

theorem Decides.not_silent {result : Except Fault Landed} (h : Decides host frame result) :
    ¬ Silent host frame := by
  intro hsilent
  rw [silent_iff, decides_iff.mp h] at hsilent
  cases hsilent

theorem mem_take_of_lt {ahead : List CapturedFrame} {i n : Nat} (hframe : ahead[i]? = some frame)
    (h : i < n) : frame ∈ ahead.take n := by
  apply List.mem_of_getElem? (i := i)
  rw [List.getElem?_take_of_lt h, hframe]

section
variable {payload : Word} {budget position : Nat} {ahead : List CapturedFrame}
variable {landing? : Option Landing} {result : Except Fault Landed}

theorem Outcome.walkTooDeep_iff (h : Outcome host payload budget position ahead landing? result) :
    result = .error (.walkTooDeep host.settings.maxWalkDepth) ↔
      budget < ahead.length ∧ ∀ f ∈ ahead.take budget, Silent host f := by
  cases h with
  | exhausted hsilent hlength =>
      refine ⟨nofun, fun hdeep => ?_⟩
      exact absurd hlength (Nat.not_le.mpr hdeep.1)
  | tooDeep hsilent hlength => exact ⟨fun _ => ⟨hlength, hsilent⟩, fun _ => rfl⟩
  | decided hframe hbudget _ hdecides =>
      refine ⟨fun heq => ?_, fun hdeep => ?_⟩
      · rw [heq] at hdecides
        exact absurd hdecides Decides.ne_walkTooDeep
      · exact absurd (hdeep.2 _ (mem_take_of_lt hframe hbudget)) hdecides.not_silent

theorem Outcome.noHandler_iff (h : Outcome host payload budget position ahead landing? result)
    (count : Nat) :
    result = .error (.noHandler count) ↔
      count = host.settings.maxWalkDepth - budget + ahead.length ∧ ahead.length ≤ budget ∧
        ∀ f ∈ ahead, Silent host f := by
  cases h with
  | exhausted hsilent hlength =>
      rw [Except.error.injEq, Fault.noHandler.injEq]
      exact ⟨fun heq => ⟨heq.symm, hlength, hsilent⟩, fun hall => hall.1.symm⟩
  | tooDeep hsilent hlength =>
      refine ⟨nofun, fun hall => ?_⟩
      exact absurd hall.2.1 (Nat.not_le.mpr hlength)
  | decided hframe hbudget _ hdecides =>
      refine ⟨fun heq => ?_, fun hall => ?_⟩
      · rw [heq] at hdecides
        exact absurd hdecides Decides.ne_noHandler
      · exact absurd (hall.2.2 _ (List.mem_of_getElem? hframe)) hdecides.not_silent

/-- The first frame that is not silent is the one that decides. -/
theorem Outcome.decided_by (h : Outcome host payload budget position ahead landing? result)
    {k : Nat} (hframe : ahead[k]? = some frame) (hbudget : k < budget)
    (hbefore : ∀ f ∈ ahead.take k, Silent host f) (hnot : ¬ Silent host frame) :
    (∀ r, result = r ↔ Decides host frame r) ∧
      ∀ landed, result = .ok landed → landing? =
        some ((frame.atPad landed.ip payload landed.action.selector.toUInt64).landing
          (position + k)) := by
  cases h with
  | exhausted hsilent hlength => exact absurd (hsilent _ (List.mem_of_getElem? hframe)) hnot
  | tooDeep hsilent hlength => exact absurd (hsilent _ (mem_take_of_lt hframe hbudget)) hnot
  | @decided k' frame' _ hframe' _ hbefore' hdecides hlanding =>
      have hsame : k = k' := by
        rcases Nat.lt_trichotomy k k' with hlt | heq | hgt
        · exact absurd (hbefore' _ (mem_take_of_lt hframe hlt)) hnot
        · exact heq
        · exact absurd (hbefore _ (mem_take_of_lt hframe' hgt)) hdecides.not_silent
      subst hsame
      obtain rfl : frame' = frame := Option.some.inj (hframe'.symm.trans hframe)
      refine ⟨fun r => ⟨fun heq => heq ▸ hdecides, fun hr => ?_⟩, hlanding⟩
      exact Option.some.inj ((decides_iff.mp hdecides).symm.trans (decides_iff.mp hr))

end

/-- A raise on an idle session is a run over all frames of the stack. -/
theorem raise_outcome (engine : Engine) (now : Nat) (exception : ExceptionInfo) (reraise : Bool)
    (frames : List CapturedFrame) (memory : Memory) {session : Session}
    (hidle : session.active = false)
    (hreleases : ∀ i frame, frames[i]? = some frame → i < engine.host.settings.maxWalkDepth →
      (∀ f ∈ frames.take i, Silent engine.host f) → engine.host.CanRelease memory frame) :
    Outcome engine.host session.slot engine.host.settings.maxWalkDepth 0 frames
      (engine.raise now exception reraise (.captured { frames, memory }) session).2.1.landing?
      (engine.raise now exception reraise (.captured { frames, memory }) session).2.2.2 := by
  rw [Engine.raise_of_idle engine now exception reraise _ hidle]
  obtain ⟨u, result, hcall, hrun⟩ := Engine.unwind_exec
    { engine with ledger := engine.ledgerOpened exception } now none { frames, memory }
    (session.opened now exception reraise)
  rw [hcall]
  refine outcome_of_run hrun ⟨rfl, rfl, rfl, rfl, ?_, hreleases⟩ (Nat.le_refl _)
  intro pending hpending
  cases hpending

/-- How a raise ends is decided by the innermost frame that is not silent. It
exceeds the depth limit exactly when there are more frames and those within it
are silent, and finds no handler exactly when all frames are within it and
silent. Otherwise the first frame that is not silent gives the result, and a
landing is recorded in that frame, with the exception and the selector in the
registers of the pad. -/
theorem innermost_frame_decides (engine : Engine) (now : Nat) (exception : ExceptionInfo)
    (reraise : Bool) (frames : List CapturedFrame) (memory : Memory) (session : Session)
    (hidle : session.active = false)
    (hreleases : ∀ i frame, frames[i]? = some frame → i < engine.host.settings.maxWalkDepth →
      (∀ f ∈ frames.take i, Silent engine.host f) → engine.host.CanRelease memory frame) :
    let raised := engine.raise now exception reraise (.captured { frames, memory }) session
    let result := raised.2.2.2
    let depth := engine.host.settings.maxWalkDepth
    (result = .error (.walkTooDeep depth) ↔
      depth < frames.length ∧ ∀ f ∈ frames.take depth, Silent engine.host f) ∧
    (∀ count, result = .error (.noHandler count) ↔
      count = frames.length ∧ frames.length ≤ depth ∧ ∀ f ∈ frames, Silent engine.host f) ∧
    ∀ k frame, frames[k]? = some frame → k < depth →
      (∀ f ∈ frames.take k, Silent engine.host f) → ¬ Silent engine.host frame →
      (∀ r, result = r ↔ Decides engine.host frame r) ∧
      ∀ landed, result = .ok landed → raised.2.1.landing? =
        some ((frame.atPad landed.ip session.slot landed.action.selector.toUInt64).landing k) := by
  have houtcome := raise_outcome engine now exception reraise frames memory hidle hreleases
  refine ⟨houtcome.walkTooDeep_iff, fun count => ?_, fun k frame hframe hk hbefore hnot => ?_⟩
  · have hiff := houtcome.noHandler_iff count
    rwa [Nat.sub_self, Nat.zero_add] at hiff
  · have hdecided := houtcome.decided_by hframe hk hbefore hnot
    rwa [Nat.zero_add] at hdecided

/-- One entry, for the first 64 bytes of a function, that catches at byte 80. -/
def catchingTable : Bytes :=
  [0xff, 0xff, 0x01, 0x04, 0x00, 0x40, 0x50, 0x01, 0x01, 0x00]

def catchingRegion : CodeRegion :=
  CodeRegion.withReleases
    { start := 0x1000, size := 0x100, tier := .optimized, functionId := 7
      handlers? := some catchingTable } 0x20 [.constant 9]

def catchingHost : Host :=
  { classifier := { regions := ⟨[catchingRegion]⟩ }
    hooks := { frameInfo := fun _ => none, statement := fun _ => none } }

/-- A frame of the runtime, called from the compiled function. -/
def foreignFrame : CapturedFrame := { toActivation := .ofPointers 0x9000 0x7000 0x7010 }

def catchingFrame : CapturedFrame := { toActivation := .ofPointers 0x1020 0x7020 0x7030 }

theorem foreignFrame_silent : Silent catchingHost foreignFrame := .inl rfl

theorem catchingFrame_decides :
    Decides catchingHost catchingFrame (.ok ⟨0x1050, 0x7030, .catches 1⟩) := by
  have htable : catchingHost.tableOf? catchingFrame = some ⟨catchingTable, 0x1000⟩ := rfl
  have hfind : HandlerTable.find ⟨catchingTable, 0x1000⟩ catchingFrame.lookupPc =
      .ok (some ⟨0x1000, 0x1040, some 0x1050, some 0⟩) := rfl
  refine .lands htable hfind rfl ?_ rfl
  intro range hrefuses
  obtain ⟨-, hrange, hout⟩ := hrefuses
  cases hrange
  exact absurd hout (by decide)

/-- The foreign frame is passed, and the compiled one catches. -/
theorem compiled_frame_catches :
    (Engine.raise (.create catchingHost) 0 ⟨1, 2, 3⟩ false
      (.captured { frames := [foreignFrame, catchingFrame], memory := .empty })
      { slot := 0x8000 }).2.2.2 = .ok ⟨0x1050, 0x7030, .catches 1⟩ := by
  have hreleases : ∀ i frame, [foreignFrame, catchingFrame][i]? = some frame → i < 100000 →
      (∀ f ∈ [foreignFrame, catchingFrame].take i, Silent catchingHost f) →
      catchingHost.CanRelease .empty frame := by
    intro i frame hframe _ _ logical hlogical
    have hmem := List.mem_of_getElem? hframe
    simp only [List.mem_cons, List.not_mem_nil, or_false] at hmem
    rcases hmem with rfl | rfl
    · cases hlogical
    · cases hlogical
      intro location hlocation
      obtain rfl : location = .constant 9 := List.mem_singleton.mp hlocation
      exact ⟨9, rfl⟩
  have hdecided := (innermost_frame_decides (.create catchingHost) 0 ⟨1, 2, 3⟩ false
    [foreignFrame, catchingFrame] .empty { slot := 0x8000 } rfl hreleases).2.2
    1 catchingFrame rfl (by decide) (List.forall_mem_singleton.mpr foreignFrame_silent)
    catchingFrame_decides.not_silent
  exact (hdecided.1 _).mpr catchingFrame_decides

end StackUnwind.InnermostHandler
