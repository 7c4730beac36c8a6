import StackUnwind.Proofs.CallSiteLookup
import StackUnwind.Proofs.CleanupEpisode
import StackUnwind.Proofs.LandingSafety
import StackUnwind.Proofs.Lockstep
import Mathlib

/-!
# Validated landing pads

A table is validated ahead of time, all of its entries at once, or a pad is
verified when an unwinding is about to land there. The first makes the second
needless: if all regions are validated, and so are the tables that apply to the
interpreted frames of a stack, then verifying pads changes nothing that happens
on the stack. No pad is ever found outside its code.

After a cleanup landing the frame that was landed in runs at its pad, where
another table may apply to it, and that table need not be validated. It is
never asked: the unwinding resumes outside that frame. `Covered` says that the
frames that will be asked have pads in their code.
-/
namespace StackUnwind

/-! Validation -/

theorem CallSite.mem_of_find {pc : Word} {sites : List CallSite} {site : CallSite}
    (h : find pc (sites.map .ok) = .ok (some site)) : site ∈ sites := by
  induction sites with
  | nil => cases h
  | cons first sites ih =>
      simp only [List.map_cons, find] at h
      split_ifs at h
      · cases h
        exact List.mem_cons_self
      · cases h
      · exact List.mem_cons_of_mem first (ih h)

namespace HandlerTable

/-- Every landing pad of some entries lies in `[start, stop)`. -/
def PadsWithin (start stop : Word) (sites : List CallSite) : Prop :=
  ∀ site ∈ sites, ∀ pad, site.landingPad? = some pad → start ≤ pad ∧ pad < stop

/-- The table can be read to its end, and all of its landing pads lie in `[start, stop)`. -/
def LandsWithin (table : HandlerTable) (start stop : Word) : Prop :=
  ∃ header sites, table.header = .ok header ∧ header.Holds table.functionStart sites ∧
    PadsWithin start stop sites

variable {table : HandlerTable} {start stop pc pad : Word} {site : CallSite}

theorem checkPads_eq_ok_iff {sites : List CallSite} :
    checkPads start stop sites = .ok () ↔ PadsWithin start stop sites := by
  unfold PadsWithin
  induction sites with
  | nil => simp [checkPads]
  | cons site sites ih =>
      rw [checkPads, List.forall_mem_cons]
      cases hpad : site.landingPad? with
      | none => simp [ih]
      | some pad =>
          dsimp only
          split_ifs with hinside
          · simp [ih, hinside]
          · simp only [Option.some.injEq, forall_eq', hinside, false_and]

theorem validate_eq_ok_iff : table.validate start stop = .ok () ↔ table.LandsWithin start stop := by
  unfold validate
  constructor
  · intro h
    cases hsites : table.callSites with
    | error fault =>
        rw [hsites] at h
        cases h
    | ok sites =>
        rw [hsites] at h
        obtain ⟨header, hheader, hholds⟩ := callSites_eq_ok_iff.mp hsites
        exact ⟨header, sites, hheader, hholds, checkPads_eq_ok_iff.mp h⟩
  · rintro ⟨header, sites, hheader, hholds, hpads⟩
    rw [callSites_of_holds hheader hholds]
    exact checkPads_eq_ok_iff.mpr hpads

/-- A pad that is found in a validated table is one of those validated. -/
theorem pad_of_validate (h : table.validate start stop = .ok ())
    (hfind : table.find pc = .ok (some site)) (hpad : site.landingPad? = some pad) :
    start ≤ pad ∧ pad < stop := by
  obtain ⟨header, sites, hheader, hholds, hpads⟩ := validate_eq_ok_iff.mp h
  rw [find_of_callSites (callSites_of_holds hheader hholds)] at hfind
  exact hpads site (CallSite.mem_of_find hfind) pad hpad

end HandlerTable

theorem CodeRegion.validate_eq_ok_iff {region : CodeRegion} :
    region.validate = .ok () ↔
      ∀ table, region.handlerTable? = some table → table.LandsWithin region.start region.stop := by
  unfold validate
  cases region.handlerTable? with
  | none => simp
  | some table => simp [HandlerTable.validate_eq_ok_iff]

/-! Verified pads -/

/-- The host that verifies landing pads, or does not. -/
def Host.verifying (host : Host) (verify : Bool) : Host :=
  host.withSettings { host.settings with verifyLandingPads := verify }

def Engine.verifying (engine : Engine) (verify : Bool) : Engine :=
  { engine with host := engine.host.verifying verify }

namespace ValidatedPads

/-- The pad that a captured frame gives, if any, lies in its code. -/
def Fits (host : Host) (frame : CapturedFrame) : Prop :=
  ∀ table site pad range, host.tableOf? frame = some table →
    table.find frame.lookupPc = .ok (some site) → site.landingPad? = some pad →
    host.classifier.landingRange? (host.kindOf frame) = some range → range.contains pad = true

variable {host : Host} {frame : CapturedFrame}

theorem fits_of_validated
    (hregions : ∀ region ∈ host.classifier.regions.regions, region.validate = .ok ())
    (hinterpreted : host.kindOf frame = .interpreted → ∀ table, host.tableOf? frame = some table →
      table.validate host.classifier.interpreter.start host.classifier.interpreter.stop = .ok ()) :
    Fits host frame := by
  intro table site pad range htable hfind hpad hrange
  have hcontains {start stop : Word} (h : table.validate start stop = .ok ()) :
      CodeRange.contains ⟨start, stop⟩ pad = true := by
    obtain ⟨hlow, hhigh⟩ := HandlerTable.pad_of_validate h hfind hpad
    simp [CodeRange.contains, hlow, hhigh]
  cases hkind : host.kindOf frame with
  | compiled region =>
      rw [hkind] at hrange
      cases hrange
      have hlookup := Classifier.classify_eq_compiled_iff.mp hkind
      have hvalid := hregions region (RegionTable.lookup_some hlookup).1
      have hown : region.handlerTable? = some table := by
        simpa only [Host.tableOf?, hkind] using htable
      rw [CodeRegion.validate, hown] at hvalid
      exact hcontains hvalid
  | interpreted =>
      rw [hkind] at hrange
      simp only [Classifier.landingRange?] at hrange
      split_ifs at hrange
      cases hrange
      exact hcontains (hinterpreted hkind table htable)
  | generatorEntry | deoptTrampoline | foreign =>
      rw [hkind] at hrange
      cases hrange

section
variable (host : Host) (frame : CapturedFrame) (verify : Bool)

@[simp] theorem kindOf_verifying : (host.verifying verify).kindOf frame = host.kindOf frame := rfl
@[simp] theorem tableOf_verifying :
    (host.verifying verify).tableOf? frame = host.tableOf? frame := rfl

theorem verifyPad_unverified (kind : FrameKind) (pad : Word) :
    (host.verifying false).verifyPad kind pad = .ok () := rfl

end

theorem Fits.verifyPad (h : Fits host frame) {table : HandlerTable} {site : CallSite} {pad : Word}
    (htable : host.tableOf? frame = some table)
    (hfind : table.find frame.lookupPc = .ok (some site)) (hpad : site.landingPad? = some pad) :
    (host.verifying true).verifyPad (host.kindOf frame) pad = .ok () := by
  apply InnermostHandler.verifyPad_of_accepts
  rintro range ⟨-, hrange, houtside⟩
  have hinside := h table site pad range htable hfind hpad hrange
  rw [hinside] at houtside
  cases houtside

/-- Verifying does not change what a frame does whose pad lies in its code. -/
theorem Fits.verdict (h : Fits host frame) :
    (host.verifying true).verdict frame = (host.verifying false).verdict frame := by
  unfold Host.verdict
  rw [tableOf_verifying, tableOf_verifying, kindOf_verifying, kindOf_verifying]
  cases htable : host.tableOf? frame with
  | none => rfl
  | some table =>
      dsimp only
      cases hfind : table.find frame.lookupPc with
      | error fault =>
          simp only [Host.padFor?, hfind]
          rfl
      | ok site? =>
          cases site? with
          | none =>
              simp only [Host.padFor?, hfind]
              rfl
          | some site =>
              rw [InnermostHandler.padFor_of_find hfind, InnermostHandler.padFor_of_find hfind]
              cases hpad : site.landingPad? with
              | none => rfl
              | some pad =>
                  dsimp only
                  rw [h.verifyPad htable hfind hpad, verifyPad_unverified]

/-! Frames that will be asked -/

/-- The frames of a stack that an unwinding will ask for a pad, once it has
passed over those up to a base, fit. -/
def Covered (host : Host) : Option Word → List CapturedFrame → Prop
  | _, [] => True
  | none, frame :: rest => Fits host frame ∧ Covered host none rest
  | some base, frame :: rest => Covered host (if frame.bp = base then none else some base) rest

theorem covered_of_forall {frames : List CapturedFrame} (h : ∀ frame ∈ frames, Fits host frame)
    (base? : Option Word) : Covered host base? frames := by
  induction frames generalizing base? with
  | nil => cases base? <;> trivial
  | cons frame rest ih =>
      obtain ⟨hframe, hrest⟩ := List.forall_mem_cons.mp h
      cases base? with
      | none => exact ⟨hframe, ih hrest none⟩
      | some base => exact ih hrest _

/-- The unwinding is on a captured stack, has landed nowhere, and the frames
ahead of it are covered. -/
def Ready (host : Host) (u : Unwinding) : Prop :=
  ∃ c, u.cursor = .captured c ∧ c.landing? = none ∧ Covered host u.skipThrough? c.ahead

/-- The stack that a landing leaves is covered outside the frame that was
landed in, if the episode is still open. -/
def Restartable (host : Host) (u : Unwinding) : Prop :=
  ∀ next, u.cursor.afterLanding? = some next →
    ∃ frames memory, next = .captured { frames, memory } ∧
      (u.session.active = true → Covered host u.session.cleanupBase? frames)

variable {u : Unwinding} {c : CapturedCursor}

theorem restartable_of_none (hu : u.cursor = .captured c) (h : c.landing? = none) :
    Restartable host u := by
  intro next hnext
  rw [hu] at hnext
  simp only [Cursor.afterLanding?, CapturedCursor.afterLanding?, h, Option.map_none] at hnext
  cases hnext

/-- The stack that a landing in the next frame leaves begins with that frame. -/
theorem afterLanding_of_land (now frames : Nat) (pad : Word) (action : Action)
    {rest : List CapturedFrame} (hu : u.cursor = .captured (c.onto frame))
    (hahead : c.ahead = frame :: rest) :
    ∃ top : CapturedFrame, top.bp = frame.bp ∧
      (u.land now frames pad action).1.cursor.afterLanding? =
        some (.captured { frames := top :: rest, memory := c.memory }) := by
  rw [(Unwinding.land_captured now hu rfl frames pad action).2]
  have hdrop : c.frames.drop c.nextPosition = frame :: rest := hahead
  simp only [Cursor.afterLanding?, CapturedCursor.afterLanding?, Activation.landing,
    CapturedCursor.onto, Option.getD_some, hdrop, Option.map_some]
  refine ⟨_, ?_, rfl⟩
  rfl

/-- A landing in the next frame leaves a stack that is covered outside it. -/
theorem restartable_of_land (now frames : Nat) (pad : Word) (action : Action)
    {rest : List CapturedFrame} (hu : u.cursor = .captured (c.onto frame))
    (hahead : c.ahead = frame :: rest) (hrest : Covered host none rest) :
    Restartable host (u.land now frames pad action).1 := by
  intro next hnext
  obtain ⟨top, hbp, hafter⟩ := afterLanding_of_land now frames pad action hu hahead
  rw [hafter] at hnext
  cases hnext
  refine ⟨top :: rest, c.memory, rfl, fun hactive => ?_⟩
  cases action with
  | catches filter => cases hactive
  | cleanup =>
      rw [Unwinding.land_cleanup_session, hu, Cursor.bp_captured rfl, Covered, if_pos hbp]
      exact hrest

/-- A visit of the next frame is the same with and without verified pads. -/
theorem visit_matched {rest : List CapturedFrame} (hahead : c.ahead = frame :: rest)
    (hlanding : c.landing? = none) (hcovered : Covered host u.skipThrough? (frame :: rest))
    (now frames : Nat) :
    Unwinding.Matched (fun u v => v = u ∧ Ready host u) (fun u v => v = u ∧ Restartable host u)
      ((u.onto c frame).visit (host.verifying false) now frames)
      ((u.onto c frame).visit (host.verifying true) now frames) := by
  have hcursor : (u.onto c frame).cursor = .captured (c.onto frame) := rfl
  have hskips : (u.onto c frame).skipThrough? = u.skipThrough? := rfl
  have hrest := CapturedCursor.ahead_onto hahead
  rw [Unwinding.visit_captured hcursor rfl, Unwinding.visit_captured hcursor rfl, hskips]
  cases hskip : u.skipThrough? with
  -- The frame is not asked for a pad, so that it need not fit.
  | some base =>
      rw [hskip, Covered] at hcovered
      have hstays := (Unwinding.observe_keeps (host.kindOf frame) (u.onto c frame)).1.trans hcursor
      refine .next ⟨rfl, c.onto frame, hstays, hlanding, ?_⟩
      rw [hrest]
      dsimp only [kindOf_verifying, Unwinding.skip]
      rw [hstays, Cursor.bp_captured rfl]
      exact hcovered
  | none =>
      rw [hskip] at hcovered
      obtain ⟨hfits, hothers⟩ := hcovered
      have hsame : (u.onto c frame).account (host.verifying true) frame =
          (u.onto c frame).account (host.verifying false) frame := rfl
      dsimp only
      rw [hsame]
      rcases haccount : (u.onto c frame).account (host.verifying false) frame with ⟨w, fault | _⟩
      · exact .stop ⟨rfl, restartable_of_none (Unwinding.account_cursor haccount) hlanding⟩
      · have hw := Unwinding.account_cursor haccount
        have hpassed := (Unwinding.account_accounted haccount).1.trans hskip
        dsimp only
        rw [Unwinding.search_captured hw rfl, Unwinding.search_captured hw rfl, hfits.verdict]
        cases (host.verifying false).verdict frame with
        | error fault => exact .stop ⟨rfl, restartable_of_none hw hlanding⟩
        | ok pad? =>
            cases pad? with
            | none =>
                refine .next ⟨rfl, c.onto frame, hw, hlanding, ?_⟩
                rw [hpassed, hrest]
                exact hothers
            | some landing =>
                exact .stop ⟨rfl, restartable_of_land now frames _ _ hw hahead hothers⟩

/-- Unwindings with and without verified pads go on in the same state. -/
theorem lockstep (engine : Engine) (now : Nat) :
    Unwinding.Lockstep (engine.verifying false).host (engine.verifying true).host now
      (fun _ u v => v = u ∧ Ready engine.host u)
      (fun _ u v => v = u ∧ Restartable engine.host u) where
  callFrames := rfl
  maxWalkDepth := rfl
  cursor h := by rw [h.1]
  noted h notices := ⟨by rw [h.1], h.2⟩
  visited {_ u v cursor} h hstep frames := by
    obtain ⟨rfl, c, hu, hlanding, hcovered⟩ := h
    rw [hu] at hstep
    cases hahead : c.ahead with
    | nil =>
        rw [Cursor.step_of_nil hahead] at hstep
        cases hstep
    | cons frame rest =>
        rw [Cursor.step_of_cons hahead] at hstep
        cases hstep
        rw [hahead] at hcovered
        exact ⟨rfl, visit_matched hahead hlanding hcovered now frames⟩
  moved {_ u v cursor arrival} h hstep := by
    obtain ⟨rfl, c, hu, hlanding, -⟩ := h
    rw [hu] at hstep
    cases hahead : c.ahead with
    | nil =>
        rw [Cursor.step_of_nil hahead] at hstep
        cases hstep
        exact ⟨rfl, restartable_of_none rfl hlanding⟩
    | cons frame rest =>
        rw [Cursor.step_of_cons hahead] at hstep
        cases hstep
        exact ⟨rfl, restartable_of_none rfl hlanding⟩

/-! Episodes -/

/-- The base up to which a call passes over frames. -/
def base? (session : Session) : Engine.Request → Option Word
  | .raise _ | .reraise _ => none
  | .resume => session.cleanupBase?

variable {engine : Engine} {request : Engine.Request} {frames : List CapturedFrame}
variable {memory : Memory} {session : Session}

theorem ready_of_covered (now : Nat) (hcovered : Covered host (base? session request) frames) :
    Ready host (request.opening engine now (.captured { frames, memory }) session) := by
  cases request <;> exact ⟨{ frames, memory }, rfl, rfl, hcovered⟩

/-- Episodes are the same, from every stack on that is covered. -/
theorem stages_verifying
    (hcovered : request.admits session = true → Covered engine.host (base? session request) frames)
    (before : List Frame) (times : List Nat) :
    (engine.verifying true).stages request (.captured { frames, memory }) session before times =
      (engine.verifying false).stages request (.captured { frames, memory }) session before
        times := by
  induction times generalizing engine request frames memory session before with
  | nil => rfl
  | cons now later ih =>
      unfold Engine.stages
      rw [Engine.perform_engine (engine.verifying true) now request _ session before,
        Engine.perform_engine (engine.verifying false) now request _ session before]
      cases hadmits : request.admits session with
      | false =>
          rw [Engine.stage_of_refused hadmits, Engine.stage_of_refused hadmits]
          rfl
      | true =>
          obtain ⟨u, v, result, entered, hu, hv, rfl, hrestarts⟩ :=
            Engine.stage_lockstep (lockstep engine now) hadmits hadmits
              ⟨rfl, ready_of_covered now (hcovered hadmits)⟩
          rw [hu, hv]
          refine congrArg _ ?_
          dsimp only
          cases hnext : v.cursor.afterLanding? with
          | none => rfl
          | some next =>
              obtain ⟨outer, memory', rfl, hopen⟩ := hrestarts next hnext
              -- After a catch the next call is refused, and nothing need be covered.
              let settled : Engine := { engine with ledger := v.ledger }
              have hagain : Engine.Request.admits v.session .resume = true →
                  Covered settled.host (base? v.session .resume) outer := hopen
              exact ih hagain entered

/-- Where pads are not verified, none is found outside its code. -/
theorem unverified_in_range (hverify : engine.host.settings.verifyLandingPads = false) (now : Nat)
    (request : Engine.Request) (c : CapturedCursor) (session : Session) (before : List Frame)
    (pad start stop : Word) :
    (engine.stage now request (.captured c) session before).result ≠
      .error (.landingPadOutOfRange pad start stop) := by
  intro hresult
  cases hadmits : request.admits session with
  | false =>
      rw [Engine.stage_of_refused hadmits] at hresult
      cases request <;> cases hresult
  | true =>
      have hcursor : (request.opening engine now (.captured c) session).cursor = .captured c := by
        cases request <;> rfl
      have hrun := Unwinding.run_exec engine.host now hcursor rfl engine.host.settings.maxWalkDepth
      rw [Engine.stage_of_admitted hadmits] at hresult
      simp only [Unwinding.runTraced_eq_run] at hresult
      rw [hresult] at hrun
      generalize (Unwinding.run _ _ _ _).1 = final at hrun
      obtain ⟨passed, rest, left, c', v, -, -, -, hending⟩ := hrun.split
      cases hending with
      | refused _ haccount => exact Unwinding.account_error haccount
      | faults _ _ hverdict =>
          cases InnermostHandler.decides_of_fault hverdict with
          | unreadable _ hsites => exact HandlerTable.callSites_error hsites
          | outside _ _ _ hrefuses =>
              have hverified := hrefuses.1
              rw [hverify] at hverified
              cases hverified
          | undecided _ _ _ _ haction => exact HandlerTable.determineAction_error haction

/-- When every region is validated, and so is every table that applies to an
interpreted frame of the stack, an episode on the stack is the same with and
without verified pads, and no pad is found outside its code. A region is
validated just when its table can be read to the end and all pads lie in it. -/
theorem validated_pads_need_no_check (engine : Engine) (frames : List CapturedFrame)
    (memory : Memory)
    (hregions : ∀ region ∈ engine.host.classifier.regions.regions, region.validate = .ok ())
    (hinterpreted : ∀ frame ∈ frames, engine.host.kindOf frame = .interpreted →
      ∀ table, engine.host.tableOf? frame = some table →
        table.validate engine.host.classifier.interpreter.start
          engine.host.classifier.interpreter.stop = .ok ())
    (request : Engine.Request) (session : Session) (times : List Nat) :
    let verified := (engine.verifying true).stages request (.captured { frames, memory }) session
      [] times
    verified =
      (engine.verifying false).stages request (.captured { frames, memory }) session [] times ∧
    (∀ stage ∈ verified, ∀ pad start stop,
      stage.result ≠ .error (.landingPadOutOfRange pad start stop)) ∧
    ∀ region : CodeRegion, region.validate = .ok () ↔
      ∀ table, region.handlerTable? = some table →
        table.LandsWithin region.start region.stop := by
  intro verified
  have hfits : ∀ frame ∈ frames, Fits engine.host frame := fun frame hframe =>
    fits_of_validated hregions (hinterpreted frame hframe)
  have hsame : verified = _ := stages_verifying (fun _ => covered_of_forall hfits _) [] times
  refine ⟨hsame, ?_, fun region => CodeRegion.validate_eq_ok_iff⟩
  rw [hsame]
  exact Engine.forall_stages (fun now => unverified_in_range rfl now request _ session [])
    (fun _ now c session before => unverified_in_range rfl now .resume c session before) times

section
open CleanupEpisode

/-- An interpreted frame that cleans up in the interpreter. -/
def interpretedCleaningFrame : CapturedFrame :=
  { shadowFrame with handlers? := some ⟨cleaningTable, 0x50e0⟩ }

/-- A frame of the runtime, an interpreted frame and compiled code that clean
up, and compiled code that catches. -/
def padStack : List CapturedFrame :=
  [foreignCleaningFrame, interpretedCleaningFrame, compiledCleaningFrame, catchingFrame]

theorem mixedHost_validated :
    ∀ region ∈ mixedHost.classifier.regions.regions, region.validate = .ok () := by
  intro region hregion
  rcases List.mem_pair.mp hregion with rfl | rfl <;> cbv

theorem padStack_validated :
    ∀ frame ∈ padStack, mixedHost.kindOf frame = .interpreted →
      ∀ table, mixedHost.tableOf? frame = some table → table.validate 0x5000 0x6000 = .ok () := by
  intro frame hframe hkind table htable
  simp only [padStack, List.mem_cons, List.not_mem_nil, or_false] at hframe
  rcases hframe with rfl | rfl | rfl | rfl
  · cases hkind
  · cases htable
    cbv
  · cases hkind
  · cases hkind

/-- Each of the frames is landed in, with and without verified pads. -/
theorem padStack_lands_alike :
    let stages (verify : Bool) := ((Engine.create mixedHost).verifying verify).stages
      (.raise ⟨1, 2, 3⟩) (.captured { frames := padStack, memory := .empty }) { slot := 0x8000 } []
      [0, 1, 2, 3]
    (stages false).map (·.result) =
      [.ok ⟨0x9050, 0x7030, .cleanup⟩, .ok ⟨0x5130, 0x7050, .cleanup⟩,
        .ok ⟨0x2050, 0x7058, .cleanup⟩, .ok ⟨0x1050, 0x7070, .catches 1⟩] ∧
    stages true = stages false ∧
    ∀ stage ∈ stages true, ∀ pad start stop,
      stage.result ≠ .error (.landingPadOutOfRange pad start stop) := by
  obtain ⟨hsame, hrange, -⟩ := validated_pads_need_no_check (.create mixedHost) padStack .empty
    mixedHost_validated padStack_validated (.raise ⟨1, 2, 3⟩) { slot := 0x8000 } [0, 1, 2, 3]
  exact ⟨by cbv, hsame, hrange⟩

end

end ValidatedPads
end StackUnwind
