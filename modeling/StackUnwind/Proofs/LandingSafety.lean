import StackUnwind.Proofs.InnermostHandler
import StackUnwind.Proofs.Passage
import StackUnwind.Proofs.RegionLookup
import Mathlib

/-!
# Landings stay in their code

A landing pad is the start of a function with an offset added that wraps
around, and the offset comes from bytes that nobody has validated. When pads
are verified, control nevertheless stays in the code of the frame it lands in:
the pad of a compiled frame lies in the very region of that frame, and no
other region of the table contains it, and the pad of an interpreted frame
lies in the interpreter. A call that fails does not land at all.

This holds for raising, raising again and resuming, with any session and any
captured stack, at whatever frame its cursor stands. Regions are those of a
table that registering and retiring lead to.
-/
namespace StackUnwind.LandingSafety

variable {host : Host} {frame : CapturedFrame} {pad : Word} {action : Action}

/-- A verified pad lies where the pads of its frame must lie. -/
theorem pad_in_range (hverify : host.settings.verifyLandingPads = true)
    (hverdict : host.verdict frame = .ok (some (pad, action))) {range : CodeRange}
    (hrange : host.classifier.landingRange? (host.kindOf frame) = some range) :
    range.contains pad = true := by
  have hdecides : InnermostHandler.Decides host frame (.ok ⟨pad, frame.bp, action⟩) := by
    rw [InnermostHandler.decides_iff, InnermostHandler.decision, hverdict]
  cases hdecides with
  | lands _ _ _ haccepts _ =>
      by_contra hout
      exact haccepts range ⟨hverify, hrange, Bool.eq_false_of_not_eq_true hout⟩

theorem compiled_pad (hregions : host.classifier.regions.Reachable)
    (hverify : host.settings.verifyLandingPads = true)
    (hverdict : host.verdict frame = .ok (some (pad, action))) {region : CodeRegion}
    (hkind : host.kindOf frame = .compiled region) :
    host.classifier.classify pad = .compiled region := by
  have hlookup := Classifier.classify_eq_compiled_iff.mp hkind
  have hrange : host.classifier.landingRange? (host.kindOf frame) =
      some ⟨region.start, region.stop⟩ := by
    rw [hkind]
    rfl
  have hinside : region.contains pad = true := pad_in_range hverify hverdict hrange
  have hmem := (RegionTable.lookup_some hlookup).1
  apply Classifier.classify_eq_compiled_iff.mpr
  exact RegionTable.lookup_of_mem hregions.ordered hmem hinside

theorem contains_of_interpreted {classifier : Classifier} {pc : Word}
    (h : classifier.classify pc = .interpreted) : classifier.interpreter.contains pc = true := by
  by_contra hout
  unfold Classifier.classify Classifier.classifyFixed at h
  split at h
  · cases h
  · split_ifs at h

/-- The interpreter has code, as the frame is in it, so that its range is checked. -/
theorem interpreted_pad (hverify : host.settings.verifyLandingPads = true)
    (hverdict : host.verdict frame = .ok (some (pad, action)))
    (hkind : host.kindOf frame = .interpreted) :
    host.classifier.interpreter.contains pad = true := by
  have hinside := contains_of_interpreted hkind
  have hfilled : host.classifier.interpreter.isEmpty = false := by
    simp only [CodeRange.contains, Bool.and_eq_true, decide_eq_true_eq] at hinside
    simp only [CodeRange.isEmpty, decide_eq_false_iff_not]
    exact UInt64.not_le.mpr (UInt64.lt_of_le_of_lt hinside.1 hinside.2)
  apply pad_in_range hverify hverdict
  rw [hkind]
  simp only [Classifier.landingRange?, hfilled, Bool.false_eq_true, if_false]

/-- A frame in front of which a cursor stops, by its position in the stack. -/
theorem getElem?_of_ahead {c : CapturedCursor} {passed outer : List CapturedFrame}
    (h : c.ahead = passed ++ frame :: outer) :
    c.frames[c.nextPosition + passed.length]? = some frame := by
  rw [← List.getElem?_drop]
  change c.ahead[passed.length]? = some frame
  rw [h, List.getElem?_append_right (Nat.le_refl _), Nat.sub_self, List.getElem?_cons_zero]

/-- With verified pads, a call that lands does so in the code of one frame of
the stack: at an address that is classified as that frame is when the frame is
compiled, and in the interpreter when the frame is interpreted. A call that
fails leaves the landing of the cursor as it was. -/
theorem landing_in_own_code (engine : Engine) (now : Nat) (request : Engine.Request)
    (c : CapturedCursor) (session : Session)
    (hregions : engine.host.classifier.regions.Reachable)
    (hverify : engine.host.settings.verifyLandingPads = true) :
    let classifier := engine.host.classifier
    let call := engine.perform now request (.captured c) session
    (∀ landed, call.2.2.2 = .ok landed → ∃ landing frame,
      call.2.1.landing? = some landing ∧ landing.ip = landed.ip ∧
      c.frames[landing.frameIndex]? = some frame ∧ landed.bp = frame.bp ∧
      (∀ region, classifier.classify frame.lookupPc = .compiled region →
        classifier.classify landed.ip = .compiled region) ∧
      (classifier.classify frame.lookupPc = .interpreted →
        classifier.interpreter.contains landed.ip = true)) ∧
    ∀ fault, call.2.2.2 = .error fault → call.2.1.landing? = c.landing? := by
  intro classifier call
  have hexecutes : Engine.Executes engine now c session call :=
    engine.perform_executes now c session request
  clear_value call
  cases hexecutes with
  | refused => exact ⟨nofun, fun _ _ => rfl⟩
  | @ran _ u result hrun =>
      obtain ⟨passed, rest, left, c', v, hahead, -, hpassage, hending⟩ := hrun.split
      obtain ⟨hkept, hposition⟩ := hpassage.cursor
      constructor
      · rintro landed rfl
        obtain ⟨frame, outer, landing, rfl, -, hverdict, hbp, hlanding, hip, hindex⟩ :=
          hending.landing_of_ok
        refine ⟨landing, frame, hlanding, hip, ?_, hbp, fun region => ?_, ?_⟩
        · rw [hindex, hposition]
          exact getElem?_of_ahead hahead
        · exact compiled_pad hregions hverify hverdict
        · exact interpreted_pad hverify hverdict
      · rintro fault rfl
        rw [← hkept]
        exact hending.landing_of_error

/-- The pad of the one entry is so far behind the function that it wraps
around to address 16. -/
def strayTable : Bytes :=
  [0xff, 0xff, 0x01, 0x0d, 0x00, 0x40,
    0x90, 0xe0, 0xff, 0xff, 0xff, 0xff, 0xff, 0xff, 0xff, 0x01, 0x00]

def strayRegion : CodeRegion :=
  { start := 0x1000, size := 0x100, tier := .optimized, functionId := 7
    handlers? := some strayTable }

/-- A host with the code of one function. -/
def hostOf (region : CodeRegion) : Host :=
  { classifier := { regions := ⟨[region]⟩ }
    hooks := { frameInfo := fun _ => none, statement := fun _ => none } }

/-- A cursor in front of a frame of the runtime that the function called. -/
def twoFrames : CapturedCursor :=
  { frames := [InnermostHandler.foreignFrame, InnermostHandler.catchingFrame]
    memory := .empty }

def raisedIn (region : CodeRegion) : Engine × Cursor × Session × Except Fault Landed :=
  Engine.perform (.create (hostOf region)) 0 (.raise ⟨1, 2, 3⟩) (.captured twoFrames)
    { slot := 0x8000 }

/-- A pad in the function's own code is taken, the stray one is not. -/
theorem stray_pad_refused :
    (raisedIn InnermostHandler.catchingRegion).2.2.2 = .ok ⟨0x1050, 0x7030, .catches 1⟩ ∧
    (hostOf InnermostHandler.catchingRegion).classifier.classify 0x1050 =
      .compiled InnermostHandler.catchingRegion ∧
    (raisedIn strayRegion).2.2.2 = .error (.landingPadOutOfRange 0x10 0x1000 0x1100) ∧
    (raisedIn strayRegion).2.1.landing? = none := by
  have hlands : (raisedIn InnermostHandler.catchingRegion).2.2.2 =
      .ok ⟨0x1050, 0x7030, .catches 1⟩ := by cbv
  have hindex : (raisedIn InnermostHandler.catchingRegion).2.1.landing?.map
      Landing.frameIndex = some 1 := by cbv
  have hrefused : (raisedIn strayRegion).2.2.2 =
      .error (.landingPadOutOfRange 0x10 0x1000 0x1100) := by cbv
  have hsafe := fun region hregion => landing_in_own_code (.create (hostOf region)) 0
    (.raise ⟨1, 2, 3⟩) twoFrames { slot := 0x8000 }
    (RegionTable.Reachable.registered region .empty hregion) rfl
  obtain ⟨landing, frame, hlanding, -, hframe, -, hcompiled, -⟩ :=
    (hsafe InnermostHandler.catchingRegion rfl).1 _ hlands
  have hone : landing.frameIndex = 1 := by
    have hmap := congrArg (Option.map Landing.frameIndex) hlanding
    exact Option.some.inj (hmap.symm.trans hindex)
  rw [hone] at hframe
  obtain rfl : InnermostHandler.catchingFrame = frame := Option.some.inj hframe
  exact ⟨hlands, hcompiled _ rfl, hrefused, (hsafe strayRegion rfl).2 _ hrefused⟩

end StackUnwind.LandingSafety
