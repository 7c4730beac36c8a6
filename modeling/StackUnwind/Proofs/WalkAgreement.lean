import StackUnwind.Proofs.InnermostHandler
import StackUnwind.Proofs.LogicalFrames
import StackUnwind.Proofs.Passage
import Mathlib

/-!
# Unwinding agrees with walking

An unwinding and a walk look at the same stack with two loops. The unwinding
adds a line for each logical frame that it reaches, as long as the traceback
has room, and stops where the exception lands; the walk collects the lines of
all frames it is given. A raise that lands, or finds no handler, leaves the
lines of a walk over the frames it has reached, cut off at the limit.

The host, the tables and the hooks are arbitrary, and nothing is assumed about
the values that frames release. Frames that enter generators are left out: a
walk goes on elsewhere there, an unwinding does not.
-/
namespace StackUnwind

/-- The lines that a traceback has room for. -/
def Settings.kept (settings : Settings) (lines : Traceback) : Traceback :=
  if settings.tracebackLimit = 0 then lines else lines.take settings.tracebackLimit

@[simp] theorem Settings.kept_nil (settings : Settings) : settings.kept [] = [] := by
  simp [kept]

/-- A line is added behind the lines kept as long as there is room for it. -/
theorem Settings.kept_concat (settings : Settings) (lines : Traceback)
    (line? : Option TracebackEntry) :
    settings.kept (lines ++ line?.toList) = settings.kept lines ++
      if settings.tracebackHasRoom (settings.kept lines).length then line?.toList else [] := by
  by_cases hlimit : settings.tracebackLimit = 0
  · simp [kept, tracebackHasRoom, hlimit]
  · have hkept : ∀ lines, settings.kept lines = lines.take settings.tracebackLimit :=
      fun lines => if_neg hlimit
    have hroom : settings.tracebackHasRoom (settings.kept lines).length =
        decide (lines.length < settings.tracebackLimit) := by
      rw [hkept, List.length_take, Bool.eq_iff_iff]
      simp only [tracebackHasRoom, Bool.or_eq_true, beq_iff_eq, decide_eq_true_eq]
      omega
    rw [hroom, hkept, hkept, List.take_append]
    by_cases hfree : lines.length < settings.tracebackLimit
    · have hline : line?.toList.length ≤ 1 := by cases line? <;> simp
      have hfits : line?.toList.length ≤ settings.tracebackLimit - lines.length := by omega
      rw [if_pos (decide_eq_true hfree), List.take_of_length_le hfits]
    · rw [if_neg (by simpa using hfree), Nat.sub_eq_zero_of_le (Nat.not_lt.mp hfree),
        List.take_zero]

namespace WalkAgreement

/-- The traceback has the lines of a walk over the frames, as far as there is room. -/
def WalkGives (host : Host) (memory : Memory) (frames : List CapturedFrame)
    (traceback : Traceback) : Prop :=
  let walk := Cursor.traceback host (.captured { frames, memory })
  walk.2 = .ok () ∧ traceback = host.settings.kept walk.1.state.2.toList

/-- The unwinding has accounted for the frames, and for no others. -/
structure Traced (host : Host) (frames : List CapturedFrame) (u : Unwinding) : Prop where
  skip : u.skipThrough? = none
  reraise : u.session.reraise = false
  shadows : u.shadows = host.filterAfter {} frames
  traceback : u.session.traceback = host.settings.kept (host.lines (host.shown {} frames))

section
variable {host : Host} {c c' : CapturedCursor} {frame : CapturedFrame}
variable {frames passed : List CapturedFrame} {u u' : Unwinding}

theorem traced_nil (host : Host) (hskip : u.skipThrough? = none)
    (hreraise : u.session.reraise = false) (hshadows : u.shadows = {})
    (htraceback : u.session.traceback = []) : Traced host [] u where
  skip := hskip
  reraise := hreraise
  shadows := hshadows
  traceback := htraceback.trans host.settings.kept_nil.symm

theorem Traced.account (h : Traced host frames u)
    (haccount : (u.onto c frame).account host frame = (u', .ok ())) :
    Traced host (frames ++ [frame]) u' := by
  obtain ⟨hskip, hshadows, haccounted⟩ := Unwinding.account_accounted haccount
  have hshown : host.shown {} (frames ++ [frame]) =
      host.shown {} frames ++ [(u.shadows.see (host.eventOf? frame)).2] := by
    rw [Host.shown_append, h.shadows]
    rfl
  constructor
  · exact hskip.trans h.skip
  · exact haccounted.reraise h.reraise
  · rw [hshadows, Host.filterAfter_append, h.shadows]
    rfl
  · rw [hshown, Host.lines_concat, Settings.kept_concat, ← h.traceback]
    exact haccounted.traceback h.reraise

theorem Traced.passage (h : Traced host frames u)
    (hpassage : Unwinding.Passage host c u passed c' u') : Traced host (frames ++ passed) u' := by
  induction hpassage generalizing frames with
  | stays => rwa [List.append_nil]
  | skips hskip _ _ =>
      rw [h.skip] at hskip
      cases hskip
  | passes _ haccount _ _ ih =>
      have hrest := ih (h.account haccount)
      rwa [List.append_assoc] at hrest

/-- Within the depth limit the lines traced are those of a walk. -/
theorem Traced.walkGives (h : Traced host frames u)
    (hdepth : frames.length ≤ host.settings.maxWalkDepth)
    (hkinds : ∀ frame ∈ frames, host.kindOf frame ≠ .generatorEntry) (memory : Memory) :
    WalkGives host memory frames u.session.traceback := by
  obtain ⟨hresult, hlines⟩ := Cursor.traceback_captured memory hkinds
  have hall : (host.shown {} frames).take host.settings.maxWalkDepth = host.shown {} frames := by
    apply List.take_of_length_le
    rwa [Host.shown_length]
  constructor
  · rw [hresult, if_pos hdepth]
  · rw [hlines, hall, h.traceback]

/-- A landing adds the frame landed in, and no more. -/
theorem Traced.lands {now budget : Nat} {rest : List CapturedFrame} {landed : Landed}
    (h : Traced host frames u)
    (hending : Unwinding.Ending host now budget c rest u u' (.ok landed)) :
    ∃ frame outer v, rest = frame :: outer ∧ Traced host (frames ++ [frame]) v ∧
      u'.session.traceback = v.session.traceback := by
  cases hending with
  | lands _ haccount _ =>
      exact ⟨_, _, _, rfl, h.account haccount, (Unwinding.land_keeps now _ _ _ _).1⟩

/-- Only an unwinding that has left all frames behind misses a handler. -/
theorem ending_of_noHandler {now budget count : Nat} {rest : List CapturedFrame}
    (h : Unwinding.Ending host now budget c rest u u' (.error (.noHandler count))) :
    rest = [] ∧ u'.session = u.session := by
  cases h with
  | exhausted => exact ⟨rfl, rfl⟩
  | refused _ haccount => exact absurd (Unwinding.account_error haccount) id
  | faults _ _ hverdict =>
      have hdecides := InnermostHandler.decides_of_fault hverdict
      exact absurd hdecides InnermostHandler.Decides.ne_noHandler

end

/-- A raise that lands in a frame leaves the lines of a walk over the stack up
to that frame, and a raise that finds no handler leaves those of a walk over
the whole stack. Of these lines a limited traceback has the first ones. -/
theorem raise_agrees_with_walk (engine : Engine) (now : Nat) (exception : ExceptionInfo)
    (frames : List CapturedFrame) (memory walkMemory : Memory) (session : Session)
    (hidle : session.active = false)
    (hgenerator : ∀ frame ∈ frames, engine.host.kindOf frame ≠ .generatorEntry) :
    let raised := engine.raise now exception false (.captured { frames, memory }) session
    let result := raised.2.2.2
    let traceback := raised.2.2.1.traceback
    (∀ landed, result = .ok landed → ∃ landing, raised.2.1.landing? = some landing ∧
      landing.ip = landed.ip ∧ landing.frameIndex < frames.length ∧
      WalkGives engine.host walkMemory (frames.take (landing.frameIndex + 1)) traceback) ∧
    ∀ count, result = .error (.noHandler count) →
      WalkGives engine.host walkMemory frames traceback := by
  obtain ⟨passed, rest, left, c, v, u, result, rfl, hdepth, hcall, hpassage, hending⟩ :=
    Engine.raise_split engine now exception false frames memory hidle
  have htraced := Traced.passage (traced_nil engine.host rfl rfl rfl rfl) hpassage
  rw [List.nil_append] at htraced
  rw [hcall]
  dsimp only
  constructor
  · rintro landed rfl
    obtain ⟨frame, outer, w, rfl, hlands, hsame⟩ := htraced.lands hending
    obtain ⟨-, -, landing, -, hleft, -, -, hlanding, hip, hindex⟩ := hending.landing_of_ok
    have hposition : landing.frameIndex = passed.length := by
      rw [hindex, hpassage.cursor.2]
      exact Nat.zero_add _
    have htake : (passed ++ frame :: outer).take (landing.frameIndex + 1) = passed ++ [frame] := by
      rw [hposition, List.take_length_add_append]
      rfl
    refine ⟨landing, hlanding, hip, ?_, ?_⟩
    · rw [hposition, List.length_append, List.length_cons]
      omega
    · rw [htake, hsame]
      refine hlands.walkGives ?_ (fun f hf => hgenerator f ?_) walkMemory
      · rw [List.length_append, List.length_singleton, hdepth]
        omega
      · exact List.mem_of_mem_take (htake ▸ hf)
  · rintro count rfl
    obtain ⟨rfl, hsession⟩ := ending_of_noHandler hending
    rw [List.append_nil] at hgenerator ⊢
    rw [hsession]
    exact htraced.walkGives (by omega) hgenerator walkMemory

/-- A traceback has room for one line, and the runtime knows every frame. -/
def limitedHost : Host :=
  { settings := { tracebackLimit := 1 }
    classifier :=
      { regions := ⟨[InnermostHandler.catchingRegion]⟩
        interpreter := ⟨0x5000, 0x6000⟩
        deoptTrampoline := ⟨0x6100, 0x6140⟩ }
    hooks :=
      { frameInfo := fun frame => some ⟨frame.bp, "f", "app.py"⟩
        statement := fun _ => none } }

/-- A trampoline with its shadow, an interpreted frame, and a compiled one that
catches behind a frame of the runtime. -/
def limitedStack : List CapturedFrame :=
  [{ toActivation := .ofPointers 0x6108 0x6fa0 0x6fb0 },
    { toActivation := .ofPointers 0x5105 0x6fc0 0x6fd0 },
    { toActivation := .ofPointers 0x5205 0x6fe0 0x6ff0 },
    InnermostHandler.foreignFrame, InnermostHandler.catchingFrame]

def raisedOnLimited : Engine × Cursor × Session × Except Fault Landed :=
  Engine.raise (.create limitedHost) 0 ⟨1, 2, 3⟩ false
    (.captured { frames := limitedStack, memory := .empty }) { slot := 0x8000 }

/-- Both the raise and the walk drop the shadow. Of the two lines that the walk
collects the traceback has the first. -/
theorem limitedStack_agrees :
    raisedOnLimited.2.2.2 = .ok ⟨0x1050, 0x7030, .catches 1⟩ ∧
      WalkGives limitedHost .empty limitedStack raisedOnLimited.2.2.1.traceback ∧
      raisedOnLimited.2.2.1.traceback = [⟨0x6ff0, "f", "app.py", none⟩] := by
  have hresult : raisedOnLimited.2.2.2 = .ok ⟨0x1050, 0x7030, .catches 1⟩ := by cbv
  have hindex : raisedOnLimited.2.1.landing?.map Landing.frameIndex = some 4 := by cbv
  have hgenerator : ∀ frame ∈ limitedStack, limitedHost.kindOf frame ≠ .generatorEntry := by decide
  obtain ⟨landing, hlanding, -, -, hgives⟩ := (raise_agrees_with_walk (.create limitedHost) 0
    ⟨1, 2, 3⟩ limitedStack .empty .empty { slot := 0x8000 } rfl hgenerator).1 _ hresult
  have hfour : landing.frameIndex = 4 := by
    have hmap := congrArg (Option.map Landing.frameIndex) hlanding
    exact Option.some.inj (hmap.symm.trans hindex)
  rw [hfour] at hgives
  exact ⟨hresult, hgives, by cbv⟩

end WalkAgreement
end StackUnwind
