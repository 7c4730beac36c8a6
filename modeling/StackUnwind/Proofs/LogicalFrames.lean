import StackUnwind.Proofs.CapturedUnwinding

/-!
# Logical frames of captured stacks

A shadow filter that is run over captured frames shows, for each of them, a
logical frame or nothing. Two filters that begin in different states show the
same exactly when the first event they meet is a trampoline or there is none;
from a trampoline on their states agree.

A walk over a captured stack without generator entries shows its visitor the
frames of one filter, and its traceback has their lines.
-/
namespace StackUnwind

namespace Host

variable (host : Host)

/-- What a filter shows for each of the frames. -/
def shown : ShadowFilter → List CapturedFrame → List (Option Frame)
  | _, [] => []
  | filter, frame :: rest =>
      (filter.see (host.eventOf? frame)).2 :: shown (filter.see (host.eventOf? frame)).1 rest

/-- The state in which frames leave a filter. -/
def filterAfter : ShadowFilter → List CapturedFrame → ShadowFilter
  | filter, [] => filter
  | filter, frame :: rest => filterAfter (filter.see (host.eventOf? frame)).1 rest

/-- The first event among the frames, if there is any, is a trampoline. -/
def BeginsQuiet (frames : List CapturedFrame) : Prop :=
  ∀ frame, (frames.filterMap host.eventOf?).head? ≠ some (.frame frame)

/-- The lines of the frames shown. -/
def lines (shown : List (Option Frame)) : Traceback :=
  shown.filterMap fun frame? => frame?.bind (TracebackEntry.lineOf? host.hooks)

/-- The frames shown that run functions known to the runtime. -/
def known (shown : List (Option Frame)) : List Frame :=
  shown.filterMap fun frame? => frame?.filter host.hooks.knows

variable {host}

@[simp] theorem shown_length (filter : ShadowFilter) (frames : List CapturedFrame) :
    (host.shown filter frames).length = frames.length := by
  induction frames generalizing filter with
  | nil => rfl
  | cons frame rest ih => simp only [shown, List.length_cons, ih]

theorem shown_append (filter : ShadowFilter) (front back : List CapturedFrame) :
    host.shown filter (front ++ back) =
      host.shown filter front ++ host.shown (host.filterAfter filter front) back := by
  induction front generalizing filter with
  | nil => rfl
  | cons frame rest ih => simp only [List.cons_append, shown, filterAfter, ih]

theorem filterAfter_append (filter : ShadowFilter) (front back : List CapturedFrame) :
    host.filterAfter filter (front ++ back) =
      host.filterAfter (host.filterAfter filter front) back := by
  induction front generalizing filter with
  | nil => rfl
  | cons frame rest ih => simp only [List.cons_append, filterAfter, ih]

theorem shown_take (filter : ShadowFilter) (frames : List CapturedFrame) (n : Nat) :
    host.shown filter (frames.take n) = (host.shown filter frames).take n := by
  induction frames generalizing filter n with
  | nil => simp [shown]
  | cons frame rest ih =>
      cases n with
      | zero => rfl
      | succ n => simp only [List.take_succ_cons, shown, ih]

theorem lines_concat (shown : List (Option Frame)) (frame? : Option Frame) :
    host.lines (shown ++ [frame?]) =
      host.lines shown ++ (frame?.bind (TracebackEntry.lineOf? host.hooks)).toList := by
  simp only [lines, List.filterMap_append, List.filterMap_cons, List.filterMap_nil]
  cases frame?.bind (TracebackEntry.lineOf? host.hooks) <;> rfl

theorem known_concat (shown : List (Option Frame)) (frame? : Option Frame) :
    host.known (shown ++ [frame?]) =
      host.known shown ++ (frame?.filter host.hooks.knows).toList := by
  simp only [known, List.filterMap_append, List.filterMap_cons, List.filterMap_nil]
  cases frame?.filter host.hooks.knows <;> rfl

/-- Two filters show the same exactly when they are in the same state or meet
no program frame before a trampoline. -/
theorem shown_eq_iff (f g : ShadowFilter) (frames : List CapturedFrame) :
    host.shown f frames = host.shown g frames ↔ f = g ∨ host.BeginsQuiet frames := by
  induction frames with
  | nil => simp [shown, BeginsQuiet]
  | cons frame rest ih =>
      cases hevent : host.eventOf? frame with
      | none =>
          have hquiet : host.BeginsQuiet (frame :: rest) ↔ host.BeginsQuiet rest := by
            simp [BeginsQuiet, hevent]
          simp only [shown, hevent, ShadowFilter.see, List.cons.injEq, true_and, ih, hquiet]
      | some event =>
          cases event with
          | deoptTrampoline ip bp =>
              have hquiet : host.BeginsQuiet (frame :: rest) := by
                simp [BeginsQuiet, hevent]
              simp [shown, hevent, ShadowFilter.see, ShadowFilter.accept, hquiet]
          | frame logical =>
              have hloud : ¬ host.BeginsQuiet (frame :: rest) := by
                simp [BeginsQuiet, hevent]
              -- Only one of two different filters shows this frame.
              obtain ⟨fs⟩ := f
              obtain ⟨gs⟩ := g
              cases fs <;> cases gs <;>
                simp [shown, hevent, ShadowFilter.see, ShadowFilter.accept, hloud]

end Host

/-! Walks -/

namespace Walk

variable {host : Host} {σ : Type}

theorem note_note (walk : Walk σ) (front back : List Notice) :
    (walk.note front).note back = walk.note (front ++ back) := by
  simp [note, Array.appendList]

theorem advance_of_cons {walk : Walk σ} {c : CapturedCursor} {frame : CapturedFrame}
    {rest : List CapturedFrame} (hcursor : walk.cursor = .captured c)
    (h : c.ahead = frame :: rest) :
    walk.advance host false =
      ({ walk.note [] with cursor := .captured (c.onto frame) }, .ok true) := by
  rw [advance, if_neg Bool.false_ne_true, hcursor, Cursor.step_of_cons h]
  rfl

theorem advance_of_nil {walk : Walk σ} {c : CapturedCursor} (hcursor : walk.cursor = .captured c)
    (h : c.ahead = []) :
    walk.advance host false = ({ walk.note [] with cursor := .captured c.past }, .ok false) := by
  rw [advance, if_neg Bool.false_ne_true, hcursor, Cursor.step_of_nil h]
  rfl

/-- Looking at a captured frame that is no generator entry shows its event. -/
theorem inspect_captured (visit : σ → WalkEvent → Visit σ) {walk : Walk σ} {c : CapturedCursor}
    {frame : CapturedFrame} (hcursor : walk.cursor = .captured c) (hc : c.current? = some frame)
    (hkind : host.kindOf frame ≠ .generatorEntry) (depth : Nat) :
    ∃ notices, walk.inspect host visit depth =
      match host.eventOf? frame with
      | none => .next (walk.note notices)
      | some event => (walk.note notices).present visit event := by
  have hclassify : host.classifier.classify walk.cursor.lookupPc = host.kindOf frame := by
    rw [hcursor, Cursor.lookupPc_captured hc, Host.kindOf]
  unfold inspect Host.eventOf?
  simp only [hclassify]
  rw [hcursor]
  cases hk : host.kindOf frame with
  | generatorEntry => exact absurd hk hkind
  | compiled region =>
      simp only [Cursor.capture?, Cursor.ip_captured hc, Cursor.bp_captured hc,
        Cursor.sp_captured hc, Cursor.registers_captured hc, note_note]
      exact ⟨_, rfl⟩
  | interpreted =>
      simp only [Cursor.capture?, Cursor.ip_captured hc, Cursor.bp_captured hc, note_note]
      exact ⟨_, rfl⟩
  | deoptTrampoline =>
      simp only [Cursor.ip_captured hc, Cursor.bp_captured hc]
      exact ⟨_, rfl⟩
  | foreign => exact ⟨_, rfl⟩

/-- The visitor's state after it has seen the frame that a filter shows, if any. -/
def shownTo (visit : σ → Frame → σ × Bool) (state : σ) (frame? : Option Frame) : σ :=
  match frame? with
  | none => state
  | some frame => (visit state frame).1

theorem visitLogical_eq {visit : σ → Frame → σ × Bool}
    (hproceed : ∀ state frame, (visit state frame).2 = true) (state : ShadowFilter × σ)
    (event : WalkEvent) :
    Cursor.visitLogical visit state event =
      { state := ((state.1.accept event).1, shownTo visit state.2 (state.1.accept event).2)
        notices := state.1.notices event } := by
  unfold Cursor.visitLogical
  cases haccept : state.1.accept event with
  | mk filter frame? =>
      cases frame? with
      | none => rfl
      | some frame => simp only [hproceed, shownTo]

/-- A visitor that always goes on is shown what the filter makes of a frame. -/
theorem inspect_logical {visit : σ → Frame → σ × Bool}
    (hproceed : ∀ state frame, (visit state frame).2 = true) (walk : Walk (ShadowFilter × σ))
    {c : CapturedCursor} {frame : CapturedFrame} (hcursor : walk.cursor = .captured c)
    (hc : c.current? = some frame) (hkind : host.kindOf frame ≠ .generatorEntry) (depth : Nat) :
    ∃ walk', walk.inspect host (Cursor.visitLogical visit) depth = .next walk' ∧
      walk'.cursor = walk.cursor ∧
      walk'.state = ((walk.state.1.see (host.eventOf? frame)).1,
        shownTo visit walk.state.2 (walk.state.1.see (host.eventOf? frame)).2) := by
  obtain ⟨notices, hinspect⟩ :=
    inspect_captured (Cursor.visitLogical visit) hcursor hc hkind depth
  rw [hinspect]
  cases host.eventOf? frame with
  | none => exact ⟨_, rfl, rfl, rfl⟩
  | some event =>
      simp only [present, visitLogical_eq hproceed, if_true]
      exact ⟨_, rfl, rfl, rfl⟩

/-- A walk shows the frames of one filter, in order, and fails when there are
more frames than its budget. -/
theorem run_logical {visit : σ → Frame → σ × Bool}
    (hproceed : ∀ state frame, (visit state frame).2 = true) (walk : Walk (ShadowFilter × σ))
    {c : CapturedCursor} {ahead : List CapturedFrame} (hcursor : walk.cursor = .captured c)
    (hahead : c.ahead = ahead) (hkinds : ∀ frame ∈ ahead, host.kindOf frame ≠ .generatorEntry)
    (budget : Nat) :
    (run host (Cursor.visitLogical visit) budget false walk).2 =
      (if ahead.length ≤ budget then .ok ()
        else .error (.walkTooDeep host.settings.maxWalkDepth)) ∧
    (run host (Cursor.visitLogical visit) budget false walk).1.state.2 =
      ((host.shown walk.state.1 ahead).take budget).foldl (shownTo visit) walk.state.2 := by
  induction ahead generalizing walk c budget with
  | nil =>
      rw [run.eq_def, advance_of_nil hcursor hahead, Host.shown, List.take_nil]
      exact ⟨rfl, rfl⟩
  | cons frame rest ih =>
      cases budget with
      | zero =>
          rw [run, advance_of_cons hcursor hahead]
          exact ⟨rfl, rfl⟩
      | succ left =>
          obtain ⟨hkind, hrest⟩ := List.forall_mem_cons.mp hkinds
          obtain ⟨walk', hinspect, hcursor', hstate'⟩ := inspect_logical hproceed
            { walk.note [] with cursor := .captured (c.onto frame) } rfl rfl hkind
            (host.settings.maxWalkDepth - left)
          have hrun : run host (Cursor.visitLogical visit) (left + 1) false walk =
              run host (Cursor.visitLogical visit) left false walk' := by
            rw [run, advance_of_cons hcursor hahead]
            simp only [hinspect]
          obtain ⟨hresult, hstate⟩ := ih walk' hcursor' (CapturedCursor.ahead_onto hahead) hrest left
          rw [hrun, hresult, hstate, hstate', List.length_cons]
          refine ⟨?_, rfl⟩
          simp only [Nat.add_le_add_iff_right]

end Walk

namespace Cursor

/-- The visitor of a traceback. -/
def collectLine (hooks : Hooks) (lines : Array TracebackEntry) (frame : Frame) :
    Array TracebackEntry × Bool :=
  match TracebackEntry.lineOf? hooks frame with
  | some line => (lines.push line, true)
  | none => (lines, true)

theorem collectLine_proceeds (hooks : Hooks) (lines : Array TracebackEntry) (frame : Frame) :
    (collectLine hooks lines frame).2 = true := by
  unfold collectLine
  split <;> rfl

theorem collectLine_shown (host : Host) (lines : Array TracebackEntry)
    (shown : List (Option Frame)) :
    (shown.foldl (Walk.shownTo (collectLine host.hooks)) lines).toList =
      lines.toList ++ host.lines shown := by
  induction shown generalizing lines with
  | nil => simp [Host.lines]
  | cons frame? rest ih =>
      rw [List.foldl_cons, ih]
      cases frame? with
      | none => simp [Walk.shownTo, Host.lines]
      | some frame =>
          cases hline : TracebackEntry.lineOf? host.hooks frame <;>
            simp [Walk.shownTo, collectLine, Host.lines, hline]

/-- The traceback of a captured stack has the lines that one filter shows, as
far as the depth limit allows. -/
theorem traceback_captured {host : Host} {frames : List CapturedFrame} (memory : Memory)
    (hkinds : ∀ frame ∈ frames, host.kindOf frame ≠ .generatorEntry) :
    (traceback host (.captured { frames, memory })).2 =
      (if frames.length ≤ host.settings.maxWalkDepth then .ok ()
        else .error (.walkTooDeep host.settings.maxWalkDepth)) ∧
    (traceback host (.captured { frames, memory })).1.state.2.toList =
      host.lines ((host.shown {} frames).take host.settings.maxWalkDepth) := by
  have hahead : ({ frames, memory } : CapturedCursor).ahead = frames := rfl
  obtain ⟨hresult, hstate⟩ := Walk.run_logical (collectLine_proceeds host.hooks)
    { cursor := .captured { frames, memory }, state := ({}, #[]) } rfl hahead hkinds
    host.settings.maxWalkDepth
  refine ⟨hresult, ?_⟩
  have hlines := collectLine_shown host #[]
    ((host.shown {} frames).take host.settings.maxWalkDepth)
  exact (congrArg Array.toList hstate).trans hlines

end Cursor
end StackUnwind
