import StackUnwind.Proofs.LogicalFrames
import StackUnwind.Proofs.Reanchoring
import Mathlib

/-!
# Walks over generators

At the entry of a generator a walk goes on in the frame that resumed it.
`Route` is the way of such a walk over a captured stack, as a relation between
positions, the frames there and the contexts in memory. Positions only grow
along a route, whatever the contexts say, so a route comes to an end and takes
no frame twice.

`runTraced` is a walk that keeps a list of the cursors at which it looks, and
is otherwise the walk itself. This list is the route from the innermost frame,
cut off where the depth limit is reached.
-/
namespace StackUnwind

namespace Walk

variable {σ : Type}

/-- A walk that also keeps the cursors at which it looks. -/
def runTraced (host : Host) (visit : σ → WalkEvent → Visit σ) (budget : Nat) (onFrame : Bool)
    (walk : Walk σ) : List Cursor × Walk σ × Except Fault Unit :=
  match walk.advance host onFrame with
  | (walk, .error fault) => ([], walk, .error fault)
  | (walk, .ok false) => ([], walk, .ok ())
  | (walk, .ok true) =>
      match budget with
      | 0 => ([], walk, .error (.walkTooDeep host.settings.maxWalkDepth))
      | left + 1 =>
          let here := walk.cursor
          match walk.inspect host visit (host.settings.maxWalkDepth - left) with
          | .next walk =>
              let (trail, done) := runTraced host visit left false walk
              (here :: trail, done)
          | .moved walk =>
              let (trail, done) := runTraced host visit left true walk
              (here :: trail, done)
          | .stop walk result => ([here], walk, result)

variable {host : Host} {visit : σ → WalkEvent → Visit σ}

theorem runTraced_eq_run (budget : Nat) (onFrame : Bool) (walk : Walk σ) :
    (runTraced host visit budget onFrame walk).2 = run host visit budget onFrame walk := by
  induction budget generalizing onFrame walk with
  | zero =>
      rw [runTraced, run]
      obtain ⟨walk, _ | _ | _⟩ := walk.advance host onFrame <;> rfl
  | succ left ih =>
      rw [runTraced, run]
      obtain ⟨walk, _ | _ | _⟩ := walk.advance host onFrame
      · rfl
      · rfl
      · dsimp only
        generalize inspect host visit (host.settings.maxWalkDepth - left) _ = turn
        cases turn with
        | next walk => exact ih false walk
        | moved walk => exact ih true walk
        | stop walk result => rfl

/-- A walk that moves onto a frame goes on as one that stands there. -/
theorem runTraced_of_moved {walk : Walk σ} {first : Cursor}
    (h : walk.cursor.step host.callFrames = (first, .ok true)) (budget : Nat) :
    runTraced host visit budget false walk = runTraced host visit budget true
      { walk.note (walk.cursor.stepNotices host.callFrames) with cursor := first } := by
  have hadvance : walk.advance host false = advance host true
      { walk.note (walk.cursor.stepNotices host.callFrames) with cursor := first } := by
    rw [advance, if_neg Bool.false_ne_true, h]
    rfl
  cases budget with
  | zero => rw [runTraced, runTraced, hadvance]
  | succ left => rw [runTraced, runTraced, hadvance]

end Walk

namespace SplicedWalk

/-- A frame of a captured stack at which a walk looks, and its position. -/
structure Stop where
  position : Nat
  frame : CapturedFrame
  deriving DecidableEq, Repr

/-- The cursor that stands there. -/
def Stop.cursor (frames : List CapturedFrame) (memory : Memory) (stop : Stop) : CapturedCursor :=
  { frames, memory, position? := some stop.position, current? := some stop.frame }

/-- Where a walk goes on: in the next frame, or from the entry of a generator
in the nearest resumer further out, as its context has it. -/
inductive Next (host : Host) (memory : Memory) (frames : List CapturedFrame) : Stop → Stop → Prop
  | outward {p frame outer} (hkind : host.kindOf frame ≠ .generatorEntry)
      (houter : frames[p + 1]? = some outer) :
      Next host memory frames ⟨p, frame⟩ ⟨p + 1, outer⟩
  | resumer {p frame q found resumed address context}
      (hkind : host.kindOf frame = .generatorEntry)
      (haddress : host.hooks.savedContext frame.bp = some address)
      (hread : SavedContext.read memory address = .ok context)
      (hnearest : NearestResumer frames context p q found)
      (hresumed : found.Resumed context address resumed) :
      Next host memory frames ⟨p, frame⟩ ⟨q, resumed⟩

/-- Where a walk ends: behind the outermost frame, or at the entry of a
generator whose context is not known, cannot be read or fits no frame further out. -/
inductive Ends (host : Host) (memory : Memory) (frames : List CapturedFrame) :
    Stop → Except Fault Unit → Prop
  | outermost {p frame} (hkind : host.kindOf frame ≠ .generatorEntry)
      (hlast : frames[p + 1]? = none) :
      Ends host memory frames ⟨p, frame⟩ (.ok ())
  | unknown {p frame} (hkind : host.kindOf frame = .generatorEntry)
      (haddress : host.hooks.savedContext frame.bp = none) :
      Ends host memory frames ⟨p, frame⟩ (.error (.missingSavedContext frame.bp))
  | unreadable {p frame address bad} (hkind : host.kindOf frame = .generatorEntry)
      (haddress : host.hooks.savedContext frame.bp = some address)
      (hread : SavedContext.read memory address = .error (.invalidRead bad))
      (hbad : bad ∈ SavedContext.addresses address ∧ memory.word? bad = none) :
      Ends host memory frames ⟨p, frame⟩ (.error (.invalidRead bad))
  | unmatched {p frame address context} (hkind : host.kindOf frame = .generatorEntry)
      (haddress : host.hooks.savedContext frame.bp = some address)
      (hread : SavedContext.read memory address = .ok context)
      (hnone : ∀ q other, p < q → frames[q]? = some other → ¬ context.ReturnsTo other) :
      Ends host memory frames ⟨p, frame⟩ (.error (.stepFailed context.rip .noMatchingFrame))

/-- The stops of a walk from one of them on, and its result. -/
inductive Route (host : Host) (memory : Memory) (frames : List CapturedFrame) :
    Stop → List Stop → Except Fault Unit → Prop
  | last {stop result} (hends : Ends host memory frames stop result) :
      Route host memory frames stop [stop] result
  | more {stop next stops result} (hnext : Next host memory frames stop next)
      (hroute : Route host memory frames next stops result) :
      Route host memory frames stop (stop :: stops) result

variable {host : Host} {memory : Memory} {frames : List CapturedFrame}

/-! Routes -/

theorem Next.position {s t : Stop} (h : Next host memory frames s t) :
    s.position < t.position ∧ t.position < frames.length := by
  cases h with
  | outward _ houter => exact ⟨Nat.lt_succ_self _, (List.getElem?_eq_some_iff.mp houter).choose⟩
  | resumer _ _ _ hnearest _ =>
      exact ⟨hnearest.outside, (List.getElem?_eq_some_iff.mp hnearest.frame).choose⟩

/-- Positions grow along a route, and stay on the stack. -/
theorem Route.positions {s : Stop} {stops : List Stop} {result : Except Fault Unit}
    (h : Route host memory frames s stops result) (hs : s.position < frames.length) :
    (stops.map Stop.position).Pairwise (· < ·) ∧
      ∀ t ∈ stops, s.position ≤ t.position ∧ t.position < frames.length := by
  induction h with
  | last _ =>
      refine ⟨List.pairwise_singleton _ _, ?_⟩
      rintro t ht
      rw [List.mem_singleton.mp ht]
      exact ⟨le_rfl, hs⟩
  | more hnext _ ih =>
      obtain ⟨hlt, hbound⟩ := hnext.position
      obtain ⟨hsorted, hlater⟩ := ih hbound
      refine ⟨List.pairwise_cons.mpr ⟨?_, hsorted⟩, ?_⟩
      · rintro _ hmem
        obtain ⟨t, ht, rfl⟩ := List.mem_map.mp hmem
        exact lt_of_lt_of_le hlt (hlater t ht).1
      · rintro t ht
        rcases List.mem_cons.mp ht with rfl | ht
        · exact ⟨le_rfl, hs⟩
        · exact ⟨hlt.le.trans (hlater t ht).1, (hlater t ht).2⟩

theorem Ends.ne_walkTooDeep {s : Stop} {result : Except Fault Unit}
    (h : Ends host memory frames s result) (limit : Nat) :
    result ≠ .error (.walkTooDeep limit) := by
  cases h <;> simp

/-- The stops of a walk over a whole stack, from its innermost frame on. -/
def Covers (host : Host) (memory : Memory) (frames : List CapturedFrame) (stops : List Stop)
    (result : Except Fault Unit) : Prop :=
  match frames with
  | [] => stops = [] ∧ result = .ok ()
  | innermost :: _ => Route host memory frames ⟨0, innermost⟩ stops result

section
variable {stops : List Stop} {result : Except Fault Unit}

theorem Route.ne_walkTooDeep {s : Stop} (h : Route host memory frames s stops result)
    (limit : Nat) : result ≠ .error (.walkTooDeep limit) := by
  induction h with
  | last hends => exact hends.ne_walkTooDeep limit
  | more _ _ ih => exact ih

theorem Covers.ne_walkTooDeep (h : Covers host memory frames stops result) (limit : Nat) :
    result ≠ .error (.walkTooDeep limit) := by
  cases frames with
  | nil =>
      rw [h.2]
      nofun
  | cons innermost outer => exact Route.ne_walkTooDeep h limit

theorem Covers.positions (h : Covers host memory frames stops result) :
    (stops.map Stop.position).Pairwise (· < ·) ∧ ∀ s ∈ stops, s.position < frames.length := by
  cases frames with
  | nil =>
      rw [h.1]
      exact ⟨List.Pairwise.nil, nofun⟩
  | cons innermost outer =>
      obtain ⟨hsorted, hbound⟩ := Route.positions h (Nat.succ_pos _)
      exact ⟨hsorted, fun s hs => (hbound s hs).2⟩

/-- A walk takes no more stops than there are frames. -/
theorem Covers.length_le (h : Covers host memory frames stops result) :
    stops.length ≤ frames.length := by
  obtain ⟨hsorted, hbound⟩ := h.positions
  have hsubset : stops.map Stop.position ⊆ List.range frames.length := by
    intro p hp
    obtain ⟨s, hs, rfl⟩ := List.mem_map.mp hp
    exact List.mem_range.mpr (hbound s hs)
  have hnodup : (stops.map Stop.position).Nodup := hsorted.imp fun hlt => hlt.ne
  simpa using (hnodup.subperm hsubset).length_le

end

/-! Walks -/

section
variable {σ : Type} {visit : σ → WalkEvent → Visit σ}

/-- The visitor's state after a frame, which it is shown if it is an event. -/
def seen (host : Host) (visit : σ → WalkEvent → Visit σ) (state : σ) (frame : CapturedFrame) : σ :=
  match host.eventOf? frame with
  | none => state
  | some event => (visit state event).state

open Walk

theorem inspect_frame (hproceed : ∀ state event, (visit state event).proceed = true)
    {walk : Walk σ} {s : Stop} (hcursor : walk.cursor = .captured (s.cursor frames memory))
    (hkind : host.kindOf s.frame ≠ .generatorEntry) (depth : Nat) :
    ∃ walk', walk.inspect host visit depth = .next walk' ∧ walk'.cursor = walk.cursor ∧
      walk'.state = seen host visit walk.state s.frame := by
  obtain ⟨notices, hinspect⟩ := inspect_captured visit hcursor rfl hkind depth
  rw [hinspect, seen]
  cases host.eventOf? s.frame with
  | none => exact ⟨_, rfl, rfl, rfl⟩
  | some event =>
      simp only [present, hproceed, if_true]
      exact ⟨_, rfl, rfl, rfl⟩

theorem inspect_generator {walk : Walk σ} {s : Stop}
    (hcursor : walk.cursor = .captured (s.cursor frames memory))
    (hkind : host.kindOf s.frame = .generatorEntry) (depth : Nat) :
    ∃ noted : Walk σ, walk.inspect host visit depth = noted.splice host ∧
      noted.cursor = .captured (s.cursor frames memory) ∧
      noted.state = seen host visit walk.state s.frame := by
  have hclassify : host.classifier.classify walk.cursor.lookupPc = .generatorEntry := by
    rw [hcursor, Cursor.lookupPc_captured rfl]
    exact hkind
  have hseen : seen host visit walk.state s.frame = walk.state := by
    simp only [seen, Host.eventOf?, hkind]
  unfold inspect
  simp only [hclassify, hseen]
  exact ⟨_, rfl, hcursor, rfl⟩

theorem runTraced_on_frame (walk : Walk σ) (left : Nat) :
    runTraced host visit (left + 1) true walk =
      match walk.inspect host visit (host.settings.maxWalkDepth - left) with
      | .next walk' => (walk.cursor :: (runTraced host visit left false walk').1,
          (runTraced host visit left false walk').2)
      | .moved walk' => (walk.cursor :: (runTraced host visit left true walk').1,
          (runTraced host visit left true walk').2)
      | .stop walk' result => ([walk.cursor], walk', result) := by
  rw [runTraced]
  rfl

theorem runTraced_spent (walk : Walk σ) :
    runTraced host visit 0 true walk =
      ([], walk, .error (.walkTooDeep host.settings.maxWalkDepth)) := by
  rw [runTraced]
  rfl

theorem runTraced_onto {walk : Walk σ} {c : CapturedCursor} {frame : CapturedFrame}
    (hcursor : walk.cursor = .captured c) (hframe : c.frames[c.nextPosition]? = some frame)
    (budget : Nat) :
    runTraced host visit budget false walk = runTraced host visit budget true
      { walk.note [] with cursor := .captured (c.onto frame) } := by
  have hahead : c.ahead = frame :: c.frames.drop (c.nextPosition + 1) := by
    obtain ⟨hlt, rfl⟩ := List.getElem?_eq_some_iff.mp hframe
    exact List.drop_eq_getElem_cons hlt
  have hstep := Cursor.step_of_cons hahead host.callFrames
  rw [← hcursor] at hstep
  rw [runTraced_of_moved hstep, hcursor, Cursor.stepNotices]

theorem runTraced_past {walk : Walk σ} {c : CapturedCursor} (hcursor : walk.cursor = .captured c)
    (hnone : c.frames[c.nextPosition]? = none) (budget : Nat) :
    ∃ walk' : Walk σ, walk'.state = walk.state ∧
      runTraced host visit budget false walk = ([], walk', .ok ()) := by
  have hahead : c.ahead = [] := List.drop_eq_nil_of_le (List.getElem?_eq_none_iff.mp hnone)
  refine ⟨{ walk.note [] with cursor := .captured c.past }, rfl, ?_⟩
  rw [runTraced.eq_def, advance_of_nil hcursor hahead]

theorem splice_of_unknown {walk : Walk σ} {s : Stop}
    (hcursor : walk.cursor = .captured (s.cursor frames memory))
    (haddress : host.hooks.savedContext s.frame.bp = none) :
    walk.splice host = .stop walk (.error (.missingSavedContext s.frame.bp)) := by
  have hbp : Cursor.bp (.captured (s.cursor frames memory)) = s.frame.bp := Cursor.bp_captured rfl
  simp only [splice, hcursor, hbp, haddress]

theorem splice_of_known {walk : Walk σ} {s : Stop} {address : Word}
    (hcursor : walk.cursor = .captured (s.cursor frames memory))
    (haddress : host.hooks.savedContext s.frame.bp = some address) :
    walk.splice host = match (s.cursor frames memory).reanchor address with
      | .ok c => .moved { walk with cursor := .captured c }
      | .error fault => .stop walk (.error fault) := by
  have hbp : Cursor.bp (.captured (s.cursor frames memory)) = s.frame.bp := Cursor.bp_captured rfl
  simp only [splice, hcursor, hbp, haddress, Cursor.reanchor]
  cases (s.cursor frames memory).reanchor address <;> rfl

/-- Looking at a stop that another follows leads there. -/
theorem runTraced_of_next (hproceed : ∀ state event, (visit state event).proceed = true)
    {walk : Walk σ} {s t : Stop} (hcursor : walk.cursor = .captured (s.cursor frames memory))
    (h : Next host memory frames s t) (left : Nat) :
    ∃ walk' : Walk σ, walk'.cursor = .captured (t.cursor frames memory) ∧
      walk'.state = seen host visit walk.state s.frame ∧
      runTraced host visit (left + 1) true walk =
        (walk.cursor :: (runTraced host visit left true walk').1,
          (runTraced host visit left true walk').2) := by
  rw [runTraced_on_frame]
  cases h with
  | @outward p frame outer hkind houter =>
      obtain ⟨walk', hinspect, hcursor', hstate⟩ := inspect_frame hproceed hcursor hkind
        (host.settings.maxWalkDepth - left)
      rw [hinspect]
      dsimp only
      rw [runTraced_onto (hcursor'.trans hcursor) houter]
      exact ⟨{ walk'.note [] with cursor := .captured (Stop.cursor frames memory ⟨p + 1, outer⟩) },
        rfl, hstate, rfl⟩
  | @resumer p frame q found resumed address context hkind haddress hread hnearest hresumed =>
      obtain ⟨noted, hinspect, hnoted, hstate⟩ := inspect_generator hcursor hkind
        (host.settings.maxWalkDepth - left)
      have hmoved := splice_of_known hnoted haddress
      rw [CapturedCursor.reanchor_of_nearest rfl hread hnearest,
        ← hresumed.eq_inContext] at hmoved
      rw [hinspect, hmoved]
      exact ⟨{ noted with cursor := .captured (Stop.cursor frames memory ⟨q, resumed⟩) },
        rfl, hstate, rfl⟩

/-- Looking at the last stop ends the walk. -/
theorem runTraced_of_ends (hproceed : ∀ state event, (visit state event).proceed = true)
    {walk : Walk σ} {s : Stop} {result : Except Fault Unit}
    (hcursor : walk.cursor = .captured (s.cursor frames memory))
    (h : Ends host memory frames s result) (left : Nat) :
    ∃ walk' : Walk σ, walk'.state = seen host visit walk.state s.frame ∧
      runTraced host visit (left + 1) true walk = ([walk.cursor], walk', result) := by
  rw [runTraced_on_frame]
  cases h with
  | @outermost p frame hkind hlast =>
      obtain ⟨walk', hinspect, hcursor', hstate⟩ := inspect_frame hproceed hcursor hkind
        (host.settings.maxWalkDepth - left)
      obtain ⟨walk'', hstate', hrun⟩ := runTraced_past (hcursor'.trans hcursor) hlast left
      rw [hinspect]
      dsimp only
      rw [hrun]
      exact ⟨_, hstate'.trans hstate, rfl⟩
  | @unknown p frame hkind haddress =>
      obtain ⟨noted, hinspect, hnoted, hstate⟩ := inspect_generator hcursor hkind
        (host.settings.maxWalkDepth - left)
      rw [hinspect, splice_of_unknown hnoted haddress]
      exact ⟨_, hstate, rfl⟩
  | @unreadable p frame address bad hkind haddress hread _ =>
      obtain ⟨noted, hinspect, hnoted, hstate⟩ := inspect_generator hcursor hkind
        (host.settings.maxWalkDepth - left)
      rw [hinspect, splice_of_known hnoted haddress, CapturedCursor.reanchor_of_unreadable hread]
      exact ⟨_, hstate, rfl⟩
  | @unmatched p frame address context hkind haddress hread hnone =>
      obtain ⟨noted, hinspect, hnoted, hstate⟩ := inspect_generator hcursor hkind
        (host.settings.maxWalkDepth - left)
      rw [hinspect, splice_of_known hnoted haddress,
        CapturedCursor.reanchor_of_unmatched rfl hread hnone]
      exact ⟨_, hstate, rfl⟩

/-- A walk that stands on a frame looks at the stops of its route, as far as
its budget goes. -/
theorem Route.runTraced {s : Stop} {stops : List Stop} {result : Except Fault Unit}
    (h : Route host memory frames s stops result)
    (hproceed : ∀ state event, (visit state event).proceed = true) {walk : Walk σ}
    (hcursor : walk.cursor = .captured (s.cursor frames memory)) (budget : Nat) :
    (runTraced host visit budget true walk).1 =
      (stops.take budget).map (fun t => .captured (t.cursor frames memory)) ∧
    (runTraced host visit budget true walk).2.1.state =
      (stops.take budget).foldl (fun state t => seen host visit state t.frame) walk.state ∧
    (runTraced host visit budget true walk).2.2 =
      if stops.length ≤ budget then result
      else .error (.walkTooDeep host.settings.maxWalkDepth) := by
  induction h generalizing budget walk with
  | last hends =>
      cases budget with
      | zero =>
          rw [runTraced_spent]
          exact ⟨rfl, rfl, (if_neg (by simp)).symm⟩
      | succ left =>
          obtain ⟨walk', hstate, hrun⟩ := runTraced_of_ends hproceed hcursor hends left
          rw [hrun, hcursor, List.take_succ_cons, List.take_nil]
          exact ⟨rfl, hstate, (if_pos (Nat.le_add_left 1 left)).symm⟩
  | @more _ _ rest _ hnext _ ih =>
      cases budget with
      | zero =>
          rw [runTraced_spent]
          exact ⟨rfl, rfl, (if_neg (by simp)).symm⟩
      | succ left =>
          obtain ⟨walk', hcursor', hstate, hrun⟩ := runTraced_of_next hproceed hcursor hnext left
          obtain ⟨htrail, hfinal, hresult⟩ := ih hcursor' left
          rw [hrun, htrail, hresult, hfinal, hstate, hcursor]
          refine ⟨rfl, rfl, ?_⟩
          simp only [List.length_cons, Nat.add_le_add_iff_right]

/-- A walk over a whole stack looks at the stops of its route. -/
theorem Covers.runTraced {stops : List Stop} {result : Except Fault Unit}
    (h : Covers host memory frames stops result)
    (hproceed : ∀ state event, (visit state event).proceed = true) {walk : Walk σ}
    (hcursor : walk.cursor = .captured { frames, memory }) (budget : Nat) :
    (runTraced host visit budget false walk).1 =
      (stops.take budget).map (fun t => .captured (t.cursor frames memory)) ∧
    (runTraced host visit budget false walk).2.1.state =
      (stops.take budget).foldl (fun state t => seen host visit state t.frame) walk.state ∧
    (runTraced host visit budget false walk).2.2 =
      if stops.length ≤ budget then result
      else .error (.walkTooDeep host.settings.maxWalkDepth) := by
  cases frames with
  | nil =>
      obtain ⟨rfl, rfl⟩ := h
      obtain ⟨walk', hstate, hrun⟩ := runTraced_past hcursor rfl budget
      rw [hrun, List.take_nil]
      exact ⟨rfl, hstate, (if_pos (Nat.zero_le budget)).symm⟩
  | cons innermost outer =>
      rw [runTraced_onto hcursor rfl]
      exact Route.runTraced h hproceed rfl budget

end

/-- A generator's entry frame has the base 0x7030, and its context is at 0x7400. -/
def generatorHost : Host :=
  { classifier := { interpreter := ⟨0x5000, 0x6000⟩, generatorEntry := ⟨0x6200, 0x6240⟩ }
    hooks :=
      { frameInfo := fun _ => none
        statement := fun _ => none
        savedContext := fun bp => if bp = 0x7030 then some 0x7400 else none } }

def returningTo (rip rbp : Word) : Memory :=
  Memory.empty.writeContext 0x7400
    { r15 := 15, r14 := 14, r13 := 13, r12 := 12, rbx := 3, rbp, rip }

def collect (events : List WalkEvent) (event : WalkEvent) : Visit (List WalkEvent) :=
  { state := events ++ [event] }

end SplicedWalk
end StackUnwind
