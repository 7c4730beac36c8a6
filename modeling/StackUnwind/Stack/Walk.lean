import StackUnwind.Stack.Cursor
import StackUnwind.Stack.Shadow
import StackUnwind.Traceback

/-!
# Walks

A walk visits the physical frames from the innermost outwards, classifies them
and shows those that concern the running program. At the entry of a generator
it goes on in the frame that resumed the generator. A second layer drops
shadows, which leaves the logical frames.
-/
namespace StackUnwind

/-- All that a walk has to know about the program whose stack it visits. -/
structure Host where
  settings : Settings := {}
  classifier : Classifier := {}
  callFrames : CallFrame.Table := {}
  hooks : Hooks

/-- A visitor's answer. -/
structure Visit (σ : Type) where
  state : σ
  proceed : Bool := true
  notices : List Notice := []

/-- A walk in progress, with the state of its visitor. -/
structure Walk (σ : Type) where
  cursor : Cursor
  state : σ
  notices : Array Notice := #[]

/-- What looking at one frame leads to. -/
inductive WalkTurn (σ : Type) where
  | next (walk : Walk σ)
  /-- The cursor was moved to another frame, to be looked at next. -/
  | moved (walk : Walk σ)
  | stop (walk : Walk σ) (result : Except Fault Unit)

namespace Walk

variable {σ : Type}

def note (walk : Walk σ) (notices : List Notice) : Walk σ :=
  { walk with notices := walk.notices.appendList notices }

/-- Shows an event to the visitor. -/
def present (visit : σ → WalkEvent → Visit σ) (event : WalkEvent) (walk : Walk σ) : WalkTurn σ :=
  let answer := visit walk.state event
  let walk := { walk with state := answer.state }.note answer.notices
  if answer.proceed then .next walk else .stop walk (.ok ())

/-- Goes on in the resumer of the generator whose entry frame is current. -/
def splice (host : Host) (walk : Walk σ) : WalkTurn σ :=
  let bp := walk.cursor.bp
  match host.hooks.savedContext bp with
  | none => .stop walk (.error (.missingSavedContext bp))
  | some address =>
      match walk.cursor.reanchor address with
      | .ok cursor => .moved { walk with cursor }
      | .error fault => .stop walk (.error fault)

/-- Looks at the current frame, which is the `depth`-th of the walk. -/
def inspect (host : Host) (visit : σ → WalkEvent → Visit σ) (depth : Nat) (walk : Walk σ) :
    WalkTurn σ :=
  let cursor := walk.cursor
  let kind := host.classifier.classify cursor.lookupPc
  let walk := walk.note [.frameVisited depth cursor.ip cursor.bp kind]
  match kind with
  | .generatorEntry => walk.splice host
  | .deoptTrampoline => walk.present visit (.deoptTrampoline cursor.ip cursor.bp)
  | kind =>
      match cursor.capture? kind with
      | some frame => (walk.note (cursor.captureNotices kind)).present visit (.frame frame)
      | none => .next walk

/-- Moves outwards by one frame, unless the cursor already stands on a frame
that was not looked at. -/
def advance (host : Host) (onFrame : Bool) (walk : Walk σ) : Walk σ × Except Fault Bool :=
  if onFrame then (walk, .ok true)
  else
    let (cursor, moved) := walk.cursor.step host.callFrames
    ({ walk.note (walk.cursor.stepNotices host.callFrames) with cursor }, moved)

/-- Visits frames while `budget` of them are allowed. -/
def run (host : Host) (visit : σ → WalkEvent → Visit σ) (budget : Nat) (onFrame : Bool)
    (walk : Walk σ) : Walk σ × Except Fault Unit :=
  match walk.advance host onFrame with
  | (walk, .error fault) => (walk, .error fault)
  | (walk, .ok false) => (walk, .ok ())
  | (walk, .ok true) =>
      match budget with
      | 0 => (walk, .error (.walkTooDeep host.settings.maxWalkDepth))
      | left + 1 =>
          match walk.inspect host visit (host.settings.maxWalkDepth - left) with
          | .next walk => run host visit left false walk
          | .moved walk => run host visit left true walk
          | .stop walk result => (walk, result)

end Walk

namespace Cursor

variable {σ : Type}

/-- Shows every event from here outwards to a visitor. -/
def walk (host : Host) (visit : σ → WalkEvent → Visit σ) (state : σ) (cursor : Cursor) :
    Walk σ × Except Fault Unit :=
  Walk.run host visit host.settings.maxWalkDepth false { cursor, state }

/-- Sees events through a shadow filter; the flag says whether to go on. -/
def visitLogical (visit : σ → Frame → σ × Bool) (state : ShadowFilter × σ) (event : WalkEvent) :
    Visit (ShadowFilter × σ) :=
  let (filter, frame?) := state.1.accept event
  let notices := state.1.notices event
  match frame? with
  | none => { state := (filter, state.2), notices }
  | some frame =>
      let (inner, proceed) := visit state.2 frame
      { state := (filter, inner), proceed, notices }

/-- Shows every logical frame from here outwards to a visitor. -/
def walkFrames (host : Host) (visit : σ → Frame → σ × Bool) (state : σ) (cursor : Cursor) :
    Walk (ShadowFilter × σ) × Except Fault Unit :=
  cursor.walk host (visitLogical visit) ({}, state)

/-- Collects the lines of all logical frames from here outwards, innermost first. -/
def traceback (host : Host) (cursor : Cursor) :
    Walk (ShadowFilter × Array TracebackEntry) × Except Fault Unit :=
  cursor.walkFrames host (fun lines frame =>
    match TracebackEntry.lineOf? host.hooks frame with
    | some line => (lines.push line, true)
    | none => (lines, true)) #[]

end Cursor
end StackUnwind
