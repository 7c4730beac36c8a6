import StackUnwind.Proofs.CleanupEpisode
import StackUnwind.Proofs.Lockstep
import Mathlib

/-!
# Raising an exception again

An exception that is raised again has the line of the frame that raises it
already. Its session is marked, and the first frame that it enters uses up the
mark: the frame becomes pending as any other, but has no line and is not
counted. Stubs and shadows leave the mark alone, and so does a cleanup pad.

The episode is compared with the one in which the same exception is raised for
the first time. Both enter the same frames and land at the same pads. The mark
is on as long as no frame has been entered; from then on the one traceback is
the other without its first line, and the two profiles differ by one exception
of the first frame's statement.
-/
namespace StackUnwind

/-! Counts of statements -/

namespace Profile

theorem lookup_increment (key key' : StatementKey) (counts : List (StatementKey × UInt32)) :
    ((increment key counts).lookup key').getD 0 =
      if key' = key then oneMore ((counts.lookup key').getD 0) else (counts.lookup key').getD 0 := by
  induction counts with
  | nil =>
      rw [increment, List.lookup_cons]
      by_cases h : key' = key
      · simp [h, oneMore]
      · simp [h, beq_false_of_ne h]
  | cons entry rest ih =>
      obtain ⟨k, n⟩ := entry
      rw [increment]
      by_cases hk : k = key
      · rw [if_pos hk, List.lookup_cons, List.lookup_cons, hk]
        by_cases h : key' = key
        · simp [h]
        · simp [h, beq_false_of_ne h]
      · rw [if_neg hk, List.lookup_cons, List.lookup_cons]
        by_cases h : key' = k
        · simp [h, hk]
        · simp [beq_false_of_ne h, ih]

theorem count_record (profile : Profile) (key key' : StatementKey) :
    (profile.record key).count key' =
      if key' = key then oneMore (profile.count key') else profile.count key' :=
  lookup_increment key key' profile.counts

theorem toNat_oneMore {count : UInt32} (h : count ≠ 0xffffffff) :
    (oneMore count).toNat = count.toNat + 1 := by
  have hbound : count.toNat ≠ 0xffffffff := fun heq => h (UInt32.toNat_inj.mp heq)
  have hlt := count.toNat_lt
  rw [oneMore, if_neg h, UInt32.toNat_add]
  have hone : (1 : UInt32).toNat = 1 := rfl
  omega

end Profile

/-- The statement that an exception in a frame is counted for. -/
def StatementKey.ofFrame? (hooks : Hooks) (frame : Frame) : Option StatementKey :=
  (hooks.frameInfo frame).bind fun info =>
    (hooks.statement frame).map fun statement => ⟨info.functionId, statement.id⟩

namespace Ledger

variable (ledger : Ledger) (info : FrameInfo) (statement? : Option Statement)

theorem count_countFrame (key : StatementKey) :
    (ledger.countFrame info statement?).profile.count key =
      if (statement?.map fun statement => ⟨info.functionId, statement.id⟩) = some key then
        Profile.oneMore (ledger.profile.count key)
      else ledger.profile.count key := by
  cases statement? with
  | none => rfl
  | some statement =>
      have hprofile : (ledger.countFrame info (some statement)).profile =
          ledger.profile.record ⟨info.functionId, statement.id⟩ := by
        unfold countFrame countStatement
        dsimp only
        split <;> rfl
      rw [hprofile, Profile.count_record]
      simp only [Option.map_some, Option.some.injEq, eq_comm]

end Ledger

namespace Reraise

/-- The statement of the first frame that an exception entered. -/
def firstStatement? (hooks : Hooks) (entered : List Frame) : Option StatementKey :=
  entered.head?.bind (StatementKey.ofFrame? hooks)

/-- The second session is that of the same exception, raised again: it is
marked until a frame is entered, and lacks what the first frame would add. -/
structure OneBehind (hooks : Hooks) (entered : List Frame) (a b : Session × Ledger) : Prop where
  session : b.1 = { a.1 with
    traceback := a.1.traceback.tail, reraise := entered.isEmpty && a.1.active }
  unmarked : a.1.reraise = false
  lines : a.1.traceback.map some = entered.map (TracebackEntry.lineOf? hooks)
  calls : b.2.calls = a.2.calls
  counts : ∀ key, a.2.profile.count key =
    if firstStatement? hooks entered = some key then Profile.oneMore (b.2.profile.count key)
    else b.2.profile.count key

variable {settings : Settings} {hooks : Hooks} {frame : Frame} {info : FrameInfo}

theorem enter_of_marked {session : Session} (h : session.reraise = true) (ledger : Ledger) :
    session.enter settings hooks frame info ledger =
      ({ session with pending? := some frame, reraise := false }, ledger) :=
  if_pos h

theorem enter_of_unmarked (hlimit : settings.tracebackLimit = 0) {session : Session}
    (h : session.reraise = false) (ledger : Ledger) :
    session.enter settings hooks frame info ledger =
      ({ session with
          pending? := some frame
          traceback := session.traceback ++ [.ofFrame info (hooks.statement frame)] },
        (ledger.count .tracebackEntry).countFrame info (hooks.statement frame)) := by
  unfold Session.enter
  dsimp only
  rw [if_neg (by simp [h]), Session.addLine_of_unlimited hlimit]

variable {entered : List Frame} {a b : Session × Ledger}

/-- The first frame uses up the mark. -/
theorem OneBehind.enter_first (hlimit : settings.tracebackLimit = 0)
    (h : OneBehind hooks [] a b) (hactive : a.1.active = true)
    (hinfo : hooks.frameInfo frame = some info) :
    OneBehind hooks [frame] (a.1.enter settings hooks frame info a.2)
      (b.1.enter settings hooks frame info b.2) := by
  have hmarked : b.1.reraise = true := by rw [h.session]; simp [hactive]
  have hnone : a.1.traceback = [] := List.map_eq_nil_iff.mp h.lines
  rw [enter_of_unmarked hlimit h.unmarked, enter_of_marked hmarked]
  constructor
  · dsimp only
    rw [h.session, hnone]
    rfl
  · exact h.unmarked
  · simp [hnone, TracebackEntry.lineOf?, hinfo]
  · rw [Ledger.countFrame_calls]
    exact h.calls
  · intro key
    rw [Ledger.count_countFrame]
    have hsame : a.2.profile.count key = b.2.profile.count key := h.counts key
    simp [firstStatement?, StatementKey.ofFrame?, hinfo, Ledger.count, hsame]

/-- Later frames do the same to both. -/
theorem OneBehind.enter_later (hlimit : settings.tracebackLimit = 0) (hentered : entered ≠ [])
    (h : OneBehind hooks entered a b) (hinfo : hooks.frameInfo frame = some info) :
    OneBehind hooks (entered ++ [frame]) (a.1.enter settings hooks frame info a.2)
      (b.1.enter settings hooks frame info b.2) := by
  have hempty : entered.isEmpty = false := List.isEmpty_eq_false_iff.mpr hentered
  have hunmarked : b.1.reraise = false := by rw [h.session]; simp [hempty]
  have hsome : a.1.traceback ≠ [] := by
    intro hnil
    have hlines := h.lines
    rw [hnil] at hlines
    exact hentered (List.map_eq_nil_iff.mp hlines.symm)
  rw [enter_of_unmarked hlimit h.unmarked, enter_of_unmarked hlimit hunmarked]
  constructor
  · dsimp only
    rw [List.tail_append_of_ne_nil hsome, h.session, hempty]
    simp
  · exact h.unmarked
  · simp [h.lines, TracebackEntry.lineOf?, hinfo]
  · rw [Ledger.countFrame_calls, Ledger.countFrame_calls]
    exact h.calls
  · intro key
    have hfirst : firstStatement? hooks (entered ++ [frame]) = firstStatement? hooks entered := by
      rw [firstStatement?, List.head?_append_of_ne_nil _ hentered, firstStatement?]
    rw [Ledger.count_countFrame, Ledger.count_countFrame, hfirst]
    have hkey : a.2.profile.count key = _ := h.counts key
    dsimp only [Ledger.count]
    rw [hkey]
    -- One more of a saturated count is that count, so the two increments commute.
    split_ifs <;> rfl

theorem sustained (hlimit : settings.tracebackLimit = 0) (hooks : Hooks) :
    Sustained settings settings hooks (OneBehind hooks) where
  active h := by rw [h.session]
  pending h := by rw [h.session]
  cleanupBase h := by rw [h.session]
  address h := by rw [h.session]; rfl
  noted h _ := ⟨h.session, h.unmarked, h.lines, h.calls, h.counts⟩
  unwound h := ⟨h.session, h.unmarked, h.lines, h.calls, h.counts⟩
  finalized {_ a b} h calls := by
    refine ⟨congrArg (fun s : Session => { s with pending? := none }) h.session, h.unmarked,
      h.lines, ?_, h.counts⟩
    exact congrArg (·.appendList calls) h.calls
  entered {entered _ _ _ _} h hactive hinfo := by
    cases entered with
    | nil => exact h.enter_first hlimit hactive hinfo
    | cons first later => exact h.enter_later hlimit (List.cons_ne_nil first later) hinfo
  rebased h base? :=
    ⟨congrArg (fun s : Session => { s with cleanupBase? := base? }) h.session, h.unmarked,
      h.lines, h.calls, h.counts⟩
  cleanedUp h := ⟨h.session, h.unmarked, h.lines, h.calls, h.counts⟩
  caught {_ a b} h now := by
    refine ⟨?_, rfl, h.lines, h.calls, h.counts⟩
    dsimp only [Session.finish]
    rw [h.session, Bool.and_false]

/-- How an exception that is raised again stands beside one that is raised for
the first time. -/
structure LacksFirstLine (hooks : Hooks) (raised reraised : Stage) : Prop where
  result : reraised.result = raised.result
  cursor : reraised.cursor = raised.cursor
  entered : reraised.entered = raised.entered
  calls : reraised.ledger.calls = raised.ledger.calls
  /-- A raised exception has one line for each frame that it entered. -/
  lines : raised.session.traceback.map some = raised.entered.map (TracebackEntry.lineOf? hooks)
  traceback : reraised.session.traceback = raised.session.traceback.tail
  /-- One exception less is counted for the first statement, if that is not saturated. -/
  count_first : ∀ key, firstStatement? hooks raised.entered = some key →
    reraised.ledger.profile.count key ≠ 0xffffffff →
    (raised.ledger.profile.count key).toNat = (reraised.ledger.profile.count key).toNat + 1
  count_other : ∀ key, firstStatement? hooks raised.entered ≠ some key →
    reraised.ledger.profile.count key = raised.ledger.profile.count key
  /-- The mark lasts until a frame is entered or the episode ends. -/
  marked : reraised.session.reraise = (raised.entered.isEmpty && raised.session.active)
  open_iff : ∀ landed, raised.result = .ok landed →
    (raised.session.active = true ↔ landed.action = .cleanup)

/-- The episode stays open at a cleanup pad and is closed by a catch. -/
theorem stage_open_iff (engine : Engine) (now : Nat) (request : Engine.Request) (cursor : Cursor)
    (session : Session) (before : List Frame) (landed : Landed)
    (h : (engine.stage now request cursor session before).result = .ok landed) :
    (engine.stage now request cursor session before).session.active = true ↔
      landed.action = .cleanup := by
  cases hadmits : request.admits session with
  | false =>
      rw [Engine.stage_of_refused hadmits] at h
      cases h
  | true =>
      obtain ⟨u, result, hperform, hsettles⟩ :=
        Engine.perform_of_admitted engine now request cursor hadmits
      simp only [Engine.stage, hperform] at h ⊢
      cases hsettles with
      | fails hkeeps hfault => cases h
      | @lands v frames pad action hkeeps hframe =>
          have haction : landed.action = action := Unwinding.land_action h
          rw [haction]
          cases action with
          | cleanup =>
              have hopen := hkeeps.active.trans (Engine.Request.opening_active hadmits _ _ _)
              exact ⟨fun _ => rfl, fun _ => hopen⟩
          | catches filter =>
              constructor
              · intro hopen
                cases hopen
              · intro hcleanup
                cases hcleanup

/-- An exception that is raised again passes and lands like one that is raised
for the first time, call after call, and lacks the line and the count of the
first frame that it enters. -/
theorem reraise_lacks_first_line (engine : Engine)
    (hlimit : engine.host.settings.tracebackLimit = 0) (exception : ExceptionInfo)
    (cursor : Cursor) {session : Session} (hidle : session.active = false) (times : List Nat) :
    List.Forall₂ (LacksFirstLine engine.host.hooks)
      (engine.stages (.raise exception) cursor session [] times)
      (engine.stages (.reraise exception) cursor session [] times) := by
  have hadmits : (Engine.Request.raise exception).admits session = true := by
    simp [Engine.Request.admits, hidle]
  have hfirst (now : Nat) : Stage.Paired (OneBehind engine.host.hooks)
      (engine.stage now (.raise exception) cursor session [])
      (engine.stage now (.reraise exception) cursor session []) :=
    Engine.stage_paired (sustained hlimit _) rfl rfl rfl hadmits hadmits
      ⟨rfl, rfl, rfl, rfl, rfl, rfl, rfl, fun _ => rfl⟩
  have hpaired := Engine.stages_paired (sustained hlimit engine.host.hooks) rfl rfl rfl hfirst times
  have hopen : ∀ stage ∈ engine.stages (.raise exception) cursor session [] times,
      ∀ landed, stage.result = .ok landed →
        (stage.session.active = true ↔ landed.action = .cleanup) :=
    Engine.forall_stages (fun now => stage_open_iff engine now _ cursor session [])
      (fun _ now c session before => stage_open_iff _ now _ _ session before) times
  refine ((List.forall₂_and_left _ _).mpr ⟨hopen, hpaired⟩).imp ?_
  rintro raised reraised ⟨hiff, hpair⟩
  have hbooks := hpair.books
  have hsession : reraised.session = { raised.session with
      traceback := raised.session.traceback.tail
      reraise := raised.entered.isEmpty && raised.session.active } := hbooks.session
  exact
    { result := hpair.result
      cursor := hpair.cursor
      entered := hpair.entered
      calls := hbooks.calls
      lines := hbooks.lines
      traceback := by rw [hsession]
      count_first := fun key hkey hcount => by
        rw [hbooks.counts key, if_pos hkey]
        exact Profile.toNat_oneMore hcount
      count_other := fun key hkey => by rw [hbooks.counts key, if_neg hkey]
      marked := by rw [hsession]
      open_iff := hiff }

section
open CleanupEpisode

/-- Every frame is in statement 5, on line 12. -/
def statedHost : Host :=
  { mixedHost with hooks := { mixedHost.hooks with statement := fun _ => some ⟨5, 12⟩ } }

/-- A frame of the runtime that cleans up, an interpreted frame and compiled
code that catches. -/
def passes (request : Engine.Request) : List Stage :=
  (Engine.create statedHost).stages request
    (.captured { frames := [foreignCleaningFrame, shadowFrame, catchingFrame], memory := .empty })
    { slot := 0x8000 } [] [0, 7]

/-- The mark outlives the cleanup pad and is used up by the interpreted frame. -/
theorem mark_outlives_cleanup :
    statedHost.settings.tracebackLimit = 0 ∧
    (passes (.raise ⟨1, 2, 3⟩)).map (·.session.traceback) =
      [[], [⟨0x7050, "f", "app.py", some 12⟩, ⟨0x7070, "f", "app.py", some 12⟩]] ∧
    (passes (.reraise ⟨1, 2, 3⟩)).map (·.session.reraise) = [true, false] ∧
    (passes (.reraise ⟨1, 2, 3⟩)).map (·.session.traceback) =
      [[], [⟨0x7070, "f", "app.py", some 12⟩]] ∧
    (passes (.reraise ⟨1, 2, 3⟩)).map (·.ledger.profile.counts) = [[], [(⟨0x7070, 5⟩, 1)]] ∧
    List.Forall₂ (LacksFirstLine statedHost.hooks) (passes (.raise ⟨1, 2, 3⟩))
      (passes (.reraise ⟨1, 2, 3⟩)) :=
  ⟨rfl, by cbv, by cbv, by cbv, by cbv,
    reraise_lacks_first_line (.create statedHost) rfl ⟨1, 2, 3⟩ _ rfl _⟩

end

end Reraise
end StackUnwind
