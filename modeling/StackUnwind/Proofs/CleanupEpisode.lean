import StackUnwind.Proofs.InnermostHandler
import StackUnwind.Proofs.LogicalFrames
import Mathlib

/-!
# Episodes with cleanup landings

An exception that lands in cleanup pads takes several calls to propagate: one
that raises it, and one for each cleanup that resumes it. Every call begins
with a fresh shadow filter, and a resuming call shows it the landed frame,
which then runs at the pad. So the frames that an episode accounts for are
those that the filters of its legs show, and they are the frames of one walk
exactly when every new filter is in step with the filter of that walk, or
meets no program frame that would tell them apart.

Both are stated for every captured stack, every number of landings and every
host that keeps all traceback lines. Episodes that end in another fault than
the missing handler are not followed.
-/
namespace StackUnwind.CleanupEpisode

/-- What a call leaves: the engine, the cursor, the session and the result. -/
abbrev Call := Engine × Cursor × Session × Except Fault Landed

/-- An episode on a stack of `total` frames, from one of its calls onwards. The
innermost frame of the call stands at position `base` of the stack. The
episode lists its cleanup landings, each by the position of its frame and the
pad, and covers the frames up to the one that catches, or all. -/
inductive Episode (total : Nat) :
    Nat → Call → List (Nat × Word) → Nat → Engine × Session → Prop
  | caught {base call pad bp filter landing}
      (hresult : call.2.2.2 = .ok ⟨pad, bp, .catches filter⟩)
      (hlanding : call.2.1.landing? = some landing) :
      Episode total base call [] (base + landing.frameIndex + 1) (call.1, call.2.2.1)
  | unhandled {base call count} (hresult : call.2.2.2 = .error (.noHandler count)) :
      Episode total base call [] total (call.1, call.2.2.1)
  | resumed {base call pad bp landing next now stops covered final}
      (hresult : call.2.2.2 = .ok ⟨pad, bp, .cleanup⟩)
      (hlanding : call.2.1.landing? = some landing) (hnext : call.2.1.afterLanding? = some next)
      (hepisode : Episode total (base + landing.frameIndex)
        (call.1.resumeCleanup now next call.2.2.1) stops covered final) :
      Episode total base call ((base + landing.frameIndex, pad) :: stops) covered final

/-- The filter of a call that resumes after a pad, once it has seen the landed frame. -/
def restart (host : Host) (pad : Word) : ShadowFilter :=
  match host.classifier.classify pad with
  | .compiled region => ⟨region.isOsr⟩
  | .deoptTrampoline => ⟨true⟩
  | _ => {}

/-- The frames that one call accounts for, and the filter it begins with. -/
structure Leg where
  filter : ShadowFilter
  frames : List CapturedFrame

/-- The legs of an episode from position `first` on. -/
def legs (host : Host) (frames : List CapturedFrame) (covered : Nat) :
    Nat → ShadowFilter → List (Nat × Word) → List Leg
  | first, filter, [] => [⟨filter, (frames.take covered).drop first⟩]
  | first, filter, (position, pad) :: stops =>
      ⟨filter, (frames.take (position + 1)).drop first⟩ ::
        legs host frames covered (position + 1) (restart host pad) stops

/-- What the legs account for, one entry for each physical frame. -/
def accounted (host : Host) (legs : List Leg) : List (Option Frame) :=
  legs.flatMap fun leg => host.shown leg.filter leg.frames

/-- Each leg begins in the state of a filter that is never restarted, or meets
no program frame before a trampoline. -/
def InStep (host : Host) : ShadowFilter → List Leg → Prop
  | _, [] => True
  | filter, leg :: rest =>
      (leg.filter = filter ∨ host.BeginsQuiet leg.frames) ∧
        InStep host (host.filterAfter filter leg.frames) rest

theorem accounted_eq_iff (host : Host) (filter : ShadowFilter) (legs : List Leg) :
    accounted host legs = host.shown filter (legs.flatMap Leg.frames) ↔
      InStep host filter legs := by
  induction legs generalizing filter with
  | nil => simp [accounted, InStep, Host.shown]
  | cons leg rest ih =>
      have hsplit : accounted host (leg :: rest) =
          host.shown leg.filter leg.frames ++ accounted host rest := rfl
      rw [hsplit, List.flatMap_cons, Host.shown_append, InStep, ← Host.shown_eq_iff, ← ih]
      constructor
      · intro h
        -- Both sides have an entry for each frame, so the equation splits at the leg.
        exact List.append_inj h (by rw [Host.shown_length, Host.shown_length])
      · rintro ⟨hleg, hrest⟩
        rw [hleg, hrest]

/-- Landing in the frame loses no shadow: none is awaited there, or the frame
is a trampoline, or it is the shadow itself and awaits no other. -/
def Harmless (host : Host) (filter : ShadowFilter) (frame : CapturedFrame) : Prop :=
  match host.eventOf? frame with
  | none => filter.skipNext = false
  | some (.deoptTrampoline ..) => True
  | some (.frame logical) => filter.skipNext = true → logical.isOsr = false

/-- When a pad belongs to the code of its frame, the new filter is in step
exactly after harmless landings. -/
theorem restart_eq_iff {host : Host} {frame : CapturedFrame} {pad : Word}
    (hpad : host.classifier.classify pad = host.kindOf frame) (filter : ShadowFilter) :
    restart host pad = (filter.see (host.eventOf? frame)).1 ↔ Harmless host filter frame := by
  obtain ⟨skipNext⟩ := filter
  unfold restart Harmless Host.eventOf?
  rw [hpad]
  cases host.kindOf frame with
  | compiled region =>
      cases skipNext <;>
        simp [ShadowFilter.see, ShadowFilter.accept, Frame.isOsr, Frame.region?]
  | interpreted =>
      cases skipNext <;>
        simp [ShadowFilter.see, ShadowFilter.accept, Frame.isOsr, Frame.region?]
  | deoptTrampoline => simp [ShadowFilter.see, ShadowFilter.accept]
  | generatorEntry => cases skipNext <;> simp [ShadowFilter.see]
  | foreign => cases skipNext <;> simp [ShadowFilter.see]

/-- The landings lie further and further out, from position `first` on. -/
def Ascends : Nat → List (Nat × Word) → Prop
  | _, [] => True
  | first, (position, _) :: stops => first ≤ position ∧ Ascends (position + 1) stops

theorem take_split (frames : List CapturedFrame) {first last : Nat} (h : first ≤ last) :
    frames.take last = frames.take first ++ (frames.take last).drop first := by
  have htake : frames.take first = (frames.take last).take first := by
    rw [List.take_take, Nat.min_eq_left h]
  rw [htake, List.take_append_drop]

/-- All legs are in step when every new filter is in the state of one that
was never restarted. -/
theorem inStep_of_restarts {host : Host} {frames : List CapturedFrame} {covered : Nat}
    (first : Nat) {stops : List (Nat × Word)} (hascends : Ascends first stops)
    (hrestarts : ∀ position pad, (position, pad) ∈ stops →
      restart host pad = host.filterAfter {} (frames.take (position + 1))) :
    InStep host (host.filterAfter {} (frames.take first))
      (legs host frames covered first (host.filterAfter {} (frames.take first)) stops) := by
  induction stops generalizing first with
  | nil => exact ⟨.inl rfl, trivial⟩
  | cons stop stops ih =>
      obtain ⟨position, pad⟩ := stop
      obtain ⟨hfirst, hrest⟩ := hascends
      have hafter : host.filterAfter (host.filterAfter {} (frames.take first))
          ((frames.take (position + 1)).drop first) =
            host.filterAfter {} (frames.take (position + 1)) := by
        rw [← Host.filterAfter_append, ← take_split frames (by omega)]
      have hleg := ih _ hrest fun p q hp => hrestarts p q (List.mem_cons_of_mem _ hp)
      refine ⟨.inl rfl, ?_⟩
      rw [hafter, hrestarts position pad List.mem_cons_self]
      exact hleg

theorem inStep_of_harmless {host : Host} {frames : List CapturedFrame} {covered : Nat}
    {stops : List (Nat × Word)} (hascends : Ascends 0 stops)
    (hharmless : ∀ position pad, (position, pad) ∈ stops → ∃ frame,
      frames[position]? = some frame ∧ host.classifier.classify pad = host.kindOf frame ∧
        Harmless host (host.filterAfter {} (frames.take position)) frame) :
    InStep host {} (legs host frames covered 0 {} stops) := by
  refine inStep_of_restarts 0 hascends fun position pad hstop => ?_
  obtain ⟨frame, hframe, hpad, hlanding⟩ := hharmless position pad hstop
  have htake : frames.take (position + 1) = frames.take position ++ [frame] := by
    rw [List.take_add_one, hframe]
    rfl
  rw [htake, Host.filterAfter_append]
  exact (restart_eq_iff hpad _).mpr hlanding

/-! The state of an open episode -/

section
variable {host : Host} {before : List Frame} {seen : List (Option Frame)}

/-- The traceback and the cleanups are those of the frames seen, of which the
last is not cleaned up. -/
structure Accounts (host : Host) (before : List Frame) (seen : List (Option Frame))
    (session : Session) (ledger : Ledger) : Prop where
  traceback : session.traceback = host.lines seen
  cleanups : ledger.cleanups = before ++ host.known seen.dropLast

/-- The session waits for the next frame, with the last one seen pending. -/
structure Open (host : Host) (memory : Memory) (before : List Frame)
    (seen : List (Option Frame)) (session : Session) (ledger : Ledger) : Prop
    extends Accounts host before seen session ledger where
  active : session.active = true
  reraise : session.reraise = false
  pending : session.pending? =
    seen.getLast?.bind fun frame? => frame?.filter host.hooks.knows
  releasable : ∀ frame, session.pending? = some frame → frame.Releasable memory

/-- A session stays open when the base it remembers changes. -/
theorem Open.rebase {memory : Memory} {session : Session} {ledger ledger' : Ledger}
    (h : Open host memory before seen session ledger) (base? : Option Word)
    (hledger : ledger'.cleanups = ledger.cleanups) :
    Open host memory before seen { session with cleanupBase? := base? } ledger' where
  traceback := h.traceback
  cleanups := hledger.trans h.cleanups
  active := h.active
  reraise := h.reraise
  pending := h.pending
  releasable := h.releasable

theorem known_dropLast (host : Host) (seen : List (Option Frame)) :
    host.known seen.dropLast ++
      (seen.getLast?.bind fun frame? => frame?.filter host.hooks.knows).toList =
        host.known seen := by
  rcases List.eq_nil_or_concat seen with rfl | ⟨front, last, rfl⟩
  · rfl
  · rw [List.concat_eq_append, List.dropLast_concat, List.getLast?_concat, Host.known_concat]
    rfl

variable {now : Nat} {memory : Memory} {c : CapturedCursor} {frame : CapturedFrame}
variable {ahead : List CapturedFrame} {u u' : Unwinding}

/-- Accounting for a frame adds what the filter shows of it. -/
theorem Open.account (h : Open host c.memory before seen u.session u.ledger)
    (hlimit : host.settings.tracebackLimit = 0) (hrelease : host.CanRelease c.memory frame) :
    ∃ u', (u.onto c frame).account host frame = (u', .ok ()) ∧
      u'.cursor = .captured (c.onto frame) ∧ u'.skipThrough? = u.skipThrough? ∧
      u'.shadows = (u.shadows.see (host.eventOf? frame)).1 ∧
      Open host c.memory before (seen ++ [(u.shadows.see (host.eventOf? frame)).2])
        u'.session u'.ledger := by
  have hmoved : (u.onto c frame).cursor = .captured (c.onto frame) := rfl
  obtain ⟨u', haccount, hcursor, hskip, hshadows, haccounted⟩ :=
    Unwinding.account_ok host hmoved rfl h.releasable
  have hpending : u'.session.pending? =
      (u.shadows.see (host.eventOf? frame)).2.filter host.hooks.knows := haccounted.pending
  refine ⟨u', haccount, hcursor, hskip, hshadows, ⟨?_, ?_⟩, ?_, ?_, ?_, ?_⟩
  · rw [haccounted.traceback_of_unlimited h.reraise hlimit]
    change u.session.traceback ++ _ = _
    rw [h.traceback, Host.lines_concat]
    rfl
  · rw [haccounted.cleanups]
    change u.ledger.cleanups ++ u.session.pending?.toList = _
    rw [h.cleanups, h.pending, List.append_assoc, known_dropLast, List.dropLast_concat]
  · exact haccounted.active.trans h.active
  · exact haccounted.reraise h.reraise
  · rw [hpending, List.getLast?_concat]
    rfl
  · intro logical hlogical
    rw [hpending, Option.filter_eq_some_iff] at hlogical
    exact hrelease logical (ShadowFilter.see_some hlogical.1)

/-- How a call ends that has accounted for the frames seen and goes on with a
filter over the frames ahead of `c`. Faults other than the missing handler are
not followed. -/
inductive Ends (host : Host) (before : List Frame) (c : CapturedCursor)
    (seen : List (Option Frame)) (filter : ShadowFilter) (ahead : List CapturedFrame)
    (cursor : Cursor) (session : Session) (ledger : Ledger) : Except Fault Landed → Prop
  | exhausted {count}
      (haccounts : Accounts host before (seen ++ host.shown filter ahead) session ledger) :
      Ends host before c seen filter ahead cursor session ledger (.error (.noHandler count))
  | stopped {fault} (hfault : ∀ count, fault ≠ .noHandler count) :
      Ends host before c seen filter ahead cursor session ledger (.error fault)
  | landed {frame outer c' landing pad action} (passed : List CapturedFrame)
      (hahead : ahead = passed ++ frame :: outer)
      (hcursor : cursor = .captured c') (hframes : c'.frames = c.frames)
      (hmemory : c'.memory = c.memory) (hlanding : c'.landing? = some landing)
      (hindex : landing.frameIndex = c.nextPosition + passed.length) (hip : landing.ip = pad)
      (haccounts : Accounts host before (seen ++ host.shown filter (passed ++ [frame])) session
        ledger)
      (hopen : action = .cleanup →
        Open host c.memory before (seen ++ host.shown filter (passed ++ [frame])) session ledger ∧
          session.cleanupBase? = some frame.bp) :
      Ends host before c seen filter ahead cursor session ledger (.ok ⟨pad, frame.bp, action⟩)

/-- A frame that is passed belongs to the frames ahead. -/
theorem Ends.cons {filter : ShadowFilter} {cursor : Cursor} {session : Session} {ledger : Ledger}
    {result : Except Fault Landed}
    (h : Ends host before (c.onto frame) (seen ++ [(filter.see (host.eventOf? frame)).2])
      (filter.see (host.eventOf? frame)).1 ahead cursor session ledger result) :
    Ends host before c seen filter (frame :: ahead) cursor session ledger result := by
  have hshown (rest : List CapturedFrame) :
      seen ++ [(filter.see (host.eventOf? frame)).2] ++
          host.shown (filter.see (host.eventOf? frame)).1 rest =
        seen ++ host.shown filter (frame :: rest) := List.append_assoc _ _ _
  cases h with
  | exhausted haccounts => exact .exhausted (hshown ahead ▸ haccounts)
  | stopped hfault => exact .stopped hfault
  | landed passed hahead hcursor hframes hmemory hlanding hindex hip haccounts
      hopen =>
      refine .landed (frame :: passed) (congrArg _ hahead) hcursor hframes hmemory
        hlanding ?_ hip (hshown _ ▸ haccounts) fun hcleanup => hshown _ ▸ hopen hcleanup
      rw [hindex, List.length_cons]
      change c.nextPosition + 1 + passed.length = _
      omega

/-- Each frame that a run reaches adds what the filter shows of it. -/
theorem Open.run {budget : Nat} {result : Except Fault Landed}
    (hrun : Unwinding.Run host now budget c ahead u u' result) (hskip : u.skipThrough? = none)
    (h : Open host c.memory before seen u.session u.ledger)
    (hlimit : host.settings.tracebackLimit = 0)
    (hreleases : ∀ frame ∈ ahead, host.CanRelease c.memory frame) :
    Ends host before c seen u.shadows ahead u'.cursor u'.session u'.ledger result := by
  induction hrun generalizing seen with
  | exhausted =>
      refine .exhausted ?_
      rw [Host.shown, List.append_nil]
      exact ⟨h.traceback, h.cleanups⟩
  | tooDeep => exact .stopped fun count => by simp
  | skips hsome =>
      rw [hskip] at hsome
      cases hsome
  | refused _ haccount =>
      obtain ⟨_, hok, -⟩ := h.account hlimit (hreleases _ List.mem_cons_self)
      rw [hok] at haccount
      cases haccount
  | faults _ _ hverdict =>
      have hdecides := InnermostHandler.decides_of_fault hverdict
      exact .stopped fun count heq => InnermostHandler.Decides.ne_noHandler (heq ▸ hdecides)
  | @lands left c frame rest u v pad action _ haccount _ =>
      obtain ⟨_, hok, hcursor, -, -, hopen⟩ := h.account hlimit (hreleases _ List.mem_cons_self)
      rw [hok] at haccount
      cases haccount
      obtain ⟨hresult, hlanded⟩ := Unwinding.land_captured now hcursor rfl
        (host.settings.maxWalkDepth - left) pad action
      obtain ⟨htraceback, hcleanups⟩ := Unwinding.land_keeps now v
        (host.settings.maxWalkDepth - left) pad action
      have haccounts := Accounts.mk (htraceback.trans hopen.traceback)
        (hcleanups.trans hopen.cleanups)
      rw [hresult]
      refine .landed [] rfl hlanded rfl rfl rfl rfl rfl haccounts fun hcleanup => ?_
      subst hcleanup
      have hsession := Unwinding.land_cleanup_session now v
        (host.settings.maxWalkDepth - left) pad
      rw [hsession, hcursor]
      exact ⟨hopen.rebase _ hcleanups, rfl⟩
  | passes _ haccount _ _ ih =>
      obtain ⟨_, hok, _, hkeeps, hshadows, hopen⟩ :=
        h.account hlimit (hreleases _ List.mem_cons_self)
      rw [hok] at haccount
      cases haccount
      have hends := ih (hkeeps.trans hskip) hopen
        fun frame hframe => hreleases frame (List.mem_cons_of_mem _ hframe)
      rw [hshadows] at hends
      exact hends.cons

/-! Calls -/

theorem raise_ends (now : Nat) (engine : Engine) (exception : ExceptionInfo) (frames : List CapturedFrame)
    {session : Session} (hidle : session.active = false)
    (hlimit : engine.host.settings.tracebackLimit = 0)
    (hreleases : ∀ frame ∈ frames, engine.host.CanRelease memory frame) :
    let call := engine.raise now exception false (.captured { frames, memory }) session
    call.1.host = engine.host ∧
      Ends engine.host engine.ledger.cleanups { frames, memory } [] {} frames call.2.1 call.2.2.1
        call.1.ledger call.2.2.2 := by
  rw [Engine.raise_of_idle engine now exception false _ hidle]
  obtain ⟨u, result, hcall, hrun⟩ := Engine.unwind_exec
    { engine with ledger := engine.ledgerOpened exception } now none { frames, memory }
    (session.opened now exception false)
  rw [hcall]
  refine ⟨rfl, Open.run hrun rfl ⟨⟨rfl, ?_⟩, rfl, rfl, rfl, nofun⟩ hlimit hreleases⟩
  exact (List.append_nil _).symm

/-- A fresh filter that has seen a frame at its pad. -/
theorem see_pad (hexact : frame.exact = true) :
    (({} : ShadowFilter).see (host.eventOf? frame)).1 = restart host frame.ip := by
  have hkind : host.kindOf frame = host.classifier.classify frame.ip := by
    simp [Host.kindOf, Activation.lookupPc, hexact]
  unfold Host.eventOf? restart
  rw [hkind]
  cases host.classifier.classify frame.ip <;> rfl

/-- A run that passes over the landed frame goes on outside it, with a filter
that has seen the frame at its pad. -/
theorem Open.run_outside {budget : Nat} {outer : List CapturedFrame}
    {result : Except Fault Landed}
    (hrun : Unwinding.Run host now budget c (frame :: outer) u u' result)
    (hskip : u.skipThrough? = some frame.bp) (hfresh : u.shadows = {}) (hexact : frame.exact = true)
    (h : Open host c.memory before seen u.session u.ledger)
    (hlimit : host.settings.tracebackLimit = 0)
    (hreleases : ∀ f ∈ outer, host.CanRelease c.memory f) :
    Ends host before (c.onto frame) seen (restart host frame.ip) outer u'.cursor u'.session
      u'.ledger result := by
  cases hrun with
  | tooDeep => exact .stopped nofun
  | skips hsome hrun =>
      rw [hskip] at hsome
      cases hsome
      have hmoved : (u.onto c frame).cursor = .captured (c.onto frame) := rfl
      have hc : (c.onto frame).current? = some frame := rfl
      obtain ⟨notices, hobserve⟩ := Unwinding.observe_captured host hmoved hc
      rw [hobserve] at hrun
      have hfilter : ((u.onto c frame).shadows.see (host.eventOf? frame)).1 =
          restart host frame.ip := by
        change (u.shadows.see (host.eventOf? frame)).1 = _
        rw [hfresh, see_pad hexact]
      rw [← hfilter]
      have hbp : (Cursor.captured (c.onto frame)).bp = frame.bp := Cursor.bp_captured rfl
      -- The first frame has the base that is looked for, so no other is passed over.
      refine Open.run hrun ?_ (h.rebase u.session.cleanupBase? rfl) hlimit hreleases
      simp only [Unwinding.skip, Unwinding.onto, hbp, if_true]
  | refused hnone => simp [hskip] at hnone
  | faults hnone => simp [hskip] at hnone
  | lands hnone => simp [hskip] at hnone
  | passes hnone => simp [hskip] at hnone

/-- A resuming call passes over the landed frame and goes on outside it. -/
theorem resume_ends (now : Nat) (engine : Engine) {outer : List CapturedFrame} {session : Session}
    (hexact : frame.exact = true)
    (hopen : Open engine.host memory before seen session engine.ledger)
    (hbase : session.cleanupBase? = some frame.bp)
    (hlimit : engine.host.settings.tracebackLimit = 0)
    (hreleases : ∀ f ∈ outer, engine.host.CanRelease memory f) :
    let stack : CapturedCursor := { frames := frame :: outer, memory }
    let call := engine.resumeCleanup now (.captured stack) session
    call.1.host = engine.host ∧
      Ends engine.host before (stack.onto frame) seen (restart engine.host frame.ip) outer
        call.2.1 call.2.2.1 call.1.ledger call.2.2.2 := by
  dsimp only
  unfold Engine.resumeCleanup
  rw [if_pos hopen.active, hbase]
  obtain ⟨u, result, hcall, hrun⟩ := engine.unwind_exec now (some frame.bp)
    { frames := frame :: outer, memory } { session with cleanupBase? := none }
  rw [hcall]
  exact ⟨rfl, Open.run_outside hrun rfl rfl hexact (hopen.rebase none rfl) hlimit hreleases⟩

/-- A landing splits the frames ahead. The stack at the pad is the landed
frame, which stands there, and the frames outside it. -/
theorem Ends.split {filter : ShadowFilter} {cursor : Cursor} {session : Session} {ledger : Ledger}
    {pad bp : Word} {action : Action} {landing : Landing}
    (h : Ends host before c seen filter ahead cursor session ledger (.ok ⟨pad, bp, action⟩))
    (hahead : c.ahead = ahead) (hlanding : cursor.landing? = some landing) :
    ∃ passed frame outer padded, ahead = passed ++ frame :: outer ∧
      landing.frameIndex = c.nextPosition + passed.length ∧
      cursor.afterLanding? =
        some (.captured { frames := padded :: outer, memory := c.memory }) ∧
      padded.exact = true ∧ padded.ip = pad ∧ padded.bp = bp ∧
      Accounts host before (seen ++ host.shown filter (passed ++ [frame])) session ledger ∧
      (action = .cleanup →
        Open host c.memory before (seen ++ host.shown filter (passed ++ [frame])) session ledger ∧
          session.cleanupBase? = some bp) := by
  cases h with
  | @landed frame outer c' recorded _ _ passed hsplit hcursor hframes hmemory hrecorded hindex hip
      haccounts hopen =>
      subst hcursor
      obtain rfl : recorded = landing := Option.some.inj (hrecorded.symm.trans hlanding)
      have hdrop : c'.frames.drop recorded.frameIndex = frame :: outer := by
        have hc : c.frames.drop c.nextPosition = passed ++ frame :: outer := hahead.trans hsplit
        rw [hframes, hindex, ← List.drop_drop, hc, List.drop_left]
      refine ⟨passed, frame, outer,
        { frame with ip := recorded.ip, registers := recorded.registers, exact := true },
        hsplit, hindex, ?_, rfl, hip, rfl, haccounts, hopen⟩
      simp only [Cursor.afterLanding?, CapturedCursor.afterLanding?, hrecorded, hdrop, hmemory,
        Option.map_some]

/-! Whole episodes -/

/-- The frames up to the one landed in, and those outside it. -/
theorem drop_of_landing {frames passed outer : List CapturedFrame} {first : Nat}
    (h : frames.drop first = passed ++ frame :: outer) :
    (frames.take (first + passed.length + 1)).drop first = passed ++ [frame] ∧
      frames.drop (first + passed.length + 1) = outer ∧
      first + passed.length + 1 ≤ frames.length := by
  have hlength := congrArg List.length h
  rw [List.length_drop, List.length_append, List.length_cons] at hlength
  have hcons : passed ++ frame :: outer = (passed ++ [frame]) ++ outer := by simp
  have hfront : (passed ++ [frame]).length = passed.length + 1 := by simp
  refine ⟨?_, ?_, by omega⟩
  · rw [List.drop_take, h, hcons, Nat.add_assoc, Nat.add_sub_cancel_left, ← hfront,
      List.take_left]
  · rw [Nat.add_assoc, ← List.drop_drop, h, hcons, ← hfront, List.drop_left]

theorem segments_append (frames : List CapturedFrame) {first middle last : Nat}
    (hfirst : first ≤ middle) (hlast : middle ≤ last) (hlength : first ≤ frames.length) :
    (frames.take middle).drop first ++ (frames.take last).drop middle =
      (frames.take last).drop first := by
  have hmiddle : first ≤ (frames.take middle).length := by
    rw [List.length_take]
    omega
  rw [← List.drop_append_of_le_length hmiddle, ← take_split frames hlast]

/-- An episode accounts for what its legs show, from any of its calls on. -/
theorem Episode.accounts {frames : List CapturedFrame} {base covered : Nat} {call : Call}
    {stops : List (Nat × Word)} {final : Engine × Session} {filter : ShadowFilter}
    (hepisode : Episode frames.length base call stops covered final) (first : Nat)
    (hhost : call.1.host = host)
    (hends : Ends host before c seen filter (frames.drop first) call.2.1 call.2.2.1
      call.1.ledger call.2.2.2)
    (hahead : c.ahead = frames.drop first) (hfirst : base + c.nextPosition = first)
    (hlength : first ≤ frames.length) (hlimit : host.settings.tracebackLimit = 0)
    (hreleases : ∀ frame ∈ frames, host.CanRelease c.memory frame) :
    Accounts host before (seen ++ accounted host (legs host frames covered first filter stops))
        final.2 final.1.ledger ∧
      (legs host frames covered first filter stops).flatMap Leg.frames =
        (frames.take covered).drop first ∧
      first ≤ covered ∧ covered ≤ frames.length ∧ Ascends first stops := by
  -- Every call of the episode is in a state that `Ends` describes, with all
  -- frames seen before it and a filter of its own. A resumption restores that
  -- state one frame outside the landing.
  induction hepisode generalizing c seen filter first with
  | @caught base call pad bp action landing hresult hlanding =>
      rw [hresult] at hends
      obtain ⟨passed, frame, outer, -, hsplit, hindex, -, -, -, -, haccounts, -⟩ :=
        hends.split hahead hlanding
      obtain ⟨hleg, -, hle⟩ := drop_of_landing hsplit
      have hposition : base + landing.frameIndex + 1 = first + passed.length + 1 := by omega
      rw [hposition]
      simp only [legs, accounted, List.flatMap_cons, List.flatMap_nil, List.append_nil, hleg]
      exact ⟨haccounts, trivial, by omega, hle, trivial⟩
  | @unhandled base call count hresult =>
      rw [hresult] at hends
      cases hends with
      | exhausted haccounts =>
          simp only [legs, accounted, List.flatMap_cons, List.flatMap_nil, List.append_nil,
            List.take_length]
          exact ⟨haccounts, trivial, hlength, Nat.le_refl _, trivial⟩
      | stopped hfault => exact absurd rfl (hfault count)
  | @resumed base call pad bp landing next now stops covered final hresult hlanding hnext _ ih =>
      rw [hresult] at hends
      obtain ⟨passed, frame, outer, padded, hsplit, hindex, hafter, hexact, hip, hbp, -, hopen⟩ :=
        hends.split hahead hlanding
      obtain ⟨hleg, houter, hle⟩ := drop_of_landing hsplit
      obtain ⟨hopen, hbase⟩ := hopen rfl
      obtain rfl := Option.some.inj (hnext.symm.trans hafter)
      have hposition : base + landing.frameIndex = first + passed.length := by omega
      rw [hposition] at ih ⊢
      subst hhost houter
      have houtside : ∀ f ∈ frames.drop (first + passed.length + 1),
          call.1.host.CanRelease c.memory f :=
        fun f hf => hreleases f (List.mem_of_mem_drop hf)
      obtain ⟨hhost, hresume⟩ := resume_ends now call.1 hexact hopen
        (hbase.trans (congrArg some hbp.symm)) hlimit houtside
      rw [hip] at hresume
      obtain ⟨haccounts, hframes, hcovered, hbound, hascends⟩ :=
        ih _ hhost hresume rfl rfl hle hreleases
      refine ⟨?_, ?_, by omega, hbound, by omega, hascends⟩
      · rw [List.append_assoc] at haccounts
        simpa only [legs, accounted, List.flatMap_cons, hleg] using haccounts
      · rw [legs, List.flatMap_cons, hframes]
        exact segments_append frames (by omega) hcovered hlength

end

/-- An episode accounts for exactly the frames that the filters of its legs
show: these have the traceback lines, and those of them inside the last frame
covered are cleaned up. They are the frames of one walk exactly when every leg
is in step; then the traceback is that of the walk, and each frame of the walk
that lies inside the last one covered is cleaned up once. Legs are in step
when every cleanup landing is harmless and at a pad of its frame's own code. -/
theorem episode_in_step_iff (engine : Engine) (now : Nat) (exception : ExceptionInfo)
    (frames : List CapturedFrame) (memory : Memory) (session : Session)
    (hidle : session.active = false) (hlimit : engine.host.settings.tracebackLimit = 0)
    (hgenerator : ∀ frame ∈ frames, engine.host.kindOf frame ≠ .generatorEntry)
    (hreleases : ∀ frame ∈ frames, engine.host.CanRelease memory frame)
    {stops : List (Nat × Word)} {covered : Nat} {final : Engine × Session}
    (hepisode : Episode frames.length 0
      (engine.raise now exception false (.captured { frames, memory }) session)
      stops covered final) :
    let host := engine.host
    let split := legs host frames covered 0 {} stops
    let once := host.shown {} frames
    let depth := host.settings.maxWalkDepth
    let walk := Cursor.traceback host (.captured { frames := frames.take covered, memory })
    (final.2.traceback = host.lines (accounted host split) ∧
      final.1.ledger.cleanups =
        engine.ledger.cleanups ++ host.known (accounted host split).dropLast) ∧
    (accounted host split = once.take covered ↔ InStep host {} split) ∧
    walk.2 = (if covered ≤ depth then .ok () else .error (.walkTooDeep depth)) ∧
    (InStep host {} split →
      (covered ≤ depth → final.2.traceback = walk.1.state.2.toList) ∧
      final.1.ledger.cleanups =
        engine.ledger.cleanups ++ host.known (once.take (covered - 1))) ∧
    ((∀ position pad, (position, pad) ∈ stops → ∃ frame, frames[position]? = some frame ∧
        host.classifier.classify pad = host.kindOf frame ∧
        Harmless host (host.filterAfter {} (frames.take position)) frame) →
      InStep host {} split) := by
  obtain ⟨hhost, hends⟩ := raise_ends now engine exception frames hidle hlimit hreleases
  obtain ⟨haccounts, hframes, -, hcovered, hascends⟩ :=
    hepisode.accounts 0 hhost hends rfl rfl (Nat.zero_le _) hlimit hreleases
  rw [List.nil_append] at haccounts
  have hiff := accounted_eq_iff engine.host {} (legs engine.host frames covered 0 {} stops)
  rw [hframes, List.drop_zero, Host.shown_take] at hiff
  have hkinds : ∀ frame ∈ frames.take covered, engine.host.kindOf frame ≠ .generatorEntry :=
    fun frame hframe => hgenerator frame (List.mem_of_mem_take hframe)
  obtain ⟨hresult, hlines⟩ := Cursor.traceback_captured memory hkinds
  rw [List.length_take_of_le hcovered] at hresult
  refine ⟨⟨haccounts.traceback, haccounts.cleanups⟩, hiff, hresult, fun hstep => ?_,
    fun hharmless => inStep_of_harmless hascends hharmless⟩
  have hshown := hiff.mpr hstep
  refine ⟨fun hdepth => ?_, ?_⟩
  · rw [haccounts.traceback, hshown, hlines, Host.shown_take, List.take_take,
      Nat.min_eq_right hdepth]
  · have hlength : ((engine.host.shown {} frames).take covered).length = covered := by
      rw [List.length_take_of_le (by rwa [Host.shown_length])]
    rw [haccounts.cleanups, hshown, List.dropLast_eq_take, hlength, List.take_take,
      Nat.min_eq_left (Nat.sub_le covered 1)]

/-- One entry, for the first 64 bytes of a function, that cleans up at byte 80. -/
def cleaningTable : Bytes :=
  [0xff, 0xff, 0x01, 0x04, 0x00, 0x40, 0x50, 0x00]

def cleaningRegion : CodeRegion :=
  { start := 0x2000, size := 0x100, tier := .optimized, functionId := 8
    handlers? := some cleaningTable }

/-- Compiled code that catches, compiled code that cleans up, an interpreter
and a trampoline; the runtime knows every frame. -/
def mixedHost : Host :=
  { classifier :=
      { regions := ⟨[InnermostHandler.catchingRegion, cleaningRegion]⟩
        interpreter := ⟨0x5000, 0x6000⟩
        deoptTrampoline := ⟨0x6100, 0x6140⟩ }
    hooks :=
      { frameInfo := fun frame => some ⟨frame.bp, "f", "app.py"⟩
        statement := fun _ => none } }

def trampolineFrame : CapturedFrame := { toActivation := .ofPointers 0x6108 0x7000 0x7010 }

def shadowFrame : CapturedFrame := { toActivation := .ofPointers 0x5105 0x7040 0x7050 }

def catchingFrame : CapturedFrame := { toActivation := .ofPointers 0x1020 0x7060 0x7070 }

/-- A frame of the runtime that brings its own exception table. -/
def foreignCleaningFrame : CapturedFrame :=
  { toActivation := .ofPointers 0x9010 0x7020 0x7030, handlers? := some ⟨cleaningTable, 0x9000⟩ }

def compiledCleaningFrame : CapturedFrame := { toActivation := .ofPointers 0x2010 0x7054 0x7058 }

/-- The call that raises an exception on some frames. -/
def raisedOn (frames : List CapturedFrame) : Call :=
  Engine.raise (.create mixedHost) 0 ⟨1, 2, 3⟩ false (.captured { frames, memory := .empty })
    { slot := 0x8000 }

/-- The call that resumes after the cleanup pad of `frame`, with the frames outside it. -/
def resumedAt (call : Call) (frame : CapturedFrame) (pad : Word) (outer : List CapturedFrame) :
    Call :=
  call.1.resumeCleanup 0
    (.captured { frames := { frame.atPad pad 0x8000 0 with exact := true } :: outer
                 memory := .empty })
    call.2.2.1

/-- A cleanup pad lies between a trampoline and its shadow. -/
def strayStack : List CapturedFrame :=
  [trampolineFrame, foreignCleaningFrame, shadowFrame, catchingFrame]

/-- A cleanup pad lies in a logical frame. -/
def steadyStack : List CapturedFrame :=
  [trampolineFrame, shadowFrame, compiledCleaningFrame, catchingFrame]

def lineAt (bp : Word) : TracebackEntry := ⟨bp, "f", "app.py", none⟩

def shadowLogical : Frame := .interpreted 0x5105 0x7050

theorem strayEpisode :
    let call := resumedAt (raisedOn strayStack) foreignCleaningFrame 0x9050
      [shadowFrame, catchingFrame]
    Episode 4 0 (raisedOn strayStack) [(1, 0x9050)] 4 (call.1, call.2.2.1) := by
  have hcleans : (raisedOn strayStack).2.2.2 = .ok ⟨0x9050, 0x7030, .cleanup⟩ := by cbv
  have hlanding : (raisedOn strayStack).2.1.landing? =
      some ((foreignCleaningFrame.atPad 0x9050 0x8000 0).landing 1) := by cbv
  have hnext : (raisedOn strayStack).2.1.afterLanding? = some (.captured
      { frames := { foreignCleaningFrame.atPad 0x9050 0x8000 0 with exact := true } ::
          [shadowFrame, catchingFrame]
        memory := .empty }) := by cbv
  have hcatches : (resumedAt (raisedOn strayStack) foreignCleaningFrame 0x9050
      [shadowFrame, catchingFrame]).2.2.2 = .ok ⟨0x1050, 0x7070, .catches 1⟩ := by cbv
  have hcaught : (resumedAt (raisedOn strayStack) foreignCleaningFrame 0x9050
      [shadowFrame, catchingFrame]).2.1.landing? =
      some ((catchingFrame.atPad 0x1050 0x8000 1).landing 2) := by cbv
  exact .resumed hcleans hlanding hnext (.caught hcatches hcaught)

theorem steadyEpisode :
    let call := resumedAt (raisedOn steadyStack) compiledCleaningFrame 0x2050 [catchingFrame]
    Episode 4 0 (raisedOn steadyStack) [(2, 0x2050)] 4 (call.1, call.2.2.1) := by
  have hcleans : (raisedOn steadyStack).2.2.2 = .ok ⟨0x2050, 0x7058, .cleanup⟩ := by cbv
  have hlanding : (raisedOn steadyStack).2.1.landing? =
      some ((compiledCleaningFrame.atPad 0x2050 0x8000 0).landing 2) := by cbv
  have hnext : (raisedOn steadyStack).2.1.afterLanding? = some (.captured
      { frames := { compiledCleaningFrame.atPad 0x2050 0x8000 0 with exact := true } ::
          [catchingFrame]
        memory := .empty }) := by cbv
  have hcatches : (resumedAt (raisedOn steadyStack) compiledCleaningFrame 0x2050
      [catchingFrame]).2.2.2 = .ok ⟨0x1050, 0x7070, .catches 1⟩ := by cbv
  have hcaught : (resumedAt (raisedOn steadyStack) compiledCleaningFrame 0x2050
      [catchingFrame]).2.1.landing? =
      some ((catchingFrame.atPad 0x1050 0x8000 1).landing 1) := by cbv
  exact .resumed hcleans hlanding hnext (.caught hcatches hcaught)

theorem steadyStack_releases : ∀ frame ∈ steadyStack, mixedHost.CanRelease .empty frame := by
  intro frame hframe logical hlogical
  simp only [steadyStack, List.mem_cons, List.not_mem_nil, or_false] at hframe
  rcases hframe with rfl | rfl | rfl | rfl
  · cases hlogical
  · cases hlogical
    trivial
  · cases hlogical
    exact List.forall_mem_nil _
  · cases hlogical
    exact List.forall_mem_singleton.mpr ⟨9, rfl⟩

/-- With a cleanup pad in a logical frame the episode agrees with one walk: the
shadow has no line and is not cleaned up. -/
theorem steadyStack_in_step :
    ∃ final, Episode 4 0 (raisedOn steadyStack) [(2, 0x2050)] 4 final ∧
      final.2.traceback = (Cursor.traceback mixedHost
        (.captured { frames := steadyStack, memory := .empty })).1.state.2.toList ∧
      final.1.ledger.cleanups =
        mixedHost.known ((mixedHost.shown {} steadyStack).take 3) := by
  have hgenerator : ∀ frame ∈ steadyStack, mixedHost.kindOf frame ≠ .generatorEntry := by decide
  have hstep : InStep mixedHost {} (legs mixedHost steadyStack 4 0 {} [(2, 0x2050)]) :=
    ⟨.inl rfl, .inl rfl, trivial⟩
  obtain ⟨-, -, -, hagrees, -⟩ := episode_in_step_iff (.create mixedHost) 0 ⟨1, 2, 3⟩ steadyStack
    .empty { slot := 0x8000 } rfl rfl hgenerator steadyStack_releases steadyEpisode
  obtain ⟨htraceback, hcleanups⟩ := hagrees hstep
  exact ⟨_, steadyEpisode, htraceback (by decide), hcleanups⟩

/-- With a cleanup pad between a trampoline and its shadow the shadow gets a
line and is cleaned up, although one walk drops it. -/
theorem shadow_counted_after_cleanup :
    (∃ final, Episode 4 0 (raisedOn strayStack) [(1, 0x9050)] 4 final ∧
      final.2.traceback = [lineAt 0x7050, lineAt 0x7070] ∧
      final.1.ledger.cleanups = [shadowLogical]) ∧
    (Cursor.traceback mixedHost
      (.captured { frames := strayStack, memory := .empty })).1.state.2.toList =
        [lineAt 0x7070] ∧
    (mixedHost.shown {} strayStack).take 3 = [none, none, none] := by
  refine ⟨⟨_, strayEpisode, by cbv, by cbv⟩, by cbv, by cbv⟩

end StackUnwind.CleanupEpisode
