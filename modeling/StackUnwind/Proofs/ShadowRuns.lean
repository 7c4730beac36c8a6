import StackUnwind.Stack.Shadow
import Mathlib

/-!
# Which frames are shadows

The shadow filter has one bit of state. A trampoline sets it, a frame that is
yielded sets it to whether the frame was entered by on-stack replacement, and a
frame that is dropped clears it, whatever frame it is. In a run of frames
entered by on-stack replacement the bit therefore alternates, beginning with
what stands before the run.

This gives the frames that are dropped in closed form, from the events before
them and without running the filter: by the parity of the run in front and by
whether a trampoline precedes the run.
-/
namespace StackUnwind

namespace WalkEvent

def frame? : WalkEvent → Option Frame
  | .frame logical => some logical
  | .deoptTrampoline .. => none

def isTrampoline : WalkEvent → Bool
  | .frame _ => false
  | .deoptTrampoline .. => true

/-- A frame entered by on-stack replacement. -/
def isOsrFrame : WalkEvent → Bool
  | .frame logical => logical.isOsr
  | .deoptTrampoline .. => false

/-- The length of the run of frames entered by on-stack replacement that ends
the events. -/
def osrRun (before : List WalkEvent) : Nat :=
  (before.reverse.takeWhile isOsrFrame).length

/-- A trampoline stands immediately before that run. -/
def Marked (before : List WalkEvent) : Prop :=
  (before.reverse.dropWhile isOsrFrame).head?.any isTrampoline = true

/-- A frame that follows these events is a shadow. -/
def ShadowNext (before : List WalkEvent) : Prop :=
  (Marked before ∧ Even (osrRun before)) ∨ (¬ Marked before ∧ Odd (osrRun before))

instance : DecidablePred Marked :=
  fun _ => inferInstanceAs (Decidable (_ = true))

instance : DecidablePred ShadowNext :=
  fun _ => inferInstanceAs (Decidable ((_ ∧ _) ∨ (_ ∧ _)))

/-! One more event -/

theorem shadowNext_nil : ¬ ShadowNext [] := by
  simp [ShadowNext, Marked, osrRun]

theorem shadowNext_concat_trampoline (before : List WalkEvent) (ip bp : Word) :
    ShadowNext (before ++ [.deoptTrampoline ip bp]) := by
  simp [ShadowNext, Marked, osrRun, isOsrFrame, isTrampoline]

theorem shadowNext_concat_plain (before : List WalkEvent) {logical : Frame}
    (h : logical.isOsr = false) : ¬ ShadowNext (before ++ [.frame logical]) := by
  simp [ShadowNext, Marked, osrRun, isOsrFrame, isTrampoline, h]

/-- A run that grows by one frame changes its parity and keeps what is before it. -/
theorem shadowNext_concat_osr (before : List WalkEvent) {logical : Frame} (h : logical.isOsr = true) :
    ShadowNext (before ++ [.frame logical]) ↔ ¬ ShadowNext before := by
  have hmarked : Marked (before ++ [.frame logical]) ↔ Marked before := by
    simp [Marked, isOsrFrame, h]
  have hrun : osrRun (before ++ [.frame logical]) = osrRun before + 1 := by
    simp [osrRun, isOsrFrame, h]
  unfold ShadowNext
  rw [hmarked, hrun, Nat.even_add_one, Nat.odd_add_one, Nat.not_even_iff_odd, Nat.not_odd_iff_even]
  by_cases hbefore : Marked before
  · simp [hbefore]
  · simp [hbefore]

end WalkEvent

namespace ShadowFilter

open WalkEvent

/-- What a filter yields for each of the events. -/
def yields : ShadowFilter → List WalkEvent → List (Option Frame)
  | _, [] => []
  | filter, event :: rest => (filter.accept event).2 :: yields (filter.accept event).1 rest

/-- The state in which events leave a filter. -/
def after (filter : ShadowFilter) (events : List WalkEvent) : ShadowFilter :=
  events.foldl (fun filter event => (filter.accept event).1) filter

/-- The logical frames of the events. -/
def emitted (filter : ShadowFilter) (events : List WalkEvent) : List Frame :=
  (filter.yields events).filterMap id

/-- The frames among the events for which a filter yields nothing. -/
def dropped (filter : ShadowFilter) (events : List WalkEvent) : List Frame :=
  (events.zip (filter.yields events)).filterMap fun (event, frame?) =>
    if frame?.isNone then event.frame? else none

/-- The event at a position is a frame, and a fresh filter drops it. -/
def Drops (events : List WalkEvent) (i : Nat) : Prop :=
  ∃ frame, events[i]? = some (.frame frame) ∧ (yields {} events)[i]? = some none

/-! One step -/

@[simp] theorem accept_trampoline (filter : ShadowFilter) (ip bp : Word) :
    filter.accept (.deoptTrampoline ip bp) = (⟨true⟩, none) := rfl

@[simp] theorem accept_shadow (frame : Frame) :
    (⟨true⟩ : ShadowFilter).accept (.frame frame) = (⟨false⟩, none) := rfl

@[simp] theorem accept_frame (frame : Frame) :
    (⟨false⟩ : ShadowFilter).accept (.frame frame) = (⟨frame.isOsr⟩, some frame) := rfl

@[simp] theorem emitted_trampoline (filter : ShadowFilter) (ip bp : Word) (rest : List WalkEvent) :
    filter.emitted (.deoptTrampoline ip bp :: rest) = (⟨true⟩ : ShadowFilter).emitted rest := rfl

@[simp] theorem emitted_shadow (frame : Frame) (rest : List WalkEvent) :
    (⟨true⟩ : ShadowFilter).emitted (.frame frame :: rest) =
      (⟨false⟩ : ShadowFilter).emitted rest := rfl

@[simp] theorem emitted_frame (frame : Frame) (rest : List WalkEvent) :
    (⟨false⟩ : ShadowFilter).emitted (.frame frame :: rest) =
      frame :: (⟨frame.isOsr⟩ : ShadowFilter).emitted rest := rfl

@[simp] theorem dropped_trampoline (filter : ShadowFilter) (ip bp : Word) (rest : List WalkEvent) :
    filter.dropped (.deoptTrampoline ip bp :: rest) = (⟨true⟩ : ShadowFilter).dropped rest := rfl

@[simp] theorem dropped_shadow (frame : Frame) (rest : List WalkEvent) :
    (⟨true⟩ : ShadowFilter).dropped (.frame frame :: rest) =
      frame :: (⟨false⟩ : ShadowFilter).dropped rest := rfl

@[simp] theorem dropped_frame (frame : Frame) (rest : List WalkEvent) :
    (⟨false⟩ : ShadowFilter).dropped (.frame frame :: rest) =
      (⟨frame.isOsr⟩ : ShadowFilter).dropped rest := rfl

/-! A run -/

@[simp] theorem after_cons (filter : ShadowFilter) (event : WalkEvent) (rest : List WalkEvent) :
    filter.after (event :: rest) = (filter.accept event).1.after rest := rfl

theorem after_concat (filter : ShadowFilter) (events : List WalkEvent) (event : WalkEvent) :
    filter.after (events ++ [event]) = ((filter.after events).accept event).1 := by
  simp [after]

@[simp] theorem yields_length (filter : ShadowFilter) (events : List WalkEvent) :
    (filter.yields events).length = events.length := by
  induction events generalizing filter with
  | nil => rfl
  | cons event rest ih => simp only [yields, List.length_cons, ih]

theorem yields_append (filter : ShadowFilter) (front back : List WalkEvent) :
    filter.yields (front ++ back) = filter.yields front ++ (filter.after front).yields back := by
  induction front generalizing filter with
  | nil => rfl
  | cons event rest ih => simp only [List.cons_append, yields, after_cons, ih]

theorem emitted_append (filter : ShadowFilter) (front back : List WalkEvent) :
    filter.emitted (front ++ back) = filter.emitted front ++ (filter.after front).emitted back := by
  simp only [emitted, yields_append, List.filterMap_append]

theorem dropped_append (filter : ShadowFilter) (front back : List WalkEvent) :
    filter.dropped (front ++ back) = filter.dropped front ++ (filter.after front).dropped back := by
  unfold dropped
  rw [yields_append, List.zip_append (yields_length filter front).symm, List.filterMap_append]

/-- The answer to an event depends on the state that the events before it leave. -/
theorem yields_getElem? (filter : ShadowFilter) (events : List WalkEvent) (i : Nat) :
    (filter.yields events)[i]? =
      events[i]?.map fun event => ((filter.after (events.take i)).accept event).2 := by
  induction events generalizing filter i with
  | nil => rfl
  | cons event rest ih =>
      cases i with
      | zero => rfl
      | succ i => simp only [yields, List.getElem?_cons_succ, List.take_succ_cons, after_cons, ih]

/-- The bit of a fresh filter, in closed form. -/
theorem after_eq (before : List WalkEvent) :
    ({} : ShadowFilter).after before = ⟨true⟩ ∧ ShadowNext before ∨
      ({} : ShadowFilter).after before = ⟨false⟩ ∧ ¬ ShadowNext before := by
  induction before using List.reverseRecOn with
  | nil => exact .inr ⟨rfl, shadowNext_nil⟩
  | append_singleton before event ih =>
      rw [after_concat]
      cases event with
      | deoptTrampoline ip bp => exact .inl ⟨rfl, shadowNext_concat_trampoline before ip bp⟩
      | frame frame =>
          cases hosr : frame.isOsr with
          | false =>
              have hnext := shadowNext_concat_plain before hosr
              rcases ih with ⟨hafter, -⟩ | ⟨hafter, -⟩
              · exact .inr ⟨by rw [hafter, accept_shadow], hnext⟩
              · exact .inr ⟨by rw [hafter, accept_frame, hosr], hnext⟩
          | true =>
              rw [shadowNext_concat_osr before hosr, not_not]
              rcases ih with ⟨hafter, hshadow⟩ | ⟨hafter, hshadow⟩
              · exact .inr ⟨by rw [hafter, accept_shadow], hshadow⟩
              · exact .inl ⟨by rw [hafter, accept_frame, hosr], hshadow⟩

/-- What a fresh filter yields at a position, from the events before it. -/
theorem yields_eq (events : List WalkEvent) (i : Nat) :
    (yields {} events)[i]? =
      events[i]?.map fun event => if ShadowNext (events.take i) then none else event.frame? := by
  rw [yields_getElem?]
  congr 1
  funext event
  cases event with
  | deoptTrampoline ip bp => exact (ite_self none).symm
  | frame frame =>
      rcases after_eq (events.take i) with ⟨hafter, hnext⟩ | ⟨hafter, hnext⟩
      · rw [hafter, accept_shadow, if_pos hnext]
      · rw [hafter, accept_frame, if_neg hnext]
        rfl

theorem Drops.shadowNext {events : List WalkEvent} {i : Nat} (h : Drops events i) :
    ShadowNext (events.take i) := by
  obtain ⟨frame, hframe, hyields⟩ := h
  rw [yields_eq, hframe, Option.map_some] at hyields
  by_contra hnext
  rw [if_neg hnext] at hyields
  cases hyields

/-- A frame that is dropped clears the bit. -/
theorem Drops.not_shadowNext {events : List WalkEvent} {i : Nat} (h : Drops events i) :
    ¬ ShadowNext (events.take (i + 1)) := by
  have hshadow := h.shadowNext
  obtain ⟨frame, hframe, -⟩ := h
  rw [List.take_add_one, hframe, Option.toList_some]
  cases hosr : frame.isOsr with
  | false => exact shadowNext_concat_plain _ hosr
  | true => exact fun hnext => (shadowNext_concat_osr _ hosr).mp hnext hshadow

theorem emitted_sublist (filter : ShadowFilter) (events : List WalkEvent) :
    (filter.emitted events).Sublist (events.filterMap WalkEvent.frame?) := by
  induction events generalizing filter with
  | nil => exact .slnil
  | cons event rest ih =>
      obtain ⟨skipNext⟩ := filter
      cases event with
      | deoptTrampoline ip bp =>
          exact ih ⟨true⟩
      | frame frame =>
          cases skipNext with
          | true => exact (ih ⟨false⟩).cons frame
          | false => exact (ih ⟨frame.isOsr⟩).cons_cons frame

/-- Behind trampolines in a row a filter is in the state that one of them leaves,
and none of them is a frame. -/
theorem trampolines (filter : ShadowFilter) {markers : List WalkEvent} (hne : markers ≠ [])
    (h : ∀ event ∈ markers, event.isTrampoline = true) :
    filter.after markers = ⟨true⟩ ∧ filter.emitted markers = [] ∧ filter.dropped markers = [] := by
  induction markers generalizing filter with
  | nil => exact absurd rfl hne
  | cons event rest ih =>
      obtain ⟨hevent, hrest⟩ := List.forall_mem_cons.mp h
      cases event with
      | frame frame => cases hevent
      | deoptTrampoline ip bp =>
          rw [after_cons, accept_trampoline, emitted_trampoline, dropped_trampoline]
          cases rest with
          | nil => exact ⟨rfl, rfl, rfl⟩
          | cons next rest => exact ih ⟨true⟩ (List.cons_ne_nil next rest) hrest

/-- Every shadow is paid for: by the bit that is set at the start, by a trampoline
or by a frame that was yielded before it. A bit that is set at the end has been
paid for but not used. -/
theorem dropped_length_le (filter : ShadowFilter) (events : List WalkEvent) :
    (filter.dropped events).length + (filter.after events).skipNext.toNat ≤
      events.countP isTrampoline + (filter.emitted events).countP Frame.isOsr +
        filter.skipNext.toNat := by
  induction events generalizing filter with
  | nil => exact Nat.le_refl _
  | cons event rest ih =>
      obtain ⟨skipNext⟩ := filter
      cases event with
      | deoptTrampoline ip bp =>
          have hrest := ih ⟨true⟩
          have hcount : (WalkEvent.deoptTrampoline ip bp :: rest).countP isTrampoline =
              rest.countP isTrampoline + 1 := List.countP_cons_of_pos rfl
          simp only [hcount, dropped_trampoline, emitted_trampoline, after_cons, accept_trampoline]
          simp only [Bool.toNat_true] at hrest
          omega
      | frame frame =>
          have hcount : (WalkEvent.frame frame :: rest).countP isTrampoline =
              rest.countP isTrampoline := List.countP_cons_of_neg Bool.false_ne_true
          cases skipNext with
          | true =>
              have hrest := ih ⟨false⟩
              simp only [hcount, dropped_shadow, emitted_shadow, after_cons, accept_shadow,
                List.length_cons, Bool.toNat_true]
              simp only [Bool.toNat_false] at hrest
              omega
          | false =>
              have hrest := ih ⟨frame.isOsr⟩
              have hpaid : (frame :: emitted ⟨frame.isOsr⟩ rest).countP Frame.isOsr =
                  (emitted ⟨frame.isOsr⟩ rest).countP Frame.isOsr + frame.isOsr.toNat := by
                rw [List.countP_cons]
                cases frame.isOsr <;> rfl
              simp only [hcount, dropped_frame, emitted_frame, after_cons, accept_frame, hpaid,
                Bool.toNat_false]
              simp only at hrest
              omega

/-- Trampolines in a row do what one of them does. -/
theorem row_of_trampolines (front back : List WalkEvent) {markers : List WalkEvent}
    {marker : WalkEvent} (hne : markers ≠ [])
    (hmarkers : ∀ event ∈ markers, event.isTrampoline = true)
    (hmarker : marker.isTrampoline = true) :
    emitted {} (front ++ markers ++ back) = emitted {} (front ++ marker :: back) ∧
      dropped {} (front ++ markers ++ back) = dropped {} (front ++ marker :: back) := by
  obtain ⟨hafter, hemitted, hdropped⟩ := trampolines (after {} front) hne hmarkers
  obtain ⟨hafter', hemitted', hdropped'⟩ :=
    trampolines (after {} front) (List.cons_ne_nil marker []) (by simpa using hmarker)
  rw [← List.singleton_append, List.append_assoc]
  simp only [emitted_append, dropped_append, hafter, hafter', hemitted, hemitted', hdropped,
    hdropped', and_self]

/-- The logical frames are those frames, in their order, that no shadow is awaited
for. A shadow is awaited behind an even run of frames entered by on-stack
replacement if a trampoline stands before the run, and behind an odd one if none
does. So no frame is dropped because of one that is dropped itself, trampolines
in a row drop what one of them does, and there is a trampoline or a logical
frame entered by on-stack replacement for each frame that is dropped. -/
theorem drops_by_run_parity (events : List WalkEvent) :
    (emitted {} events).Sublist (events.filterMap WalkEvent.frame?) ∧
    (∀ i, (yields {} events)[i]? =
      events[i]?.map fun event => if ShadowNext (events.take i) then none else event.frame?) ∧
    (∀ i, Drops events i → ¬ Drops events (i + 1)) ∧
    (∀ front markers back marker, events = front ++ markers ++ back → markers ≠ [] →
      (∀ event ∈ markers, event.isTrampoline = true) → marker.isTrampoline = true →
      emitted {} events = emitted {} (front ++ marker :: back) ∧
        dropped {} events = dropped {} (front ++ marker :: back)) ∧
    (dropped {} events).length ≤
      events.countP isTrampoline + (emitted {} events).countP Frame.isOsr := by
  refine ⟨emitted_sublist {} events, yields_eq events, ?_, ?_, ?_⟩
  · exact fun i hdrops hnext => hdrops.not_shadowNext hnext.shadowNext
  · rintro front markers back marker rfl hne hmarkers hmarker
    exact row_of_trampolines front back hne hmarkers hmarker
  · have hcount := dropped_length_le {} events
    exact Nat.le_trans (Nat.le_add_right _ _) hcount

def replacedFrame (bp : Word) : Frame :=
  .compiled { start := 0x1000, size := 0x100, tier := .optimized, functionId := 7, isOsr := true }
    0x1010 bp 0x7000 .empty

/-- Two trampolines and three frames entered by on-stack replacement, between two
interpreter frames. -/
def mixedEvents : List WalkEvent :=
  [.frame (.interpreted 0x5010 0x7100), .deoptTrampoline 0x6108 0x7110,
    .deoptTrampoline 0x6108 0x7120, .frame (replacedFrame 0x7130), .frame (replacedFrame 0x7140),
    .frame (replacedFrame 0x7150), .frame (.interpreted 0x5020 0x7160)]

/-- The frames of the run are dropped in turns, beginning with the first. -/
theorem mixedEvents_in_turns :
    Drops mixedEvents 3 ∧ ¬ Drops mixedEvents 4 ∧ Drops mixedEvents 5 ∧ ¬ Drops mixedEvents 6 ∧
    emitted {} mixedEvents =
      emitted {} (mixedEvents.take 1 ++ .deoptTrampoline 0 0 :: mixedEvents.drop 3) ∧
    dropped {} mixedEvents = [replacedFrame 0x7130, replacedFrame 0x7150] := by
  obtain ⟨-, hyields, honce, hrow, -⟩ := drops_by_run_parity mixedEvents
  have hfirst : Drops mixedEvents 3 := ⟨_, rfl, (hyields 3).trans rfl⟩
  have hthird : Drops mixedEvents 5 := ⟨_, rfl, (hyields 5).trans rfl⟩
  obtain ⟨hemitted, hdropped⟩ := hrow (mixedEvents.take 1) ((mixedEvents.drop 1).take 2)
    (mixedEvents.drop 3) (.deoptTrampoline 0 0) rfl (by decide) (by decide) rfl
  exact ⟨hfirst, honce 3 hfirst, hthird, honce 5 hthird, hemitted, hdropped.trans rfl⟩

end ShadowFilter
end StackUnwind
