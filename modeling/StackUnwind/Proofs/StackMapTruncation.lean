import StackUnwind.Proofs.StackMapFormat
import Mathlib

/-!
# Stack maps that are cut off or go on

A blob that is accepted is not accepted any more when bytes are missing at its
end or follow it. In the first case the fault is always that the blob ended: it
names the position of the reader, and the number of bytes that it wanted there
is more than what was left. No other fault can come first. Up to the cut the
decoder sees the bytes of the whole blob, and a number that asks for more room
than there is does so in front of the items for which the room is missing.

The argument is made once for all parts of the format. `Cuttable` says what
becomes of a read when the end of its stream is taken away, and it is kept by
reading one thing after another.
-/
namespace StackUnwind.StackMapTruncation

open Decoder StackMap StackMapGrammar

/-- The fault that a blob of `size` bytes ended: fewer bytes than were needed
lie between the reader and the end. -/
inductive EndsAt (size : Nat) : Fault → Prop
  | intro {offset needed available : Nat} (hend : offset + available = size)
      (hshort : available < needed) : EndsAt size (.truncated offset needed available)

/-- The outcome of a read that gives `a` and stops at `t`, once the bytes `cut`
are taken away from the end of its stream: either the read did not reach them,
or it fails for want of bytes. -/
inductive Cut {α : Type} (a : α) (t : ByteStream) (cut : Bytes) (size : Nat) :
    EStateM.Result Fault ByteStream α → Prop
  | unreached {left : Bytes} (hrest : t.rest = left ++ cut) (hsize : t.offset + left.length = size) :
      Cut a t cut size (.ok a ⟨left, t.offset⟩)
  | ended {fault : Fault} {s : ByteStream} (hends : EndsAt size fault) :
      Cut a t cut size (.error fault s)

/-- Taking bytes away from the end of a stream that is read does not change
the read, or lets it fail for want of bytes. -/
def Cuttable {α : Type} (d : Decoder Fault α) : Prop :=
  ∀ kept cut offset a t, d ⟨kept ++ cut, offset⟩ = .ok a t →
    Cut a t cut (offset + kept.length) (d ⟨kept, offset⟩)

/-! Reading one thing after another -/

section
variable {α β : Type}

theorem Cuttable.pure (a : α) : Cuttable (pure a : Decoder Fault α) := by
  intro kept cut offset b t h
  cases h
  exact .unreached rfl rfl

theorem Cuttable.throw (fault : Fault) : Cuttable (throw fault : Decoder Fault α) := by
  intro kept cut offset a t h
  cases h

theorem Cuttable.bind {d : Decoder Fault α} {f : α → Decoder Fault β} (hd : Cuttable d)
    (hf : ∀ a, Cuttable (f a)) : Cuttable (d >>= f) := by
  intro kept cut offset b t h
  obtain ⟨a, ⟨rest, reached⟩, hfirst, hsecond⟩ := bind_ok h
  have hcut := hd kept cut offset a _ hfirst
  generalize hread : d ⟨kept, offset⟩ = outcome at hcut
  cases hcut with
  | @unreached left hrest hsize =>
      obtain rfl : rest = left ++ cut := hrest
      rw [bind_of_ok hread, ← hsize]
      exact hf a left cut reached b t hsecond
  | @ended fault s hends =>
      have hbind : (d >>= f) ⟨kept, offset⟩ = .error fault s := by
        simp only [Bind.bind, EStateM.bind, hread]
      rw [hbind]
      exact .ended hends

theorem Cuttable.ite {p : Prop} [Decidable p] {d e : Decoder Fault α} (hd : Cuttable d)
    (he : Cuttable e) : Cuttable (if p then d else e) := by
  split_ifs
  · exact hd
  · exact he

/-- The induction is on the number of items still to be read. -/
theorem Cuttable.repeatedAfter {item : Decoder Fault α} (hitem : Cuttable item) (count : Nat)
    (before : List α) : Cuttable (repeatedAfter item count before) := by
  induction count generalizing before with
  | zero => exact .pure _
  | succ count ih =>
      have hstep : Decoder.repeatedAfter item (count + 1) before =
          (item >>= fun a => Decoder.repeatedAfter item count (a :: before)) := by
        funext s
        simp only [Decoder.repeatedAfter, Bind.bind, EStateM.bind]
        cases item s <;> rfl
      rw [hstep]
      exact hitem.bind fun a => ih (a :: before)

theorem Cuttable.repeated {item : Decoder Fault α} (hitem : Cuttable item) (count : Nat) :
    Cuttable (repeated count item) :=
  hitem.repeatedAfter count []

end

/-! The parts of the format -/

theorem take?_eq_none_iff {n : Nat} {s : ByteStream} : s.take? n = none ↔ s.rest.length < n := by
  unfold ByteStream.take?
  simp only [List.length_take, ite_eq_right_iff, reduceCtorEq, imp_false]
  omega

theorem shortage_endsAt {n : Nat} {s : ByteStream} (h : s.take? n = none) :
    EndsAt (s.offset + s.rest.length) (shortage n s) :=
  .intro rfl (take?_eq_none_iff.mp h)

/-- What is taken from the kept bytes is what is taken from all. -/
theorem take?_append_of_some {n offset : Nat} {kept front : Bytes} {s : ByteStream}
    (h : ByteStream.take? n ⟨kept, offset⟩ = some (front, s)) (cut : Bytes) :
    ByteStream.take? n ⟨kept ++ cut, offset⟩ = some (front, ⟨s.rest ++ cut, s.offset⟩) ∧
      s.offset + s.rest.length = offset + kept.length := by
  have hroom : n ≤ kept.length := by
    by_contra hshort
    rw [take?_eq_none_iff.mpr (Nat.lt_of_not_le hshort)] at h
    cases h
  unfold ByteStream.take? at h ⊢
  simp only [List.length_take_of_le hroom, if_true, Option.some.injEq, Prod.mk.injEq] at h
  obtain ⟨rfl, rfl⟩ := h
  simp only [List.take_append_of_le_length hroom, List.drop_append_of_le_length hroom,
    List.length_take_of_le hroom, List.length_drop, if_true, true_and]
  omega

theorem field_cuttable (width : Nat) : Cuttable (field width) := by
  intro kept cut offset n t h
  unfold field fixed at h ⊢
  cases hkept : ByteStream.take? width ⟨kept, offset⟩ with
  | none => exact .ended (shortage_endsAt hkept)
  | some taken =>
      obtain ⟨front, s⟩ := taken
      obtain ⟨hall, hsize⟩ := take?_append_of_some hkept cut
      rw [hall] at h
      cases h
      exact .unreached rfl hsize

theorem require_cuttable (needed : Nat) : Cuttable (require needed) := by
  intro kept cut offset u t h
  unfold require at h ⊢
  split_ifs at h
  cases h
  split_ifs with hroom
  · exact .unreached rfl rfl
  · rw [Bool.not_eq_true, Option.isSome_eq_false_iff, Option.isNone_iff_eq_none] at hroom
    exact .ended (shortage_endsAt hroom)

theorem word_cuttable : Cuttable word :=
  (field_cuttable 8).bind fun _ => .pure _

theorem functionEntry_cuttable : Cuttable functionEntry :=
  word_cuttable.bind fun _ => word_cuttable.bind fun _ => .pure _

theorem location_cuttable : Cuttable location := by
  refine (field_cuttable 1).bind fun tag => (field_cuttable 1).bind fun size =>
    (field_cuttable 2).bind fun register => (field_cuttable 4).bind fun payload => ?_
  dsimp only
  generalize StoredLocation.decode _ = decoded
  cases decoded with
  | ok found => exact .pure found
  | error fault => exact .throw fault

theorem liveOut_cuttable : Cuttable liveOut :=
  (field_cuttable 2).bind fun _ => (field_cuttable 1).bind fun _ =>
    (field_cuttable 1).bind fun _ => .pure _

theorem record_cuttable : Cuttable record :=
  word_cuttable.bind fun _ => (field_cuttable 4).bind fun _ => (field_cuttable 2).bind fun _ =>
    (field_cuttable 2).bind fun _ => (require_cuttable _).bind fun _ =>
    (location_cuttable.repeated _).bind fun _ => (field_cuttable 2).bind fun _ =>
    (field_cuttable 2).bind fun _ => (require_cuttable _).bind fun _ =>
    (liveOut_cuttable.repeated _).bind fun _ =>
    .ite ((field_cuttable 4).bind fun _ => .pure _) (.pure _)

theorem contents_cuttable : Cuttable contents := by
  refine (field_cuttable 4).bind fun header => .ite ?_ ?_
  · exact (field_cuttable 4).bind fun _ => (field_cuttable 4).bind fun _ =>
      (field_cuttable 4).bind fun _ => (require_cuttable _).bind fun _ =>
      (functionEntry_cuttable.repeated _).bind fun _ => (require_cuttable _).bind fun _ =>
      (word_cuttable.repeated _).bind fun _ => (require_cuttable _).bind fun _ =>
      (record_cuttable.repeated _).bind fun _ => .pure _
  · exact Cuttable.throw _

/-! Blobs -/

/-- Every strict front of an accepted blob is rejected because it ended. -/
theorem decode_of_cut {kept cut : Bytes} {map : StackMap} (hcut : cut ≠ [])
    (h : StackMap.decode (kept ++ cut) = .ok map) :
    ∃ fault, StackMap.decode kept = .error fault ∧ EndsAt kept.length fault := by
  unfold StackMap.decode outcome at h
  split at h
  · rename_i found t hfound
    obtain ⟨_, s, hcontents, hend⟩ := bind_ok hfound
    obtain ⟨_, hatEnd, -⟩ := bind_pure_ok hend
    -- The whole blob is read to its end, so the bytes that are missing were reached.
    have hempty : s.rest = [] := by
      unfold atEnd at hatEnd
      split_ifs at hatEnd with hempty
      exact List.isEmpty_iff.mp hempty
    have houtcome := contents_cuttable kept cut 0 _ s hcontents
    rw [Nat.zero_add] at houtcome
    generalize hread : contents ⟨kept, 0⟩ = outcome at houtcome
    cases houtcome with
    | unreached hrest _ =>
        rw [hempty] at hrest
        exact absurd (List.append_eq_nil_iff.mp hrest.symm).2 hcut
    | @ended fault s' hends =>
        refine ⟨fault, ?_, hends⟩
        simp only [StackMap.decode, Decoder.outcome, ByteStream.ofBytes, Bind.bind, EStateM.bind,
          hread]
  · cases h

theorem decode_append {bytes extra : Bytes} {map : StackMap} (hextra : extra ≠ [])
    (h : StackMap.decode bytes = .ok map) :
    StackMap.decode (bytes ++ extra) = .error (.trailingBytes extra.length) := by
  have hcontents := (decode_ok_iff.mp h).reads extra 0
  have hmore : extra.isEmpty = false := List.isEmpty_eq_false_iff.mpr hextra
  simp only [StackMap.decode, Decoder.outcome, ByteStream.ofBytes, bind_of_ok hcontents]
  simp only [Bind.bind, EStateM.bind, atEnd, hmore, Bool.false_eq_true, if_false]

/-- A blob that is accepted is rejected when its end is missing, however much
of it: the fault says that the blob ended, at a position and with a number of
bytes left that together make its length, and fewer than were needed. It is
rejected as well when bytes follow it, whose number is the fault. -/
theorem ends_exactly {bytes : Bytes} {map : StackMap} (h : StackMap.decode bytes = .ok map) :
    (∀ kept, kept <+: bytes → kept ≠ bytes → ∃ offset needed available,
      StackMap.decode kept = .error (.truncated offset needed available) ∧
        offset + available = kept.length ∧ available < needed) ∧
    ∀ extra, extra ≠ [] →
      StackMap.decode (bytes ++ extra) = .error (.trailingBytes extra.length) := by
  refine ⟨?_, fun extra hextra => decode_append hextra h⟩
  rintro kept ⟨cut, rfl⟩ hstrict
  have hcut : cut ≠ [] := by
    rintro rfl
    exact hstrict (List.append_nil kept).symm
  obtain ⟨_, hdecode, ⟨hend, hshort⟩⟩ := decode_of_cut hcut h
  exact ⟨_, _, _, hdecode, hend, hshort⟩

/-- Cut inside the live-out of its first record, and followed by three bytes. -/
theorem looseBlob_ends :
    (∃ offset needed available,
      StackMap.decode (StackMapFormat.looseBlob.take 101) =
        .error (.truncated offset needed available) ∧
      offset + available = 101 ∧ available < needed) ∧
    StackMap.decode (StackMapFormat.looseBlob ++ [0, 0, 0]) = .error (.trailingBytes 3) := by
  have haccepted : StackMap.decode StackMapFormat.looseBlob = .ok StackMapFormat.looseMap := by cbv
  obtain ⟨hfront, hextra⟩ := ends_exactly haccepted
  exact ⟨hfront _ (List.take_prefix 101 _) (by decide), hextra [0, 0, 0] (by decide)⟩

end StackUnwind.StackMapTruncation
