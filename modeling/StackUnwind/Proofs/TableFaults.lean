import StackUnwind.Handler.Table
import Mathlib.Tactic.SplitIfs

/-!
# Faults of exception tables

Whatever the bytes of an exception table are, decoding it and following its
action chains fails with one of a few faults only: a DWARF fault, an encoding
that is not understood, an overrun, or a chain that leaves the table, is empty
or asks for a negative filter. No other part of the library reports these, so
a fault of a table is never taken for a fault of the stack.
-/
namespace StackUnwind

/-- The faults that an exception table can have. -/
def Fault.IsOfTable : Fault → Prop
  | .unsupportedEncoding .. | .callSiteTableOverrun | .negativeTypeFilter _ | .emptyActionChain
  | .actionOutOfRange _ | .dwarf _ => True
  | _ => False

namespace Decoder

variable {ε ε' α β : Type} {P : ε → Prop}

/-- Every fault of the decoder is one of `P`. -/
def FaultsIn (d : Decoder ε α) (P : ε → Prop) : Prop :=
  ∀ s e t, d s = .error e t → P e

theorem FaultsIn.pure (a : α) : FaultsIn (pure a : Decoder ε α) P := by
  intro s e t h
  cases h

theorem FaultsIn.throw {e : ε} (h : P e) : FaultsIn (throw e : Decoder ε α) P := by
  intro s e' t he
  cases he
  exact h

theorem FaultsIn.bind {d : Decoder ε α} {f : α → Decoder ε β} (hd : FaultsIn d P)
    (hf : ∀ a, FaultsIn (f a) P) : FaultsIn (d >>= f) P := by
  intro s e t h
  simp only [Bind.bind, EStateM.bind] at h
  split at h
  · exact hf _ _ _ _ h
  · rename_i hs
    cases h
    exact hd _ _ _ hs

theorem FaultsIn.throw_bind {e : ε} {f : α → Decoder ε β} (h : P e) :
    FaultsIn ((MonadExcept.throw e : Decoder ε α) >>= f) P := by
  intro s e' t he
  cases he
  exact h

theorem FaultsIn.mapFault (d : Decoder ε' α) {f : ε' → ε} (hf : ∀ e, P (f e)) :
    FaultsIn (d.mapFault f) P := by
  intro s e t h
  unfold Decoder.mapFault at h
  split at h <;> cases h
  exact hf _

theorem FaultsIn.outcome {d : Decoder ε α} (h : FaultsIn d P) {s : ByteStream} {e : ε}
    (he : d.outcome s = .error e) : P e := by
  unfold Decoder.outcome at he
  split at he
  · cases he
  · rename_i hs
    cases he
    exact h _ _ _ hs

end Decoder

open Decoder

/-! The header and the call sites -/

theorem SiteEncoding.ofCode_error {code : UInt8} {fault : Fault}
    (h : SiteEncoding.ofCode code = .error fault) : fault.IsOfTable := by
  unfold SiteEncoding.ofCode at h
  split at h <;> cases h
  trivial

theorem HandlerHeader.read_faults : FaultsIn HandlerHeader.read Fault.IsOfTable := by
  have hdwarf {α : Type} (d : Decoder DwarfFault α) : FaultsIn (d.mapFault .dwarf) Fault.IsOfTable :=
    FaultsIn.mapFault d fun _ => trivial
  unfold HandlerHeader.read
  refine (hdwarf _).bind fun padBase => ?_
  dsimp only
  split_ifs
  · refine (hdwarf _).bind fun _ => (hdwarf _).bind fun _ => (hdwarf _).bind fun code => ?_
    split
    · refine (FaultsIn.pure _).bind fun _ => (hdwarf _).bind fun length => ?_
      refine FaultsIn.bind (fun s e t h => by cases h) fun s => ?_
      split
      · exact FaultsIn.throw trivial
      · exact FaultsIn.pure _
    · rename_i hcode
      exact FaultsIn.throw_bind (SiteEncoding.ofCode_error hcode)
  · exact FaultsIn.throw_bind trivial

namespace CallSite

theorem faultOf_isOfTable (cause : DwarfFault) : (faultOf cause).IsOfTable := by
  cases cause <;> trivial

theorem next_faults (encoding : SiteEncoding) (base : Word) :
    FaultsIn (next encoding base) Fault.IsOfTable := by
  intro s e t h
  unfold next at h
  split_ifs at h
  exact FaultsIn.mapFault _ faultOf_isOfTable _ _ _ h

theorem itemsWithin_faults {encoding : SiteEncoding} {base : Word} {rounds : Nat}
    {s : ByteStream} {fault : Fault}
    (h : .error fault ∈ itemsWithin encoding base rounds s) : fault.IsOfTable := by
  induction rounds generalizing s with
  | zero => cases h
  | succ rounds ih =>
      unfold itemsWithin at h
      split at h
      · cases h
      · rw [List.mem_cons] at h
        obtain h | h := h
        · cases h
        · exact ih h
      · rename_i hnext
        rw [List.mem_singleton] at h
        cases h
        exact next_faults encoding base _ _ _ hnext

theorem collect_error {items : List (Except Fault CallSite)} {fault : Fault}
    (h : collect items = .error fault) : .error fault ∈ items := by
  induction items with
  | nil => cases h
  | cons item rest ih =>
      cases item with
      | error e =>
          cases h
          exact List.mem_cons_self
      | ok site =>
          simp only [collect] at h
          split at h
          · cases h
          · rename_i hrest
            cases h
            exact List.mem_cons_of_mem _ (ih hrest)

theorem collect_ok (sites : List CallSite) : collect (sites.map .ok) = .ok sites := by
  induction sites with
  | nil => rfl
  | cons site sites ih => simp [collect, ih]

/-- Searching decoded entries does not fail. -/
theorem find_decoded (pc : Word) (sites : List CallSite) :
    ∃ site?, find pc (sites.map .ok) = .ok site? := by
  induction sites with
  | nil => exact ⟨none, rfl⟩
  | cons site rest ih =>
      simp only [List.map_cons, find]
      split_ifs
      · exact ⟨some site, rfl⟩
      · exact ⟨none, rfl⟩
      · exact ih

end CallSite

namespace HandlerTable

theorem callSites_error {table : HandlerTable} {fault : Fault}
    (h : table.callSites = .error fault) : fault.IsOfTable := by
  unfold callSites at h
  cases hheader : table.header with
  | error e =>
      rw [hheader] at h
      cases h
      exact HandlerHeader.read_faults.outcome hheader
  | ok header =>
      rw [hheader] at h
      exact CallSite.itemsWithin_faults (CallSite.collect_error h)

/-- A search fails only when the table cannot be decoded. -/
theorem find_eq_error_iff (table : HandlerTable) (pc : Word) (fault : Fault) :
    table.find pc = .error fault ↔ table.callSites = .error fault := by
  unfold find
  cases table.callSites with
  | error e => simp [bind, Except.bind]
  | ok sites =>
      obtain ⟨site?, hsite⟩ := CallSite.find_decoded pc sites
      change CallSite.find pc (sites.map .ok) = .error fault ↔ _
      rw [hsite]
      simp

end HandlerTable

/-! Action chains -/

theorem ActionRecord.readAt_error {table : Bytes} {offset : Word} {fault : Fault}
    (h : ActionRecord.readAt table offset = .error fault) : fault.IsOfTable := by
  unfold ActionRecord.readAt at h
  dsimp only at h
  split_ifs at h
  · split at h
    · cases h
      trivial
    · split_ifs at h
      cases h
      trivial
  · cases h
    trivial

theorem ActionRecord.chainWithin_faults {table : Bytes} {budget : Nat} {first? : Option Word}
    {fault : Fault} (h : .error fault ∈ ActionRecord.chainWithin table budget first?) :
    fault.IsOfTable := by
  induction budget generalizing first? with
  | zero =>
      cases first? with
      | none => simp [chainWithin] at h
      | some offset =>
          simp only [chainWithin, List.mem_singleton, Except.error.injEq] at h
          subst h
          trivial
  | succ budget ih =>
      cases first? with
      | none => simp [chainWithin] at h
      | some offset =>
          simp only [chainWithin] at h
          split at h
          · rename_i hread
            rw [List.mem_singleton] at h
            cases h
            exact readAt_error hread
          · rw [List.mem_cons] at h
            obtain h | h := h
            · cases h
            · exact ih h

theorem Action.ofChain_error {sawCleanup : Bool} {chain : List (Except Fault ActionRecord)}
    {fault : Fault} (hchain : ∀ e, .error e ∈ chain → e.IsOfTable)
    (h : Action.ofChain sawCleanup chain = .error fault) : fault.IsOfTable := by
  induction chain generalizing sawCleanup with
  | nil =>
      cases sawCleanup <;> cases h
      trivial
  | cons item rest ih =>
      cases item with
      | error e =>
          simp only [ofChain, Except.error.injEq] at h
          subst h
          exact hchain _ List.mem_cons_self
      | ok record =>
          simp only [ofChain] at h
          split_ifs at h
          · exact ih (fun e he => hchain e (List.mem_cons_of_mem _ he)) h
          · cases h
            trivial

theorem HandlerTable.determineAction_error {table : HandlerTable} {site : CallSite}
    {fault : Fault} (h : table.determineAction site = .error fault) : fault.IsOfTable := by
  unfold HandlerTable.determineAction at h
  cases hheader : table.header with
  | error e =>
      rw [hheader] at h
      cases h
      exact HandlerHeader.read_faults.outcome hheader
  | ok header =>
      rw [hheader] at h
      change Action.determine header.actions site.action? = .error fault at h
      unfold Action.determine at h
      split at h
      · cases h
      · exact Action.ofChain_error (fun e he => ActionRecord.chainWithin_faults he) h

end StackUnwind
