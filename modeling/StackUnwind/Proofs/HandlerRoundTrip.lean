import StackUnwind.Handler.Builder
import StackUnwind.Proofs.HeaderGrammar
import StackUnwind.Proofs.Reading
import StackUnwind.Proofs.TableFaults
import Mathlib

/-!
# Exception tables are read back as they were built

A builder receives chains of filters and call sites in any order. What it
emits is decoded to one entry per call site, in the order of insertion, and
the chain at an offset that the builder gave out keeps its meaning among all
other chains: its first filter that is not zero decides, and without one the
chain asks for cleanup.

The links of a chain are relative and one byte long, so the chains are treated
one record at a time, each behind an arbitrary part of the action table. The
only condition on size is that a word can count the emitted bytes; the length
of the call-site table and the offsets of chains are stored as words.
-/
namespace StackUnwind.HandlerRoundTrip

open Decoder

/-! Call sites -/

/-- Four-byte fields hold what is below `2 ^ 32`; the other encoding holds all words. -/
def Fits (encoding : SiteEncoding) (w : Word) : Prop :=
  encoding = .udata4 → w.toNat < 2 ^ 32

def encodeField (encoding : SiteEncoding) (w : Word) : Bytes :=
  match encoding with
  | .uleb128 => Leb128.unsigned w.toNat
  | .udata4 => toLittleEndian 4 w.toNat

theorem readField_reads {encoding : SiteEncoding} {w : Word} (h : Fits encoding w) :
    Reads encoding.readField (encodeField encoding w) w := by
  cases encoding with
  | uleb128 => exact Leb128.readUnsigned_reads w
  | udata4 => exact Dwarf.unsignedField_reads (h rfl)

theorem encode_eq (encoding : SiteEncoding) (site : StoredSite) :
    site.encode encoding.code = encodeField encoding site.start ++
      (encodeField encoding site.length ++ (encodeField encoding site.pad ++
        (Leb128.unsigned site.actionPlusOne.toNat ++ []))) := by
  cases encoding <;> simp [StoredSite.encode, SiteEncoding.code, encodeField]

theorem encode_length_pos (encoding : UInt8) (site : StoredSite) :
    0 < (site.encode encoding).length := by
  have h := Leb128.unsigned_length_pos site.actionPlusOne.toNat
  simp only [StoredSite.encode, List.length_append]
  omega

/-- The entry that a stored call site stands for in the function at `base`. -/
def entry (base : Word) (site : StoredSite) : CallSite :=
  .ofStored base site.start site.length site.pad site.actionPlusOne

def SiteFits (encoding : SiteEncoding) (site : StoredSite) : Prop :=
  Fits encoding site.start ∧ Fits encoding site.length ∧ Fits encoding site.pad

theorem read_reads (base : Word) {encoding : SiteEncoding} {site : StoredSite}
    (h : SiteFits encoding site) :
    Reads (CallSite.read encoding base) (site.encode encoding.code) (entry base site) := by
  rw [encode_eq]
  exact (readField_reads h.1).bind <| (readField_reads h.2.1).bind <|
    (readField_reads h.2.2).bind <| (Leb128.readUnsigned_reads _).bind (.pure _)

theorem next_reads (base : Word) {encoding : SiteEncoding} {site : StoredSite}
    (h : SiteFits encoding site) :
    Reads (CallSite.next encoding base) (site.encode encoding.code)
      (some (entry base site)) := by
  intro rest offset
  have hne : (site.encode encoding.code ++ rest).isEmpty = false := by
    have := encode_length_pos encoding.code site
    cases hs : site.encode encoding.code with
    | nil => simp [hs] at this
    | cons b bs => rfl
  simp only [CallSite.next, hne, Bool.false_eq_true, if_false]
  exact ((read_reads base h).map some).mapFault CallSite.faultOf rest offset

theorem length_le_table (encoding : UInt8) (sites : List StoredSite) :
    sites.length ≤ (sites.flatMap (StoredSite.encode encoding)).length := by
  have hroom := length_mul_le_flatMap (StoredSite.encode encoding) 1 sites
    fun site => encode_length_pos encoding site
  rwa [Nat.mul_one] at hroom

theorem itemsWithin_table (base : Word) {encoding : SiteEncoding} {sites : List StoredSite}
    (h : ∀ site ∈ sites, SiteFits encoding site) {rounds : Nat} (hr : sites.length ≤ rounds)
    (offset : Nat) :
    CallSite.itemsWithin encoding base rounds
        ⟨sites.flatMap (StoredSite.encode encoding.code), offset⟩ =
      sites.map fun site => .ok (entry base site) := by
  induction sites generalizing rounds offset with
  | nil => cases rounds <;> rfl
  | cons site sites ih =>
      cases rounds with
      | zero => simp at hr
      | succ rounds =>
          have hn := next_reads base (h site (by simp))
            (sites.flatMap (StoredSite.encode encoding.code)) offset
          simp only [List.flatMap_cons, CallSite.itemsWithin, hn, List.map_cons]
          rw [ih (fun s hs => h s (by simp [hs])) (by simpa using hr)]

/-! Header -/

/-- The call-site table of a builder. -/
def table (builder : HandlerBuilder) : Bytes :=
  builder.sites.flatMap (StoredSite.encode builder.encoding)

theorem finish_eq (builder : HandlerBuilder) :
    builder.finish = omittedEncoding :: omittedEncoding :: builder.encoding ::
      (Leb128.unsigned (table builder).length ++ (table builder ++ builder.actions)) := by
  simp [HandlerBuilder.finish, table]

theorem header_finish {builder : HandlerBuilder} {encoding : SiteEncoding}
    (he : builder.encoding = encoding.code) (hlen : (table builder).length < UInt64.size) :
    HandlerHeader.ofBytes builder.finish = .ok
      { typeEncoding := omittedEncoding, typeTableEnd? := none, siteEncoding := encoding
        callSites := table builder, actions := builder.actions } := by
  have hword : (UInt64.ofNat (table builder).length).toNat = (table builder).length :=
    UInt64.toNat_ofNat_of_lt hlen
  have hlength := Leb128.readUnsigned_reads (UInt64.ofNat (table builder).length)
  have htype : Reads (HandlerHeader.readTypeTableEnd omittedEncoding) [] none := .pure none
  have hread := HandlerHeader.ofBytes_of_length encoding htype hlength
    (table builder ++ builder.actions)
  rw [hword, if_pos (by simp), List.take_left, List.drop_left] at hread
  rw [finish_eq, he]
  exact hread

/-! Action chains -/

/-- The bytes of a record that links to the one behind it. -/
def linked (filter : Int64) : Bytes :=
  Leb128.signed filter.toInt ++ Leb128.signed 1

theorem encodeChain_cons_cons (filter next : Int64) (rest : List Int64) :
    encodeChain (filter :: next :: rest) = linked filter ++ encodeChain (next :: rest) := rfl

theorem signed_zero : Leb128.signed 0 = [0x00] := Leb128.signed_small (by decide)

theorem signed_one : Leb128.signed 1 = [0x01] := Leb128.signed_small (by decide)

theorem length_le_encodeChain (filters : List Int64) :
    2 * filters.length ≤ (encodeChain filters).length := by
  induction filters with
  | nil => exact Nat.le_refl _
  | cons filter rest ih =>
      have hf := Leb128.signed_length_pos filter.toInt
      cases rest with
      | nil =>
          simp only [encodeChain, signed_zero, List.length_append, List.length_cons,
            List.length_nil]
          omega
      | cons next rest =>
          simp only [encodeChain_cons_cons, linked, signed_one, List.length_append, List.length_cons,
            List.length_nil] at ih ⊢
          omega

theorem fields_record (filter link : Int64) (rest : Bytes) (offset : Nat) :
    ActionRecord.fields.outcome
        ⟨Leb128.signed filter.toInt ++ (Leb128.signed link.toInt ++ rest), offset⟩ =
      .ok (filter, offset + (Leb128.signed filter.toInt).length, link) := by
  have hf := Leb128.readSigned_reads filter (Leb128.signed link.toInt ++ rest) offset
  have hl := Leb128.readSigned_reads link rest
    (offset + (Leb128.signed filter.toInt).length)
  rw [Decoder.outcome, ActionRecord.fields, bind_of_ok hf, get_bind, bind_of_ok hl]
  rfl

/-- A record in the middle of a table is read from the bytes behind its offset. -/
theorem readAt_record (before after : Bytes) (filter link : Int64)
    (hlen : before.length < UInt64.size) :
    ActionRecord.readAt
        (before ++ (Leb128.signed filter.toInt ++ (Leb128.signed link.toInt ++ after)))
        (UInt64.ofNat before.length) =
      if link = 0 then .ok ⟨filter, none⟩
      else
        let target := ((before.length + (Leb128.signed filter.toInt).length : Nat) : Int) + link.toInt
        if 0 ≤ target ∧ target < (before ++ (Leb128.signed filter.toInt ++
            (Leb128.signed link.toInt ++ after))).length then
          .ok ⟨filter, some (UInt64.ofNat target.toNat)⟩
        else .error (.actionOutOfRange (Int64.ofInt target)) := by
  have hoff : (UInt64.ofNat before.length).toNat = before.length := UInt64.toNat_ofNat_of_lt hlen
  have hin : before.length < (before ++ (Leb128.signed filter.toInt ++
      (Leb128.signed link.toInt ++ after))).length := by
    have := Leb128.signed_length_pos filter.toInt
    simp only [List.length_append]
    omega
  rw [ActionRecord.readAt, hoff, if_pos hin, List.drop_left, fields_record]

theorem readAt_last (before after : Bytes) (filter : Int64) (hlen : before.length < UInt64.size) :
    ActionRecord.readAt (before ++ (encodeChain [filter] ++ after)) (UInt64.ofNat before.length) =
      .ok ⟨filter, none⟩ := by
  have h := readAt_record before after filter 0 hlen
  have hzero : (0 : Int64).toInt = 0 := rfl
  rw [if_pos rfl, hzero] at h
  simpa only [encodeChain, List.append_assoc] using h

theorem readAt_linked (before after : Bytes) (filter : Int64) (hafter : 0 < after.length)
    (hlen : (before ++ (linked filter ++ after)).length < UInt64.size) :
    ActionRecord.readAt (before ++ (linked filter ++ after)) (UInt64.ofNat before.length) =
      .ok ⟨filter, some (UInt64.ofNat (before ++ linked filter).length)⟩ := by
  have hbefore : before.length < UInt64.size := by
    simp only [List.length_append] at hlen
    omega
  have h := readAt_record before after filter 1 hbefore
  have hone : (1 : Int64).toInt = 1 := rfl
  have hlink : linked filter ++ after =
      Leb128.signed filter.toInt ++ (Leb128.signed (1 : Int64).toInt ++ after) := by
    rw [linked, List.append_assoc, hone]
  have hnext : (((before.length + (Leb128.signed filter.toInt).length : Nat) : Int) + 1) =
      ((before ++ linked filter).length : Int) := by
    simp only [linked, signed_one, List.length_append, List.length_singleton]
    omega
  have hin : ((before ++ linked filter).length : Int) < (before ++ (linked filter ++ after)).length := by
    simp only [List.length_append]
    omega
  rw [← hlink, if_neg (by decide), hone, hnext] at h
  rw [h, if_pos ⟨by omega, hin⟩, Int.toNat_natCast]

/-- What a chain asks for: its first filter that is not zero decides. -/
def meaning (filters : List Int64) : Except Fault Action :=
  match filters.find? (· ≠ 0) with
  | none => .ok .cleanup
  | some filter =>
      if 0 < filter then .ok (.catches filter) else .error (.negativeTypeFilter filter)

theorem meaning_cons_zero (filters : List Int64) : meaning (0 :: filters) = meaning filters := rfl

theorem meaning_cons {filter : Int64} (h : filter ≠ 0) (filters : List Int64) :
    meaning (filter :: filters) =
      if 0 < filter then .ok (.catches filter) else .error (.negativeTypeFilter filter) := by
  simp [meaning, h]

/-- Following a chain behind any part of a table gives its meaning. The
induction moves each record that is left behind into that part. -/
theorem ofChain_encodeChain (before after : Bytes) {filters : List Int64} (hne : filters ≠ [])
    {budget : Nat} (hb : filters.length ≤ budget) (seen : Bool)
    (hlen : (before ++ (encodeChain filters ++ after)).length < UInt64.size) :
    Action.ofChain seen (ActionRecord.chainWithin (before ++ (encodeChain filters ++ after))
        budget (some (UInt64.ofNat before.length))) = meaning filters := by
  induction filters generalizing before budget seen with
  | nil => exact absurd rfl hne
  | cons filter rest ih =>
      obtain ⟨budget, rfl⟩ : ∃ b, budget = b + 1 := ⟨budget - 1, by simp at hb; omega⟩
      cases rest with
      | nil =>
          have hbefore : before.length < UInt64.size := by
            simp only [List.length_append] at hlen
            omega
          simp only [ActionRecord.chainWithin, readAt_last before after filter hbefore,
            Action.ofChain]
          by_cases h : filter = 0
          · subst h
            rfl
          · rw [if_neg h, meaning_cons h]
      | cons next rest =>
          rw [encodeChain_cons_cons, List.append_assoc] at hlen ⊢
          have hafter : 0 < (encodeChain (next :: rest) ++ after).length := by
            have := length_le_encodeChain (next :: rest)
            simp only [List.length_append, List.length_cons] at this ⊢
            omega
          simp only [ActionRecord.chainWithin, readAt_linked before _ filter hafter hlen,
            Action.ofChain]
          by_cases h : filter = 0
          · subst h
            rw [if_pos rfl, meaning_cons_zero]
            -- The record that was read joins the part in front of the chain.
            rw [← List.append_assoc] at hlen ⊢
            exact ih (before ++ linked 0) (by simp) (by simpa using hb) true hlen
          · rw [if_neg h, meaning_cons h]

theorem determine_chain (before after : Bytes) {filters : List Int64} (hne : filters ≠ [])
    (hlen : (before ++ (encodeChain filters ++ after)).length < UInt64.size) :
    Action.determine (before ++ (encodeChain filters ++ after))
      (some (UInt64.ofNat before.length)) = meaning filters := by
  have hb : filters.length ≤ (before ++ (encodeChain filters ++ after)).length / 2 + 1 := by
    have := length_le_encodeChain filters
    simp only [List.length_append]
    omega
  exact ofChain_encodeChain before after hne hb false hlen

/-! Histories of a builder -/

/-- One request to a builder. -/
inductive Request where
  | chain (filters : List Int64)
  | site (start length : Word) (pad? action? : Option Word)
  deriving DecidableEq, Repr

namespace Request

/-- What a builder is promised: chains are not empty, a landing pad is not at
the function's start, and the stored fields hold their values. -/
def Valid (encoding : SiteEncoding) : Request → Prop
  | chain filters => filters ≠ []
  | site start length pad? action? =>
      pad? ≠ some 0 ∧ action? ≠ some Word.top ∧
        Fits encoding start ∧ Fits encoding length ∧ ∀ pad ∈ pad?, Fits encoding pad

def perform (builder : HandlerBuilder) : Request → HandlerBuilder
  | chain filters => (builder.addChain filters).1
  | site start length pad? action? => builder.addSite start length pad? action?

/-- The entry that a request contributes to a function at `base`, all sums modulo `2 ^ 64`. -/
def entry? (base : Word) : Request → Option CallSite
  | chain _ => none
  | site start length pad? action? =>
      some
        { lo := base + start
          hi := base + start + length
          landingPad? := pad?.map (base + ·)
          action? := action? }

def stored? : Request → Option StoredSite
  | chain _ => none
  | site start length pad? action? =>
      some ⟨start, length, pad?.getD 0, (action?.map (· + 1)).getD 0⟩

def chainBytes : Request → Bytes
  | chain filters => encodeChain filters
  | site .. => []

end Request

/-- The builder after some requests. -/
def build (encoding : SiteEncoding) (requests : List Request) : HandlerBuilder :=
  requests.foldl Request.perform { encoding := encoding.code }

theorem foldl_perform (builder : HandlerBuilder) (requests : List Request) :
    requests.foldl Request.perform builder =
      { encoding := builder.encoding
        sites := builder.sites ++ requests.filterMap Request.stored?
        actions := builder.actions ++ requests.flatMap Request.chainBytes } := by
  induction requests generalizing builder with
  | nil => simp
  | cons request requests ih =>
      rw [List.foldl_cons, ih]
      cases request with
      | chain filters =>
          simp [Request.perform, HandlerBuilder.addChain, Request.stored?, Request.chainBytes,
            List.filterMap_cons]
      | site start length pad? action? =>
          simp [Request.perform, HandlerBuilder.addSite, Request.stored?, Request.chainBytes]

theorem build_eq (encoding : SiteEncoding) (requests : List Request) :
    build encoding requests =
      { encoding := encoding.code
        sites := requests.filterMap Request.stored?
        actions := requests.flatMap Request.chainBytes } := by
  simp [build, foldl_perform]

/-- Storing a valid request loses nothing: zero is free to stand for no
landing pad, and an offset plus one is never zero. -/
theorem entry_stored (base : Word) {encoding : SiteEncoding} {request : Request}
    (h : request.Valid encoding) :
    request.stored?.map (entry base) = request.entry? base := by
  cases request with
  | chain filters => rfl
  | site start length pad? action? =>
      obtain ⟨hpad, haction, -⟩ := h
      have hp : (if pad?.getD 0 = 0 then none else some (base + pad?.getD 0)) =
          pad?.map (base + ·) := by
        cases pad? with
        | none => rfl
        | some pad => simpa using fun h => hpad (congrArg some h)
      have ha : (if (action?.map (· + 1)).getD 0 = 0 then none
          else some ((action?.map (· + 1)).getD 0 - 1)) = action? := by
        cases action? with
        | none => rfl
        | some action =>
            have hne : action + 1 ≠ 0 := by
              intro h0
              apply haction
              rw [← UInt64.add_sub_cancel action 1, h0]
              rfl
            simp [hne]
      simp only [Request.stored?, Request.entry?, entry, CallSite.ofStored, Option.map_some,
        hp, ha]

theorem siteFits_stored {encoding : SiteEncoding} {request : Request} {site : StoredSite}
    (h : request.Valid encoding) (hs : request.stored? = some site) : SiteFits encoding site := by
  cases request with
  | chain filters => simp [Request.stored?] at hs
  | site start length pad? action? =>
      obtain ⟨-, -, hstart, hlength, hpad⟩ := h
      simp only [Request.stored?, Option.some.injEq] at hs
      subst hs
      refine ⟨hstart, hlength, ?_⟩
      cases pad? with
      | none =>
          intro _
          change (0 : Word).toNat < 2 ^ 32
          decide
      | some pad => exact hpad pad rfl

theorem header_build (encoding : SiteEncoding) (requests : List Request)
    (hsize : (build encoding requests).finish.length < UInt64.size) :
    HandlerHeader.ofBytes (build encoding requests).finish = .ok
      { typeEncoding := omittedEncoding, typeTableEnd? := none, siteEncoding := encoding
        callSites := table (build encoding requests)
        actions := requests.flatMap Request.chainBytes } := by
  have hcode : (build encoding requests).encoding = encoding.code := by rw [build_eq]
  have hactions : (build encoding requests).actions = requests.flatMap Request.chainBytes := by
    rw [build_eq]
  have htable : (table (build encoding requests)).length < UInt64.size := by
    rw [finish_eq] at hsize
    simp only [List.length_cons, List.length_append] at hsize
    omega
  rw [header_finish hcode htable, hactions]

theorem callSites_build {encoding : SiteEncoding} {requests : List Request} (base : Word)
    (hvalid : ∀ request ∈ requests, request.Valid encoding)
    (hsize : (build encoding requests).finish.length < UInt64.size) :
    HandlerTable.callSites ⟨(build encoding requests).finish, base⟩ =
      .ok (requests.filterMap (Request.entry? base)) := by
  have hfits : ∀ site ∈ requests.filterMap Request.stored?, SiteFits encoding site := by
    intro site hs
    obtain ⟨request, hr, hstored⟩ := List.mem_filterMap.mp hs
    exact siteFits_stored (hvalid request hr) hstored
  have htable : table (build encoding requests) =
      (requests.filterMap Request.stored?).flatMap (StoredSite.encode encoding.code) := by
    rw [table, build_eq]
  have hentries : (requests.filterMap Request.stored?).map (entry base) =
      requests.filterMap (Request.entry? base) := by
    rw [List.map_filterMap]
    exact List.filterMap_congr fun request hr => entry_stored base (hvalid request hr)
  have hitems : CallSite.items encoding base (table (build encoding requests)) =
      (requests.filterMap (Request.entry? base)).map .ok := by
    rw [CallSite.items, ByteStream.ofBytes, htable,
      itemsWithin_table base hfits (length_le_table _ _), ← hentries, List.map_map]
    rfl
  rw [HandlerTable.callSites, HandlerTable.header, header_build encoding requests hsize]
  change CallSite.collect (CallSite.items encoding base (table (build encoding requests))) = _
  rw [hitems, CallSite.collect_ok]

theorem determineAction_build {encoding : SiteEncoding} {earlier later : List Request}
    {filters : List Int64} (base : Word) (hne : filters ≠ [])
    (hsize : (build encoding (earlier ++ .chain filters :: later)).finish.length < UInt64.size)
    {site : CallSite} (hsite : site.action? = some ((build encoding earlier).addChain filters).2) :
    HandlerTable.determineAction
        ⟨(build encoding (earlier ++ .chain filters :: later)).finish, base⟩ site =
      meaning filters := by
  have hactions : (earlier ++ .chain filters :: later).flatMap Request.chainBytes =
      earlier.flatMap Request.chainBytes ++
        (encodeChain filters ++ later.flatMap Request.chainBytes) := by
    simp [Request.chainBytes]
  have hlen : (earlier.flatMap Request.chainBytes ++
      (encodeChain filters ++ later.flatMap Request.chainBytes)).length < UInt64.size := by
    have h := hsize
    rw [finish_eq, build_eq, hactions] at h
    simp only [List.length_cons, List.length_append] at h ⊢
    omega
  have hoffset : ((build encoding earlier).addChain filters).2 =
      UInt64.ofNat (earlier.flatMap Request.chainBytes).length := by
    rw [build_eq]
    rfl
  rw [HandlerTable.determineAction, HandlerTable.header, header_build _ _ hsize]
  change Action.determine (List.flatMap Request.chainBytes _) site.action? = _
  rw [hsite, hoffset, hactions, determine_chain _ _ hne hlen]

/-- A table is decoded to the call sites it was built from, in their order,
and each chain asks for what its filters say, whatever was added before and
after it. -/
theorem decodes_as_built (encoding : SiteEncoding) (requests : List Request) (base : Word)
    (hvalid : ∀ request ∈ requests, request.Valid encoding)
    (hsize : (build encoding requests).finish.length < UInt64.size) :
    HandlerTable.callSites ⟨(build encoding requests).finish, base⟩ =
        .ok (requests.filterMap (Request.entry? base)) ∧
      ∀ earlier filters later, requests = earlier ++ .chain filters :: later →
        ∀ site : CallSite,
          site.action? = some ((build encoding earlier).addChain filters).2 →
          HandlerTable.determineAction ⟨(build encoding requests).finish, base⟩ site =
            meaning filters := by
  refine ⟨callSites_build base hvalid hsize, ?_⟩
  rintro earlier filters later rfl site hsite
  have hne : filters ≠ [] := hvalid (.chain filters) (by simp)
  exact determineAction_build base hne hsize hsite

/-- Two chains and two call sites, added in turns, in a function near the end
of the address space: the first pad wraps, and the second chain is negative. -/
theorem decodes_as_built_in_turns :
    let requests : List Request :=
      [.chain [0, 300], .site 0x10 0x8 (some 0x1080) (some 0), .chain [0, -1],
        .site 0x20 0x8 none (some 5)]
    HandlerTable.callSites ⟨(build .udata4 requests).finish, 0xfffffffffffff000⟩ =
        .ok [⟨0xfffffffffffff010, 0xfffffffffffff018, some 0x80, some 0⟩,
          ⟨0xfffffffffffff020, 0xfffffffffffff028, none, some 5⟩] ∧
      HandlerTable.determineAction ⟨(build .udata4 requests).finish, 0xfffffffffffff000⟩
          ⟨0xfffffffffffff010, 0xfffffffffffff018, some 0x80, some 0⟩ = .ok (.catches 300) ∧
      HandlerTable.determineAction ⟨(build .udata4 requests).finish, 0xfffffffffffff000⟩
          ⟨0xfffffffffffff020, 0xfffffffffffff028, none, some 5⟩ =
        .error (.negativeTypeFilter (-1)) := by
  intro requests
  have hvalid : ∀ request ∈ requests, request.Valid .udata4 := by
    simp [requests, Request.Valid, Fits, Word.top]
  have hsize : (build .udata4 requests).finish.length < UInt64.size := by
    decide_cbv
  obtain ⟨hsites, hactions⟩ :=
    decodes_as_built .udata4 requests 0xfffffffffffff000 hvalid hsize
  refine ⟨hsites, hactions [] [0, 300] _ rfl _ rfl, hactions (requests.take 2) [0, -1] _ rfl _ ?_⟩
  decide_cbv

end StackUnwind.HandlerRoundTrip
