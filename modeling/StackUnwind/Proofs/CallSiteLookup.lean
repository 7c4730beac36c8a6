import StackUnwind.Proofs.Consumption
import StackUnwind.Proofs.TableFaults
import Mathlib

/-!
# Looking up a call site

A call-site table is decoded as a whole and then searched, or it is searched
while it is decoded, which stops at the first entry that covers the address or
begins behind it. Both read one entry after the other, from the first byte of
the table on: `Entries` is that reading, and it either uses the table up or
breaks at an entry with a fault. The number of rounds that the decoder is given
always suffices, because every entry takes at least one byte.

The two lookups differ on no table that decodes. On one that breaks, the search
while decoding may answer from the entries in front of the damage; otherwise
both report the damage. The bytes are arbitrary, and the entries need not be
sorted.

Where they are, stopping at the first entry that begins behind the address
loses nothing: none of the entries after it covers the address. The entries may
overlap, repeat, be empty or end before they begin.
-/
namespace StackUnwind

open Decoder

theorem SiteEncoding.readField_consumes (encoding : SiteEncoding) : Consumes encoding.readField := by
  cases encoding with
  | uleb128 => exact Leb128.readUnsigned_consumes
  | udata4 => exact Dwarf.unsignedField_consumes (by decide)

namespace CallSite

theorem read_takes (encoding : SiteEncoding) (base : Word) : Takes 4 (read encoding base) :=
  encoding.readField_consumes.takes.bind fun _ => encoding.readField_consumes.takes.bind fun _ =>
    encoding.readField_consumes.takes.bind fun _ =>
      (Leb128.readUnsigned_consumes.bind_pure _).takes

/-! Entries in a row -/

/-- Reading entries one after the other gives these, and the stream behind them. -/
inductive Entries (encoding : SiteEncoding) (base : Word) :
    ByteStream → List CallSite → ByteStream → Prop
  | none {s} : Entries encoding base s [] s
  | more {s t u site sites} (hnext : next encoding base s = .ok (some site) t)
      (hrest : Entries encoding base t sites u) : Entries encoding base s (site :: sites) u

variable {encoding : SiteEncoding} {base : Word} {s t u : ByteStream} {sites : List CallSite}
variable {fault : Fault}

theorem next_of_empty (h : s.rest = []) : next encoding base s = .ok none s := by
  unfold next
  rw [h]
  rfl

/-- Only a stream that is used up has no next entry. -/
theorem next_none (h : next encoding base s = .ok none t) : s.rest = [] := by
  unfold next at h
  split_ifs at h with hempty
  · exact List.isEmpty_iff.mp hempty
  · obtain ⟨site, -, hsite⟩ := map_ok (mapFault_ok h)
    cases hsite

theorem next_takes {site : CallSite} (h : next encoding base s = .ok (some site) t) :
    t.rest.length + 4 ≤ s.rest.length := by
  unfold next at h
  split_ifs at h with hempty
  · cases h
  · obtain ⟨_, hread, -⟩ := map_ok (mapFault_ok h)
    exact read_takes encoding base s _ t hread

theorem next_consumes {site : CallSite} (h : next encoding base s = .ok (some site) t) :
    t.rest.length < s.rest.length :=
  Nat.lt_of_lt_of_le (Nat.lt_add_of_pos_right (by decide)) (next_takes h)

/-- Reading on until the table is used up or breaks. -/
theorem exists_entries (encoding : SiteEncoding) (base : Word) (s : ByteStream) :
    ∃ sites t, Entries encoding base s sites t ∧
      (t.rest = [] ∨ ∃ fault u, next encoding base t = .error fault u) := by
  -- The induction is on the bytes left, as every entry takes some of them.
  induction hlength : s.rest.length using Nat.strongRecOn generalizing s with
  | ind length ih =>
      cases hnext : next encoding base s with
      | error fault u => exact ⟨[], s, .none, .inr ⟨fault, u, hnext⟩⟩
      | ok site? t =>
          cases site? with
          | none => exact ⟨[], s, .none, .inl (next_none hnext)⟩
          | some site =>
              have hless := next_consumes hnext
              obtain ⟨sites, u, hsites, hend⟩ := ih t.rest.length (hlength ▸ hless) t rfl
              exact ⟨site :: sites, u, .more hnext hsites, hend⟩

/-- The rounds that suffice for a stream suffice for what is behind some entries. -/
theorem itemsWithin_of_entries {rounds : Nat} (h : Entries encoding base s sites t)
    (hrounds : s.rest.length ≤ rounds) :
    ∃ left, t.rest.length ≤ left ∧
      itemsWithin encoding base rounds s = sites.map .ok ++ itemsWithin encoding base left t := by
  induction h generalizing rounds with
  | none => exact ⟨rounds, hrounds, rfl⟩
  | @more s t u site sites hnext _ ih =>
      have hless := next_consumes hnext
      obtain ⟨round, rfl⟩ : ∃ round, rounds = round + 1 := ⟨rounds - 1, by omega⟩
      obtain ⟨left, hleft, hitems⟩ := ih (show t.rest.length ≤ round by omega)
      refine ⟨left, hleft, ?_⟩
      simp only [itemsWithin, hnext, hitems, List.map_cons, List.cons_append]

end CallSite

/-! Headers -/

namespace HandlerHeader

open CallSite

/-- The entries of the table, which they use up. -/
def Holds (header : HandlerHeader) (functionStart : Word) (sites : List CallSite) : Prop :=
  ∃ t, Entries header.siteEncoding functionStart (.ofBytes header.callSites) sites t ∧ t.rest = []

/-- The table breaks with a fault behind some entries. -/
def Breaks (header : HandlerHeader) (functionStart : Word) (sites : List CallSite)
    (fault : Fault) : Prop :=
  ∃ t u, Entries header.siteEncoding functionStart (.ofBytes header.callSites) sites t ∧
    next header.siteEncoding functionStart t = .error fault u

variable {header : HandlerHeader} {functionStart pc : Word} {sites : List CallSite} {fault : Fault}

theorem holds_or_breaks (header : HandlerHeader) (functionStart : Word) :
    ∃ sites, header.Holds functionStart sites ∨ ∃ fault, header.Breaks functionStart sites fault := by
  obtain ⟨sites, t, hsites, hempty | ⟨fault, u, hnext⟩⟩ :=
    exists_entries header.siteEncoding functionStart (.ofBytes header.callSites)
  · exact ⟨sites, .inl ⟨t, hsites, hempty⟩⟩
  · exact ⟨sites, .inr ⟨fault, t, u, hsites, hnext⟩⟩

theorem items_of_holds (h : header.Holds functionStart sites) :
    header.items functionStart = sites.map .ok := by
  obtain ⟨t, hsites, hempty⟩ := h
  obtain ⟨left, -, hitems⟩ := itemsWithin_of_entries hsites (Nat.le_refl _)
  have hnone : itemsWithin header.siteEncoding functionStart left t = [] := by
    cases left with
    | zero => rfl
    | succ left => simp only [itemsWithin, next_of_empty hempty]
  exact hitems.trans (by rw [hnone, List.append_nil])

theorem items_of_breaks (h : header.Breaks functionStart sites fault) :
    header.items functionStart = sites.map .ok ++ [.error fault] := by
  obtain ⟨t, u, hsites, hnext⟩ := h
  obtain ⟨left, hleft, hitems⟩ := itemsWithin_of_entries hsites (Nat.le_refl _)
  have hpos : t.rest ≠ [] := by
    intro hempty
    rw [next_of_empty hempty] at hnext
    cases hnext
  have hlength := List.length_pos_iff.mpr hpos
  obtain ⟨round, rfl⟩ : ∃ round, left = round + 1 := ⟨left - 1, by omega⟩
  have hlast : itemsWithin header.siteEncoding functionStart (round + 1) t = [.error fault] := by
    simp only [itemsWithin, hnext]
  exact hitems.trans (by rw [hlast])

end HandlerHeader

/-! Searching -/

namespace CallSite

/-- A search for `pc` ends at the entry, with it or without a result. -/
def EndsSearch (pc : Word) (site : CallSite) : Prop :=
  site.contains pc = true ∨ pc < site.lo

variable {pc : Word} {sites : List CallSite}

theorem find_append_of_ends (h : ∃ site ∈ sites, site.EndsSearch pc)
    (rest : List (Except Fault CallSite)) :
    find pc (sites.map .ok ++ rest) = find pc (sites.map .ok) := by
  induction sites with
  | nil => simp at h
  | cons site sites ih =>
      simp only [List.map_cons, List.cons_append, find]
      split_ifs with hcontains hbehind
      · rfl
      · rfl
      · obtain ⟨other, hmem, hends⟩ := h
        rcases List.mem_cons.mp hmem with rfl | hmem
        · exact absurd hends (not_or.mpr ⟨hcontains, hbehind⟩)
        · exact ih ⟨other, hmem, hends⟩

theorem find_append_of_not_ends (h : ¬ ∃ site ∈ sites, site.EndsSearch pc)
    (rest : List (Except Fault CallSite)) :
    find pc (sites.map .ok ++ rest) = find pc rest := by
  induction sites with
  | nil => rfl
  | cons site sites ih =>
      have hfirst : ¬ site.EndsSearch pc := fun hends => h ⟨site, List.mem_cons_self, hends⟩
      have hothers : ¬ ∃ site ∈ sites, site.EndsSearch pc :=
        fun ⟨other, hmem, hends⟩ => h ⟨other, List.mem_cons_of_mem _ hmem, hends⟩
      obtain ⟨hcontains, hbehind⟩ := not_or.mp hfirst
      simp only [List.map_cons, List.cons_append, find, if_neg hcontains, if_neg hbehind]
      exact ih hothers

theorem collect_append_error (sites : List CallSite) (fault : Fault) :
    collect (sites.map .ok ++ [.error fault]) = .error fault := by
  induction sites with
  | nil => rfl
  | cons site sites ih => simp only [List.map_cons, List.cons_append, collect, ih]

end CallSite

namespace HandlerTable

variable {table : HandlerTable} {header : HandlerHeader} {sites : List CallSite} {pc : Word}
variable {fault : Fault}

theorem callSites_of_holds (hheader : table.header = .ok header)
    (h : header.Holds table.functionStart sites) : table.callSites = .ok sites := by
  unfold callSites
  rw [hheader]
  change CallSite.collect (header.items table.functionStart) = _
  rw [HandlerHeader.items_of_holds h, CallSite.collect_ok]

theorem callSites_of_breaks (hheader : table.header = .ok header)
    (h : header.Breaks table.functionStart sites fault) : table.callSites = .error fault := by
  unfold callSites
  rw [hheader]
  change CallSite.collect (header.items table.functionStart) = _
  rw [HandlerHeader.items_of_breaks h, CallSite.collect_append_error]

/-- The call sites of a table are the entries that use it up. -/
theorem callSites_eq_ok_iff :
    table.callSites = .ok sites ↔
      ∃ header, table.header = .ok header ∧ header.Holds table.functionStart sites := by
  constructor
  · intro h
    cases hheader : table.header with
    | error fault =>
        unfold callSites at h
        rw [hheader] at h
        cases h
    | ok header =>
        obtain ⟨found, hholds | ⟨fault, hbreaks⟩⟩ := header.holds_or_breaks table.functionStart
        · have hfound := callSites_of_holds hheader hholds
          cases hfound.symm.trans h
          exact ⟨header, rfl, hholds⟩
        · cases (callSites_of_breaks hheader hbreaks).symm.trans h
  · rintro ⟨header, hheader, hholds⟩
    exact callSites_of_holds hheader hholds

/-- The entry that covers `pc`, searched while decoding from the header on. -/
def findWhileDecoding (table : HandlerTable) (pc : Word) : Except Fault (Option CallSite) := do
  (← table.header).find table.functionStart pc

theorem findWhileDecoding_of_header (hheader : table.header = .ok header) (pc : Word) :
    table.findWhileDecoding pc = header.find table.functionStart pc := by
  unfold findWhileDecoding
  rw [hheader]
  rfl

theorem find_of_callSites (h : table.callSites = .ok sites) (pc : Word) :
    table.find pc = CallSite.find pc (sites.map .ok) := by
  unfold find
  rw [h]
  rfl

theorem exists_header_of_find {site? : Option CallSite} (h : table.find pc = .ok site?) :
    ∃ header, table.header = .ok header := by
  cases hheader : table.header with
  | ok header => exact ⟨header, rfl⟩
  | error fault =>
      unfold find callSites at h
      rw [hheader] at h
      cases h

/-- The table breaks with a fault, but an entry in front ends the search for
`pc`, so that the entries in front have the answer. -/
def AnswersBeforeBreak (table : HandlerTable) (pc : Word) (site? : Option CallSite)
    (fault : Fault) : Prop :=
  ∃ header sites, table.header = .ok header ∧ header.Breaks table.functionStart sites fault ∧
    (∃ site ∈ sites, site.EndsSearch pc) ∧ CallSite.find pc (sites.map .ok) = .ok site?

theorem AnswersBeforeBreak.lookups {site? : Option CallSite}
    (h : table.AnswersBeforeBreak pc site? fault) :
    table.find pc = .error fault ∧ table.findWhileDecoding pc = .ok site? := by
  obtain ⟨header, sites, hheader, hbreaks, hends, hfront⟩ := h
  constructor
  · exact (find_eq_error_iff table pc fault).mpr (callSites_of_breaks hheader hbreaks)
  · rw [findWhileDecoding_of_header hheader, HandlerHeader.find,
      HandlerHeader.items_of_breaks hbreaks, CallSite.find_append_of_ends hends, hfront]

/-- The lookups give the same, unless there is an answer in front of a break. -/
theorem find_eq_or_answers (table : HandlerTable) (pc : Word) :
    table.find pc = table.findWhileDecoding pc ∨
      ∃ site? fault, table.AnswersBeforeBreak pc site? fault := by
  cases hheader : table.header with
  | error fault =>
      left
      unfold find findWhileDecoding callSites
      rw [hheader]
      rfl
  | ok header =>
      rw [findWhileDecoding_of_header hheader, HandlerHeader.find]
      obtain ⟨sites, hholds | ⟨fault, hbreaks⟩⟩ := header.holds_or_breaks table.functionStart
      · left
        rw [find_of_callSites (callSites_of_holds hheader hholds),
          HandlerHeader.items_of_holds hholds]
      · by_cases hends : ∃ site ∈ sites, site.EndsSearch pc
        · right
          obtain ⟨site?, hfront⟩ := CallSite.find_decoded pc sites
          exact ⟨site?, fault, header, sites, hheader, hbreaks, hends, hfront⟩
        · left
          rw [HandlerHeader.items_of_breaks hbreaks, CallSite.find_append_of_not_ends hends,
            (find_eq_error_iff table pc fault).mpr (callSites_of_breaks hheader hbreaks)]
          rfl

/-- What the lookup in the decoded table finds, the search while decoding finds;
a fault of the latter is one of the former. They differ exactly when the table
breaks behind an entry that ends the search: then the lookup in the decoded
table reports the fault at which it breaks, and the search while decoding has
the answer of the entries in front. -/
theorem lookups_agree (table : HandlerTable) (pc : Word) :
    (∀ site?, table.find pc = .ok site? → ∃ header, table.header = .ok header ∧
      header.find table.functionStart pc = .ok site?) ∧
    (∀ fault, table.findWhileDecoding pc = .error fault → table.find pc = .error fault) ∧
    (table.find pc ≠ table.findWhileDecoding pc ↔
      ∃ site? fault, table.AnswersBeforeBreak pc site? fault) ∧
    ∀ site? fault, table.AnswersBeforeBreak pc site? fault →
      table.find pc = .error fault ∧ table.findWhileDecoding pc = .ok site? := by
  refine ⟨fun site? hfind => ?_, fun fault hsearch => ?_, ⟨fun hne => ?_, ?_⟩,
    fun site? fault hanswers => hanswers.lookups⟩
  · rcases table.find_eq_or_answers pc with heq | ⟨_, _, hanswers⟩
    · obtain ⟨header, hheader⟩ := exists_header_of_find hfind
      refine ⟨header, hheader, ?_⟩
      rw [← findWhileDecoding_of_header hheader, ← heq]
      exact hfind
    · cases hfind.symm.trans hanswers.lookups.1
  · rcases table.find_eq_or_answers pc with heq | ⟨_, _, hanswers⟩
    · exact heq.trans hsearch
    · cases hsearch.symm.trans hanswers.lookups.2
  · exact (table.find_eq_or_answers pc).resolve_left hne
  · rintro ⟨site?, fault, hanswers⟩ heq
    rw [hanswers.lookups.1, hanswers.lookups.2] at heq
    cases heq

/-- One entry, for the first 64 bytes of a function, and the first byte of another. -/
def cutTable : HandlerTable :=
  ⟨[0xff, 0xff, 0x01, 0x05, 0x00, 0x40, 0x50, 0x00, 0x41], 0x1000⟩

/-- Inside the entry only the search while decoding has an answer; behind it
both lookups report the entry that is cut off. -/
theorem cutTable_lookups :
    cutTable.findWhileDecoding 0x1010 = .ok (some ⟨0x1000, 0x1040, some 0x1050, none⟩) ∧
    cutTable.find 0x1010 = .error .callSiteTableOverrun ∧
    cutTable.findWhileDecoding 0x1050 = .error .callSiteTableOverrun ∧
    cutTable.find 0x1050 = .error .callSiteTableOverrun := by
  have hbehind : cutTable.findWhileDecoding 0x1050 = .error .callSiteTableOverrun := by cbv
  have hagree := (lookups_agree cutTable 0x1050).2.1 _ hbehind
  exact ⟨by cbv, by cbv, hbehind, hagree⟩

end HandlerTable

/-! Sorted tables -/

namespace CallSite

/-- The entry's range has the address. -/
def Covers (pc : Word) (site : CallSite) : Prop :=
  site.lo ≤ pc ∧ pc < site.hi

instance (pc : Word) (site : CallSite) : Decidable (site.Covers pc) :=
  inferInstanceAs (Decidable (_ ∧ _))

theorem contains_iff {pc : Word} {site : CallSite} : site.contains pc = true ↔ site.Covers pc := by
  simp [contains, Covers]

/-- A search looks at the entries in front of the first that begins behind the address. -/
theorem find_eq_find?_takeWhile (pc : Word) (sites : List CallSite) :
    find pc (sites.map .ok) =
      .ok ((sites.takeWhile fun site => site.lo ≤ pc).find? fun site => site.contains pc) := by
  induction sites with
  | nil => rfl
  | cons site sites ih =>
      rw [List.map_cons, find]
      by_cases hlo : site.lo ≤ pc
      · rw [List.takeWhile_cons_of_pos (by simpa using hlo), List.find?_cons]
        cases site.contains pc with
        | true => rfl
        | false => simpa [UInt64.not_lt.mpr hlo] using ih
      · have hcontains : site.contains pc = false := by simp [contains, hlo]
        rw [List.takeWhile_cons_of_neg (by simpa using hlo), hcontains]
        simp [UInt64.not_le.mp hlo]

/-- Behind an entry that begins behind the address all others do. -/
theorem find?_takeWhile_of_sorted {sites : List CallSite}
    (hsorted : sites.Pairwise fun a b => a.lo ≤ b.lo) (pc : Word) :
    ((sites.takeWhile fun site => site.lo ≤ pc).find? fun site => site.contains pc) =
      sites.find? fun site => site.contains pc := by
  induction sites with
  | nil => rfl
  | cons site sites ih =>
      obtain ⟨hfirst, hrest⟩ := List.pairwise_cons.mp hsorted
      by_cases hlo : site.lo ≤ pc
      · rw [List.takeWhile_cons_of_pos (by simpa using hlo), List.find?_cons, List.find?_cons,
          ih hrest]
      · rw [List.takeWhile_cons_of_neg (by simpa using hlo), List.find?_nil, eq_comm,
          List.find?_eq_none]
        intro other hmem hcontains
        have hother : other.lo ≤ pc := (contains_iff.mp hcontains).1
        rcases List.mem_cons.mp hmem with rfl | hmem
        · exact hlo hother
        · exact hlo (UInt64.le_trans (hfirst other hmem) hother)

end CallSite

namespace HandlerTable

variable {table : HandlerTable} {sites : List CallSite}

theorem find_of_sorted (hsites : table.callSites = .ok sites)
    (hsorted : sites.Pairwise fun a b => a.lo ≤ b.lo) (pc : Word) :
    table.find pc = .ok (sites.find? fun site => site.contains pc) := by
  rw [find_of_callSites hsites, CallSite.find_eq_find?_takeWhile,
    CallSite.find?_takeWhile_of_sorted hsorted]

/-- In a table whose entries are sorted by their starts, the lookup gives the
first entry of all that covers the address, and nothing exactly when none of
them does. -/
theorem find_first_covering (hsites : table.callSites = .ok sites)
    (hsorted : sites.Pairwise fun a b => a.lo ≤ b.lo) (pc : Word) :
    (∃ site?, table.find pc = .ok site?) ∧
    (∀ site, table.find pc = .ok (some site) ↔
      ∃ before after, sites = before ++ site :: after ∧ site.Covers pc ∧
        ∀ other ∈ before, ¬ other.Covers pc) ∧
    (table.find pc = .ok none ↔ ∀ site ∈ sites, ¬ site.Covers pc) := by
  rw [find_of_sorted hsites hsorted]
  refine ⟨⟨_, rfl⟩, fun site => ?_, ?_⟩
  · rw [Except.ok.injEq, List.find?_eq_some_iff_append, CallSite.contains_iff]
    constructor
    · rintro ⟨hcovers, before, after, rfl, hbefore⟩
      refine ⟨before, after, rfl, hcovers, fun other hmem hother => ?_⟩
      have hcontains := hbefore other hmem
      rw [CallSite.contains_iff.mpr hother] at hcontains
      cases hcontains
    · rintro ⟨before, after, rfl, hcovers, hbefore⟩
      refine ⟨hcovers, before, after, rfl, fun other hmem => ?_⟩
      have hcontains := mt CallSite.contains_iff.mp (hbefore other hmem)
      simpa using hcontains
  · rw [Except.ok.injEq, List.find?_eq_none]
    exact forall₂_congr fun _ _ => not_congr CallSite.contains_iff

/-- Two entries for one range, an empty one, one that wraps and ends before it
begins, one inside the first, and one further on. -/
def tangledSites : List CallSite :=
  [⟨0x1010, 0x1040, some 0x1050, none⟩, ⟨0x1010, 0x1040, some 0x1058, none⟩,
    ⟨0x1020, 0x1020, none, none⟩, ⟨0x1020, 0x1010, some 0x1070, none⟩,
    ⟨0x1028, 0x1030, some 0x1070, some 0⟩, ⟨0x1060, 0x1070, none, none⟩]

def tangledTable : HandlerTable where
  bytes := [0xff, 0xff, 0x01, 0x21, 0x10, 0x30, 0x50, 0x00, 0x10, 0x30, 0x58, 0x00,
    0x20, 0x00, 0x00, 0x00,
    0x20, 0xf0, 0xff, 0xff, 0xff, 0xff, 0xff, 0xff, 0xff, 0xff, 0x01, 0x70, 0x00,
    0x28, 0x08, 0x70, 0x01, 0x60, 0x10, 0x00, 0x00]
  functionStart := 0x1000

/-- Where several entries cover the address the first one answers, and between
the ranges none does. -/
theorem tangledTable_lookup :
    tangledTable.callSites = .ok tangledSites ∧
    tangledSites.Pairwise (fun a b => a.lo ≤ b.lo) ∧
    tangledTable.find 0x102a = .ok (some ⟨0x1010, 0x1040, some 0x1050, none⟩) ∧
    tangledTable.find 0x1050 = .ok none := by
  have hsites : tangledTable.callSites = .ok tangledSites := by cbv
  have hsorted : tangledSites.Pairwise fun a b => a.lo ≤ b.lo := by decide
  refine ⟨hsites, hsorted, ?_, ?_⟩
  · apply ((find_first_covering hsites hsorted 0x102a).2.1 _).mpr
    exact ⟨[], _, rfl, by decide, by simp⟩
  · apply (find_first_covering hsites hsorted 0x1050).2.2.mpr
    decide

end HandlerTable
end StackUnwind
