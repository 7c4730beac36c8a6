import StackUnwind.Proofs.CallSiteLookup

/-!
# The grammar of exception tables

Which byte strings begin with the header of an exception table, and how the
header splits them: the omitted base of the landing pads, the encoding of the
type table and, unless it is omitted, the distance to its end, the encoding of
the call sites, the length of their table, the table itself and the actions,
which take the rest. Numbers are LEB128 and may be padded, so a header has many
spellings.

`Layout` are the strings that are accepted, with their header, and `Malformed`
the others, each with its fault. Every string is of one kind or the other.

A call site takes four bytes at least, which bounds the number of those that
a table holds in front of its end or of the first that cannot be read.
-/
namespace StackUnwind

/-! Padded numbers -/

namespace Leb128

/-- The bytes of a number: groups of seven bits, the least significant first, with
the top bit set on all bytes but the last. -/
inductive Spells : Bytes → Nat → Prop
  | last {b : UInt8} (hb : b.toNat < 128) : Spells [b] b.toNat
  | more {b : UInt8} {bytes : Bytes} {n : Nat} (hb : 128 ≤ b.toNat) (hrest : Spells bytes n) :
      Spells (b :: bytes) (b.toNat % 128 + 128 * n)

/-- A word in ten bytes at most. -/
def SpellsWord (bytes : Bytes) (w : Word) : Prop :=
  Spells bytes w.toNat ∧ bytes.length ≤ 10

/-- No number begins here: the bytes end inside it, or the tenth one is more than
the highest bit of a word. -/
inductive Breaks : Bytes → DwarfFault → Prop
  | short {bytes : Bytes} (hlength : bytes.length < 10) (h : ∀ b ∈ bytes, 128 ≤ b.toNat) :
      Breaks bytes .endOfInput
  | large {front rest : Bytes} {b : UInt8} (hlength : front.length = 9)
      (h : ∀ b ∈ front, 128 ≤ b.toNat) (hlow : b ≠ 0x00) (hhigh : b ≠ 0x01) :
      Breaks (front ++ b :: rest) .badUnsignedLeb128

theorem Spells.length_pos {bytes : Bytes} {n : Nat} (h : Spells bytes n) : 0 < bytes.length := by
  cases h <;> simp

/-- Reading on behind `k` groups adds the number above them. -/
theorem unsignedAfter_of_spells {bytes : Bytes} {n : Nat} (h : Spells bytes n)
    (k value offset : Nat) (rest : Bytes) (hlength : k + bytes.length ≤ 10)
    (hfits : value + n * 2 ^ (7 * k) < 2 ^ 64) :
    unsignedAfter (7 * k) value offset (bytes ++ rest) =
      .ok (UInt64.ofNat (value + n * 2 ^ (7 * k))) ⟨rest, offset + bytes.length⟩ := by
  induction h generalizing k value offset with
  | @last b hb =>
      have hlast : ¬ (7 * k = 63 ∧ b ≠ 0x00 ∧ b ≠ 0x01) := by
        rintro ⟨hk, h0, h1⟩
        rw [hk] at hfits
        have hbit : b.toNat = 0 ∨ b.toNat = 1 := by omega
        rcases hbit with hbit | hbit
        · exact h0 (UInt8.toNat_inj.mp hbit)
        · exact h1 (UInt8.toNat_inj.mp hbit)
      have hlt : b < 0x80 := UInt8.lt_iff_toNat_lt.mpr hb
      simp only [List.singleton_append, unsignedAfter, if_neg hlast, if_pos hlt,
        Nat.mod_eq_of_lt hb, Nat.shiftLeft_eq, List.length_singleton]
  | @more b bytes n hb hrest ih =>
      have hpos := hrest.length_pos
      rw [List.length_cons] at hlength
      have hlt : ¬ b < 0x80 := by
        rw [UInt8.lt_iff_toNat_lt]
        exact Nat.not_lt.mpr hb
      have hpow : 2 ^ (7 * (k + 1)) = 2 ^ (7 * k) * 128 := by
        rw [Nat.mul_succ, pow_add]
        rfl
      have hsum : value + b.toNat % 128 * 2 ^ (7 * k) + n * 2 ^ (7 * (k + 1)) =
          value + (b.toNat % 128 + 128 * n) * 2 ^ (7 * k) := by
        rw [hpow]
        ring
      have hread := ih (k + 1) (value + b.toNat % 128 * 2 ^ (7 * k)) (offset + 1)
        (by omega) (by rw [hsum]; exact hfits)
      rw [hsum, Nat.mul_succ] at hread
      rw [List.cons_append, unsignedAfter, if_neg (by omega)]
      simp only [if_neg hlt, Nat.shiftLeft_eq, hread, List.length_cons]
      rw [Nat.add_right_comm, Nat.add_assoc]

theorem SpellsWord.reads {bytes : Bytes} {w : Word} (h : SpellsWord bytes w) :
    Decoder.Reads readUnsigned bytes w := by
  intro rest offset
  have hread := unsignedAfter_of_spells h.1 0 0 offset rest (by simpa using h.2)
    (by simpa using w.toNat_lt)
  simpa [readUnsigned] using hread

/-- Continued bytes are passed over, as long as there are no more than nine. -/
theorem unsignedAfter_continued {front : Bytes} (h : ∀ b ∈ front, 128 ≤ b.toNat) {k : Nat}
    (hlength : k + front.length < 10) (value offset : Nat) (rest : Bytes) :
    ∃ value', unsignedAfter (7 * k) value offset (front ++ rest) =
      unsignedAfter (7 * (k + front.length)) value' (offset + front.length) rest := by
  induction front generalizing k value offset with
  | nil => exact ⟨value, rfl⟩
  | cons b front ih =>
      obtain ⟨hb, hfront⟩ := List.forall_mem_cons.mp h
      rw [List.length_cons] at hlength ⊢
      have hlt : ¬ b < 0x80 := by
        rw [UInt8.lt_iff_toNat_lt]
        exact Nat.not_lt.mpr hb
      obtain ⟨value', hread⟩ := ih hfront (k := k + 1) (by omega)
        (value + (b.toNat % 128) <<< (7 * k)) (offset + 1)
      refine ⟨value', ?_⟩
      rw [List.cons_append, unsignedAfter, if_neg (by omega)]
      simp only [if_neg hlt]
      rw [← Nat.mul_succ, hread, Nat.add_right_comm k 1, Nat.add_assoc k, Nat.add_right_comm offset 1,
        Nat.add_assoc offset]

theorem Breaks.reads {bytes : Bytes} {cause : DwarfFault} (h : Breaks bytes cause) (offset : Nat) :
    ∃ t, readUnsigned ⟨bytes, offset⟩ = .error cause t := by
  cases h with
  | short hlength h =>
      obtain ⟨value, hread⟩ := unsignedAfter_continued h (k := 0) (by omega) 0 offset []
      rw [List.append_nil] at hread
      exact ⟨_, hread⟩
  | @large front rest b hlength h hlow hhigh =>
      obtain ⟨value, hread⟩ := unsignedAfter_continued h (k := 0) (by omega) 0 offset (b :: rest)
      rw [hlength, unsignedAfter, if_pos ⟨rfl, hlow, hhigh⟩] at hread
      exact ⟨_, hread⟩

/-- Behind `k` groups a number goes on and fits into what is left of a word, or it
breaks off. -/
theorem spells_or_breaks_after (bytes : Bytes) {k : Nat} (hk : k < 10) :
    (∃ field rest n, bytes = field ++ rest ∧ Spells field n ∧ k + field.length ≤ 10 ∧
      n < 2 ^ (64 - 7 * k)) ∨
    (k + bytes.length < 10 ∧ ∀ b ∈ bytes, 128 ≤ b.toNat) ∨
    ∃ front b rest, bytes = front ++ b :: rest ∧ k + front.length = 9 ∧
      (∀ b ∈ front, 128 ≤ b.toNat) ∧ b ≠ 0x00 ∧ b ≠ 0x01 := by
  induction bytes generalizing k with
  | nil => exact .inr (.inl ⟨hk, by simp⟩)
  | cons b bytes ih =>
      by_cases hlarge : k = 9 ∧ b ≠ 0x00 ∧ b ≠ 0x01
      · obtain ⟨rfl, hlow, hhigh⟩ := hlarge
        exact .inr (.inr ⟨[], b, bytes, rfl, rfl, by simp, hlow, hhigh⟩)
      by_cases hb : b.toNat < 128
      · have hfits : b.toNat < 2 ^ (64 - 7 * k) := by
          rcases Nat.lt_or_eq_of_le (Nat.le_of_lt_succ hk) with hless | rfl
          · have hpow : 2 ^ 8 ≤ 2 ^ (64 - 7 * k) := Nat.pow_le_pow_right (by decide) (by omega)
            omega
          · rcases not_and_or.mp (not_and.mp hlarge rfl) with hzero | hone
            · obtain rfl := not_not.mp hzero
              decide
            · obtain rfl := not_not.mp hone
              decide
        exact .inl ⟨[b], bytes, b.toNat, rfl, .last hb, by simpa using hk, hfits⟩
      · have hcontinued : 128 ≤ b.toNat := Nat.not_lt.mp hb
        have hnext : k + 1 < 10 := by
          have hne : k ≠ 9 := by
            rintro rfl
            refine hlarge ⟨rfl, ?_, ?_⟩
            all_goals
              rintro rfl
              exact hb (by decide)
          omega
        have hpow : 2 ^ (64 - 7 * k) = 2 ^ (64 - 7 * (k + 1)) * 128 := by
          rw [show 64 - 7 * k = 64 - 7 * (k + 1) + 7 by omega, pow_add]
          rfl
        rcases ih hnext with ⟨field, rest, n, rfl, hspells, hlength, hfits⟩ |
          ⟨hlength, hbytes⟩ | ⟨front, c, rest, rfl, hlength, hfront, hlow, hhigh⟩
        · refine .inl ⟨b :: field, rest, _, rfl, .more hcontinued hspells, ?_, ?_⟩
          · rw [List.length_cons]
            omega
          · rw [hpow]
            omega
        · refine .inr (.inl ⟨?_, List.forall_mem_cons.mpr ⟨hcontinued, hbytes⟩⟩)
          rw [List.length_cons]
          omega
        · refine .inr (.inr ⟨b :: front, c, rest, rfl, ?_,
            List.forall_mem_cons.mpr ⟨hcontinued, hfront⟩, hlow, hhigh⟩)
          rw [List.length_cons]
          omega

theorem spells_or_breaks (bytes : Bytes) :
    (∃ field rest w, bytes = field ++ rest ∧ SpellsWord field w) ∨ ∃ cause, Breaks bytes cause := by
  rcases spells_or_breaks_after bytes (show 0 < 10 by decide) with
    ⟨field, rest, n, hbytes, hspells, hlength, hfits⟩ | ⟨hlength, hbytes⟩ |
    ⟨front, b, rest, rfl, hlength, hfront, hlow, hhigh⟩
  · refine .inl ⟨field, rest, UInt64.ofNat n, hbytes, ?_, by simpa using hlength⟩
    rwa [UInt64.toNat_ofNat_of_lt' hfits]
  · exact .inr ⟨_, .short (by simpa using hlength) hbytes⟩
  · exact .inr ⟨_, .large (by simpa using hlength) hfront hlow hhigh⟩

end Leb128

/-! Headers -/

theorem Decoder.bind_of_error {ε α β : Type} {d : Decoder ε α} {f : α → Decoder ε β}
    {s t : ByteStream} {e : ε} (h : d s = .error e t) : (d >>= f) s = .error e t := by
  simp only [bind, EStateM.bind, h]

theorem Decoder.mapFault_of_error {ε ε' α : Type} {d : Decoder ε α} {f : ε → ε'}
    {s t : ByteStream} {e : ε} (h : d s = .error e t) : d.mapFault f s = .error (f e) t := by
  simp only [mapFault, h]

theorem Decoder.map_of_error {ε α β : Type} {d : Decoder ε α} {s t : ByteStream} {e : ε}
    (h : d s = .error e t) (g : α → β) : (g <$> d) s = .error e t := by
  simp only [Functor.map, EStateM.map, h]

namespace HandlerHeader

open Decoder Leb128

/-- The distance to the end of the type table, which is there unless the type
encoding is the omitted one. -/
inductive TypePart : UInt8 → Bytes → Option Word → Prop
  | omitted : TypePart omittedEncoding [] none
  | present {encoding : UInt8} {field : Bytes} {distance : Word} (h : encoding ≠ omittedEncoding)
      (hfield : SpellsWord field distance) : TypePart encoding field (some distance)

/-- The strings that are accepted, with the header that they spell. -/
inductive Layout : Bytes → HandlerHeader → Prop
  | intro {typeEncoding : UInt8} {typePart lengthPart callSites : Bytes}
      {typeTableEnd? : Option Word} {length : Word} (siteEncoding : SiteEncoding) (actions : Bytes)
      (htype : TypePart typeEncoding typePart typeTableEnd?)
      (hlength : SpellsWord lengthPart length) (hsites : callSites.length = length.toNat) :
      Layout
        (omittedEncoding :: typeEncoding ::
          (typePart ++ (siteEncoding.code :: (lengthPart ++ (callSites ++ actions)))))
        { typeEncoding, typeTableEnd?, siteEncoding, callSites, actions }

/-- The strings that are refused, with their fault. -/
inductive Malformed : Bytes → Fault → Prop
  | empty : Malformed [] (.dwarf .endOfInput)
  | padBase {padBase : UInt8} (rest : Bytes) (h : padBase ≠ omittedEncoding) :
      Malformed (padBase :: rest) (.unsupportedEncoding .landingPadBase padBase)
  | noType : Malformed [omittedEncoding] (.dwarf .endOfInput)
  | typeEnd {typeEncoding : UInt8} {rest : Bytes} {cause : DwarfFault}
      (h : typeEncoding ≠ omittedEncoding) (hrest : Leb128.Breaks rest cause) :
      Malformed (omittedEncoding :: typeEncoding :: rest) (.dwarf cause)
  | noSites {typeEncoding : UInt8} {typePart : Bytes} {typeTableEnd? : Option Word}
      (htype : TypePart typeEncoding typePart typeTableEnd?) :
      Malformed (omittedEncoding :: typeEncoding :: typePart) (.dwarf .endOfInput)
  | siteEncoding {typeEncoding code : UInt8} {typePart : Bytes} {typeTableEnd? : Option Word}
      (rest : Bytes) (htype : TypePart typeEncoding typePart typeTableEnd?)
      (h : ∀ encoding : SiteEncoding, code ≠ encoding.code) :
      Malformed (omittedEncoding :: typeEncoding :: (typePart ++ (code :: rest)))
        (.unsupportedEncoding .callSiteTable code)
  | length {typeEncoding : UInt8} {typePart rest : Bytes} {typeTableEnd? : Option Word}
      {cause : DwarfFault} (encoding : SiteEncoding)
      (htype : TypePart typeEncoding typePart typeTableEnd?) (hrest : Leb128.Breaks rest cause) :
      Malformed (omittedEncoding :: typeEncoding :: (typePart ++ (encoding.code :: rest)))
        (.dwarf cause)
  | overrun {typeEncoding : UInt8} {typePart lengthPart rest : Bytes}
      {typeTableEnd? : Option Word} {length : Word} (encoding : SiteEncoding)
      (htype : TypePart typeEncoding typePart typeTableEnd?)
      (hlength : SpellsWord lengthPart length) (hrest : rest.length < length.toNat) :
      Malformed
        (omittedEncoding :: typeEncoding ::
          (typePart ++ (encoding.code :: (lengthPart ++ rest))))
        .callSiteTableOverrun

theorem typePart_or_breaks (typeEncoding : UInt8) (bytes : Bytes) :
    (∃ part rest typeTableEnd?, bytes = part ++ rest ∧ TypePart typeEncoding part typeTableEnd?) ∨
      typeEncoding ≠ omittedEncoding ∧ ∃ cause, Leb128.Breaks bytes cause := by
  by_cases h : typeEncoding = omittedEncoding
  · subst h
    exact .inl ⟨[], bytes, none, rfl, .omitted⟩
  · rcases spells_or_breaks bytes with ⟨field, rest, distance, hbytes, hfield⟩ | hbreaks
    · exact .inl ⟨field, rest, some distance, hbytes, .present h hfield⟩
    · exact .inr ⟨h, hbreaks⟩

/-- Every string is of one kind or the other. -/
theorem layout_or_malformed (bytes : Bytes) :
    (∃ header, Layout bytes header) ∨ ∃ fault, Malformed bytes fault := by
  rcases bytes with _ | ⟨padBase, _ | ⟨typeEncoding, bytes⟩⟩
  · exact .inr ⟨_, .empty⟩
  · by_cases hpad : padBase = omittedEncoding
    · subst hpad
      exact .inr ⟨_, .noType⟩
    · exact .inr ⟨_, .padBase [] hpad⟩
  by_cases hpad : padBase = omittedEncoding
  swap
  · exact .inr ⟨_, .padBase _ hpad⟩
  subst hpad
  rcases typePart_or_breaks typeEncoding bytes with
    ⟨part, _ | ⟨code, rest⟩, typeTableEnd?, rfl, htype⟩ | ⟨hpresent, cause, hbreaks⟩
  · rw [List.append_nil]
    exact .inr ⟨_, .noSites htype⟩
  · by_cases hcode : ∃ encoding : SiteEncoding, code = encoding.code
    swap
    · exact .inr ⟨_, .siteEncoding rest htype (not_exists.mp hcode)⟩
    obtain ⟨encoding, rfl⟩ := hcode
    rcases spells_or_breaks rest with ⟨lengthPart, rest, length, rfl, hlength⟩ | ⟨cause, hbreaks⟩
    · by_cases hroom : rest.length < length.toNat
      · exact .inr ⟨_, .overrun encoding htype hlength hroom⟩
      · have hsites : (rest.take length.toNat).length = length.toNat :=
          List.length_take_of_le (Nat.not_lt.mp hroom)
        rw [← List.take_append_drop length.toNat rest]
        exact .inl ⟨_, .intro encoding _ htype hlength hsites⟩
    · exact .inr ⟨_, .length encoding htype hbreaks⟩
  · exact .inr ⟨_, .typeEnd hpresent hbreaks⟩

/-! Reading -/

/-- What `read` reads behind the call-site encoding. -/
def readTables (typeEncoding : UInt8) (typeTableEnd? : Option Word)
    (siteEncoding : SiteEncoding) : Decoder Fault HandlerHeader := do
  let length ← Leb128.readUnsigned.mapFault .dwarf
  match (← get).take? length.toNat with
  | none => throw .callSiteTableOverrun
  | some (callSites, s) =>
      return { typeEncoding, typeTableEnd?, siteEncoding, callSites, actions := s.rest }

/-- What `read` reads behind the type table's encoding and end. -/
def readSites (typeEncoding : UInt8) (typeTableEnd? : Option Word) :
    Decoder Fault HandlerHeader := do
  let code ← Dwarf.byte.mapFault .dwarf
  let siteEncoding ← match SiteEncoding.ofCode code with
    | .ok encoding => pure encoding
    | .error fault => throw fault
  readTables typeEncoding typeTableEnd? siteEncoding

theorem byte_cons (b : UInt8) (rest : Bytes) (offset : Nat) :
    Dwarf.byte.mapFault Fault.dwarf ⟨b :: rest, offset⟩ = .ok b ⟨rest, offset + 1⟩ :=
  (Dwarf.byte_reads b).mapFault Fault.dwarf rest offset

theorem byte_nil (offset : Nat) :
    Dwarf.byte.mapFault Fault.dwarf ⟨[], offset⟩ = .error (.dwarf .endOfInput) ⟨[], offset⟩ := rfl

theorem read_eq (typeEncoding : UInt8) (rest : Bytes) :
    read ⟨omittedEncoding :: typeEncoding :: rest, 0⟩ =
      ((readTypeTableEnd typeEncoding).mapFault .dwarf >>= readSites typeEncoding) ⟨rest, 2⟩ := by
  rw [read, bind_of_ok (byte_cons _ _ _), if_pos rfl]
  dsimp only
  rw [bind_of_ok (byte_cons _ _ _)]
  rfl

theorem TypePart.reads {typeEncoding : UInt8} {part : Bytes} {typeTableEnd? : Option Word}
    (h : TypePart typeEncoding part typeTableEnd?) :
    Reads (readTypeTableEnd typeEncoding) part typeTableEnd? := by
  cases h with
  | omitted => exact .pure none
  | present h hfield =>
      rw [readTypeTableEnd, if_neg h]
      exact hfield.reads.map some

theorem read_of_typePart {typeEncoding : UInt8} {part : Bytes} {typeTableEnd? : Option Word}
    (h : Reads (readTypeTableEnd typeEncoding) part typeTableEnd?) (rest : Bytes) :
    read ⟨omittedEncoding :: typeEncoding :: (part ++ rest), 0⟩ =
      readSites typeEncoding typeTableEnd? ⟨rest, 2 + part.length⟩ := by
  rw [read_eq, bind_of_ok (h.mapFault Fault.dwarf rest 2)]

theorem readSites_of_code (typeEncoding : UInt8) (typeTableEnd? : Option Word)
    (encoding : SiteEncoding) (rest : Bytes) (offset : Nat) :
    readSites typeEncoding typeTableEnd? ⟨encoding.code :: rest, offset⟩ =
      readTables typeEncoding typeTableEnd? encoding ⟨rest, offset + 1⟩ := by
  have hcode : SiteEncoding.ofCode encoding.code = .ok encoding := by cases encoding <;> rfl
  rw [readSites, bind_of_ok (byte_cons _ _ _)]
  simp only [hcode, pure_bind]

/-- Behind the length there are the call sites, if there is room for them, and the
actions take the rest. -/
theorem ofBytes_of_length {typeEncoding : UInt8} {typePart lengthPart : Bytes}
    {typeTableEnd? : Option Word} {length : Word} (encoding : SiteEncoding)
    (htype : Reads (readTypeTableEnd typeEncoding) typePart typeTableEnd?)
    (hlength : Reads readUnsigned lengthPart length) (rest : Bytes) :
    HandlerHeader.ofBytes (omittedEncoding :: typeEncoding ::
        (typePart ++ (encoding.code :: (lengthPart ++ rest)))) =
      if length.toNat ≤ rest.length then
        .ok { typeEncoding, typeTableEnd?, siteEncoding := encoding
              callSites := rest.take length.toNat, actions := rest.drop length.toNat }
      else .error .callSiteTableOverrun := by
  rw [HandlerHeader.ofBytes, ByteStream.ofBytes, outcome, read_of_typePart htype,
    readSites_of_code, readTables, bind_of_ok (hlength.mapFault Fault.dwarf rest _), get_bind]
  simp only [ByteStream.take?, List.length_take, min_eq_left_iff]
  split_ifs <;> rfl

theorem Layout.ofBytes {bytes : Bytes} {header : HandlerHeader} (h : Layout bytes header) :
    HandlerHeader.ofBytes bytes = .ok header := by
  obtain ⟨siteEncoding, actions, htype, hlength, hsites⟩ := h
  rw [ofBytes_of_length siteEncoding htype.reads hlength.reads, ← hsites, if_pos (by simp)]
  simp

theorem outcome_of_error {d : Decoder Fault HandlerHeader} {s t : ByteStream} {fault : Fault}
    (h : d s = .error fault t) : d.outcome s = .error fault := by
  simp only [Decoder.outcome, h]

theorem Malformed.ofBytes {bytes : Bytes} {fault : Fault} (h : Malformed bytes fault) :
    HandlerHeader.ofBytes bytes = .error fault := by
  cases h with
  | empty => rfl
  | noType => rfl
  | @padBase padBase rest hpad =>
      have hread : read ⟨padBase :: rest, 0⟩ =
          .error (.unsupportedEncoding .landingPadBase padBase) ⟨rest, 1⟩ := by
        rw [read, bind_of_ok (byte_cons _ _ _), if_neg hpad]
        rfl
      exact outcome_of_error hread
  | @typeEnd typeEncoding rest cause hpresent hbreaks =>
      obtain ⟨t, ht⟩ := hbreaks.reads 2
      have hend : (readTypeTableEnd typeEncoding).mapFault Fault.dwarf ⟨rest, 2⟩ =
          .error (.dwarf cause) t := by
        rw [readTypeTableEnd, if_neg hpresent]
        exact mapFault_of_error (map_of_error ht some)
      exact outcome_of_error ((read_eq typeEncoding rest).trans (bind_of_error hend))
  | noSites htype =>
      have hread := read_of_typePart htype.reads []
      rw [List.append_nil] at hread
      exact outcome_of_error (hread.trans (bind_of_error (byte_nil _)))
  | @siteEncoding typeEncoding code _ typeTableEnd? rest htype hcode =>
      have hfault : SiteEncoding.ofCode code = .error (.unsupportedEncoding .callSiteTable code) := by
        have huleb : code ≠ 0x01 := hcode .uleb128
        have hudata : code ≠ 0x03 := hcode .udata4
        rw [SiteEncoding.ofCode, SiteEncoding.ofCode?, if_neg huleb, if_neg hudata]
      have hread := read_of_typePart htype.reads (code :: rest)
      rw [readSites, bind_of_ok (byte_cons _ _ _)] at hread
      simp only [hfault] at hread
      exact outcome_of_error hread
  | @length typeEncoding typePart rest typeTableEnd? _ encoding htype hbreaks =>
      obtain ⟨t, ht⟩ := hbreaks.reads (2 + typePart.length + 1)
      have hread := read_of_typePart htype.reads (encoding.code :: rest)
      rw [readSites_of_code, readTables, bind_of_error (mapFault_of_error ht)] at hread
      exact outcome_of_error hread
  | overrun encoding htype hlength hroom =>
      rw [ofBytes_of_length encoding htype.reads hlength.reads, if_neg (Nat.not_le.mpr hroom)]

theorem ofBytes_eq_ok_iff {bytes : Bytes} {header : HandlerHeader} :
    HandlerHeader.ofBytes bytes = .ok header ↔ Layout bytes header := by
  refine ⟨fun h => ?_, Layout.ofBytes⟩
  rcases layout_or_malformed bytes with ⟨found, hlayout⟩ | ⟨fault, hmalformed⟩
  · cases hlayout.ofBytes.symm.trans h
    exact hlayout
  · cases hmalformed.ofBytes.symm.trans h

theorem ofBytes_eq_error_iff {bytes : Bytes} {fault : Fault} :
    HandlerHeader.ofBytes bytes = .error fault ↔ Malformed bytes fault := by
  refine ⟨fun h => ?_, Malformed.ofBytes⟩
  rcases layout_or_malformed bytes with ⟨header, hlayout⟩ | ⟨found, hmalformed⟩
  · cases hlayout.ofBytes.symm.trans h
  · cases hmalformed.ofBytes.symm.trans h
    exact hmalformed

end HandlerHeader

/-! Call sites -/

theorem CallSite.Entries.length_le {encoding : SiteEncoding} {base : Word} {s t : ByteStream}
    {sites : List CallSite} (h : Entries encoding base s sites t) :
    4 * sites.length + t.rest.length ≤ s.rest.length := by
  induction h with
  | none => simp
  | more hnext _ ih =>
      have hfirst := next_takes hnext
      rw [List.length_cons]
      omega

namespace HandlerHeader

variable {header : HandlerHeader} {base : Word} {sites : List CallSite}

theorem Holds.length_le (h : header.Holds base sites) :
    sites.length ≤ header.callSites.length / 4 := by
  obtain ⟨t, hentries, -⟩ := h
  have hlength : 4 * sites.length + t.rest.length ≤ header.callSites.length := hentries.length_le
  omega

theorem Breaks.length_le {fault : Fault} (h : header.Breaks base sites fault) :
    sites.length ≤ header.callSites.length / 4 := by
  obtain ⟨t, u, hentries, -⟩ := h
  have hlength : 4 * sites.length + t.rest.length ≤ header.callSites.length := hentries.length_le
  omega

end HandlerHeader

namespace HandlerTable

open HandlerHeader

/-- A table has a header exactly if its bytes are laid out as one, and then the
header splits them without loss; otherwise the fault tells what is wrong with
them. In particular a declared length beyond the end of the table is an overrun,
however large it is. Behind the header every call site takes at least four bytes,
so that many of them at most are decoded before the table is used up or breaks. -/
theorem header_accepts_exactly (table : HandlerTable) :
    (∀ header, table.header = .ok header ↔ Layout table.bytes header) ∧
    (∀ fault, table.header = .error fault ↔ Malformed table.bytes fault) ∧
    ∀ header, table.header = .ok header →
      (∀ s site t, CallSite.next header.siteEncoding table.functionStart s = .ok (some site) t →
        t.rest.length + 4 ≤ s.rest.length) ∧
      ∃ sites : List CallSite, sites.length ≤ header.callSites.length / 4 ∧
        (header.Holds table.functionStart sites ∧
            header.items table.functionStart = sites.map .ok ∨
          ∃ fault, header.Breaks table.functionStart sites fault ∧
            header.items table.functionStart = sites.map .ok ++ [.error fault]) := by
  refine ⟨fun _ => ofBytes_eq_ok_iff, fun _ => ofBytes_eq_error_iff, fun header _ => ⟨?_, ?_⟩⟩
  · exact fun _ _ _ hnext => CallSite.next_takes hnext
  · obtain ⟨sites, hholds | ⟨fault, hbreaks⟩⟩ := header.holds_or_breaks table.functionStart
    · exact ⟨sites, hholds.length_le, .inl ⟨hholds, items_of_holds hholds⟩⟩
    · exact ⟨sites, hbreaks.length_le, .inr ⟨fault, hbreaks, items_of_breaks hbreaks⟩⟩

/-- A type table end in three bytes where one would do, one call site, two bytes of
actions. -/
def paddedTable : HandlerTable :=
  ⟨[0xff, 0x00, 0x85, 0x80, 0x00, 0x01, 0x04, 0x10, 0x08, 0x20, 0x01, 0x00, 0x7e], 0x1000⟩

def paddedHeader : HandlerHeader where
  typeEncoding := 0x00
  typeTableEnd? := some 5
  siteEncoding := .uleb128
  callSites := [0x10, 0x08, 0x20, 0x01]
  actions := [0x00, 0x7e]

/-- The largest length that can be declared, with three bytes behind it. -/
def boundlessTable : HandlerTable :=
  ⟨[0xff, 0xff, 0x03, 0xff, 0xff, 0xff, 0xff, 0xff, 0xff, 0xff, 0xff, 0xff, 0x01, 0x10, 0x08, 0x20],
    0x1000⟩

theorem padded_accepted_boundless_refused :
    Layout paddedTable.bytes paddedHeader ∧
    (∃ sites : List CallSite, sites.length ≤ 1 ∧
      (paddedHeader.Holds 0x1000 sites ∧ paddedHeader.items 0x1000 = sites.map .ok ∨
        ∃ fault, paddedHeader.Breaks 0x1000 sites fault ∧
          paddedHeader.items 0x1000 = sites.map .ok ++ [.error fault])) ∧
    (∃ site t, CallSite.next .uleb128 0x1000 (.ofBytes paddedHeader.callSites) = .ok (some site) t ∧
      t.rest.length + 4 ≤ paddedHeader.callSites.length) ∧
    Malformed boundlessTable.bytes .callSiteTableOverrun := by
  have hpadded : paddedTable.header = .ok paddedHeader := by cbv
  have hboundless : boundlessTable.header = .error .callSiteTableOverrun := by cbv
  have hnext : CallSite.next .uleb128 0x1000 (.ofBytes paddedHeader.callSites) =
      .ok (some ⟨0x1010, 0x1018, some 0x1020, some 0⟩) ⟨[], 4⟩ := by cbv
  obtain ⟨haccepts, -, hsites⟩ := header_accepts_exactly paddedTable
  obtain ⟨-, hrefuses, -⟩ := header_accepts_exactly boundlessTable
  obtain ⟨htakes, hitems⟩ := hsites paddedHeader hpadded
  exact ⟨(haccepts _).mp hpadded, hitems, ⟨_, _, hnext, htakes _ _ _ hnext⟩,
    (hrefuses _).mp hboundless⟩

end HandlerTable
end StackUnwind
