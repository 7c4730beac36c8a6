import StackUnwind.Text.Unseen

/-!
# Text

How numbers, durations, quoted strings and records are written, and how the
numbers of settings are read. Which characters do not stand for themselves in
quotes is said by the tables of `Unseen` and `Unassigned`.
-/
namespace StackUnwind.Text

/-! Numerals -/

/-- Lower-case hexadecimal digits, without a marker. -/
def hexDigits (n : Nat) : String :=
  String.ofList (Nat.toDigits 16 n)

def hex (n : Nat) : String :=
  "0x" ++ hexDigits n

/-- A byte with both of its digits. -/
def hexByte (b : UInt8) : String :=
  if b.toNat < 16 then "0x0" ++ hexDigits b.toNat else hex b.toNat

/-- Value of a run of ASCII digits, continuing the number `value`. -/
def digitsFrom (value : Nat) : List Char → Option Nat
  | [] => some value
  | c :: cs =>
      if '0' ≤ c ∧ c ≤ '9' then digitsFrom (value * 10 + (c.toNat - '0'.toNat)) cs else none

/-- The number below `bound` that a text spells by an optional plus sign and at
least one ASCII digit, if it spells one. -/
def decimalBelow? (bound : Nat) (text : String) : Option Nat :=
  let digits := match text.toList with
    | '+' :: cs => cs
    | cs => cs
  if digits.isEmpty then none
  else (digitsFrom 0 digits).filter (· < bound)

/-! White space -/

/-- Code points with the Unicode property `White_Space`, as inclusive ranges in
ascending order. -/
def blankRanges : List (Nat × Nat) :=
  [(0x9, 0xd), (0x20, 0x20), (0x85, 0x85), (0xa0, 0xa0), (0x1680, 0x1680), (0x2000, 0x200a),
    (0x2028, 0x2029), (0x202f, 0x202f), (0x205f, 0x205f), (0x3000, 0x3000)]

def isBlank (c : Char) : Bool :=
  blankRanges.any fun (lo, hi) => lo ≤ c.toNat && c.toNat ≤ hi

/-- The text without white space at either end. -/
def trimBlank (text : String) : String :=
  String.ofList ((text.toList.dropWhile isBlank).reverse.dropWhile isBlank).reverse

/-! Quoted text -/

/-- A character in quotes. Quote and backslash are escaped, the usual controls
have a letter, and others that do not stand for themselves are written by their
code point. -/
def escapeChar (c : Char) : String :=
  if c = '"' then "\\\""
  else if c = '\\' then "\\\\"
  else if c = '\t' then "\\t"
  else if c = '\n' then "\\n"
  else if c = '\r' then "\\r"
  else if c = '\x00' then "\\0"
  else if isUnseen c then "\\u\x7b" ++ hexDigits c.toNat ++ "\x7d"
  else c.toString

def quoted (text : String) : String :=
  "\"" ++ String.join (text.toList.map escapeChar) ++ "\""

/-! Records in one line -/

/-- Braces around a list of entries, with a space inside each. -/
def braced (entries : List String) : String :=
  "\x7b " ++ String.intercalate ", " entries ++ " \x7d"

def namedFields (name : String) (fields : List (String × String)) : String :=
  name ++ " " ++ braced (fields.map fun (field, value) => field ++ ": " ++ value)

/-- Like `namedFields`, for a record that has more fields than it shows. -/
def someFields (name : String) (fields : List (String × String)) : String :=
  name ++ " " ++ braced (fields.map (fun (field, value) => field ++ ": " ++ value) ++ [".."])

/-! Durations -/

/-- The `width` decimal places of `n`, less the zeros at the end. -/
def fractionDigits (width n : Nat) : List Char :=
  let digits := Nat.toDigits 10 n
  let padded := List.replicate (width - digits.length) '0' ++ digits
  (padded.reverse.dropWhile (· == '0')).reverse

structure TimeUnit where
  name : String
  /-- Nanoseconds in one unit, a power of ten. -/
  size : Nat
  /-- Decimal places down to the nanosecond. -/
  places : Nat

def TimeUnit.second : TimeUnit := ⟨"s", 1000000000, 9⟩
def TimeUnit.millisecond : TimeUnit := ⟨"ms", 1000000, 6⟩
def TimeUnit.microsecond : TimeUnit := ⟨"µs", 1000, 3⟩
def TimeUnit.nanosecond : TimeUnit := ⟨"ns", 1, 0⟩

/-- The largest unit that a duration reaches. -/
def TimeUnit.reachedBy (nanoseconds : Nat) : TimeUnit :=
  if second.size ≤ nanoseconds then second
  else if millisecond.size ≤ nanoseconds then millisecond
  else if microsecond.size ≤ nanoseconds then microsecond
  else nanosecond

/-- The whole number of the largest unit that is reached, with the exact
remainder as a decimal fraction. -/
def duration (nanoseconds : Nat) : String :=
  let unit := TimeUnit.reachedBy nanoseconds
  let whole := toString (nanoseconds / unit.size)
  match fractionDigits unit.places (nanoseconds % unit.size) with
  | [] => whole ++ unit.name
  | fraction => whole ++ "." ++ String.ofList fraction ++ unit.name

end StackUnwind.Text
