/-!
# Numerals

A natural number is read from one or more digits, with a plus sign allowed in
front of them, and is refused from a given limit on. Writing uses the fewest
decimal digits, or exactly four hexadecimal ones for an identifier.
-/
namespace DeviceCatalog.Numeral

/-- The value of a character as a digit, letters standing for ten and more in either case. -/
def digitValue? (c : Char) : Option Nat :=
  if '0' ≤ c ∧ c ≤ '9' then some (c.toNat - '0'.toNat)
  else if 'a' ≤ c ∧ c ≤ 'f' then some (c.toNat - 'a'.toNat + 10)
  else if 'A' ≤ c ∧ c ≤ 'F' then some (c.toNat - 'A'.toNat + 10)
  else none

def digit? (base : Nat) (c : Char) : Option Nat := (digitValue? c).filter (· < base)

theorem digit?_lt {base d : Nat} {c : Char} (h : digit? base c = some d) : d < base := by
  simpa using (Option.filter_eq_some_iff.1 h).2

/-- The number that the digits continue from `acc`, if all of them are digits. -/
def digitsFrom? (base acc : Nat) : List Char → Option Nat
  | [] => some acc
  | c :: cs =>
    match digit? base c with
    | some d => digitsFrom? base (acc * base + d) cs
    | none => none

/-- The value of a digit string with at least one digit. -/
def digits? (base : Nat) (cs : List Char) : Option Nat :=
  if cs = [] then none else digitsFrom? base 0 cs

def dropPlus : List Char → List Char
  | '+' :: cs => cs
  | cs => cs

/-- A number below `limit`, with or without a plus sign. -/
def natural? (base limit : Nat) (s : String) : Option Nat :=
  (digits? base (dropPlus s.toList)).filter (· < limit)

/-- A decimal number of 64 bits in two's complement, with or without a sign. -/
def integer? (s : String) : Option Int :=
  match s.toList with
  | '-' :: cs => ((digits? 10 cs).filter (· ≤ 0x8000000000000000)).map fun n => -(n : Int)
  | cs => ((digits? 10 (dropPlus cs)).filter (· < 0x8000000000000000)).map fun n => (n : Int)

/-- The shortest decimal form. -/
def decimal (n : Nat) : String := String.ofList (Nat.toDigits 10 n)

/-- The four lower-case hexadecimal digits of a number of 16 bits. -/
def hex4 (n : UInt16) : String :=
  let digit (unit : Nat) := Nat.digitChar (n.toNat / unit % 16)
  String.ofList [digit 0x1000, digit 0x100, digit 0x10, digit 1]

end DeviceCatalog.Numeral
