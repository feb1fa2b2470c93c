/-!
# Raw text

Arguments and file names are bytes that the system hands out. They are UTF-8 as a
rule, but nothing makes sure of it. Where a raw text has to be shown, each stretch
of bytes that stands for no character becomes one replacement character.
-/
namespace DeviceCatalog

structure RawText where
  bytes : List UInt8
  deriving DecidableEq, Repr

namespace RawText

def ofString (s : String) : RawText := ⟨s.toUTF8.data.toList⟩

instance : Coe String RawText := ⟨ofString⟩

instance : Append RawText := ⟨fun raw other => ⟨raw.bytes ++ other.bytes⟩⟩

/-- Raw texts are compared byte by byte. -/
instance : LT RawText := ⟨fun raw other => raw.bytes < other.bytes⟩

instance : LE RawText := ⟨fun raw other => raw.bytes ≤ other.bytes⟩

instance : DecidableLE RawText := fun raw other =>
  inferInstanceAs (Decidable (raw.bytes ≤ other.bytes))

/-- The text itself, if its bytes are UTF-8. -/
def text? (raw : RawText) : Option String := String.fromUTF8? raw.bytes.toByteArray

/-- Where the bytes behind the first byte of a character may lie, one range for each of them. -/
def followers (first : UInt8) : List (UInt8 × UInt8) :=
  let any := (0x80, 0xbf)
  if 0xc2 ≤ first ∧ first ≤ 0xdf then [any]
  else if first = 0xe0 then [(0xa0, 0xbf), any]
  else if first = 0xed then [(0x80, 0x9f), any]
  else if 0xe1 ≤ first ∧ first ≤ 0xef then [any, any]
  else if first = 0xf0 then [(0x90, 0xbf), any, any]
  else if 0xf1 ≤ first ∧ first ≤ 0xf3 then [any, any, any]
  else if first = 0xf4 then [(0x80, 0x8f), any, any]
  else []

/-- How many bytes at the front lie in the ranges. -/
def fitting : List (UInt8 × UInt8) → List UInt8 → Nat
  | (low, high) :: ranges, byte :: rest =>
    if low ≤ byte ∧ byte ≤ high then fitting ranges rest + 1 else 0
  | _, _ => 0

/-- The character that is shown for the front of some bytes, and how many bytes behind the first
one it stands for. -/
def shownFirst (first : UInt8) (rest : List UInt8) : Char × Nat :=
  match (first :: rest).toByteArray.utf8DecodeChar? 0 with
  | some c => (c, c.utf8Size - 1)
  | none => ('\uFFFD', fitting (followers first) rest)

/-- The characters that are shown for the bytes behind the first `skip` ones. -/
def shownFrom : (skip : Nat) → List UInt8 → List Char
  | _, [] => []
  | skip + 1, _ :: rest => shownFrom skip rest
  | 0, first :: rest => (shownFirst first rest).1 :: shownFrom (shownFirst first rest).2 rest

def shown (raw : RawText) : String := String.ofList (shownFrom 0 raw.bytes)

end RawText

end DeviceCatalog
