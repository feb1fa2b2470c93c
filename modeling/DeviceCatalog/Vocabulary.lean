import DeviceCatalog.Text.Basic
import DeviceCatalog.Violation

/-!
# Closed vocabularies

Some values are words from a fixed list. A vocabulary lists its values in
order and gives each of them one word, so a word is read by looking for the
value that it belongs to. Words are compared exactly, case included.

Lists separate their words by semicolons and differ in what an empty segment
means: a loose list skips it, a strict list takes it for a word that no
vocabulary has.
-/
namespace DeviceCatalog

class Vocabulary (α : Type) where
  /-- What messages call a value. -/
  label : String
  all : List α
  token : α → String
  complete : ∀ a, a ∈ all
  token_injective : ∀ a b, token a = token b → a = b

namespace Vocabulary

variable {α : Type} [Vocabulary α]

def find? (word : String) : Option α := (all : List α).find? fun a => token a == word

theorem find?_eq_some_iff {word : String} {a : α} : find? word = some a ↔ token a = word := by
  constructor
  · intro h
    simpa using List.find?_some h
  · rintro rfl
    cases h : find? (α := α) (token a) with
    | none => exact absurd (List.find?_eq_none.1 h a (complete a)) (by simp)
    | some b =>
      have hb : token b = token a := by simpa using List.find?_some h
      rw [token_injective b a hb]

@[simp] theorem find?_token (a : α) : find? (token a) = some a := find?_eq_some_iff.2 rfl

variable (α) in
def read (word : String) : Except Violation α :=
  match find? word with
  | some a => .ok a
  | none => .error (.unknownValue (label α) word)

theorem read_eq_ok_iff {word : String} {a : α} : read α word = .ok a ↔ token a = word := by
  rw [← find?_eq_some_iff, read]
  split <;> simp_all

variable (α) in
/-- Reads words in order and stops at the first that is not in the vocabulary. -/
def readEach (words : List String) : Except Violation (List α) := words.mapM (read α)

variable (α) in
def readLoose (value : String) : Except Violation (List α) :=
  readEach α (Text.filledSegments ';' value)

variable (α) in
def readStrict (value : String) : Except Violation (List α) :=
  readEach α (Text.segments ';' value)

end Vocabulary

end DeviceCatalog
