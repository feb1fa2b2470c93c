/-!
# Sections

A section has a name, the line of its header, and entries in the order in
which they were written. A key keeps its first value, and a second one for the
same key is turned away.
-/
namespace DeviceCatalog

structure Section where
  name : String
  line : Nat
  entries : List (String × String)
  deriving DecidableEq, Repr

namespace Section

def empty (name : String) (line : Nat) : Section := ⟨name, line, []⟩

def get? (s : Section) (key : String) : Option String := s.entries.lookup key

def contains (s : Section) (key : String) : Bool := (s.get? key).isSome

def keys (s : Section) : List String := s.entries.map Prod.fst

def size (s : Section) : Nat := s.entries.length

theorem contains_iff_mem_keys {s : Section} {key : String} :
    s.contains key = true ↔ key ∈ s.keys := by
  rw [contains, get?, keys, List.lookup_isSome_iff, List.mem_map]
  simp only [beq_iff_eq]
  exact exists_congr fun entry => and_congr_right fun _ => eq_comm

/-- Adds an entry at the end and reports whether its key was new. -/
def insert (s : Section) (key value : String) : Section × Bool :=
  if s.contains key then (s, false)
  else ({ s with entries := s.entries ++ [(key, value)] }, true)

theorem insert_of_mem_keys {s : Section} {key : String} (h : key ∈ s.keys) (value : String) :
    s.insert key value = (s, false) :=
  if_pos (contains_iff_mem_keys.2 h)

theorem insert_of_not_mem_keys {s : Section} {key : String} (h : key ∉ s.keys) (value : String) :
    s.insert key value = ({ s with entries := s.entries ++ [(key, value)] }, true) :=
  if_neg (mt contains_iff_mem_keys.1 h)

theorem insert_eq_self {s : Section} {key value : String} (h : (s.insert key value).2 = false) :
    (s.insert key value).1 = s := by
  unfold insert at h ⊢
  split <;> simp_all

/-- The entries with `text` after the value of the last one. -/
def extendLast (text : String) : List (String × String) → List (String × String)
  | [] => []
  | [(key, value)] => [(key, value ++ text)]
  | entry :: next :: rest => entry :: extendLast text (next :: rest)

theorem extendLast_append (text : String) (entries : List (String × String))
    (key value : String) :
    extendLast text (entries ++ [(key, value)]) = entries ++ [(key, value ++ text)] := by
  induction entries with
  | nil => rfl
  | cons entry rest ih => cases rest <;> simp_all [extendLast]

theorem map_fst_extendLast (text : String) (entries : List (String × String)) :
    (extendLast text entries).map Prod.fst = entries.map Prod.fst := by
  fun_induction extendLast text entries <;> simp_all

def extend (s : Section) (text : String) : Section :=
  { s with entries := extendLast text s.entries }

@[simp] theorem keys_extend (s : Section) (text : String) : (s.extend text).keys = s.keys :=
  map_fst_extendLast text s.entries

end Section

end DeviceCatalog
