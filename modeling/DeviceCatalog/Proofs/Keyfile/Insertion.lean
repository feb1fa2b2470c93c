import DeviceCatalog.Keyfile.Section
import Mathlib.Data.Finset.Card
import Mathlib.Data.List.Nodup

/-!
# Insertions into a section

A section takes the first value of each key and turns all later ones away. After
any sequence of insertions into an empty section its entries are those that were
taken, in the order in which they came, and a look-up of a key finds the first
value that was offered for it.
-/
namespace DeviceCatalog.Section

variable (s : Section) (key value : String)

theorem insert_isNew_iff : (s.insert key value).2 = true ↔ key ∉ s.keys := by
  by_cases hkey : key ∈ s.keys
  · simp [insert_of_mem_keys hkey, hkey]
  · simp [insert_of_not_mem_keys hkey, hkey]

theorem insert_eq_append : (s.insert key value).1 =
    { s with entries := s.entries ++ if (s.insert key value).2 then [(key, value)] else [] } := by
  by_cases hkey : key ∈ s.keys
  · simp [insert_of_mem_keys hkey]
  · simp [insert_of_not_mem_keys hkey]

theorem mem_keys_insert {other : String} :
    other ∈ (s.insert key value).1.keys ↔ other ∈ s.keys ∨ other = key := by
  by_cases hkey : key ∈ s.keys
  · rw [insert_of_mem_keys hkey, or_iff_left_of_imp]
    rintro rfl
    exact hkey
  · simp [insert_of_not_mem_keys hkey, keys]

theorem nodup_keys_insert (h : s.keys.Nodup) : (s.insert key value).1.keys.Nodup := by
  by_cases hkey : key ∈ s.keys
  · rwa [insert_of_mem_keys hkey]
  · rw [insert_of_not_mem_keys hkey, keys, List.map_append]
    exact h.append (List.nodup_singleton key) (by simpa using hkey)

theorem get?_insert (other : String) : (s.insert key value).1.get? other =
    (s.get? other).or (if key = other then some value else none) := by
  by_cases hkey : key ∈ s.keys
  · rw [insert_of_mem_keys hkey]
    split
    · rename_i hsame
      have hold := contains_iff_mem_keys.2 (hsame ▸ hkey)
      obtain ⟨old, hold⟩ := Option.isSome_iff_exists.1 hold
      rw [hold, Option.some_or]
    · rw [Option.or_none]
  · rw [insert_of_not_mem_keys hkey, get?, get?, List.lookup_append, List.lookup_singleton]
    simp only [beq_iff_eq, @eq_comm _ other key]

/-- Inserts entries in order and keeps what each insertion reports. -/
def insertAll (s : Section) : List (String × String) → Section × List Bool
  | [] => (s, [])
  | (key, value) :: entries =>
    let first := s.insert key value
    let rest := first.1.insertAll entries
    (rest.1, first.2 :: rest.2)

variable (entries more : List (String × String))

theorem insertAll_append : s.insertAll (entries ++ more) =
    (((s.insertAll entries).1.insertAll more).1,
      (s.insertAll entries).2 ++ ((s.insertAll entries).1.insertAll more).2) := by
  induction entries generalizing s with
  | nil => rfl
  | cons entry entries ih => simp [insertAll, ih]

theorem length_reports_insertAll : (s.insertAll entries).2.length = entries.length := by
  induction entries generalizing s with
  | nil => rfl
  | cons entry entries ih => simp [insertAll, ih]

theorem report_insertAll : (s.insertAll (entries ++ (key, value) :: more)).2[entries.length]? =
    some ((s.insertAll entries).1.insert key value).2 := by
  rw [insertAll_append, List.getElem?_append_right (length_reports_insertAll s entries).le,
    length_reports_insertAll, Nat.sub_self]
  rfl

theorem insertAll_concat : (s.insertAll (entries ++ [(key, value)])).1 =
    ((s.insertAll entries).1.insert key value).1 := by
  rw [insertAll_append]
  rfl

theorem insertAll_eq_append : (s.insertAll entries).1 =
    { s with entries := s.entries ++
      ((entries.zip (s.insertAll entries).2).filter Prod.snd).map Prod.fst } := by
  induction entries generalizing s with
  | nil => simp [insertAll]
  | cons entry entries ih =>
    obtain ⟨key, value⟩ := entry
    simp only [insertAll, List.zip_cons_cons, List.filter_cons]
    rw [ih, insert_eq_append]
    cases (s.insert key value).2 <;> simp

theorem mem_keys_insertAll {key : String} :
    key ∈ (s.insertAll entries).1.keys ↔ key ∈ s.keys ∨ key ∈ entries.map Prod.fst := by
  induction entries generalizing s with
  | nil => simp [insertAll]
  | cons entry entries ih =>
    rw [insertAll, ih, mem_keys_insert, List.map_cons, List.mem_cons, or_assoc]

theorem nodup_keys_insertAll (h : s.keys.Nodup) : (s.insertAll entries).1.keys.Nodup := by
  induction entries generalizing s with
  | nil => exact h
  | cons entry entries ih => exact ih _ (nodup_keys_insert s entry.1 entry.2 h)

theorem get?_insertAll (key : String) : (s.insertAll entries).1.get? key =
    (s.get? key).or ((entries.find? fun entry => entry.1 = key).map Prod.snd) := by
  induction entries generalizing s with
  | nil => simp [insertAll]
  | cons entry entries ih =>
    rw [insertAll, ih, get?_insert, Option.or_assoc, List.find?_cons]
    by_cases hsame : entry.1 = key <;> simp [hsame]

theorem size_eq_card_keys {s : Section} (h : s.keys.Nodup) : s.size = s.keys.toFinset.card := by
  rw [List.toFinset_card_of_nodup h, keys, List.length_map, size]

/-- Inserting any entries into an empty section, one after the other. An insertion reports that its
key is new exactly when no earlier one had it, and otherwise it changes nothing. In the end the
section has the entries that were new, in order, and each key has the first of its values. -/
theorem insertAll_empty (name : String) (line : Nat) (entries : List (String × String)) :
    let final := (empty name line).insertAll entries
    (∀ before key value after, entries = before ++ (key, value) :: after →
        ∃ isNew, final.2[before.length]? = some isNew ∧
          (isNew = true ↔ key ∉ before.map Prod.fst) ∧
          (isNew = false → ((empty name line).insertAll (before ++ [(key, value)])).1 =
            ((empty name line).insertAll before).1)) ∧
      final.2.length = entries.length ∧
      final.1 = ⟨name, line, ((entries.zip final.2).filter Prod.snd).map Prod.fst⟩ ∧
      final.1.keys.Nodup ∧
      (∀ key, final.1.get? key = (entries.find? fun entry => entry.1 = key).map Prod.snd) ∧
      (∀ key, final.1.contains key = true ↔ ∃ value, final.1.get? key = some value) ∧
      final.1.size = (entries.map Prod.fst).toFinset.card := by
  have hempty : (empty name line).keys = [] := rfl
  have hnodup := nodup_keys_insertAll (empty name line) entries List.nodup_nil
  refine ⟨?_, length_reports_insertAll _ entries, insertAll_eq_append _ entries, hnodup,
    get?_insertAll _ entries, fun key => Option.isSome_iff_exists, ?_⟩
  · rintro before key value after rfl
    refine ⟨_, report_insertAll _ key value before after, ?_, fun hold => ?_⟩
    · rw [insert_isNew_iff, mem_keys_insertAll, hempty]
      simp
    · rw [insertAll_concat, insert_eq_self hold]
  · rw [size_eq_card_keys hnodup]
    congr 1
    ext key
    rw [List.mem_toFinset, List.mem_toFinset, mem_keys_insertAll, hempty]
    simp

/-- Insertions of which two meet an earlier key, and one a key in another case. -/
def repeatedEntries : List (String × String) :=
  [("Name", "a"), ("Driver", "b"), ("Name", "c"), ("name", "d"), ("Name", "e")]

theorem insertAll_empty_repeatedEntries :
    repeatedEntries =
        [("Name", "a"), ("Driver", "b")] ++ ("Name", "c") :: [("name", "d"), ("Name", "e")] ∧
      (empty "Device" 1).insertAll repeatedEntries =
        (⟨"Device", 1, [("Name", "a"), ("Driver", "b"), ("name", "d")]⟩,
          [true, true, false, true, false]) ∧
      ((empty "Device" 1).insertAll [("Name", "a"), ("Driver", "b"), ("Name", "c")]).1 =
        ((empty "Device" 1).insertAll [("Name", "a"), ("Driver", "b")]).1 ∧
      ((empty "Device" 1).insertAll repeatedEntries).1.get? "Name" = some "a" := by
  have hfinal := insertAll_empty "Device" 1 repeatedEntries
  obtain ⟨isNew, -, hnew, hkept⟩ :=
    hfinal.1 [("Name", "a"), ("Driver", "b")] "Name" "c" [("name", "d"), ("Name", "e")] rfl
  have hold : isNew = false := Bool.eq_false_iff.2 fun h => hnew.1 h (by decide)
  exact ⟨rfl, by decide +kernel, hkept hold, (hfinal.2.2.2.2.1 "Name").trans (by decide)⟩

end DeviceCatalog.Section
