import DeviceCatalog.Proofs.Sequencing
import DeviceCatalog.Proofs.Text.Spread
import DeviceCatalog.Vocabulary.Device
import DeviceCatalog.Vocabulary.Driver

/-!
# The languages of word lists

A loose list is read from every text that spreads its words, whatever semicolons
there are besides. A strict list is read from one text only, in which a semicolon
stands between each two words and nowhere else. Both readers blame the first
segment that is no word, which for a strict list may be an empty one.
-/
namespace DeviceCatalog.Vocabulary

open Text

/-- A vocabulary whose words can be told apart in a list. -/
class Listable (α : Type) [Vocabulary α] : Prop where
  token_ne_empty : ∀ a : α, token a ≠ ""
  semicolon_not_mem_token : ∀ a : α, ';' ∉ (token a).toList

instance : Listable LedType where
  token_ne_empty a := by cases a <;> decide
  semicolon_not_mem_token a := by cases a <;> decide

instance : Listable AsusFlag where
  token_ne_empty a := by cases a <;> decide
  semicolon_not_mem_token a := by cases a <;> decide

instance : Listable AsusLedMode where
  token_ne_empty a := by cases a <;> decide
  semicolon_not_mem_token a := by cases a <;> decide

variable {α : Type} [Vocabulary α]

variable (α) in
def IsWord (word : String) : Prop := ∃ a : α, token a = word

theorem isSome_find?_iff {word : String} :
    (find? (α := α) word).isSome = true ↔ IsWord α word := by
  rw [Option.isSome_iff_exists, IsWord]
  simp only [find?_eq_some_iff]

instance : DecidablePred (IsWord α) := fun _ => decidable_of_iff _ isSome_find?_iff

theorem read_eq_error_iff {word : String} {e : Violation} :
    read α word = .error e ↔ ¬IsWord α word ∧ e = .unknownValue (label α) word := by
  unfold read IsWord
  simp only [← find?_eq_some_iff]
  cases find? (α := α) word with
  | some a => simp
  | none => simp [eq_comm]

theorem readEach_eq_ok_iff {words : List String} {as : List α} :
    readEach α words = .ok as ↔ words = as.map token :=
  mapM_eq_ok_iff_eq_map fun _ _ => read_eq_ok_iff

/-- The first text that is no word is blamed, whatever comes behind it. -/
theorem readEach_eq_error_iff {words : List String} {e : Violation} :
    readEach α words = .error e ↔
      ∃ word, IsFirst (fun word => ¬IsWord α word) words word ∧
        e = .unknownValue (label α) word := by
  simp only [readEach, mapM_eq_error_iff, read_eq_error_iff, exists_and_left, exists_eq, and_true]
  refine exists_congr fun word => ?_
  constructor
  · rintro ⟨hfirst, -, he⟩
    exact ⟨hfirst, he⟩
  · rintro ⟨hfirst, he⟩
    exact ⟨hfirst, hfirst.holds, he⟩

variable (α) in
/-- What a text is read as where empty segments stand for nothing. -/
structure LooseLanguage (value : String) : Prop where
  accepted : ∀ as : List α, readLoose α value = .ok as ↔ filledSegments ';' value = as.map token
  spread : ∀ as : List α, readLoose α value = .ok as ↔ Spreads ';' (as.map token) value.toList
  refused : ∀ e, readLoose α value = .error e ↔
    ∃ word, IsFirst (fun word => ¬IsWord α word) (filledSegments ';' value) word ∧
      e = .unknownValue (label α) word

variable (α) in
/-- What a text is read as where every segment has to be a word. -/
structure StrictLanguage (value : String) : Prop where
  accepted : ∀ as : List α, readStrict α value = .ok as ↔
    as ≠ [] ∧ value = joinWith ';' (as.map token)
  /-- No text is accepted that is empty, or has a semicolon at an end or beside another one. -/
  spare : (value = "" ∨ value.toList.head? = some ';' ∨ value.toList.getLast? = some ';' ∨
    [';', ';'] <:+: value.toList) → ∃ e, readStrict α value = .error e
  refused : ∀ e, readStrict α value = .error e ↔
    ∃ word, IsFirst (fun word => ¬IsWord α word) (segments ';' value) word ∧
      e = .unknownValue (label α) word

variable [Listable α]

theorem readLoose_language (value : String) : LooseLanguage α value where
  accepted _ := readEach_eq_ok_iff
  spread as := by
    rw [readLoose, readEach_eq_ok_iff, spreads_iff_filledSegments_eq]
    rw [List.forall_mem_map]
    exact fun a _ => ⟨Listable.token_ne_empty a, Listable.semicolon_not_mem_token a⟩
  refused _ := readEach_eq_error_iff

theorem segments_eq_map_token_iff {value : String} {as : List α} :
    segments ';' value = as.map token ↔ as ≠ [] ∧ value = joinWith ';' (as.map token) := by
  constructor
  · intro h
    refine ⟨?_, by rw [← h, joinWith_segments]⟩
    rintro rfl
    exact segments_ne_nil ';' value h
  · rintro ⟨hne, rfl⟩
    apply segments_joinWith
    · rw [List.forall_mem_map]
      exact fun a _ => Listable.semicolon_not_mem_token a
    · simpa using hne

theorem readStrict_language (value : String) : StrictLanguage α value where
  accepted _ := readEach_eq_ok_iff.trans segments_eq_map_token_iff
  spare h := by
    cases hread : readStrict α value with
    | error e => exact ⟨e, rfl⟩
    | ok as =>
      have hempty : "" ∈ segments ';' value := by
        rw [← String.ofList_toList (s := value)]
        exact empty_mem_segments (by simpa using h)
      rw [readEach_eq_ok_iff.1 hread] at hempty
      obtain ⟨a, -, ha⟩ := List.mem_map.1 hempty
      exact absurd ha (Listable.token_ne_empty a)
  refused _ := readEach_eq_error_iff

/-- Lists of lights are loose, and those of the flags and light effects of the asus driver are
strict. -/
theorem word_lists_exact (value : String) :
    LooseLanguage LedType value ∧ readLoose LedType "" = .ok [] ∧
      StrictLanguage AsusFlag value ∧ StrictLanguage AsusLedMode value :=
  ⟨readLoose_language value, rfl, readStrict_language value, readStrict_language value⟩

/-- Two words that are unknown, for one list the first of them, and for the other one the empty word
in front of it. -/
theorem word_lists_exact_spareSemicolons :
    Spreads ';' ([.logo, .logo].map (token : LedType → String)) ";logo;;logo;".toList ∧
      readLoose LedType ";logo;;logo;" = .ok [.logo, .logo] ∧
      readLoose LedType "side;;Logo;wheel" = .error (.unknownValue "LedTypes" "Logo") ∧
      readStrict AsusLedMode "ON;CYCLE" = .ok [.on, .cycle] ∧
      readStrict AsusLedMode "ON;;CYCLES" = .error (.unknownValue "asus LED mode" "") ∧
      ∃ e, readStrict AsusFlag "DOUBLE_DPI;" = .error e := by
  have hspread : Spreads ';' ([.logo, .logo].map (token : LedType → String))
      ";logo;;logo;".toList := .extra (.next _ (.extra (.next _ .none)))
  refine ⟨hspread, ((word_lists_exact ";logo;;logo;").1.spread _).2 hspread, ?_, ?_, ?_, ?_⟩
  · apply ((word_lists_exact "side;;Logo;wheel").1.refused _).2
    exact ⟨"Logo", ⟨["side"], ["wheel"], by decide +kernel⟩, rfl⟩
  · exact ((word_lists_exact "ON;CYCLE").2.2.2.accepted _).2 (by decide +kernel)
  · apply ((word_lists_exact "ON;;CYCLES").2.2.2.refused _).2
    exact ⟨"", ⟨["ON"], ["CYCLES"], by decide +kernel⟩, rfl⟩
  · exact (word_lists_exact "DOUBLE_DPI;").2.2.1.spare (by decide +kernel)

end DeviceCatalog.Vocabulary
