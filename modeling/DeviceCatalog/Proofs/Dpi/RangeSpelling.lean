import DeviceCatalog.Dpi.Range
import DeviceCatalog.Proofs.Binary64.Notation
import DeviceCatalog.Proofs.Text.Cuts

/-!
# The spelling of DPI ranges

Two bounds and a step in positional notation are read from a text, and the text of
what is read must be the text itself. So a range within its limits has one spelling
at most, and it has none exactly when its text needs an exponent.
-/
namespace DeviceCatalog

namespace Text

theorem segments_eq_pair_iff {separator : Char} {s first second : String} :
    segments separator s = [first, second] ↔
      s.toList = first.toList ++ separator :: second.toList ∧
        separator ∉ first.toList ∧ separator ∉ second.toList := by
  constructor
  · intro h
    have hjoin : joinWith separator [first, second] = s := h ▸ joinWith_segments separator s
    refine ⟨?_, not_mem_of_mem_segments (h ▸ List.mem_cons_self),
      not_mem_of_mem_segments (h ▸ List.mem_cons_of_mem _ List.mem_cons_self)⟩
    rw [← hjoin]
    simp [joinWith]
  · rintro ⟨hs, hfirst, hsecond⟩
    rw [← String.ofList_toList (s := s), hs, segments_append_separator, String.ofList_toList,
      String.ofList_toList, segments_eq_singleton hfirst, segments_eq_singleton hsecond]
    rfl

end Text

namespace DpiRange

variable {value start stop steps : String} {r : DpiRange}

/-- The limits on a range, and that its step is not one that is written with an exponent. -/
structure IsPermitted (r : DpiRange) : Prop where
  min_le : r.min ≤ 400
  le_max : 2000 ≤ r.max
  max_le : r.max ≤ 36000
  finite : r.steps.IsFinite
  pos : 0 < r.steps.value
  le_hundred : r.steps.value ≤ 100
  written_out : (∃ n : ℕ, r.steps.value = n) ∨ 1 / 10000 ≤ r.steps.value

/-- Two bounds and a step, whatever zeros and points these are written with. -/
structure HasParts (value start stop steps : String) : Prop where
  toList_eq : value.toList = start.toList ++ ':' :: (stop.toList ++ '@' :: steps.toList)
  start_digits : Numeral.IsDigits start.toList
  stop_digits : Numeral.IsDigits stop.toList
  steps_ne_nil : steps.toList ≠ []
  steps_marks : ∀ c ∈ steps.toList, (c.isDigit || c == '.') = true

theorem HasParts.not_mem (h : HasParts value start stop steps) {c : Char}
    (hc : (c.isDigit || c == '.') = false) :
    c ∉ start.toList ∧ c ∉ stop.toList ∧ c ∉ steps.toList := by
  have hdigit : c.isDigit = false := (Bool.or_eq_false_iff.1 hc).1
  exact ⟨h.start_digits.not_mem hdigit, h.stop_digits.not_mem hdigit,
    fun hmem => Bool.false_ne_true (hc.symm.trans (h.steps_marks c hmem))⟩

theorem isDigits_iff {s : String} : isDigits s = true ↔ Numeral.IsDigits s.toList := by
  simp [isDigits, Numeral.IsDigits]

theorem isDigitsOrPoints_iff {s : String} :
    isDigitsOrPoints s = true ↔ s.toList ≠ [] ∧ ∀ c ∈ s.toList, (c.isDigit || c == '.') = true := by
  simp [isDigitsOrPoints]

theorem parts?_eq_some_iff :
    parts? value = some (start, stop, steps) ↔ HasParts value start stop steps := by
  constructor
  · intro h
    unfold parts? at h
    split at h
    · rename_i hvalue
      split at h
      · rename_i hrest
        split at h
        · rename_i hparts
          cases h
          simp only [Bool.and_eq_true, isDigits_iff, isDigitsOrPoints_iff] at hparts
          obtain ⟨⟨hstart, hstop⟩, hne, hmarks⟩ := hparts
          refine ⟨?_, hstart, hstop, hne, hmarks⟩
          rw [(Text.segments_eq_pair_iff.1 hvalue).1, (Text.segments_eq_pair_iff.1 hrest).1]
        · cases h
      · cases h
    · cases h
  · intro h
    obtain ⟨hcolon, hcolon', hcolon''⟩ := h.not_mem (c := ':') (by decide)
    obtain ⟨-, hat, hat'⟩ := h.not_mem (c := '@') (by decide)
    have hvalue : Text.segments ':' value =
        [start, String.ofList (stop.toList ++ '@' :: steps.toList)] := by
      rw [Text.segments_eq_pair_iff, String.toList_ofList]
      exact ⟨h.toList_eq, hcolon, by simp [hcolon', hcolon'']⟩
    have hrest : Text.segments '@' (String.ofList (stop.toList ++ '@' :: steps.toList)) =
        [stop, steps] := by
      rw [Text.segments_eq_pair_iff, String.toList_ofList]
      exact ⟨rfl, hat, hat'⟩
    simp only [parts?, hvalue, hrest, isDigits_iff.2 h.start_digits, isDigits_iff.2 h.stop_digits,
      isDigitsOrPoints_iff.2 ⟨h.steps_ne_nil, h.steps_marks⟩, Bool.and_self, if_true]

theorem exists_hasParts_of_numbers (h : numbers value = .ok r) :
    ∃ start stop steps, HasParts value start stop steps := by
  unfold numbers at h
  split at h
  · cases h
  · rename_i hparts
    exact ⟨_, _, _, parts?_eq_some_iff.1 hparts⟩

theorem limitFault?_eq_none_iff :
    limitFault? r = none ↔
      r.min ≤ Dpi.startLimit ∧ (Dpi.endFloor ≤ r.max ∧ r.max ≤ Dpi.endLimit) ∧
        r.steps.IsFinite ∧ 0 < r.steps.value ∧ r.steps.value ≤ Dpi.stepLimit := by
  have hnext {p : Prop} [Decidable p] {fault : FormatFault} {rest : Option FormatFault} :
      (if p then some fault else rest) = none ↔ ¬p ∧ rest = none := by
    split <;> simp_all
  rw [← Binary64.inInterval_iff (by decide +kernel), limitFault?, hnext, hnext, hnext]
  simp

/-- A text is read when its numerals give a range within the limits whose text it is. -/
theorem read_eq_ok_iff :
    read value = .ok r ↔ numbers value = .ok r ∧ limitFault? r = none ∧ r.text = value := by
  have hcheck : read value = .ok r ↔ check value = .ok r := by
    rw [read]
    cases check value <;> simp [Except.mapError]
  rw [hcheck, check]
  cases numbers value with
  | error fault => simp
  | ok s =>
    simp only [Except.ok.injEq]
    constructor
    · intro h
      split at h
      · cases h
      · rename_i hlimit
        split at h
        · rename_i htext
          cases h
          exact ⟨rfl, hlimit, htext⟩
        · cases h
    · rintro ⟨rfl, hlimit, htext⟩
      simp only [hlimit, htext, if_true]

theorem exists_format_of_read {e : Violation} (h : read value = .error e) :
    ∃ fault, e = .format "DpiRange" value fault := by
  unfold read at h
  cases hcheck : check value with
  | ok r =>
    rw [hcheck] at h
    cases h
  | error fault =>
    rw [hcheck] at h
    exact ⟨fault, (Except.error.inj h).symm⟩

theorem IsPermitted.stepsText_cases (h : IsPermitted r) :
    (∃ n : ℕ, r.steps.value = n ∧ stepsText r.steps = Numeral.decimal n) ∨
      stepsText r.steps = r.steps.positional := by
  have hsign := (Binary64.value_pos_iff.1 h.pos).1
  rw [stepsText]
  split
  · rename_i hintegral
    obtain ⟨-, n, hn⟩ := (Binary64.isIntegral_iff hsign).1 hintegral
    have hle : n ≤ 100 := by
      have hle := h.le_hundred
      rw [hn] at hle
      exact_mod_cast hle
    exact .inl ⟨n, hn, by rw [Binary64.clampedWhole_eq hsign hn (by omega)]⟩
  · rename_i hbroken
    split
    · rename_i hbelow
      have hsmall := (Binary64.isBelow_tenThousandth_iff hsign).1 hbelow
      have hwhole := h.written_out.resolve_right (not_le.2 hsmall)
      exact absurd ((Binary64.isIntegral_iff hsign).2 ⟨h.finite, hwhole⟩) hbroken
    · exact .inr rfl

theorem IsPermitted.isPlain_stepsText (h : IsPermitted r) :
    Decimal.IsPlain (stepsText r.steps).toList := by
  obtain ⟨n, -, htext⟩ | htext := h.stepsText_cases
  · rw [htext, Numeral.toList_decimal]
    exact .whole (Numeral.isPlain_toDigits n)
  · rw [htext]
    exact Binary64.isPlain_positional h.finite h.pos

theorem IsPermitted.exists_read?_stepsText (h : IsPermitted r) :
    ∃ d, Decimal.read? (stepsText r.steps) = some d ∧ Binary64.ofDecimal d = r.steps := by
  obtain ⟨n, hn, htext⟩ | htext := h.stepsText_cases
  · have hvalue : Decimal.value ⟨Nat.ofDigitChars 10 (Nat.toDigits 10 n) 0, 0⟩ = r.steps.value := by
      rw [Nat.ofDigitChars_ten_toDigits, hn]
      simp [Decimal.value]
    exact ⟨_, htext ▸ Decimal.read?_digits (Numeral.isDigits_toDigits n),
      Binary64.ofDecimal_eq h.finite (Binary64.value_pos_iff.1 h.pos).1 hvalue⟩
  · rw [htext]
    exact Binary64.exists_read?_positional h.finite h.pos

theorem stepsText_eq_scientific {x : Binary64} (hpos : 0 < x.value) (hbroken : ¬∃ n : ℕ, x.value = n)
    (hsmall : x.value < 1 / 10000) : stepsText x = x.scientific := by
  have hsign := (Binary64.value_pos_iff.1 hpos).1
  rw [stepsText, if_neg fun hintegral => hbroken ((Binary64.isIntegral_iff hsign).1 hintegral).2,
    if_pos ((Binary64.isBelow_tenThousandth_iff hsign).2 hsmall)]

theorem toList_text (r : DpiRange) :
    r.text.toList = (Numeral.decimal r.min).toList ++
      ':' :: ((Numeral.decimal r.max).toList ++ '@' :: (stepsText r.steps).toList) := by
  simp [text]

theorem IsPermitted.hasParts (h : IsPermitted r) :
    HasParts r.text (Numeral.decimal r.min) (Numeral.decimal r.max) (stepsText r.steps) := by
  have hdigits (n : Nat) : Numeral.IsDigits (Numeral.decimal n).toList :=
    Numeral.toList_decimal n ▸ Numeral.isDigits_toDigits n
  have hplain := h.isPlain_stepsText
  exact ⟨r.toList_text, hdigits r.min, hdigits r.max, hplain.ne_nil, hplain.isDigit_or_eq_point⟩

theorem IsPermitted.read_text (h : IsPermitted r) : read r.text = .ok r := by
  obtain ⟨d, hread, hsteps⟩ := h.exists_read?_stepsText
  have hmin : bound? (Numeral.decimal r.min) = some r.min :=
    Numeral.natural?_decimal (by have := h.min_le; omega)
  have hmax : bound? (Numeral.decimal r.max) = some r.max :=
    Numeral.natural?_decimal (by have := h.max_le; omega)
  refine read_eq_ok_iff.2 ⟨?_, ?_, rfl⟩
  · simp only [numbers, parts?_eq_some_iff.2 h.hasParts, hmin, hmax, hread, hsteps]
  · exact limitFault?_eq_none_iff.2 ⟨h.min_le, ⟨h.le_max, h.max_le⟩, h.finite, h.pos, h.le_hundred⟩

theorem isPermitted_of_read (h : read value = .ok r) : IsPermitted r := by
  obtain ⟨hnumbers, hlimit, htext⟩ := read_eq_ok_iff.1 h
  obtain ⟨hmin, ⟨hmax, hmax'⟩, hfinite, hpos, hle⟩ := limitFault?_eq_none_iff.1 hlimit
  refine ⟨hmin, hmax, hmax', hfinite, hpos, hle, ?_⟩
  by_contra hneither
  obtain ⟨hbroken, hsmall⟩ := not_or.1 hneither
  have hmem : 'e' ∈ value.toList := by
    rw [← htext, toList_text, stepsText_eq_scientific hpos hbroken (not_le.1 hsmall)]
    simp [Binary64.e_mem_scientific hfinite hpos]
  obtain ⟨start, stop, steps, hparts⟩ := exists_hasParts_of_numbers hnumbers
  obtain ⟨hstart, hstop, hend⟩ := hparts.not_mem (c := 'e') (by decide)
  rw [hparts.toList_eq] at hmem
  simp [hstart, hstop, hend] at hmem

/-- Two bounds and a step without a digit or a point that could be left out. -/
def IsShort (value : String) : Prop :=
  ∃ start stop steps : List Char, value.toList = start ++ ':' :: (stop ++ '@' :: steps) ∧
    Numeral.IsPlain start ∧ Numeral.IsPlain stop ∧ Decimal.IsPlain steps

theorem IsPermitted.isShort_text (h : IsPermitted r) : IsShort r.text := by
  have hplain (n : Nat) : Numeral.IsPlain (Numeral.decimal n).toList :=
    Numeral.toList_decimal n ▸ Numeral.isPlain_toDigits n
  exact ⟨_, _, _, r.toList_text, hplain r.min, hplain r.max, h.isPlain_stepsText⟩

/-- The texts that are read are those of the permitted ranges. Each of these has one text, in which
nothing could be left out, and every other text is refused for its form. A step with a fraction
below a tenth of a thousandth is never read. -/
theorem read_only_text (value : String) :
    (∀ r : DpiRange, read value = .ok r ↔ IsPermitted r ∧ value = r.text) ∧
      (∀ r : DpiRange, IsPermitted r → ∃! spelling, read spelling = .ok r) ∧
      (∀ r : DpiRange, read value = .ok r → IsShort value) ∧
      (∀ r : DpiRange, (¬∃ n : ℕ, r.steps.value = n) → r.steps.value < 1 / 10000 →
        read value ≠ .ok r) ∧
      ((¬∃ r : DpiRange, IsPermitted r ∧ value = r.text) →
        ∃ fault, read value = .error (.format "DpiRange" value fault)) := by
  have hread (spelling : String) (r : DpiRange) :
      read spelling = .ok r ↔ IsPermitted r ∧ spelling = r.text := by
    constructor
    · intro h
      exact ⟨isPermitted_of_read h, (read_eq_ok_iff.1 h).2.2.symm⟩
    · rintro ⟨h, rfl⟩
      exact h.read_text
  refine ⟨hread value, ?_, ?_, ?_, ?_⟩
  · intro r h
    exact ⟨r.text, h.read_text, fun spelling hspelling => ((hread spelling r).1 hspelling).2⟩
  · intro r h
    obtain ⟨hpermitted, rfl⟩ := (hread value r).1 h
    exact hpermitted.isShort_text
  · intro r hbroken hsmall h
    exact (isPermitted_of_read h).written_out.elim hbroken (not_le.2 hsmall)
  · intro hnone
    cases h : read value with
    | ok r => exact absurd ⟨r, (hread value r).1 h⟩ hnone
    | error e =>
      obtain ⟨fault, rfl⟩ := exists_format_of_read h
      exact ⟨fault, rfl⟩

def halfSteps : DpiRange := ⟨200, 8200, .ofDecimal ⟨5, -1⟩⟩

/-- A step that is written with an exponent. -/
def tinySteps : DpiRange := ⟨0, 2000, .ofDecimal ⟨1, -5⟩⟩

theorem read_only_text_halfSteps :
    IsPermitted halfSteps ∧ read "200:8200@0.5" = .ok halfSteps ∧ IsShort "200:8200@0.5" ∧
      (∃! spelling, read spelling = .ok halfSteps) ∧
      ((¬∃ n : ℕ, tinySteps.steps.value = n) ∧ tinySteps.steps.value < 1 / 10000 ∧
        read "0:2000@0.00001" ≠ .ok tinySteps) ∧
      (¬∃ r, IsPermitted r ∧ "0:2000@1.0" = r.text) ∧
      ∃ fault, read "0:2000@1.0" = .error (.format "DpiRange" "0:2000@1.0" fault) := by
  have hread : read "200:8200@0.5" = .ok halfSteps := by decide +kernel
  have hpermitted := (((read_only_text "200:8200@0.5").1 halfSteps).1 hread).1
  have hbroken : ¬∃ n : ℕ, tinySteps.steps.value = n := by
    intro hwhole
    have hintegral : tinySteps.steps.isIntegral = true :=
      (Binary64.isIntegral_iff rfl).2 ⟨by decide +kernel, hwhole⟩
    exact absurd hintegral (by decide +kernel)
  have hsmall : tinySteps.steps.value < 1 / 10000 :=
    (Binary64.isBelow_tenThousandth_iff rfl).1 (by decide +kernel)
  have hrefused : ¬∃ r, IsPermitted r ∧ "0:2000@1.0" = r.text := by
    rintro ⟨r, hr⟩
    have herror : read "0:2000@1.0" =
        .error (.format "DpiRange" "0:2000@1.0" (.notCanonical "0:2000@1")) := by
      decide +kernel
    rw [((read_only_text "0:2000@1.0").1 r).2 hr] at herror
    cases herror
  exact ⟨hpermitted, hread, (read_only_text _).2.2.1 _ hread, (read_only_text "").2.1 _ hpermitted,
    ⟨hbroken, hsmall, (read_only_text _).2.2.2.1 _ hbroken hsmall⟩, hrefused,
    (read_only_text _).2.2.2.2 hrefused⟩

end DpiRange

end DeviceCatalog
