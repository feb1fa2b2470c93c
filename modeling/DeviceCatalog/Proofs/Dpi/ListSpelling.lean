import DeviceCatalog.Proofs.Dpi.ListRun
import DeviceCatalog.Proofs.Text.Cuts
import DeviceCatalog.Proofs.Text.Trimmed

/-!
# The spelling of DPI lists

A DPI list is accepted exactly when its entries spell growing values within the
limit, and what is wrong with any other text is found at its first entry that
cannot come next. The text of a list is read back as this list. It is not the only
spelling: a plus sign and zeros in front of a numeral are read as well.
-/
namespace DeviceCatalog

namespace Text

theorem isBlank_of_isDigit {c : Char} (h : c.isDigit = true) : isBlank c = false := by
  have hrange := Char.isDigit_iff_toNat.1 h
  have h0 : '0'.toNat = 48 := rfl
  have h9 : '9'.toNat = 57 := rfl
  simp [isBlank]
  omega

theorem dropEmptyLast_eq (words : List String) :
    dropEmptyLast words = if words.getLast? = some "" then words.dropLast else words := by
  induction words using List.reverseRecOn with
  | nil => rfl
  | append_singleton words word _ =>
    rw [List.getLast?_concat, List.dropLast_concat]
    by_cases h : word = ""
    · rw [h, dropEmptyLast_append_empty, if_pos rfl]
    · rw [dropEmptyLast_append h, if_neg (by simpa using h)]

theorem trim_decimal (n : Nat) : trim (Numeral.decimal n) = Numeral.decimal n := by
  have hdigit : ∀ c ∈ (Numeral.decimal n).toList, isBlank c = false := by
    rw [Numeral.toList_decimal]
    exact fun c hc => isBlank_of_isDigit ((Numeral.isDigits_toDigits n).2 c hc)
  apply IsTrimmed.trim_eq
  exact ⟨fun c hc => hdigit c (List.mem_of_mem_head? hc),
    fun c hc => hdigit c (List.mem_of_getLast? hc)⟩

end Text

namespace DpiList

/-- The segments between the semicolons, without the last one if nothing stands there. -/
def entries (value : String) : List String :=
  if (Text.segments ';' value).getLast? = some "" then (Text.segments ';' value).dropLast
  else Text.segments ';' value

variable {value : String} {l : DpiList} {dpis : List Nat}

theorem terminatedSegments_eq_entries (value : String) :
    Text.terminatedSegments ';' value = entries value :=
  Text.dropEmptyLast_eq _

theorem read_eq_ok_iff : read value = .ok l ↔ Lists (entries value) l.values := by
  rw [read, map_eq_ok_iff, terminatedSegments_eq_entries]
  simp only [readFrom_eq_ok_iff]
  constructor
  · rintro ⟨dpis, hlists, rfl⟩
    exact hlists
  · intro hlists
    exact ⟨l.values, hlists, rfl⟩

theorem isEntry_decimal {dpi : Nat} (h : dpi ≤ 12000) : IsEntry (Numeral.decimal dpi) dpi := by
  refine ⟨⟨Nat.toDigits 10 dpi, .inl ?_, Numeral.isDigits_toDigits dpi, ?_⟩, h⟩
  · rw [Text.trim_decimal, Numeral.toList_decimal]
  · exact Nat.ofDigitChars_ten_toDigits

theorem lists_map_decimal (hgrow : dpis.IsChain (· < ·)) (hlimit : ∀ dpi ∈ dpis, dpi ≤ 12000) :
    Lists (dpis.map Numeral.decimal) dpis := by
  refine ⟨?_, hgrow⟩
  rw [List.forall₂_map_left_iff, List.forall₂_same]
  exact fun dpi hdpi => isEntry_decimal (hlimit dpi hdpi)

theorem semicolon_not_mem_decimal (dpi : Nat) : ';' ∉ (Numeral.decimal dpi).toList :=
  Numeral.not_mem_decimal (by decide) dpi

theorem decimal_ne_empty (dpi : Nat) : Numeral.decimal dpi ≠ "" := by
  rw [Ne, ← String.toList_eq_nil_iff, Numeral.toList_decimal]
  exact Nat.toDigits_ne_nil

theorem segments_text (h : l.values ≠ []) :
    Text.segments ';' l.text = l.values.map Numeral.decimal := by
  rw [text, Text.segments_joinWith _ (by simpa using h)]
  rw [List.forall_mem_map]
  exact fun dpi _ => semicolon_not_mem_decimal dpi

theorem entries_text (l : DpiList) : entries l.text = l.values.map Numeral.decimal := by
  by_cases h : l.values = []
  · have htext : l.text = "" := by rw [text, h]; rfl
    rw [htext, h]
    rfl
  · have hlast : (l.values.map Numeral.decimal).getLast? ≠ some "" := by
      rw [List.getLast?_map]
      intro hempty
      obtain ⟨dpi, -, hdpi⟩ := Option.map_eq_some_iff.1 hempty
      exact decimal_ne_empty dpi hdpi
    rw [entries, segments_text h, if_neg hlast]

theorem entries_text_append (h : l.values ≠ []) :
    entries (l.text ++ ";") = l.values.map Numeral.decimal := by
  have hsegments : Text.segments ';' (l.text ++ ";") = l.values.map Numeral.decimal ++ [""] := by
    have hcut := Text.segments_append_separator ';' l.text.toList []
    rw [String.ofList_toList, segments_text h] at hcut
    rw [← String.ofList_toList (s := l.text ++ ";"), String.toList_append]
    exact hcut
  rw [entries, hsegments, List.getLast?_concat, List.dropLast_concat, if_pos rfl]

theorem forall_le_of_lists {entries : List String} (h : Lists entries dpis) :
    ∀ dpi ∈ dpis, dpi ≤ 12000 := by
  intro dpi hdpi
  obtain ⟨entry, -, hentry⟩ := exists_mem_of_forall₂ h.1.flip hdpi
  exact hentry.2

/-- A text is read as the values that its entries spell, if these grow and stay within the limit. On
any other text the first entry that cannot come next decides the violation. -/
theorem read_exact (value : String) :
    (∀ l : DpiList, read value = .ok l ↔ Lists (entries value) l.values) ∧
      ((∀ dpis, ¬Lists (entries value) dpis) →
        ∃ before entry after dpis e, entries value = before ++ entry :: after ∧
          Lists before dpis ∧ (∀ more, ¬Lists (before ++ [entry]) more) ∧
          Breaks value dpis.getLast? entry e ∧ read value = .error e) ∧
      (∀ l : DpiList, read value = .ok l →
        l.values.Pairwise (· < ·) ∧ ∀ dpi ∈ l.values, dpi ≤ 12000) ∧
      (∀ l : DpiList, l.values.Pairwise (· < ·) → (∀ dpi ∈ l.values, dpi ≤ 12000) →
        read l.text = .ok l ∧ (l.values ≠ [] → read (l.text ++ ";") = .ok l)) := by
  refine ⟨fun l => read_eq_ok_iff, ?_, ?_, ?_⟩
  · intro hnone
    cases hread : read value with
    | ok l => exact absurd (read_eq_ok_iff.1 hread) (hnone l.values)
    | error e =>
      rw [read, map_eq_error_iff, terminatedSegments_eq_entries] at hread
      obtain ⟨before, entry, after, dpis, hentries, hbefore, hchain, hbreaks⟩ :=
        exists_breaks_of_readFrom hread
      exact ⟨before, entry, after, dpis, e, hentries, ⟨hbefore, hchain⟩,
        hbreaks.not_lists ⟨hbefore, hchain⟩, hbreaks, rfl⟩
  · intro l hread
    have hlists := read_eq_ok_iff.1 hread
    exact ⟨List.isChain_iff_pairwise.1 hlists.2, forall_le_of_lists hlists⟩
  · intro l hgrow hlimit
    have hlists := lists_map_decimal (List.isChain_iff_pairwise.2 hgrow) hlimit
    constructor
    · rw [read_eq_ok_iff, entries_text]
      exact hlists
    · intro hfilled
      rw [read_eq_ok_iff, entries_text_append hfilled]
      exact hlists

/-- The third value is less than the second, and the fourth is none. -/
def fallingList : String := "400;+0500; 450 ;x"

theorem read_exact_fallingList :
    (∀ dpis, ¬Lists (entries fallingList) dpis) ∧
      (∃ before entry after dpis e, entries fallingList = before ++ entry :: after ∧
        Lists before dpis ∧ (∀ more, ¬Lists (before ++ [entry]) more) ∧
        Breaks fallingList dpis.getLast? entry e ∧ read fallingList = .error e) ∧
      read fallingList = .error (.order fallingList 500 450) ∧
      read (text ⟨[0, 12000]⟩ ++ ";") = .ok ⟨[0, 12000]⟩ := by
  have hread : read fallingList = .error (.order fallingList 500 450) := by decide +kernel
  have hnone : ∀ dpis, ¬Lists (entries fallingList) dpis := by
    intro dpis hlists
    rw [(read_eq_ok_iff (l := ⟨dpis⟩)).2 hlists] at hread
    cases hread
  exact ⟨hnone, (read_exact fallingList).2.1 hnone, hread,
    ((read_exact "").2.2.2 ⟨[0, 12000]⟩ (by decide) (by decide)).2 (by decide)⟩

/-- The entries without the blanks around them, and no semicolon after the last one. -/
def tidy (value : String) : String := Text.joinWith ';' ((entries value).map Text.trim)

theorem IsEntry.trim_eq_decimal_iff {entry : String} {dpi : Nat} (h : IsEntry entry dpi) :
    Text.trim entry = Numeral.decimal dpi ↔ Numeral.IsPlain (Text.trim entry).toList := by
  rw [eq_comm, Numeral.decimal_eq_iff]
  refine ⟨And.left, fun hplain => ⟨hplain, ?_⟩⟩
  obtain ⟨⟨digits, hdigits | hplus, -, hvalue⟩, -⟩ := h
  · rw [hdigits, hvalue]
  · have hsign := hplain.digits.2 '+' (by rw [hplus]; exact List.mem_cons_self)
    exact absurd hsign (by decide)

theorem semicolon_not_mem_of_mem_entries {entry : String} (h : entry ∈ entries value) :
    ';' ∉ entry.toList := by
  rw [← terminatedSegments_eq_entries] at h
  exact Text.not_mem_of_mem_segments ((Text.dropEmptyLast_sublist _).mem h)

theorem tidy_eq_text_iff_map (h : Lists (entries value) l.values) :
    tidy value = l.text ↔ (entries value).map Text.trim = l.values.map Numeral.decimal := by
  constructor
  · intro htidy
    by_cases hvalues : l.values = []
    · have hentries : entries value = [] := by
        rw [← List.forall₂_nil_right_iff (R := IsEntry), ← hvalues]
        exact h.1
      rw [hvalues, hentries]
      rfl
    · have hentries : (entries value).map Text.trim ≠ [] := by
        intro hnone
        rw [List.map_eq_nil_iff] at hnone
        have hlists := h.1
        rw [hnone, List.forall₂_nil_left_iff] at hlists
        exact hvalues hlists
      have hfree : ∀ word ∈ (entries value).map Text.trim, ';' ∉ word.toList := by
        rw [List.forall_mem_map]
        intro entry hentry
        rw [Text.toList_trim]
        exact fun hmem => semicolon_not_mem_of_mem_entries hentry (Text.mem_of_mem_strip hmem)
      rw [← Text.segments_joinWith hfree hentries, ← segments_text hvalues, ← htidy, tidy]
  · intro hmap
    rw [tidy, hmap, text]

/-- Up to blanks and a last semicolon, the accepted texts that differ from the text of their list
are those with a plus sign or with a zero in front that could be left out. -/
theorem tidy_eq_text_iff (h : read value = .ok l) :
    tidy value = l.text ↔
      ∀ entry ∈ entries value, Numeral.IsPlain (Text.trim entry).toList := by
  have hlists := read_eq_ok_iff.1 h
  rw [tidy_eq_text_iff_map hlists, ← List.forall₂_eq_eq_eq, List.forall₂_map_left_iff,
    List.forall₂_map_right_iff]
  constructor
  · intro htexts entry hentry
    obtain ⟨dpi, -, htext⟩ := exists_mem_of_forall₂ htexts hentry
    rw [htext, Numeral.toList_decimal]
    exact Numeral.isPlain_toDigits dpi
  · intro hplain
    exact ((List.forall₂_and_left _ _).2 ⟨hplain, hlists.1⟩).imp fun entry dpi h =>
      h.2.trim_eq_decimal_iff.2 h.1

theorem tidy_eq_text_blankList :
    read " 400 ;\t800;" = .ok ⟨[400, 800]⟩ ∧
      (∀ entry ∈ entries " 400 ;\t800;", Numeral.IsPlain (Text.trim entry).toList) ∧
      tidy " 400 ;\t800;" = "400;800" := by
  have hread : read " 400 ;\t800;" = .ok ⟨[400, 800]⟩ := by decide +kernel
  have hplain : ∀ entry ∈ entries " 400 ;\t800;", Numeral.IsPlain (Text.trim entry).toList := by
    decide +kernel
  have htext : text ⟨[400, 800]⟩ = "400;800" := by decide +kernel
  exact ⟨hread, hplain, ((tidy_eq_text_iff hread).2 hplain).trans htext⟩

/-- A list has more than one spelling. -/
theorem exists_tidy_ne_text :
    ¬((∀ value (l : DpiList), read value = .ok l → tidy value = l.text) ∧
        ∀ v w (l : DpiList), read v = .ok l → read w = .ok l → tidy v = tidy w) ∧
      read "+400" = .ok ⟨[400]⟩ ∧ read "0400" = .ok ⟨[400]⟩ ∧ tidy "+400" ≠ text ⟨[400]⟩ ∧
      tidy "+400" ≠ tidy "0400" := by
  have hsigned : read "+400" = .ok ⟨[400]⟩ := by decide +kernel
  have hzero : read "0400" = .ok ⟨[400]⟩ := by decide +kernel
  have htext : tidy "+400" ≠ text ⟨[400]⟩ := by decide +kernel
  exact ⟨fun h => htext (h.1 "+400" _ hsigned), hsigned, hzero, htext, by decide +kernel⟩

end DpiList

end DeviceCatalog
