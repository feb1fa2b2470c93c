import DeviceCatalog.Proofs.Keyfile.Grammar
import DeviceCatalog.Proofs.Keyfile.WellFormed
import DeviceCatalog.Proofs.Text.Padding

/-!
# The readings of a line

Which lines are headers and which are entries can be said without the reader. The
reader finds exactly these, a line is never both, and no line can be taken for two
different headers or entries. All other lines are faults.
-/
namespace DeviceCatalog.Line

/-- What a text has to look like to be read as a line. It need not be trimmed. -/
def IsReading (text : String) : Line → Prop
  | header name => ∃ inner tail, text = "[" ++ inner ++ "]" ++ tail ∧ ']' ∉ inner.toList ∧
      (∃ c ∈ inner.toList, Text.isBlank c = false) ∧ (∀ c ∈ tail.toList, c = ' ' ∨ c = '\t') ∧
        name = Text.trim inner
  | entry key value => text.toList.head? ≠ some '[' ∧
      ∃ before delimiter after, text = before ++ String.singleton delimiter ++ after ∧
        (delimiter = '=' ∨ delimiter = ':') ∧ '=' ∉ before.toList ∧ ':' ∉ before.toList ∧
          (∃ c ∈ before.toList, Text.isBlank c = false) ∧ key = Text.trim before ∧
            value = Text.trim after

theorem readHeader_eq_ok_iff_isReading {text name : String} :
    readHeader text = .ok name ↔ IsReading text (.header name) := by
  rw [readHeader_eq_ok_iff]
  constructor
  · rintro ⟨inner, tail, htext, hinner, htail, hword, rfl⟩
    refine ⟨String.ofList inner, String.ofList tail, ?_, by simpa using hinner,
      by simpa using Text.strip_ne_nil_iff.1 hword, by simpa [isSpacing] using htail, ?_⟩
    · rw [← String.toList_inj, htext]
      simp
    · simp [Text.trim]
  · rintro ⟨inner, tail, rfl, hinner, hword, htail, rfl⟩
    exact ⟨inner.toList, tail.toList, by simp, hinner, by simpa [isSpacing] using htail,
      Text.strip_ne_nil_iff.2 hword, rfl⟩

theorem readEntry_eq_ok_iff_isReading {text key value : String} :
    text.toList.head? ≠ some '[' ∧ readEntry text = .ok (key, value) ↔
      IsReading text (.entry key value) := by
  rw [readEntry_eq_ok_iff]
  refine and_congr_right fun _ => ?_
  constructor
  · rintro ⟨before, delimiter, after, htext, hbefore, hdelimiter, ⟨hword, rfl⟩, rfl⟩
    obtain ⟨hequals, hcolon⟩ := forall_isDelimiter_eq_false_iff.1 hbefore
    refine ⟨String.ofList before, delimiter, String.ofList after, ?_,
      isDelimiter_eq_true_iff.1 hdelimiter, by simpa using hequals, by simpa using hcolon,
      by simpa using Text.strip_ne_nil_iff.1 hword, ?_⟩
    · rw [← String.toList_inj, htext]
      simp
    · simp [Text.trim]
  · rintro ⟨before, delimiter, after, rfl, hdelimiter, hequals, hcolon, hword, rfl, rfl⟩
    exact ⟨before.toList, delimiter, after.toList, by simp,
      forall_isDelimiter_eq_false_iff.2 ⟨hequals, hcolon⟩, isDelimiter_eq_true_iff.2 hdelimiter,
      ⟨Text.strip_ne_nil_iff.2 hword, rfl⟩, rfl⟩

theorem read_eq_ok_iff_isReading {text : String} {line : Line} :
    read text = .ok line ↔ IsReading text line := by
  cases line with
  | header name => rw [read_eq_header_iff, readHeader_eq_ok_iff_isReading]
  | entry key value => rw [read_eq_entry_iff, readEntry_eq_ok_iff_isReading]

/-- A line is read as what it is a reading of, there being no other, and as a fault where it is a
reading of nothing. -/
theorem read_line_exact (text : String) :
    (∀ line, read text = .ok line ↔ IsReading text line) ∧
      ((∃ fault, read text = .error fault) ↔ ∀ line, ¬IsReading text line) ∧
      ∀ line other, IsReading text line → IsReading text other → line = other := by
  refine ⟨fun line => read_eq_ok_iff_isReading, ?_, fun line other hline hother => ?_⟩
  · simp only [← read_eq_ok_iff_isReading]
    cases read text with
    | ok line => simp
    | error fault => simp
  · rw [← read_eq_ok_iff_isReading] at hline hother
    exact Except.ok.inj (hline.symm.trans hother)

/-- A header behind a blank is the key of an entry. -/
theorem read_line_exact_bracketedKey :
    IsReading " [a]: b=c" (.entry "[a]" "b=c") ∧ read " [a]: b=c" = .ok (.entry "[a]" "b=c") ∧
      ¬IsReading " [a]: b=c" (.header "a") ∧ (∀ line, ¬IsReading "[a] b" line) ∧
      ∃ fault, read "[a] b" = .error fault := by
  have hreading : IsReading " [a]: b=c" (.entry "[a]" "b=c") :=
    ⟨by decide, " [a]", ':', " b=c", by decide +kernel, .inr rfl, by decide, by decide,
      ⟨'a', by decide, rfl⟩, by decide +kernel⟩
  have hexact := read_line_exact " [a]: b=c"
  have hfault : read "[a] b" = .error ⟨.endOfLine, "b"⟩ := by decide +kernel
  refine ⟨hreading, (hexact.1 _).2 hreading, fun hheader => ?_,
    (read_line_exact "[a] b").2.1.1 ⟨_, hfault⟩, _, hfault⟩
  exact Line.noConfusion (hexact.2.2 _ _ hreading hheader)

end DeviceCatalog.Line
