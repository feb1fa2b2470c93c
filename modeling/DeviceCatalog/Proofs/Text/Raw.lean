import DeviceCatalog.Text.Raw
import Mathlib.Data.String.Basic

/-!
# Raw text that is UTF-8

The bytes of a text give the text back, and it is shown as it is. Bytes that are not
UTF-8 come from no text, and different ones may be shown as the same.
-/
namespace DeviceCatalog.RawText

variable {raw : RawText} {s : String}

@[simp] theorem bytes_append (raw other : RawText) :
    (raw ++ other).bytes = raw.bytes ++ other.bytes := rfl

theorem bytes_ofString (s : String) :
    (ofString s).bytes = s.toList.flatMap String.utf8EncodeChar := by
  rw [ofString, String.toUTF8, ← String.utf8Encode_toList, List.utf8Encode,
    List.toList_data_toByteArray]

theorem text?_eq_some_iff : raw.text? = some s ↔ raw = ofString s := by
  have hbytes : raw.bytes.toByteArray = s.toByteArray ↔ raw = ofString s := by
    constructor
    · intro h
      rw [ofString, String.toUTF8, ← h, List.toList_data_toByteArray]
    · rintro rfl
      exact ByteArray.ext (Array.toList_inj.1 List.toList_data_toByteArray)
  rw [← hbytes, text?, String.fromUTF8?]
  split
  · rename_i hvalid
    rw [Option.some.injEq, ← String.toByteArray_inj]
    rfl
  · rename_i hvalid
    refine iff_of_false (by simp) fun h => hvalid ?_
    rw [h]
    exact s.isValidUTF8

@[simp] theorem text?_ofString (s : String) : (ofString s).text? = some s :=
  text?_eq_some_iff.2 rfl

section Order

variable {other third : RawText}

protected theorem le_trans (h : raw ≤ other) (hnext : other ≤ third) : raw ≤ third :=
  List.le_trans (α := UInt8) h hnext

protected theorem le_total (raw other : RawText) : raw ≤ other ∨ other ≤ raw :=
  List.le_total raw.bytes other.bytes

protected theorem le_antisymm (h : raw ≤ other) (hback : other ≤ raw) : raw = other :=
  congrArg mk (List.le_antisymm (α := UInt8) h hback)

protected theorem lt_of_le_of_ne (h : raw ≤ other) (hne : raw ≠ other) : raw < other :=
  Classical.byContradiction fun hnot => hne (RawText.le_antisymm h hnot)

end Order

theorem shownFrom_eq_drop (skip : Nat) (bytes : List UInt8) :
    shownFrom skip bytes = shownFrom 0 (bytes.drop skip) := by
  induction bytes generalizing skip with
  | nil => simp [shownFrom]
  | cons byte rest ih =>
    cases skip with
    | zero => rfl
    | succ skip => rw [shownFrom, ih, List.drop_succ_cons]

theorem shownFrom_encode (c : Char) (rest : List UInt8) :
    shownFrom 0 (String.utf8EncodeChar c ++ rest) = c :: shownFrom 0 rest := by
  cases hencoded : String.utf8EncodeChar c with
  | nil => exact absurd hencoded String.utf8EncodeChar_ne_nil
  | cons first more =>
    have hdecoded : (first :: (more ++ rest)).toByteArray.utf8DecodeChar? 0 = some c := by
      rw [← List.cons_append, ← hencoded, List.toByteArray_append]
      exact ByteArray.utf8DecodeChar?_utf8EncodeChar_append
    have hlength : c.utf8Size - 1 = more.length := by
      rw [← String.length_utf8EncodeChar, hencoded, List.length_cons, Nat.add_sub_cancel]
    rw [List.cons_append, shownFrom, shownFirst, hdecoded]
    dsimp only
    rw [hlength, shownFrom_eq_drop, List.drop_left]

@[simp] theorem shown_ofString (s : String) : (ofString s).shown = s := by
  have hchars (cs : List Char) : shownFrom 0 (cs.flatMap String.utf8EncodeChar) = cs := by
    induction cs with
    | nil => rfl
    | cons c cs ih => rw [List.flatMap_cons, shownFrom_encode, ih]
  rw [shown, bytes_ofString, hchars, String.ofList_toList]

/-- What is shown gives the bytes back exactly if they are UTF-8. -/
theorem ofString_shown_eq_iff : ofString raw.shown = raw ↔ raw.text?.isSome := by
  constructor
  · intro h
    rw [← h, text?_ofString, Option.isSome_some]
  · intro h
    obtain ⟨s, hs⟩ := Option.isSome_iff_exists.1 h
    rw [text?_eq_some_iff.1 hs, shown_ofString]

end DeviceCatalog.RawText
