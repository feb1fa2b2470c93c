import DeviceCatalog.Dpi.List
import DeviceCatalog.Proofs.Numeral.Digits
import DeviceCatalog.Proofs.Sequencing
import Mathlib.Data.List.Chain

/-!
# Reading a DPI list entry by entry

An entry stands for a value when it is a numeral of it, blanks aside, and the
value is within the limit. A list is read as long as the values grow, and the
first entry that stands for no value or does not go beyond the one before it ends
the run.
-/
namespace DeviceCatalog.DpiList

/-- Without the blanks around it, the entry is a decimal numeral of the value, which a plus sign may
precede. -/
def Spells (entry : String) (dpi : Nat) : Prop :=
  ∃ digits, ((Text.trim entry).toList = digits ∨ (Text.trim entry).toList = '+' :: digits) ∧
    Numeral.IsDigits digits ∧ Nat.ofDigitChars 10 digits 0 = dpi

def IsEntry (entry : String) (dpi : Nat) : Prop := Spells entry dpi ∧ dpi ≤ 12000

/-- The entries spell these values, and each value is greater than the one before it. -/
def Lists (entries : List String) (dpis : List Nat) : Prop :=
  List.Forall₂ IsEntry entries dpis ∧ dpis.IsChain (· < ·)

/-- Why an entry cannot come next, where `previous` is the last value of the list so far. -/
inductive Breaks (value : String) (previous : Option Nat) (entry : String) : Violation → Prop where
  /-- It spells a value that is not greater than the last one. -/
  | order {before dpi : Nat} (hentry : IsEntry entry dpi) (hlast : previous = some before)
    (hle : dpi ≤ before) : Breaks value previous entry (.order value before dpi)
  /-- It spells no value that a list may have. -/
  | form {fault : FormatFault} (hnone : ∀ dpi, ¬IsEntry entry dpi) :
    Breaks value previous entry (.format "DpiList" value fault)

variable {value entry : String} {entries before after : List String} {dpi : Nat} {dpis : List Nat}
  {previous : Option Nat} {e : Violation}

theorem natural?_trim_eq_some_iff :
    Numeral.natural? 10 0x100000000 (Text.trim entry) = some dpi ↔
      Spells entry dpi ∧ dpi < 0x100000000 := by
  simp only [Numeral.natural?_ten_eq_some_iff, Spells, exists_and_right, ← and_assoc]

theorem readEntry_eq_ok_iff : readEntry value entry = .ok dpi ↔ IsEntry entry dpi := by
  constructor
  · intro h
    unfold readEntry at h
    split at h
    · cases h
    · rename_i d hsome
      split at h
      · cases h
      · rename_i hle
        obtain rfl := Except.ok.inj h
        exact ⟨(natural?_trim_eq_some_iff.1 hsome).1, Nat.le_of_not_lt hle⟩
  · rintro ⟨hspells, hle⟩
    have hsome := natural?_trim_eq_some_iff.2 ⟨hspells, Nat.lt_of_le_of_lt hle (by decide)⟩
    rw [readEntry, hsome]
    exact if_neg (Nat.not_lt.2 hle)

theorem exists_format_of_readEntry (h : readEntry value entry = .error e) :
    ∃ fault, e = .format "DpiList" value fault := by
  unfold readEntry at h
  split at h
  · exact ⟨_, (Except.error.inj h).symm⟩
  · split at h
    · exact ⟨_, (Except.error.inj h).symm⟩
    · cases h

theorem IsEntry.eq {d : Nat} (h : IsEntry entry dpi) (hd : IsEntry entry d) : dpi = d := by
  have hread {value : Nat} (hvalue : IsEntry entry value) : readEntry "" entry = .ok value :=
    readEntry_eq_ok_iff.2 hvalue
  exact Except.ok.inj ((hread h).symm.trans (hread hd))

theorem follows_eq_ok_iff :
    follows value previous dpi = .ok () ↔ ∀ before ∈ previous, before < dpi := by
  cases previous with
  | none => simp [follows]
  | some before => simp [follows]

theorem follows_eq_error_iff :
    follows value previous dpi = .error e ↔
      ∃ before, previous = some before ∧ dpi ≤ before ∧ .order value before dpi = e := by
  cases previous with
  | none => simp [follows]
  | some before => simp [follows, ite_eq_iff]

/-- One step of a run that comes to an end: the first entry is read and may follow. -/
theorem readFrom_cons_eq_ok_iff :
    readFrom value previous (entry :: entries) = .ok dpis ↔
      ∃ dpi rest, IsEntry entry dpi ∧ (∀ before ∈ previous, before < dpi) ∧
        readFrom value (some dpi) entries = .ok rest ∧ dpis = dpi :: rest := by
  simp only [readFrom, bind_eq_ok_iff, readEntry_eq_ok_iff]
  constructor
  · rintro ⟨dpi, hentry, _, hfollows, rest, hrest, h⟩
    exact ⟨dpi, rest, hentry, follows_eq_ok_iff.1 hfollows, hrest, (Except.ok.inj h).symm⟩
  · rintro ⟨dpi, rest, hentry, hfollows, hrest, rfl⟩
    exact ⟨dpi, hentry, (), follows_eq_ok_iff.2 hfollows, rest, hrest, rfl⟩

theorem isChain_toList_append_cons :
    (previous.toList ++ dpi :: dpis).IsChain (· < ·) ↔
      (∀ before ∈ previous, before < dpi) ∧ (dpi :: dpis).IsChain (· < ·) := by
  cases previous with
  | none => simp
  | some before => simp [List.isChain_cons_cons]

theorem readFrom_eq_ok_iff :
    readFrom value previous entries = .ok dpis ↔
      List.Forall₂ IsEntry entries dpis ∧ (previous.toList ++ dpis).IsChain (· < ·) := by
  induction entries generalizing previous dpis with
  | nil =>
    rw [List.forall₂_nil_left_iff, readFrom]
    constructor
    · intro h
      obtain rfl := Except.ok.inj h
      cases previous with
      | none => exact ⟨rfl, .nil⟩
      | some before => exact ⟨rfl, .singleton before⟩
    · rintro ⟨rfl, -⟩
      rfl
  | cons entry entries ih =>
    simp only [readFrom_cons_eq_ok_iff, ih, List.forall₂_cons_left_iff]
    constructor
    · rintro ⟨dpi, rest, hentry, hfollows, ⟨hrest, hchain⟩, rfl⟩
      exact ⟨⟨dpi, rest, hentry, hrest, rfl⟩, isChain_toList_append_cons.2 ⟨hfollows, hchain⟩⟩
    · rintro ⟨⟨dpi, rest, hentry, hrest, rfl⟩, hchain⟩
      obtain ⟨hfollows, hchain⟩ := isChain_toList_append_cons.1 hchain
      exact ⟨dpi, rest, hentry, hfollows, ⟨hrest, hchain⟩, rfl⟩

theorem exists_breaks_of_readFrom (h : readFrom value previous entries = .error e) :
    ∃ before entry after dpis, entries = before ++ entry :: after ∧
      List.Forall₂ IsEntry before dpis ∧ (previous.toList ++ dpis).IsChain (· < ·) ∧
      Breaks value (previous.toList ++ dpis).getLast? entry e := by
  induction entries generalizing previous with
  | nil => cases h
  | cons entry entries ih =>
    have hempty : (previous.toList ++ []).IsChain (· < ·) ∧
        (previous.toList ++ []).getLast? = previous := by
      cases previous <;> simp
    rcases bind_eq_error_iff.1 h with hentry | ⟨dpi, hentry, h⟩
    · obtain ⟨fault, rfl⟩ := exists_format_of_readEntry hentry
      refine ⟨[], entry, entries, [], rfl, .nil, hempty.1, .form fun dpi hdpi => ?_⟩
      cases hentry.symm.trans (readEntry_eq_ok_iff.2 hdpi)
    · have hentry := readEntry_eq_ok_iff.1 hentry
      rcases bind_eq_error_iff.1 h with hfollows | ⟨_, hfollows, h⟩
      · obtain ⟨last, rfl, hle, rfl⟩ := follows_eq_error_iff.1 hfollows
        exact ⟨[], entry, entries, [], rfl, .nil, hempty.1, .order hentry hempty.2 hle⟩
      · rcases bind_eq_error_iff.1 h with hrest | ⟨_, -, h⟩
        · obtain ⟨before, next, after, dpis, rfl, hbefore, hchain, hbreaks⟩ := ih hrest
          refine ⟨entry :: before, next, after, dpi :: dpis, rfl, .cons hentry hbefore,
            isChain_toList_append_cons.2 ⟨follows_eq_ok_iff.1 hfollows, hchain⟩, ?_⟩
          have hlast : (previous.toList ++ dpi :: dpis).getLast? = (dpi :: dpis).getLast? :=
            List.getLast?_append_of_ne_nil _ (List.cons_ne_nil _ _)
          rwa [hlast]
        · cases h

theorem lists_concat_iff {more : List Nat} :
    Lists (before ++ [entry]) more ↔
      ∃ dpis dpi, more = dpis ++ [dpi] ∧ Lists before dpis ∧ IsEntry entry dpi ∧
        ∀ last ∈ dpis.getLast?, last < dpi := by
  constructor
  · rintro ⟨hentries, hchain⟩
    have hreverse := List.forall₂_reverse_iff.2 hentries
    rw [List.reverse_append, List.reverse_singleton, List.singleton_append,
      List.forall₂_cons_left_iff] at hreverse
    obtain ⟨dpi, rest, hentry, hrest, hmore⟩ := hreverse
    obtain rfl : more = rest.reverse ++ [dpi] := by
      rw [← List.reverse_reverse more, hmore, List.reverse_cons]
    obtain ⟨hchain, -, hlast⟩ := List.isChain_append.1 hchain
    exact ⟨rest.reverse, dpi, rfl, ⟨List.forall₂_reverse_iff.1 (by simpa using hrest), hchain⟩,
      hentry, fun last h => hlast last h dpi rfl⟩
  · rintro ⟨dpis, dpi, rfl, ⟨hentries, hchain⟩, hentry, hlast⟩
    refine ⟨List.rel_append hentries (.cons hentry .nil),
      List.isChain_append.2 ⟨hchain, .singleton dpi, ?_⟩⟩
    rintro last h _ ⟨⟩
    exact hlast last h

theorem Lists.eq {more : List Nat} (h : Lists entries dpis) (hmore : Lists entries more) :
    dpis = more := by
  have hread {values : List Nat} (hvalues : Lists entries values) :
      readFrom "" none entries = .ok values := readFrom_eq_ok_iff.2 hvalues
  exact Except.ok.inj ((hread h).symm.trans (hread hmore))

theorem Breaks.not_lists (h : Breaks value dpis.getLast? entry e) (hbefore : Lists before dpis)
    (more : List Nat) : ¬Lists (before ++ [entry]) more := by
  rw [lists_concat_iff]
  rintro ⟨rest, dpi, -, hrest, hentry, hlast⟩
  obtain rfl := hbefore.eq hrest
  cases h with
  | @order last d hd hlt hle =>
    obtain rfl := hd.eq hentry
    exact absurd (hlast last hlt) (Nat.not_lt.2 hle)
  | form hnone => exact hnone dpi hentry

end DeviceCatalog.DpiList
