import Mathlib.Data.List.Forall2

/-!
# Checks in sequence

A list of values is read or checked one value after the other, and the first
failure ends the run. The whole succeeds exactly when every single step does.
-/
namespace DeviceCatalog

variable {ε α β : Type}

theorem bind_eq_ok_iff {x : Except ε α} {f : α → Except ε β} {b : β} :
    x >>= f = .ok b ↔ ∃ a, x = .ok a ∧ f a = .ok b := by
  cases x with
  | error e => simp [bind, Except.bind]
  | ok a => simp [bind, Except.bind]

theorem bind_eq_error_iff {x : Except ε α} {f : α → Except ε β} {e : ε} :
    x >>= f = .error e ↔ x = .error e ∨ ∃ a, x = .ok a ∧ f a = .error e := by
  cases x with
  | error d => simp [bind, Except.bind]
  | ok a => simp [bind, Except.bind]

theorem map_eq_ok_iff {x : Except ε α} {f : α → β} {b : β} :
    x.map f = .ok b ↔ ∃ a, x = .ok a ∧ f a = b := by
  cases x with
  | error e => simp [Except.map]
  | ok a => simp [Except.map]

theorem map_eq_error_iff {x : Except ε α} {f : α → β} {e : ε} :
    x.map f = .error e ↔ x = .error e := by
  cases x with
  | error e => simp [Except.map]
  | ok a => simp [Except.map]

theorem mapM_eq_ok_iff {f : α → Except ε β} {as : List α} {bs : List β} :
    as.mapM f = .ok bs ↔ List.Forall₂ (fun a b => f a = .ok b) as bs := by
  induction as generalizing bs with
  | nil =>
    rw [List.mapM_nil, List.forall₂_nil_left_iff]
    exact ⟨fun h => (Except.ok.inj h).symm, fun h => congrArg Except.ok h.symm⟩
  | cons a as ih =>
    rw [List.mapM_cons, List.forall₂_cons_left_iff, bind_eq_ok_iff]
    constructor
    · rintro ⟨b, hfirst, h⟩
      obtain ⟨cs, hrest, h⟩ := bind_eq_ok_iff.1 h
      exact ⟨b, cs, hfirst, ih.1 hrest, (Except.ok.inj h).symm⟩
    · rintro ⟨b, cs, hfirst, hrest, rfl⟩
      exact ⟨b, hfirst, bind_eq_ok_iff.2 ⟨cs, ih.2 hrest, rfl⟩⟩

/-- Where a value is read from its form only, values are read from the list of their forms only. -/
theorem mapM_eq_ok_iff_eq_map {f : α → Except ε β} {g : β → α}
    (h : ∀ a b, f a = .ok b ↔ g b = a) {as : List α} {bs : List β} :
    as.mapM f = .ok bs ↔ as = bs.map g := by
  rw [mapM_eq_ok_iff, ← List.forall₂_eq_eq_eq, List.forall₂_map_right_iff]
  simp only [h, eq_comm]

theorem forM_eq_ok_iff {f : α → Except ε PUnit} {as : List α} :
    as.forM f = .ok () ↔ ∀ a ∈ as, f a = .ok () := by
  induction as with
  | nil => simp [List.forM, pure, Except.pure]
  | cons a as ih =>
    rw [List.forall_mem_cons, ← ih, List.forM, bind_eq_ok_iff]
    constructor
    · rintro ⟨_, hfirst, hrest⟩
      exact ⟨hfirst, hrest⟩
    · rintro ⟨hfirst, hrest⟩
      exact ⟨(), hfirst, hrest⟩

/-- The first element of a list that a predicate holds of. -/
def IsFirst (p : α → Prop) (as : List α) (a : α) : Prop :=
  ∃ before after, as = before ++ a :: after ∧ (∀ b ∈ before, ¬p b) ∧ p a

theorem isFirst_congr {p q : α → Prop} {as : List α} (h : ∀ a ∈ as, p a ↔ q a) {a : α} :
    IsFirst p as a ↔ IsFirst q as a := by
  refine exists_congr fun before => exists_congr fun after => and_congr_right ?_
  rintro rfl
  refine and_congr (forall₂_congr fun b hb => not_congr (h b ?_)) (h a ?_)
  · exact List.mem_append_left _ hb
  · exact List.mem_append_right _ List.mem_cons_self

theorem isFirst_cons {p : α → Prop} {as : List α} {a b : α} :
    IsFirst p (a :: as) b ↔ a = b ∧ p b ∨ ¬p a ∧ IsFirst p as b := by
  constructor
  · rintro ⟨before, after, has, hbefore, hb⟩
    cases before with
    | nil => exact .inl ⟨(List.cons.inj has).1, hb⟩
    | cons c before =>
      obtain ⟨rfl, rfl⟩ := List.cons.inj has
      rw [List.forall_mem_cons] at hbefore
      exact .inr ⟨hbefore.1, before, after, rfl, hbefore.2, hb⟩
  · rintro (⟨rfl, hb⟩ | ⟨ha, before, after, rfl, hbefore, hb⟩)
    · exact ⟨[], as, rfl, by simp, hb⟩
    · exact ⟨a :: before, after, rfl, List.forall_mem_cons.2 ⟨ha, hbefore⟩, hb⟩

theorem isFirst_cons_of_pos {p : α → Prop} {as : List α} {a b : α} (h : p a) :
    IsFirst p (a :: as) b ↔ b = a := by
  rw [isFirst_cons]
  constructor
  · rintro (⟨rfl, -⟩ | ⟨hnot, -⟩)
    · rfl
    · exact absurd h hnot
  · rintro rfl
    exact .inl ⟨rfl, h⟩

theorem isFirst_cons_of_neg {p : α → Prop} {as : List α} {a b : α} (h : ¬p a) :
    IsFirst p (a :: as) b ↔ IsFirst p as b := by
  rw [isFirst_cons, and_iff_right h, or_iff_right]
  rintro ⟨rfl, hb⟩
  exact h hb

theorem IsFirst.mem {p : α → Prop} {as : List α} {a : α} (h : IsFirst p as a) : a ∈ as := by
  obtain ⟨before, after, rfl, -, -⟩ := h
  exact List.mem_append_right _ List.mem_cons_self

theorem IsFirst.holds {p : α → Prop} {as : List α} {a : α} (h : IsFirst p as a) : p a := by
  obtain ⟨_, _, -, -, ha⟩ := h
  exact ha

theorem find?_eq_some_iff_isFirst {p : α → Bool} {as : List α} {a : α} :
    as.find? p = some a ↔ IsFirst (fun a => p a = true) as a := by
  rw [List.find?_eq_some_iff_append, IsFirst, and_comm]
  simp only [Bool.not_eq_true', Bool.not_eq_true, ← exists_and_right, and_assoc]

section Failure

variable {γ : Type*} {a : α} {as : List α} {e : ε}

theorem exists_isFirst_error_cons_of_error {f : α → Except ε γ} {d : ε} (h : f a = .error d) :
    (∃ b, IsFirst (fun b => ∃ d, f b = .error d) (a :: as) b ∧ f b = .error e) ↔ d = e := by
  simp only [isFirst_cons_of_pos (p := fun b => ∃ d, f b = .error d) ⟨d, h⟩, exists_eq_left, h,
    Except.error.injEq]

theorem exists_isFirst_error_cons_of_ok {f : α → Except ε γ} {c : γ} (h : f a = .ok c) :
    (∃ b, IsFirst (fun b => ∃ d, f b = .error d) (a :: as) b ∧ f b = .error e) ↔
      ∃ b, IsFirst (fun b => ∃ d, f b = .error d) as b ∧ f b = .error e := by
  have hpassed : ¬∃ d, f a = .error d := by simp [h]
  simp only [isFirst_cons_of_neg (p := fun b => ∃ d, f b = .error d) hpassed]

/-- A run fails with the failure of the first element that has one. -/
theorem mapM_eq_error_iff {f : α → Except ε β} :
    as.mapM f = .error e ↔ ∃ a, IsFirst (fun a => ∃ d, f a = .error d) as a ∧ f a = .error e := by
  induction as with
  | nil => simp [pure, Except.pure, IsFirst]
  | cons a as ih =>
    rw [List.mapM_cons]
    cases hf : f a with
    | error d => simp [exists_isFirst_error_cons_of_error hf, bind, Except.bind]
    | ok c =>
      rw [exists_isFirst_error_cons_of_ok hf, ← ih]
      simp [bind_eq_error_iff, pure, Except.pure]

theorem forM_eq_error_iff {f : α → Except ε PUnit} :
    as.forM f = .error e ↔ ∃ a, IsFirst (fun a => ∃ d, f a = .error d) as a ∧ f a = .error e := by
  induction as with
  | nil => simp [List.forM, pure, Except.pure, IsFirst]
  | cons a as ih =>
    rw [List.forM]
    cases hf : f a with
    | error d => simp [exists_isFirst_error_cons_of_error hf, bind, Except.bind]
    | ok u =>
      rw [exists_isFirst_error_cons_of_ok hf, ← ih]
      rfl

end Failure

/-- Checks that agree one by one agree as a run. -/
theorem forM_eq_of_forall₂ {f : α → Except ε PUnit} {g : β → Except ε PUnit} {as : List α}
    {bs : List β} (h : List.Forall₂ (fun a b => f a = g b) as bs) : as.forM f = bs.forM g := by
  induction h with
  | nil => rfl
  | cons hfirst _ ih => rw [List.forM, List.forM, hfirst, ih]

/-- Where only one value can fail its check, the whole run is that check. -/
theorem forM_eq_of_forall_ne {f : α → Except ε PUnit} {as : List α} {a : α} (ha : a ∈ as)
    (hrest : ∀ b ∈ as, b ≠ a → f b = .ok ()) : as.forM f = f a := by
  cases hf : f a with
  | ok u =>
    refine forM_eq_ok_iff.2 fun b hb => ?_
    by_cases hba : b = a
    · rw [hba, hf]
    · exact hrest b hb hba
  | error e =>
    induction as with
    | nil => simp at ha
    | cons b as ih =>
      rw [List.forall_mem_cons] at hrest
      by_cases hba : b = a
      · rw [List.forM, hba, hf]
        rfl
      · have hmem : a ∈ as := (List.mem_cons.1 ha).resolve_left (Ne.symm hba)
        rw [List.forM, hrest.1 hba]
        exact ih hmem hrest.2

theorem exists_forall₂ {R : α → β → Prop} {as : List α} (h : ∀ a ∈ as, ∃ b, R a b) :
    ∃ bs, List.Forall₂ R as bs := by
  induction as with
  | nil => exact ⟨[], .nil⟩
  | cons a as ih =>
    obtain ⟨⟨b, hb⟩, hrest⟩ := List.forall_mem_cons.1 h
    obtain ⟨bs, hbs⟩ := ih hrest
    exact ⟨b :: bs, .cons hb hbs⟩

theorem exists_mem_of_forall₂ {R : α → β → Prop} {as : List α} {bs : List β}
    (h : List.Forall₂ R as bs) {a : α} (ha : a ∈ as) : ∃ b ∈ bs, R a b := by
  induction h with
  | nil => simp at ha
  | @cons _ b _ _ hfirst _ ih =>
    rcases List.mem_cons.1 ha with rfl | ha
    · exact ⟨b, List.mem_cons_self, hfirst⟩
    · obtain ⟨b', hb', hab'⟩ := ih ha
      exact ⟨b', List.mem_cons_of_mem _ hb', hab'⟩

theorem rel_find? {R : α → β → Prop} {p : α → Bool} {q : β → Bool} {as : List α} {bs : List β}
    (h : List.Forall₂ R as bs) (hpq : ∀ a b, R a b → p a = q b) :
    Option.Rel R (as.find? p) (bs.find? q) := by
  induction h with
  | nil => exact .none
  | @cons a b _ _ hfirst _ ih =>
    rw [List.find?_cons, List.find?_cons, hpq a b hfirst]
    cases q b with
    | true => exact .some hfirst
    | false => exact ih

/-- The elements that a partial map is defined at, beside their images. -/
theorem forall₂_filter_filterMap {R : α → β → Prop} {p : α → Bool} {f : α → Option β} {as : List α}
    (hkept : ∀ a ∈ as, p a = true → ∃ b, f a = some b ∧ R a b)
    (hdropped : ∀ a ∈ as, p a = false → f a = none) :
    List.Forall₂ R (as.filter p) (as.filterMap f) := by
  induction as with
  | nil => exact .nil
  | cons a as ih =>
    rw [List.forall_mem_cons] at hkept hdropped
    have htail := ih hkept.2 hdropped.2
    cases hp : p a with
    | false =>
      rwa [List.filter_cons_of_neg (by simp [hp]), List.filterMap_cons_none (hdropped.1 hp)]
    | true =>
      obtain ⟨b, hb, hab⟩ := hkept.1 hp
      rw [List.filter_cons_of_pos hp, List.filterMap_cons_some hb]
      exact .cons hab htail

end DeviceCatalog
