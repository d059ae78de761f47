import Mathlib.Data.List.Forall2

/-! Results that are values or problems: what comes of one after another, and of a list of them. -/

namespace SqlShell

variable {ε φ α β : Type}

-----------------------------------------------------------------------------------------
-- Results one after another
-----------------------------------------------------------------------------------------

theorem ok_bind (value : α) (next : α → Except ε β) : (Except.ok value >>= next) = next value :=
  rfl

theorem exists_of_bind_eq_ok {result : Except ε α} {next : α → Except ε β} {value : β}
    (h : (result >>= next) = .ok value)
    : ∃ first, result = .ok first ∧ next first = .ok value := by
  cases result with
  | error fault => exact nomatch h
  | ok first => exact ⟨first, rfl, h⟩

theorem eq_error_of_bind_eq_error {result : Except ε α} {next : α → Except ε β} {problem : ε}
    (h : (result >>= next) = .error problem)
    : result = .error problem ∨ ∃ value, result = .ok value ∧ next value = .error problem := by
  cases result with
  | error found => exact Or.inl (congrArg Except.error (Except.error.inj h))
  | ok value => exact Or.inr ⟨value, rfl, h⟩

theorem eq_ok_of_mapError {result : Except ε α} {f : ε → φ} {value : α}
    (h : result.mapError f = .ok value)
    : result = .ok value := by
  cases result with
  | error fault => exact nomatch h
  | ok found => exact congrArg Except.ok (Except.ok.inj h)

theorem exists_of_map_eq_ok {result : Except ε α} {f : α → β} {value : β}
    (h : result.map f = .ok value)
    : ∃ found, result = .ok found ∧ f found = value := by
  cases result with
  | error fault => exact nomatch h
  | ok found => exact ⟨found, rfl, Except.ok.inj h⟩

theorem eq_ok_of_toOption {result : Except ε α} {value : α} (h : result.toOption = some value)
    : result = .ok value := by
  cases result with
  | error fault => exact nomatch h
  | ok found => exact congrArg Except.ok (Option.some.inj h)

theorem exists_of_any_toOption {result : Except ε α} {p : α → Bool}
    (h : result.toOption.any p = true)
    : ∃ value, result = .ok value ∧ p value = true := by
  cases result with
  | error fault => exact nomatch h
  | ok value => exact ⟨value, rfl, h⟩

-----------------------------------------------------------------------------------------
-- Results of lists
-----------------------------------------------------------------------------------------

/-- If every item yields a result that is related to it, so does the list of them, item by item. By
induction on it.
-/
theorem exists_mapM_forall₂ {f : α → Except ε β} {R : α → β → Prop} {items : List α}
    (h : ∀ item ∈ items, ∃ value, f item = .ok value ∧ R item value)
    : ∃ values, items.mapM f = .ok values ∧ List.Forall₂ R items values := by
  induction items with
  | nil => exact ⟨[], rfl, .nil⟩
  | cons item rest ih =>
      obtain ⟨value, he, hr⟩ := h item List.mem_cons_self
      obtain ⟨values, hv, hrest⟩ := ih fun other ho => h other (List.mem_cons_of_mem item ho)
      exact ⟨value :: values, by rw [List.mapM_cons, he, hv]; rfl, .cons hr hrest⟩

/-- The results of a list are those of its items, by induction on it. -/
theorem forall₂_of_mapM {f : α → Except ε β} {items : List α} {values : List β}
    (h : items.mapM f = .ok values)
    : List.Forall₂ (fun item value => f item = .ok value) items values := by
  induction items generalizing values with
  | nil =>
      obtain rfl := Except.ok.inj h
      exact .nil
  | cons item rest ih =>
      rw [List.mapM_cons] at h
      obtain ⟨value, he, h⟩ := exists_of_bind_eq_ok h
      obtain ⟨others, hr, h⟩ := exists_of_bind_eq_ok h
      obtain rfl := Except.ok.inj h
      exact .cons he (ih hr)

/-- What all items have that are related to others, the items of a list have that is related to
another list item by item. By induction on the lists.
-/
theorem forall_of_forall₂ {R : α → β → Prop} {P : β → Prop} {items : List α} {others : List β}
    (h : List.Forall₂ R items others) (hp : ∀ item ∈ items, ∀ other, R item other → P other)
    : ∀ other ∈ others, P other := by
  induction h with
  | nil => exact fun _ hm => absurd hm List.not_mem_nil
  | cons hr _ ih =>
      refine List.forall_mem_cons.mpr ⟨hp _ List.mem_cons_self _ hr, ih fun item hi => ?_⟩
      exact hp item (List.mem_cons_of_mem _ hi)

/-- If every item yields a result with a property, so does the list of them. -/
theorem exists_mapM_eq_ok {f : α → Except ε β} {P : β → Prop} {items : List α}
    (h : ∀ item ∈ items, ∃ value, f item = .ok value ∧ P value)
    : ∃ values, items.mapM f = .ok values ∧ ∀ value ∈ values, P value := by
  obtain ⟨values, hv, hall⟩ := @exists_mapM_forall₂ _ _ _ f (fun _ => P) items h
  exact ⟨values, hv, forall_of_forall₂ hall fun _ _ _ hp => hp⟩

/-- The results of a list come from items of it. -/
theorem exists_of_mem_mapM {f : α → Except ε β} {items : List α} {values : List β} {value : β}
    (h : items.mapM f = .ok values) (hm : value ∈ values)
    : ∃ item ∈ items, f item = .ok value := by
  have hall : ∀ value ∈ values, ∃ item ∈ items, f item = .ok value :=
    forall_of_forall₂ (forall₂_of_mapM h) fun item hi _ he => ⟨item, hi, he⟩
  exact hall value hm

/-- The result is the problem in the one case, and a value in the other. -/
def FailsIf (fails : Bool) (problem : ε) (result : Except ε α) : Prop :=
  if fails then result = .error problem else ∃ value, result = .ok value

/-- The results of a list fail if that of some item does, by induction on the list. -/
theorem FailsIf.mapM {f : α → Except ε β} {p : α → Bool} {problem : ε}
    (h : ∀ item, FailsIf (p item) problem (f item)) (items : List α)
    : FailsIf (items.any p) problem (items.mapM f) := by
  induction items with
  | nil => exact ⟨[], rfl⟩
  | cons item rest ih =>
      have hitem := h item
      rw [List.any_cons, List.mapM_cons]
      cases hp : p item with
      | true =>
          rw [hp] at hitem
          have he : f item = .error problem := hitem
          rw [he]
          exact rfl
      | false =>
          rw [hp] at hitem
          obtain ⟨value, he⟩ := hitem
          rw [he, ok_bind, Bool.false_or]
          cases hr : rest.any p with
          | true =>
              rw [hr] at ih
              have hrest : rest.mapM f = .error problem := ih
              rw [hrest]
              exact rfl
          | false =>
              rw [hr] at ih
              obtain ⟨values, hrest⟩ := ih
              rw [hrest]
              exact ⟨value :: values, rfl⟩

/-- If every item yields a known result, the list yields the list of them, by induction on it. -/
theorem mapM_eq_ok {f : α → Except ε β} {g : α → β} {items : List α}
    (h : ∀ item ∈ items, f item = .ok (g item))
    : items.mapM f = .ok (items.map g) := by
  induction items with
  | nil => rfl
  | cons item rest ih =>
      rw [List.mapM_cons, h item List.mem_cons_self,
        ih fun other ho => h other (List.mem_cons_of_mem item ho)]
      rfl

/-- Items without a problem are none together, by induction on them. -/
theorem forM_eq_ok {f : α → Except ε Unit} {items : List α} (h : ∀ item ∈ items, f item = .ok ())
    : items.forM f = .ok () := by
  induction items with
  | nil => rfl
  | cons item rest ih =>
      show (f item >>= fun _ => rest.forM f) = .ok ()
      rw [h item List.mem_cons_self]
      exact ih fun other ho => h other (List.mem_cons_of_mem item ho)

end SqlShell
