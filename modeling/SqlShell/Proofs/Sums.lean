import Mathlib.Algebra.GroupWithZero.Nat
import Mathlib.Algebra.Order.BigOperators.Group.List
import Mathlib.Algebra.Order.Group.Nat
import SqlShell.Proofs.Results

/-! What the items of a list amount to, together or at most: over results of the items, over places
in the list, and with separators between the items.
-/

namespace SqlShell

variable {α β ε : Type}

-----------------------------------------------------------------------------------------
-- Sums
-----------------------------------------------------------------------------------------

/-- What the results of a list amount to if each amounts to no more than its item. -/
theorem sum_le_of_forall₂ {R : α → β → Prop} {m : α → Nat} {k : β → Nat} {items : List α}
    {values : List β} (h : List.Forall₂ R items values)
    (hle : ∀ item value, R item value → k value ≤ m item)
    : (values.map k).sum ≤ (items.map m).sum := by
  refine List.Forall₂.sum_le_sum ?_
  rw [List.forall₂_map_left_iff, List.forall₂_map_right_iff]
  exact h.flip.imp fun value item => hle item value

theorem sum_le_of_mapM {f : α → Except ε β} {m : α → Nat} {k : β → Nat} {items : List α}
    {values : List β} (h : items.mapM f = .ok values)
    (hle : ∀ item value, f item = .ok value → k value ≤ m item)
    : (values.map k).sum ≤ (items.map m).sum :=
  sum_le_of_forall₂ (forall₂_of_mapM h) hle

/-- If items amount to no less than what becomes of them, nothing is lost of any of them. By
induction on the items.
-/
theorem forall_of_sum_le {R : α → β → Prop} {P : α → Prop} {m : α → Nat} {k : β → Nat}
    {items : List α} {values : List β} (h : List.Forall₂ R items values)
    (hle : ∀ item value, R item value → k value ≤ m item)
    (hp : ∀ item value, R item value → m item ≤ k value → P item)
    (hsum : (items.map m).sum ≤ (values.map k).sum)
    : ∀ item ∈ items, P item := by
  induction h with
  | nil => exact fun _ hm => absurd hm List.not_mem_nil
  | cons hr hrest ih =>
      rw [List.map_cons, List.map_cons, List.sum_cons, List.sum_cons] at hsum
      have hfirst := hle _ _ hr
      have hothers := sum_le_of_forall₂ hrest hle
      exact List.forall_mem_cons.mpr ⟨hp _ _ hr (by omega), ih (by omega)⟩

theorem sum_map_zip_le (m : β → Nat) (firsts : List α) (items : List β)
    : ((firsts.zip items).map fun pair => m pair.2).sum ≤ (items.map m).sum := by
  induction items generalizing firsts with
  | nil => rw [List.zip_nil_right]; exact Nat.le_refl _
  | cons item rest ih =>
      cases firsts with
      | nil => exact Nat.zero_le _
      | cons first firsts =>
          rw [List.zip_cons_cons, List.map_cons, List.map_cons, List.sum_cons, List.sum_cons]
          exact Nat.add_le_add_left (ih firsts) _

/-- What items and the separators between them amount to, by induction on the items. -/
theorem sum_map_intersperse (f : α → Nat) (separator : α) (item : α) (items : List α)
    : (((item :: items).intersperse separator).map f).sum =
        ((item :: items).map f).sum + items.length * f separator := by
  induction items generalizing item with
  | nil => simp
  | cons second rest ih =>
      rw [List.intersperse_cons_cons, List.map_cons, List.sum_cons, List.map_cons, List.sum_cons, ih,
        List.length_cons, Nat.succ_mul]
      simp only [List.map_cons, List.sum_cons]
      omega

-----------------------------------------------------------------------------------------
-- Places
-----------------------------------------------------------------------------------------

/-- A list item by item. -/
theorem map_range_getD (f : α → β) (default : α) (items : List α)
    : (List.range items.length).map (fun i => f ((items[i]?).getD default)) = items.map f := by
  refine List.ext_getElem? fun i => ?_
  rw [List.getElem?_map, List.getElem?_map]
  by_cases hi : i < items.length
  · rw [List.getElem?_range hi, List.getElem?_eq_getElem hi, Option.map_some, Option.map_some,
      List.getElem?_eq_getElem hi, Option.getD_some]
  · rw [List.getElem?_eq_none (by simpa using hi), List.getElem?_eq_none (by simpa using hi)]
    rfl

theorem sum_range_nil {m : α → Nat} {default : α} (hd : m default = 0) (count : Nat)
    : ((List.range count).map fun i => m ((([] : List α)[i]?).getD default)).sum = 0 := by
  refine List.sum_eq_zero fun number hm => ?_
  obtain ⟨i, -, rfl⟩ := List.mem_map.mp hm
  exact hd

theorem sum_range_cons {m : α → Nat} {default : α} (item : α) (rest : List α) (count : Nat)
    : ((List.range (count + 1)).map fun i => m (((item :: rest)[i]?).getD default)).sum =
        m item + ((List.range count).map fun i => m ((rest[i]?).getD default)).sum := by
  rw [List.range_succ_eq_map, List.map_cons, List.map_map, List.sum_cons]
  rfl

/-- The items at some places amount to no more than the list, by induction on it. -/
theorem sum_range_getD_le {m : α → Nat} {default : α} (hd : m default = 0) (items : List α)
    (count : Nat)
    : ((List.range count).map fun i => m ((items[i]?).getD default)).sum ≤ (items.map m).sum := by
  induction items generalizing count with
  | nil => exact Nat.le_of_eq (sum_range_nil hd count)
  | cons item rest ih =>
      cases count with
      | zero => exact Nat.zero_le _
      | succ count =>
          rw [sum_range_cons, List.map_cons, List.sum_cons]
          exact Nat.add_le_add_left (ih count) _

/-- The items at all places amount to what the list does, by induction on it. -/
theorem sum_range_getD {m : α → Nat} {default : α} (hd : m default = 0) {items : List α}
    {count : Nat} (hc : items.length ≤ count)
    : ((List.range count).map fun i => m ((items[i]?).getD default)).sum = (items.map m).sum := by
  induction items generalizing count with
  | nil => exact sum_range_nil hd count
  | cons item rest ih =>
      cases count with
      | zero => exact absurd hc (Nat.not_succ_le_zero _)
      | succ count =>
          rw [sum_range_cons, List.map_cons, List.sum_cons, ih (Nat.le_of_succ_le_succ hc)]

/-- Sums over items and places in either order, by induction on the items. -/
theorem sum_range_map (g : α → Nat → Nat) (items : List α) (count : Nat)
    : ((List.range count).map fun i => (items.map fun item => g item i).sum).sum =
        (items.map fun item => ((List.range count).map fun i => g item i).sum).sum := by
  induction items with
  | nil => simp
  | cons item rest ih =>
      simp only [List.map_cons, List.sum_cons]
      rw [List.sum_map_add, ih]

-----------------------------------------------------------------------------------------
-- Greatest numbers
-----------------------------------------------------------------------------------------

theorem le_foldl_max (numbers : List Nat) (start : Nat) : start ≤ numbers.foldl max start := by
  induction numbers generalizing start with
  | nil => exact Nat.le_refl _
  | cons number rest ih => exact (Nat.le_max_left start number).trans (ih _)

theorem le_foldl_max_of_mem {numbers : List Nat} {number start : Nat} (h : number ∈ numbers)
    : number ≤ numbers.foldl max start := by
  induction numbers generalizing start with
  | nil => exact absurd h List.not_mem_nil
  | cons first rest ih =>
      rcases List.mem_cons.mp h with rfl | h
      · exact (Nat.le_max_right start number).trans (le_foldl_max rest _)
      · exact ih h

/-- The greatest of numbers that are replaced by at least one, by induction on the items. -/
theorem foldl_max_congr {f g : α → Nat} {items : List α} {start : Nat} (hs : 1 ≤ start)
    (h : ∀ item ∈ items, max 1 (f item) = max 1 (g item))
    : (items.map f).foldl max start = (items.map g).foldl max start := by
  induction items generalizing start with
  | nil => rfl
  | cons item rest ih =>
      have hitem := h item List.mem_cons_self
      have hstart : max start (f item) = max start (g item) := by omega
      rw [List.map_cons, List.map_cons, List.foldl_cons, List.foldl_cons, hstart]
      exact ih (by omega) fun other ho => h other (List.mem_cons_of_mem item ho)

theorem foldl_max_add {numbers : List Nat} {start : Nat} (more : Nat)
    : (numbers.map (· + more)).foldl max (start + more) = numbers.foldl max start + more := by
  induction numbers generalizing start with
  | nil => rfl
  | cons number rest ih =>
      rw [List.map_cons, List.foldl_cons, List.foldl_cons, Nat.add_max_add_right, ih]

/-- The greatest of sizes that are all equal, by induction on the items. -/
theorem foldl_max_of_forall_eq {f : α → Nat} {items : List α} {size start : Nat}
    (h : ∀ item ∈ items, f item = size) (hs : start = size)
    : items.foldl (fun most item => max most (f item)) start = size := by
  induction items generalizing start with
  | nil => exact hs
  | cons item rest ih =>
      rw [List.foldl_cons, h item List.mem_cons_self, hs, Nat.max_self]
      exact ih (fun other ho => h other (List.mem_cons_of_mem item ho)) rfl

end SqlShell
