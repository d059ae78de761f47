import SqlShell.Proofs.Sort.Searching
import SqlShell.Sort.Merge
import Mathlib.Data.List.Chain

/-! Two runs and the items merged of them, seen from the front at which they are merged. What is
seen from the high end is the reverse of what is there, so that both fronts look alike.
-/

namespace SqlShell.Sort

variable {ε α : Type} {fails : ε → Prop} {less : Less ε α}

/-- One item may stand before another by what is known of their comparison, in either direction. -/
def Rises (less : Less ε α) (x y : α) : Prop :=
  less y x = .ok false ∨ less x y = .ok true

/-- What is cut off from a place on is what is left behind it. -/
theorem toList_extract_size (items : Array α) (start : Nat)
    : (items.extract start items.size).toList = items.toList.drop start := by
  rw [Array.toList_extract, List.extract_eq_take_drop]
  apply List.take_of_length_le
  simp

namespace Front

/-- The items as they are seen from the front. -/
def view (front : Front) (items : Array α) : List α :=
  match front with
  | .low => items.toList
  | .high => items.toList.reverse

/-- One item may stand before another as they are seen from the front. -/
def Rises (front : Front) (less : Less ε α) (x y : α) : Prop :=
  match front with
  | .low => Sort.Rises less x y
  | .high => Sort.Rises less y x

variable (front : Front)

theorem view_perm (items : Array α) : (front.view items).Perm items.toList := by
  cases front with
  | low => exact .refl _
  | high => exact List.reverse_perm _

@[simp]
theorem length_view (items : Array α) : (front.view items).length = items.size := by
  cases front <;> simp [view]

@[simp]
theorem view_append_nil : front.view (#[] : Array α) = [] := by
  cases front <;> rfl

@[simp]
theorem item?_eq_head? (run : Array α) : front.item? run = (front.view run).head? := by
  cases front with
  | low => simp [item?, view, List.head?_eq_getElem?]
  | high => simp [item?, view, Array.back?_eq_getElem?, List.getLast?_eq_getElem?]

@[simp]
theorem view_split_fst (count : Nat) (run : Array α)
    : front.view (front.split count run).1 = (front.view run).take count := by
  cases front with
  | low => simp [view, split]
  | high =>
      show (run.extract (run.size - count) run.size).toList.reverse = run.toList.reverse.take count
      rw [toList_extract_size, List.take_reverse, Array.length_toList]

@[simp]
theorem view_split_snd (count : Nat) (run : Array α)
    : front.view (front.split count run).2 = (front.view run).drop count := by
  cases front with
  | low => exact toList_extract_size run count
  | high => simp [view, split, List.drop_reverse]

@[simp]
theorem view_join (done more : Array α)
    : front.view (front.join done more) = front.view done ++ front.view more := by
  cases front <;> simp [view, join]

/-- The item of the right run comes first if it is less and the low ends are merged, or if it is not
and the high ends are.
-/
theorem rises_right_left {x y : α} (h : less y x = .ok (front == .low))
    : front.Rises less y x := by
  cases front with
  | low => exact Or.inr h
  | high => exact Or.inl h

/-- Otherwise the item of the left run comes first. -/
theorem rises_left_right {x y : α} (h : less y x = .ok (front != .low))
    : front.Rises less x y := by
  cases front with
  | low => exact Or.inl h
  | high => exact Or.inr h

end Front

-----------------------------------------------------------------------------------------
-- Searching in a run
-----------------------------------------------------------------------------------------

/-- The test of the places of a run by the items there. Behind the run nothing passes. -/
def testAt (run : Array α) (p : α → Except ε Bool) : Test ε := fun place =>
  match run[place]? with
  | some item => p item
  | none => return false

/-- The place cuts the run in two: the item before it passes, and the one behind it does not. -/
structure Cuts (run : Array α) (p : α → Except ε Bool) (place : Nat) : Prop where
  le : place ≤ run.size
  passed : ∀ item ∈ (run.toList.take place).getLast?, p item = .ok true
  refused : ∀ item ∈ (run.toList.drop place).head?, p item = .ok false

variable {run : Array α} {p : α → Except ε Bool} {place hint : Nat}

theorem answers_testAt (hp : ∀ item ∈ run, Answers fails (p item)) (place : Nat)
    : Answers fails (testAt run p place) := by
  rw [testAt]
  split
  · next item he => exact hp item (Array.mem_of_getElem? he)
  · exact trivial

theorem testAt_eq {item : α} (h : run[place]? = some item) : testAt run p place = p item := by
  rw [testAt, h]

/-- Where the places of a run cease to pass the run is cut in two. -/
theorem Ceases.cuts (h : Ceases (testAt run p) run.size place) : Cuts run p place := by
  obtain ⟨hle, hpassed, hrefused⟩ := h
  refine ⟨hle, ?_, ?_⟩
  · intro item hi
    by_cases hplace : place = 0
    · subst hplace
      simp at hi
    · have hlt : place - 1 < run.size := by omega
      have hitem : run[place - 1]? = some item := by
        simpa [List.getLast?_take, hplace, hlt] using hi
      exact (testAt_eq hitem).symm.trans (hpassed (Nat.pos_of_ne_zero hplace))
  · intro item hi
    have hitem : run[place]? = some item := by simpa using hi
    obtain ⟨hlt, _⟩ := Array.getElem?_eq_some_iff.mp hitem
    exact (testAt_eq hitem).symm.trans (hrefused hlt)

theorem yields_gallop_testAt (hp : ∀ item ∈ run, Answers fails (p item)) (hhint : hint < run.size)
    : Yields fails (Cuts run p) (gallop (testAt run p) run.size hint) :=
  (yields_gallop (answers_testAt hp) hhint).mono fun _ => Ceases.cuts

namespace Front

variable (front : Front)

/-- A cut seen from the front: which answer the last item before it gives, and which the first one
behind it.
-/
theorem seen_of_cuts (h : Cuts run p place)
    : (∀ item ∈ ((front.view run).take (front.count run.size place)).getLast?,
        p item = .ok (front == .low))
      ∧ ∀ item ∈ ((front.view run).drop (front.count run.size place)).head?,
        p item = .ok (front != .low) := by
  obtain ⟨hle, hpassed, hrefused⟩ := h
  cases front with
  | low => exact ⟨hpassed, hrefused⟩
  | high =>
      have hsize : run.size - (run.size - place) = place := by omega
      simp only [view, count, List.take_reverse, List.drop_reverse, Array.length_toList, hsize,
        List.getLast?_reverse, List.head?_reverse]
      exact ⟨hrefused, hpassed⟩

end Front
end SqlShell.Sort
