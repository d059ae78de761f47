import SqlShell.Proofs.Sort.Weaving

/-! The steps of a merge, item by item or stretch by stretch. Each leaves a merge that is over, with
a chain of the items, or one that goes on. They fail only as a comparison of two of the items does.
-/

namespace SqlShell.Sort

variable {ε α : Type} {fails : ε → Prop} {less : Less ε α}

/-- Any two of the items can be compared, or that fails as it may. -/
def Compares (fails : ε → Prop) (less : Less ε α) (items : List α) : Prop :=
  ∀ x ∈ items, ∀ y ∈ items, Answers fails (less x y)

theorem Compares.mono {items more : List α} (h : Compares fails less more)
    (hsub : ∀ x ∈ items, x ∈ more)
    : Compares fails less items :=
  fun x hx y hy => h x (hsub x hx) y (hsub y hy)

namespace Merging

variable {merging : Merging α} {before beyond items : List α} {fuel count : Nat} {x y : α}

theorem Sound.mem_left (h : Sound less before beyond items merging) (hx : x ∈ merging.leftSeen)
    : x ∈ items :=
  h.perm.subset (by simp [hx])

theorem Sound.mem_right (h : Sound less before beyond items merging) (hy : y ∈ merging.rightSeen)
    : y ∈ items :=
  h.perm.subset (by simp [hy])

/-- The number of items that are left of both runs. -/
def remaining (merging : Merging α) : Nat :=
  merging.leftSeen.length + merging.rightSeen.length

theorem remaining_takeLeft_le (merging : Merging α) (count : Nat)
    : (merging.takeLeft count).remaining ≤ merging.remaining := by
  simp [remaining]

theorem remaining_takeRight_le (merging : Merging α) (count : Nat)
    : (merging.takeRight count).remaining ≤ merging.remaining := by
  simp [remaining]

theorem remaining_takeLeft_one (hx : merging.leftSeen.head? = some x)
    : (merging.takeLeft 1).remaining + 1 = merging.remaining := by
  obtain ⟨lefts, hl⟩ := List.head?_eq_some_iff.mp hx
  simp [remaining, hl]
  omega

theorem remaining_takeRight_one (hy : merging.rightSeen.head? = some y)
    : (merging.takeRight 1).remaining + 1 = merging.remaining := by
  obtain ⟨rights, hr⟩ := List.head?_eq_some_iff.mp hy
  simp [remaining, hr]
  omega

/-- One item of the left run may be taken if it may stand before the right run. -/
theorem Sound.takeLeft_one (h : Sound less before beyond items merging)
    (hx : merging.leftSeen.head? = some x) (hy : merging.rightSeen.head? = some y)
    (hr : merging.front.Rises less x y)
    : Sound less before beyond items (merging.takeLeft 1) := by
  obtain ⟨lefts, hl⟩ := List.head?_eq_some_iff.mp hx
  apply h.takeLeft hy
  simpa [hl] using hr

/-- One item of the right run may be taken if it may stand before the left run. -/
theorem Sound.takeRight_one (h : Sound less before beyond items merging)
    (hx : merging.leftSeen.head? = some x) (hy : merging.rightSeen.head? = some y)
    (hr : merging.front.Rises less y x)
    : Sound less before beyond items (merging.takeRight 1) := by
  obtain ⟨rights, hs⟩ := List.head?_eq_some_iff.mp hy
  apply h.takeRight hx
  simpa [hs] using hr

/-- A merge that is not over, with enough steps to use up both runs. -/
structure Underway (less : Less ε α) (before beyond items : List α) (fuel : Nat)
    (merging : Merging α) : Prop extends Sound less before beyond items merging where
  going : merging.over? = none
  enough : merging.remaining ≤ fuel

/-- The result of a merge makes a chain of the items, or it fails as comparisons may. -/
def YieldsMerged (fails : ε → Prop) (less : Less ε α) (front : Front) (before beyond items : List α)
    (result : Except ε (Array α × Nat)) : Prop :=
  Yields fails (fun result => Merged less front before beyond items result.1) result

-----------------------------------------------------------------------------------------
-- Item by item
-----------------------------------------------------------------------------------------

/-- The front item of one of the runs is taken, as their comparison says. -/
theorem Sound.take_one (h : Sound less before beyond items merging)
    (hx : merging.leftSeen.head? = some x) (hy : merging.rightSeen.head? = some y) {b : Bool}
    (hb : less y x = .ok b) {next : Merging α}
    (hn : (if b == (merging.front == .low) then merging.takeRight 1 else merging.takeLeft 1) = next)
    : Sound less before beyond items next ∧ next.front = merging.front
      ∧ next.remaining + 1 = merging.remaining := by
  split at hn
  · next hsame =>
      subst hn
      rw [beq_iff_eq.mp hsame] at hb
      exact ⟨h.takeRight_one hx hy (merging.front.rises_right_left hb), rfl,
        remaining_takeRight_one hy⟩
  · next hother =>
      subst hn
      have hnot : b = (merging.front != .low) := Bool.eq_not.mpr (by simpa using hother)
      rw [hnot] at hb
      exact ⟨h.takeLeft_one hx hy (merging.front.rises_left_right hb), rfl,
        remaining_takeLeft_one hx⟩

/-- A merge goes on item by item or stretch by stretch, in so many steps, and yields a chain. -/
structure GoesOn (fails : ε → Prop) (less : Less ε α) (before beyond items : List α) (fuel : Nat)
    : Prop where
  by_items : ∀ patience lefts rights merging, Underway less before beyond items fuel merging →
    YieldsMerged fails less merging.front before beyond items
      (mergeItems less fuel patience lefts rights merging)
  by_stretches : ∀ patience merging, Underway less before beyond items fuel merging →
    YieldsMerged fails less merging.front before beyond items
      (mergeStretches less fuel patience merging)

/-- A sound merge is over with a chain of the items, or it is not over. -/
theorem Sound.merged_or_going (h : Sound less before beyond items merging)
    : (∃ merged, merging.over? = some merged
        ∧ Merged less merging.front before beyond items merged)
      ∨ merging.over? = none := by
  cases ho : merging.over? with
  | some merged => exact Or.inl ⟨merged, rfl, h.merged ho⟩
  | none => exact Or.inr rfl

/-- A step that takes one item leaves a merge that is over or goes on. -/
theorem yieldsMerged_items (hc : Compares fails less items)
    (hg : GoesOn fails less before beyond items fuel) (patience lefts rights : Nat)
    (h : Underway less before beyond items (fuel + 1) merging)
    : YieldsMerged fails less merging.front before beyond items
        (mergeItems less (fuel + 1) patience lefts rights merging) := by
  obtain ⟨⟨x, hx⟩, y, hy⟩ := exists_of_over?_eq_none h.going
  have hmx := h.mem_left (List.mem_of_head? hx)
  have hmy := h.mem_right (List.mem_of_head? hy)
  rw [mergeItems, (Front.item?_eq_head? _ _).trans hx, (Front.item?_eq_head? _ _).trans hy]
  apply (hc y hmy x hmx).bind
  intro b hb _
  dsimp only
  generalize (if b == (merging.front == .low) then 0 else lefts + 1) = lefts
  generalize (if b == (merging.front == .low) then rights + 1 else 0) = rights
  generalize hn : (if b == (merging.front == .low) then merging.takeRight 1
    else merging.takeLeft 1) = next
  obtain ⟨hsound, hfront, hfewer⟩ := h.take_one hx hy hb hn
  have henough := h.enough
  rw [← hfront]
  rcases hsound.merged_or_going with ⟨merged, ho, hm⟩ | ho
  · rw [ho]
    exact hm
  · rw [ho]
    have hnext : Underway less before beyond items fuel next := ⟨hsound, ho, by omega⟩
    dsimp only
    split
    · exact hg.by_stretches _ _ hnext
    · exact hg.by_items _ _ _ _ hnext

-----------------------------------------------------------------------------------------
-- Stretch by stretch
-----------------------------------------------------------------------------------------

theorem place_lt (front : Front) {size : Nat} (h : 0 < size) : front.place size < size := by
  cases front with
  | low => exact h
  | high => exact Nat.sub_lt h Nat.one_pos

theorem mem_leftSeen_iff : x ∈ merging.leftSeen ↔ x ∈ merging.left := by
  rw [leftSeen, (merging.front.view_perm _).mem_iff, Array.mem_toList_iff]

theorem mem_rightSeen_iff : y ∈ merging.rightSeen ↔ y ∈ merging.right := by
  rw [rightSeen, (merging.front.view_perm _).mem_iff, Array.mem_toList_iff]

/-- The left items that a search finds before the right run may be taken, and the first right item
after them.
-/
theorem Sound.yields_lefts (h : Sound less before beyond items merging)
    (hc : Compares fails less items) (hx : merging.leftSeen.head? = some x)
    (hy : merging.rightSeen.head? = some y)
    : Yields fails
        (fun found => ∀ lefts, lefts = merging.front.count merging.left.size found →
          Sound less before beyond items (merging.takeLeft lefts)
          ∧ ∀ x ∈ (merging.takeLeft lefts).leftSeen.head?, merging.front.Rises less y x)
        (gallop (testAt merging.left fun x => do return !(← less y x)) merging.left.size
          (merging.front.place merging.left.size)) := by
  have hmy := h.mem_right (List.mem_of_head? hy)
  have hp : ∀ z ∈ merging.left, Answers fails (do return !(← less y z)) :=
    fun z hz => (hc y hmy z (h.mem_left (mem_leftSeen_iff.mpr hz))).map not
  have hsize : 0 < merging.left.size :=
    Array.size_pos_of_mem (mem_leftSeen_iff.mp (List.mem_of_head? hx))
  apply (yields_gallop_testAt hp (place_lt _ hsize)).mono
  rintro found hcuts lefts rfl
  obtain ⟨htaken, hleft⟩ := merging.front.seen_of_cuts hcuts
  refine ⟨h.takeLeft hy ?_, ?_⟩
  · intro z hz
    apply merging.front.rises_left_right
    exact eq_ok_of_not (htaken z hz)
  · intro z hz
    rw [leftSeen_takeLeft] at hz
    apply merging.front.rises_right_left
    have hless := eq_ok_of_not (hleft z hz)
    rw [bne, Bool.not_not] at hless
    exact hless

/-- The right items that a search finds before the left run may be taken, and the first left item
after them.
-/
theorem Sound.yields_rights (h : Sound less before beyond items merging)
    (hc : Compares fails less items) (hx : merging.leftSeen.head? = some x)
    (hy : merging.rightSeen.head? = some y)
    : Yields fails
        (fun found => ∀ rights, rights = merging.front.count merging.right.size found →
          Sound less before beyond items (merging.takeRight rights)
          ∧ ∀ y ∈ (merging.takeRight rights).rightSeen.head?, merging.front.Rises less x y)
        (gallop (testAt merging.right fun y => less y x) merging.right.size
          (merging.front.place merging.right.size)) := by
  have hmx := h.mem_left (List.mem_of_head? hx)
  have hp : ∀ z ∈ merging.right, Answers fails (less z x) :=
    fun z hz => hc z (h.mem_right (mem_rightSeen_iff.mpr hz)) x hmx
  have hsize : 0 < merging.right.size :=
    Array.size_pos_of_mem (mem_rightSeen_iff.mp (List.mem_of_head? hy))
  apply (yields_gallop_testAt hp (place_lt _ hsize)).mono
  rintro found hcuts rights rfl
  obtain ⟨htaken, hright⟩ := merging.front.seen_of_cuts hcuts
  refine ⟨h.takeRight hx ?_, ?_⟩
  · intro z hz
    exact merging.front.rises_right_left (htaken z hz)
  · intro z hz
    rw [rightSeen_takeRight] at hz
    exact merging.front.rises_left_right (hright z hz)

/-- A step that takes left items and a right one, then right items and a left one, leaves a merge
that is over or goes on.
-/
theorem yieldsMerged_stretches (hc : Compares fails less items)
    (hg : GoesOn fails less before beyond items fuel) (patience : Nat)
    (h : Underway less before beyond items (fuel + 1) merging)
    : YieldsMerged fails less merging.front before beyond items
        (mergeStretches less (fuel + 1) patience merging) := by
  obtain ⟨⟨x, hx⟩, y, hy⟩ := exists_of_over?_eq_none h.going
  have henough := h.enough
  rw [mergeStretches, (Front.item?_eq_head? _ _).trans hy]
  dsimp only
  generalize (if 1 < patience then patience - 1 else patience) = patience
  apply (h.yields_lefts hc hx hy).bind
  intro found _ hfound
  rw [pure_bind]
  generalize hlefts : merging.front.count merging.left.size found = lefts
  obtain ⟨hsound, hrise⟩ := hfound lefts hlefts.symm
  have hfewer := merging.remaining_takeLeft_le lefts
  have hy : (merging.takeLeft lefts).rightSeen.head? = some y := hy
  obtain ⟨next, hn, hfront⟩ :
      ∃ next, merging.takeLeft lefts = next ∧ next.front = merging.front := ⟨_, rfl, rfl⟩
  rw [hn] at hsound hrise hfewer hy ⊢
  rw [← hfront] at hrise ⊢
  rcases hsound.merged_or_going with ⟨merged, ho, hm⟩ | ho
  · rw [ho]
    exact hm
  rw [ho]
  dsimp only
  -- The first right item follows the left ones.
  obtain ⟨⟨x, hx⟩, -⟩ := exists_of_over?_eq_none ho
  have hsound := hsound.takeRight_one hx hy (hrise x hx)
  have hfewer := remaining_takeRight_one hy
  rcases hsound.merged_or_going with ⟨merged, ho, hm⟩ | ho
  · rw [ho]
    exact hm
  have hitem : next.front.item? (next.takeRight 1).left = some x :=
    (Front.item?_eq_head? _ _).trans hx
  rw [ho, hitem]
  dsimp only
  -- The other right items that come before the left run follow, and then a left one.
  obtain ⟨-, y, hy⟩ := exists_of_over?_eq_none ho
  apply (hsound.yields_rights hc hx hy).bind
  intro found _ hfound
  rw [pure_bind]
  generalize hrights : next.front.count (next.takeRight 1).right.size found = rights
  obtain ⟨hsound, hrise⟩ := hfound rights hrights.symm
  have hfewest := (next.takeRight 1).remaining_takeRight_le rights
  rcases hsound.merged_or_going with ⟨merged, ho, hm⟩ | ho
  · rw [ho]
    exact hm
  rw [ho]
  dsimp only
  obtain ⟨-, y, hy⟩ := exists_of_over?_eq_none ho
  have hx : ((next.takeRight 1).takeRight rights).leftSeen.head? = some x := hx
  have hsound := hsound.takeLeft_one hx hy (hrise y hy)
  have hleast := remaining_takeLeft_one hx
  rcases hsound.merged_or_going with ⟨merged, ho, hm⟩ | ho
  · rw [ho]
    exact hm
  rw [ho]
  have hnext : Underway less before beyond items fuel
      (((next.takeRight 1).takeRight rights).takeLeft 1) :=
    ⟨hsound, ho, by omega⟩
  dsimp only
  split
  · exact hg.by_stretches _ _ hnext
  · exact hg.by_items _ _ _ _ hnext

/-- A merge under way yields a chain in any number of steps that is enough, by induction on it. -/
theorem goesOn (hc : Compares fails less items) (fuel : Nat)
    : GoesOn fails less before beyond items fuel := by
  induction fuel with
  | zero =>
      have hnone : ∀ merging, ¬ Underway less before beyond items 0 merging := by
        intro merging h
        obtain ⟨⟨x, hx⟩, -⟩ := exists_of_over?_eq_none h.going
        have hone := remaining_takeLeft_one hx
        have henough := h.enough
        omega
      exact ⟨fun _ _ _ _ h => absurd h (hnone _), fun _ _ h => absurd h (hnone _)⟩
  | succ fuel ih =>
      exact ⟨fun patience lefts rights _ h => yieldsMerged_items hc ih patience lefts rights h,
        fun patience _ h => yieldsMerged_stretches hc ih patience h⟩

end Merging

end SqlShell.Sort
