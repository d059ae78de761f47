import SqlShell.Proofs.Sort.Fronts

/-! Two rising runs that are being merged: the merged items followed by what is left of each run
make a chain. Each item that is put behind another one has been compared with it, so this needs no
order among the items: it says of any comparison what its answers allow.
-/

namespace SqlShell.Sort

variable {ε α : Type} {fails : ε → Prop} {less : Less ε α}

-----------------------------------------------------------------------------------------
-- Chains that are put together
-----------------------------------------------------------------------------------------

variable {R : α → α → Prop} {before beyond done first second taken : List α} {last item : α}

/-- One chain up to some item goes on as another one from some item on. -/
theorem isChain_seam {front more : List α} (rest other : List α)
    (h : List.IsChain R (front ++ last :: rest))
    (ho : List.IsChain R (other ++ item :: more)) (hs : R last item)
    : List.IsChain R (front ++ last :: item :: more) := by
  rw [List.isChain_append_cons_cons]
  exact ⟨(List.isChain_split.mp h).1, hs, (List.isChain_split.mp ho).2⟩

/-- Each of two runs goes on from the same merged items, between the same items at both ends. -/
structure Woven (R : α → α → Prop) (before beyond done first second : List α) : Prop where
  first_chain : List.IsChain R (before ++ (done ++ (first ++ beyond)))
  second_chain : List.IsChain R (before ++ (done ++ (second ++ beyond)))

namespace Woven

theorem symm (h : Woven R before beyond done first second)
    : Woven R before beyond done second first :=
  ⟨h.second_chain, h.first_chain⟩

/-- Items that are taken from one run may stand before the first one of the other run. -/
theorem take (h : Woven R before beyond done (taken ++ first) (item :: second))
    (hs : ∀ x ∈ taken.getLast?, R x item)
    : Woven R before beyond (done ++ taken) first (item :: second) := by
  obtain ⟨hfirst, hsecond⟩ := h
  refine ⟨by simpa using hfirst, ?_⟩
  rcases List.eq_nil_or_concat' taken with rfl | ⟨front, last, rfl⟩
  · simpa using hsecond
  · have hchain : List.IsChain R
        ((before ++ done ++ front) ++ last :: item :: (second ++ beyond)) := by
      apply isChain_seam (first ++ beyond) (before ++ done)
      · simpa using hfirst
      · simpa using hsecond
      · exact hs last (by simp)
    simpa using hchain

/-- A single item that may stand behind the last one of the other run ends the merge. -/
theorem finish (h : Woven R before beyond done [item] second)
    (hs : ∀ x ∈ second.getLast?, R x item) (hne : second ≠ [])
    : List.IsChain R (before ++ (done ++ (second ++ [item]) ++ beyond)) := by
  obtain ⟨hfirst, hsecond⟩ := h
  obtain ⟨front, last, rfl⟩ := (List.eq_nil_or_concat' second).resolve_left hne
  have hchain : List.IsChain R ((before ++ done ++ front) ++ last :: item :: beyond) := by
    apply isChain_seam beyond (before ++ done)
    · simpa using hsecond
    · simpa using hfirst
    · exact hs last (by simp)
  simpa using hchain

end Woven
-----------------------------------------------------------------------------------------
-- A merge under way
-----------------------------------------------------------------------------------------

namespace Merging

variable {merging : Merging α} {count : Nat} {items : List α} {x y : α}

/-- The items merged so far, as they are seen from the front. -/
def doneSeen (merging : Merging α) : List α := merging.front.view merging.done

/-- The left run, as it is seen from the front. -/
def leftSeen (merging : Merging α) : List α := merging.front.view merging.left

/-- The right run, as it is seen from the front. -/
def rightSeen (merging : Merging α) : List α := merging.front.view merging.right

@[simp]
theorem doneSeen_takeLeft
    : (merging.takeLeft count).doneSeen = merging.doneSeen ++ merging.leftSeen.take count := by
  simp [doneSeen, leftSeen, takeLeft]

@[simp]
theorem leftSeen_takeLeft : (merging.takeLeft count).leftSeen = merging.leftSeen.drop count := by
  simp [leftSeen, takeLeft]

@[simp]
theorem rightSeen_takeLeft : (merging.takeLeft count).rightSeen = merging.rightSeen :=
  rfl

@[simp]
theorem doneSeen_takeRight
    : (merging.takeRight count).doneSeen = merging.doneSeen ++ merging.rightSeen.take count := by
  simp [doneSeen, rightSeen, takeRight]

@[simp]
theorem leftSeen_takeRight : (merging.takeRight count).leftSeen = merging.leftSeen :=
  rfl

@[simp]
theorem rightSeen_takeRight
    : (merging.takeRight count).rightSeen = merging.rightSeen.drop count := by
  simp [rightSeen, takeRight]

/-- Between the items at both ends, the merged items and each of the runs make a chain. The last
item of the left run may stand behind the last one of the right run. The items are those of the
merge.
-/
structure Sound (less : Less ε α) (before beyond items : List α) (merging : Merging α) : Prop where
  woven : Woven (merging.front.Rises less) before beyond merging.doneSeen merging.leftSeen
    merging.rightSeen
  ends : ∀ x ∈ merging.leftSeen.getLast?, ∀ y ∈ merging.rightSeen.getLast?, Rises less y x
  perm : (merging.doneSeen ++ (merging.leftSeen ++ merging.rightSeen)).Perm items

/-- The merged items make a chain between those at both ends, and are those of the merge. -/
structure Merged (less : Less ε α) (front : Front) (before beyond items : List α)
    (merged : Array α) : Prop where
  chain : List.IsChain (front.Rises less) (before ++ (front.view merged ++ beyond))
  perm : (front.view merged).Perm items

theorem getLast?_of_drop {l : List α} {k : Nat} {z : α} (h : z ∈ (l.drop k).getLast?)
    : z ∈ l.getLast? := by
  rw [List.getLast?_drop] at h
  split at h
  · simp at h
  · exact h

/-- Items of the left run may be taken if the last of them may stand before the right run. -/
theorem Sound.takeLeft (h : Sound less before beyond items merging)
    (hy : merging.rightSeen.head? = some y)
    (hs : ∀ x ∈ (merging.leftSeen.take count).getLast?, merging.front.Rises less x y)
    : Sound less before beyond items (merging.takeLeft count) := by
  obtain ⟨woven, ends, perm⟩ := h
  obtain ⟨rights, hrights⟩ := List.head?_eq_some_iff.mp hy
  refine ⟨?_, ?_, ?_⟩
  · rw [doneSeen_takeLeft, leftSeen_takeLeft, rightSeen_takeLeft, hrights]
    apply Woven.take _ hs
    rw [List.take_append_drop, ← hrights]
    exact woven
  · intro x hx y hy
    rw [leftSeen_takeLeft] at hx
    exact ends x (getLast?_of_drop hx) y hy
  · have hsame : merging.leftSeen.take count ++ (merging.leftSeen.drop count ++ merging.rightSeen) =
        merging.leftSeen ++ merging.rightSeen := by
      rw [← List.append_assoc, List.take_append_drop]
    rw [doneSeen_takeLeft, leftSeen_takeLeft, rightSeen_takeLeft, List.append_assoc, hsame]
    exact perm

/-- Items of the right run may be taken if the last of them may stand before the left run. -/
theorem Sound.takeRight (h : Sound less before beyond items merging)
    (hx : merging.leftSeen.head? = some x)
    (hs : ∀ y ∈ (merging.rightSeen.take count).getLast?, merging.front.Rises less y x)
    : Sound less before beyond items (merging.takeRight count) := by
  obtain ⟨woven, ends, perm⟩ := h
  obtain ⟨lefts, hlefts⟩ := List.head?_eq_some_iff.mp hx
  refine ⟨?_, ?_, ?_⟩
  · rw [doneSeen_takeRight, leftSeen_takeRight, rightSeen_takeRight, hlefts]
    apply Woven.symm
    apply Woven.take _ hs
    rw [List.take_append_drop, ← hlefts]
    exact woven.symm
  · intro x hx y hy
    rw [rightSeen_takeRight] at hy
    exact ends x hx y (getLast?_of_drop hy)
  · have hsame : (merging.rightSeen.take count
        ++ (merging.leftSeen ++ merging.rightSeen.drop count)).Perm
        (merging.leftSeen ++ merging.rightSeen) := by
      apply (List.perm_append_comm_assoc _ _ _).trans
      rw [List.take_append_drop]
    rw [doneSeen_takeRight, leftSeen_takeRight, rightSeen_takeRight, List.append_assoc]
    exact (hsame.append_left _).trans perm

/-- A merge that is not over has an item at the front of both runs. -/
theorem exists_of_over?_eq_none (h : merging.over? = none)
    : (∃ x, merging.leftSeen.head? = some x) ∧ ∃ y, merging.rightSeen.head? = some y := by
  have hhead : ∀ run : Array α, run ≠ #[] → ∃ x, (merging.front.view run).head? = some x := by
    intro run hrun
    rw [← Option.isSome_iff_exists, List.isSome_head?, ← List.length_pos_iff, Front.length_view]
    exact Array.size_pos_iff.mpr hrun
  rcases merging with ⟨front, left, right, done⟩
  cases front with
  | low =>
      simp only [over?] at h
      split_ifs at h with hright hone hleft
      exact ⟨hhead left (by simpa using hleft), hhead right (by simpa using hright)⟩
  | high =>
      simp only [over?] at h
      split_ifs at h with hleft hone hright
      exact ⟨hhead left (by simpa using hleft), hhead right (by simpa using hright)⟩

/-- With the right run used up, the left one follows the merged items. -/
theorem Sound.merged_left (h : Sound less before beyond items merging) {merged : Array α}
    (hr : merging.rightSeen = [])
    (hm : merging.front.view merged = merging.doneSeen ++ merging.leftSeen)
    : Merged less merging.front before beyond items merged := by
  obtain ⟨⟨first, -⟩, -, perm⟩ := h
  rw [hr, List.append_nil] at perm
  rw [← List.append_assoc merging.doneSeen] at first
  exact ⟨by rw [hm]; exact first, by rw [hm]; exact perm⟩

/-- With the left run used up, the right one follows the merged items. -/
theorem Sound.merged_right (h : Sound less before beyond items merging) {merged : Array α}
    (hl : merging.leftSeen = [])
    (hm : merging.front.view merged = merging.doneSeen ++ merging.rightSeen)
    : Merged less merging.front before beyond items merged := by
  obtain ⟨⟨-, second⟩, -, perm⟩ := h
  rw [hl, List.nil_append] at perm
  rw [← List.append_assoc merging.doneSeen] at second
  exact ⟨by rw [hm]; exact second, by rw [hm]; exact perm⟩

/-- A single item of the left run may follow the right one, if the low ends are merged. -/
theorem Sound.merged_last_left (h : Sound less before beyond items merging) {merged : Array α}
    (hfront : merging.front = .low) (hl : merging.leftSeen = [x]) (hr : merging.rightSeen ≠ [])
    (hm : merging.front.view merged = merging.doneSeen ++ (merging.rightSeen ++ [x]))
    : Merged less merging.front before beyond items merged := by
  obtain ⟨woven, ends, perm⟩ := h
  rw [hl] at woven ends perm
  refine ⟨?_, ?_⟩
  · rw [hm]
    apply woven.finish _ hr
    intro y hy
    rw [hfront]
    exact ends x rfl y hy
  · rw [hm]
    exact (List.perm_append_comm.append_left _).trans perm

/-- A single item of the right run may follow the left one, if the high ends are merged. -/
theorem Sound.merged_last_right (h : Sound less before beyond items merging) {merged : Array α}
    (hfront : merging.front = .high) (hr : merging.rightSeen = [y]) (hl : merging.leftSeen ≠ [])
    (hm : merging.front.view merged = merging.doneSeen ++ (merging.leftSeen ++ [y]))
    : Merged less merging.front before beyond items merged := by
  obtain ⟨woven, ends, perm⟩ := h
  rw [hr] at woven ends perm
  refine ⟨?_, ?_⟩
  · rw [hm]
    apply woven.symm.finish _ hl
    intro x hx
    rw [hfront]
    exact ends x hx y rfl
  · rw [hm]
    exact perm

/-- A merge that is over has left what makes a chain. -/
theorem Sound.merged (h : Sound less before beyond items merging) {merged : Array α}
    (ho : merging.over? = some merged)
    : Merged less merging.front before beyond items merged := by
  rcases merging with ⟨front, left, right, done⟩
  cases front with
  | low =>
      simp only [over?] at ho
      split_ifs at ho with hright hone hleft <;> obtain rfl := Option.some.inj ho
      · apply h.merged_left
        · simpa [rightSeen, Front.view] using hright
        · simp [doneSeen, leftSeen, Front.view]
      · obtain ⟨x, rfl⟩ := Array.size_eq_one_iff.mp hone
        apply h.merged_last_left rfl rfl
        · simpa [rightSeen, Front.view] using hright
        · simp [doneSeen, rightSeen, Front.view]
      · apply h.merged_right
        · simpa [leftSeen, Front.view] using hleft
        · simp [doneSeen, rightSeen, Front.view]
  | high =>
      simp only [over?] at ho
      split_ifs at ho with hleft hone hright <;> obtain rfl := Option.some.inj ho
      · apply h.merged_right
        · simpa [leftSeen, Front.view] using hleft
        · simp [doneSeen, rightSeen, Front.view]
      · obtain ⟨y, rfl⟩ := Array.size_eq_one_iff.mp hone
        apply h.merged_last_right rfl rfl
        · simpa [leftSeen, Front.view] using hleft
        · simp [doneSeen, leftSeen, Front.view]
      · apply h.merged_left
        · simpa [rightSeen, Front.view] using hright
        · simp [doneSeen, leftSeen, Front.view]

end Merging

end SqlShell.Sort
