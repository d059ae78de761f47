import SqlShell.Proofs.Sort.MergeSteps

/-! Merging two rising runs yields a rising run of the items of both. The items that stand outside
of where the runs overlap stay where they are.
-/

namespace SqlShell.Sort

variable {ε α : Type} {fails : ε → Prop} {less : Less ε α}

-----------------------------------------------------------------------------------------
-- The items outside of the overlap
-----------------------------------------------------------------------------------------

namespace Front

/-- Of the items below and above, those at the front. -/
def near (front : Front) (below above : List α) : List α :=
  match front with
  | .low => below
  | .high => above.reverse

/-- Of the items below and above, those at the other end. -/
def far (front : Front) (below above : List α) : List α :=
  match front with
  | .low => above
  | .high => below.reverse

/-- A chain is one from both ends. -/
theorem isChain_view_iff (front : Front) (below above : List α) (items : Array α)
    : List.IsChain (front.Rises less)
        (front.near below above ++ (front.view items ++ front.far below above))
      ↔ List.IsChain (Sort.Rises less) (below ++ (items.toList ++ above)) := by
  cases front with
  | low => exact Iff.rfl
  | high =>
      have hreverse : above.reverse ++ (items.toList.reverse ++ below.reverse) =
          (below ++ (items.toList ++ above)).reverse := by
        simp
      show List.IsChain (fun x y => Sort.Rises less y x)
          (above.reverse ++ (items.toList.reverse ++ below.reverse)) ↔ _
      rw [hreverse, List.isChain_reverse]

end Front

/-- Two runs overlap between items below and above: the right one starts before the left one, and
ends before it.
-/
structure Overlaps (less : Less ε α) (below above : List α) (lower upper : Array α) : Prop where
  lower_chain : List.IsChain (Rises less) (below ++ (lower.toList ++ above))
  upper_chain : List.IsChain (Rises less) (below ++ (upper.toList ++ above))
  starts : ∀ x ∈ lower.toList.head?, ∀ y ∈ upper.toList.head?, Rises less y x
  ends : ∀ x ∈ lower.toList.getLast?, ∀ y ∈ upper.toList.getLast?, Rises less y x

namespace Overlaps

variable {below above : List α} {lower upper : Array α} {first last x y : α} {fuel : Nat}

/-- Nothing has been merged of runs that overlap. -/
theorem sound (h : Overlaps less below above lower upper) (front : Front)
    : Merging.Sound less (front.near below above) (front.far below above)
        (lower.toList ++ upper.toList) { front, left := lower, right := upper } := by
  obtain ⟨hlower, hupper, hstarts, hends⟩ := h
  have hnone : ({ front, left := lower, right := upper } : Merging α).doneSeen = [] :=
    front.view_append_nil
  refine ⟨⟨?_, ?_⟩, ?_, ?_⟩
  · rw [hnone]
    exact (front.isChain_view_iff below above lower).mpr hlower
  · rw [hnone]
    exact (front.isChain_view_iff below above upper).mpr hupper
  · intro x hx y hy
    cases front with
    | low => exact hends x hx y hy
    | high =>
        apply hstarts x _ y _
        · simpa [Merging.leftSeen, Front.view] using hx
        · simpa [Merging.rightSeen, Front.view] using hy
  · rw [hnone]
    exact (front.view_perm lower).append (front.view_perm upper)

/-- The merge from either end begins with the item there that the overlap tells. -/
def begun (lower upper : Array α) : Merging α :=
  if lower.size ≤ upper.size then
    Merging.takeRight { front := .low, left := lower, right := upper } 1
  else
    Merging.takeLeft { front := .high, left := lower, right := upper } 1

theorem remaining_begun_le (lower upper : Array α)
    : (begun lower upper).remaining ≤ lower.size + upper.size := by
  have hstart : ∀ front, ({ front, left := lower, right := upper } : Merging α).remaining =
      lower.size + upper.size := by
    simp [Merging.remaining, Merging.leftSeen, Merging.rightSeen]
  rw [begun]
  split
  · exact (Merging.remaining_takeRight_le _ 1).trans (hstart .low).le
  · exact (Merging.remaining_takeLeft_le _ 1).trans (hstart .high).le

theorem sound_begun (h : Overlaps less below above lower upper) (hl : lower ≠ #[])
    (hu : upper ≠ #[])
    : Merging.Sound less ((begun lower upper).front.near below above)
        ((begun lower upper).front.far below above) (lower.toList ++ upper.toList)
        (begun lower upper) := by
  rw [begun]
  split
  · obtain ⟨x, hx⟩ := Option.isSome_iff_exists.mp (show lower.toList.head?.isSome by simpa using hl)
    obtain ⟨y, hy⟩ := Option.isSome_iff_exists.mp (show upper.toList.head?.isSome by simpa using hu)
    exact (h.sound .low).takeRight_one hx hy (h.starts x hx y hy)
  · obtain ⟨x, hx⟩ :=
      Option.isSome_iff_exists.mp (show lower.toList.getLast?.isSome by simpa using hl)
    obtain ⟨y, hy⟩ :=
      Option.isSome_iff_exists.mp (show upper.toList.getLast?.isSome by simpa using hu)
    apply (h.sound .high).takeLeft_one _ _ (h.ends x hx y hy)
    · simpa [Merging.leftSeen, Front.view] using hx
    · simpa [Merging.rightSeen, Front.view] using hy

/-- Items that have been merged make a chain with those below and above. -/
structure Fits (less : Less ε α) (below above items : List α) (merged : Array α) : Prop where
  chain : List.IsChain (Rises less) (below ++ (merged.toList ++ above))
  perm : merged.toList.Perm items

theorem fits_of_merged {front : Front} {items : List α} {merged : Array α}
    (h : Merging.Merged less front (front.near below above) (front.far below above) items merged)
    : Fits less below above items merged :=
  ⟨(front.isChain_view_iff below above merged).mp h.chain,
    (front.view_perm merged).symm.trans h.perm⟩

/-- The merge of runs that overlap is over when it begins, or yields what fits in afterwards. -/
theorem fits_or_yields (h : Overlaps less below above lower upper) (hl : lower ≠ #[])
    (hu : upper ≠ #[]) (hc : Compares fails less (lower.toList ++ upper.toList))
    (hfuel : lower.size + upper.size ≤ fuel) (patience : Nat)
    : (∃ merged, (begun lower upper).over? = some merged
        ∧ Fits less below above (lower.toList ++ upper.toList) merged)
      ∨ (begun lower upper).over? = none
        ∧ Yields fails (fun result => Fits less below above (lower.toList ++ upper.toList) result.1)
            (mergeItems less fuel patience 0 0 (begun lower upper)) := by
  have hsound := h.sound_begun hl hu
  have henough := (remaining_begun_le lower upper).trans hfuel
  rcases hsound.merged_or_going with ⟨merged, ho, hm⟩ | ho
  · exact Or.inl ⟨merged, ho, fits_of_merged hm⟩
  · have hgoes := (Merging.goesOn hc fuel).by_items patience 0 0 _ ⟨hsound, ho, henough⟩
    exact Or.inr ⟨ho, hgoes.mono fun _ => fits_of_merged⟩

end Overlaps

-----------------------------------------------------------------------------------------
-- Runs
-----------------------------------------------------------------------------------------

/-- The run rises and has the items. -/
structure IsRun (less : Less ε α) (items : List α) (run : Array α) : Prop where
  chain : List.IsChain (Rises less) run.toList
  perm : run.toList.Perm items

variable {left right : Array α} {start stop : Nat} {first last : α}

/-- Between the places to which the ends of each run belong in the other one the runs overlap. -/
theorem overlaps_of_cuts (hl : List.IsChain (Rises less) left.toList)
    (hr : List.IsChain (Rises less) right.toList) (hfirst : right.toList.head? = some first)
    (hlast : left.toList.getLast? = some last)
    (hstart : Cuts left (fun x => do return !(← less first x)) start)
    (hstop : Cuts right (fun y => less y last) stop)
    : Overlaps less (left.toList.take start) (right.toList.drop stop)
        (left.extract start left.size) (right.extract 0 stop) := by
  have hlower := toList_extract_size left start
  have hupper : (right.extract 0 stop).toList = right.toList.take stop := by simp
  refine ⟨?_, ?_, ?_, ?_⟩
  · rw [hlower, ← List.append_assoc, List.take_append_drop]
    apply hl.append (hr.drop stop)
    intro x hx y hy
    obtain rfl := Option.some.inj (hlast.symm.trans hx)
    exact Or.inl (hstop.refused y hy)
  · rw [hupper, List.take_append_drop]
    apply (hl.take start).append hr
    intro x hx y hy
    obtain rfl := Option.some.inj (hfirst.symm.trans hy)
    exact Or.inl (eq_ok_of_not (hstart.passed x hx))
  · rw [hlower, hupper]
    intro x hx y hy
    rw [List.head?_take] at hy
    split at hy
    · simp at hy
    · obtain rfl := Option.some.inj (hfirst.symm.trans hy)
      exact Or.inr (eq_ok_of_not (hstart.refused x hx))
  · rw [hlower, hupper]
    intro x hx y hy
    obtain rfl := Option.some.inj (hlast.symm.trans (Merging.getLast?_of_drop hx))
    exact Or.inr (hstop.passed y hy)

/-- Two runs one after the other are a run if the last item of the first may stand before the
second.
-/
theorem IsRun.append (hl : List.IsChain (Rises less) left.toList)
    (hr : List.IsChain (Rises less) right.toList)
    (hfirst : right.toList.head? = some first) (hlast : left.toList.getLast? = some last)
    (h : less first last = .ok false)
    : IsRun less (left.toList ++ right.toList) (left ++ right) := by
  refine ⟨?_, by simp⟩
  rw [Array.toList_append]
  apply hl.append hr
  intro x hx y hy
  obtain rfl := Option.some.inj (hlast.symm.trans hx)
  obtain rfl := Option.some.inj (hfirst.symm.trans hy)
  exact Or.inl h

/-- What is merged where the runs overlap, with the items outside of it, is a run of the items. -/
theorem Overlaps.Fits.isRun {merged : Array α}
    (h : Fits less (left.toList.take start) (right.toList.drop stop)
      ((left.extract start left.size).toList ++ (right.extract 0 stop).toList) merged)
    : IsRun less (left.toList ++ right.toList)
        (left.extract 0 start ++ merged ++ right.extract stop right.size) := by
  obtain ⟨chain, perm⟩ := h
  have hbelow : (left.extract 0 start).toList = left.toList.take start := by simp
  have hupper : (right.extract 0 stop).toList = right.toList.take stop := by simp
  rw [toList_extract_size, hupper] at perm
  constructor
  · rw [Array.toList_append, Array.toList_append, hbelow, toList_extract_size, List.append_assoc]
    exact chain
  · have hall : (left.toList.take start ++ (left.toList.drop start ++ right.toList.take stop))
        ++ right.toList.drop stop = left.toList ++ right.toList := by
      rw [← List.append_assoc, List.take_append_drop, List.append_assoc, List.take_append_drop]
    rw [Array.toList_append, Array.toList_append, hbelow, toList_extract_size, ← hall]
    exact (perm.append_left _).append_right _

theorem extract_ne_empty {p : α → Except ε Bool} (h : Cuts left p start) (hne : start ≠ left.size)
    : left.extract start left.size ≠ #[] := by
  have hle := h.le
  rw [← Array.size_pos_iff, Array.size_extract]
  omega

theorem extract_zero_ne_empty {p : α → Except ε Bool} (h : Cuts right p stop) (hne : stop ≠ 0)
    : right.extract 0 stop ≠ #[] := by
  have hle := h.le
  rw [← Array.size_pos_iff, Array.size_extract]
  omega

theorem size_within_le (start stop : Nat)
    : (left.extract start left.size).size + (right.extract 0 stop).size ≤
        left.size + right.size := by
  rw [Array.size_extract, Array.size_extract]
  omega

theorem Compares.within (hc : Compares fails less (left.toList ++ right.toList)) (start stop : Nat)
    : Compares fails less
        ((left.extract start left.size).toList ++ (right.extract 0 stop).toList) := by
  apply hc.mono
  intro x hx
  rw [toList_extract_size, Array.toList_extract, List.extract_eq_take_drop] at hx
  rcases List.mem_append.mp hx with hx | hx
  · exact List.mem_append_left _ (List.mem_of_mem_drop hx)
  · exact List.mem_append_right _ (List.mem_of_mem_take hx)

/-- Merging runs that are not empty yields a run of the items of both. -/
theorem yields_merge_of_ends (hc : Compares fails less (left.toList ++ right.toList))
    (hl : List.IsChain (Rises less) left.toList) (hr : List.IsChain (Rises less) right.toList)
    (hfirst : right[0]? = some first) (hlast : left.back? = some last) (patience : Nat)
    : Yields fails (fun result => IsRun less (left.toList ++ right.toList) result.1)
        (merge less patience left right) := by
  have hmf : first ∈ right := Array.mem_of_getElem? hfirst
  have hml : last ∈ left := Array.mem_of_back? hlast
  have hpl : ∀ x ∈ left, Answers fails (do return !(← less first x)) :=
    fun x hx => (hc first (by simp [hmf]) x (by simp [hx])).map not
  have hpr : ∀ y ∈ right, Answers fails (less y last) :=
    fun y hy => hc y (by simp [hy]) last (by simp [hml])
  have hleft : 0 < left.size := Array.size_pos_of_mem hml
  have hright : 0 < right.size := Array.size_pos_of_mem hmf
  have hhead : right.toList.head? = some first := by simpa [List.head?_eq_getElem?] using hfirst
  have hend : left.toList.getLast? = some last := by simpa using hlast
  rw [merge, hfirst, hlast]
  apply (yields_gallop_testAt hpl hleft).bind
  intro start _ hstart
  dsimp only
  split
  · next hall =>
      subst hall
      have hpassed := hstart.passed last (by rwa [← Array.length_toList, List.take_length])
      exact IsRun.append hl hr hhead hend (eq_ok_of_not hpassed)
  · next hsome =>
      apply (yields_gallop_testAt hpr (Nat.sub_lt hright Nat.one_pos)).bind
      intro stop _ hstop
      split
      · next hzero =>
          have hrefused := hstop.refused first (by rwa [hzero, List.drop_zero])
          exact IsRun.append hl hr hhead hend hrefused
      · next hmore =>
          have hover := overlaps_of_cuts hl hr hhead hend hstart hstop
          rcases hover.fits_or_yields (extract_ne_empty hstart hsome)
            (extract_zero_ne_empty hstop hmore) (hc.within start stop) (size_within_le start stop)
            patience with ⟨merged, ho, hfits⟩ | ⟨ho, hyields⟩
          · rw [Overlaps.begun] at ho
            rw [ho]
            exact hfits.isRun
          · rw [Overlaps.begun] at ho hyields
            rw [ho]
            apply hyields.bind
            intro result _ hfits
            exact hfits.isRun

/-- Merging yields a run of the items of both runs. -/
theorem yields_merge (hc : Compares fails less (left.toList ++ right.toList))
    (hl : List.IsChain (Rises less) left.toList) (hr : List.IsChain (Rises less) right.toList)
    (patience : Nat)
    : Yields fails (fun result => IsRun less (left.toList ++ right.toList) result.1)
        (merge less patience left right) := by
  cases hfirst : right[0]? with
  | none =>
      have hnone : right = #[] := by simpa using hfirst
      rw [merge, hfirst, hnone]
      exact ⟨hl, by simp⟩
  | some first =>
      cases hlast : left.back? with
      | none =>
          have hnone : left = #[] := by simpa using hlast
          subst hnone
          have hempty : gallop (testAt (#[] : Array α) fun x => do return !(← less first x)) 0 0 =
              .ok 0 :=
            gallop_empty rfl
          rw [merge, hfirst]
          show Yields fails _
            (gallop (testAt (#[] : Array α) fun x => do return !(← less first x)) 0 0 >>= fun _ =>
              pure (right, patience))
          rw [hempty]
          exact ⟨hr, .refl _⟩
      | some last => exact yields_merge_of_ends hc hl hr hfirst hlast patience

end SqlShell.Sort
