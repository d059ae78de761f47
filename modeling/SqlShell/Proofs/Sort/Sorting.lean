import SqlShell.Proofs.Sort.Merging
import SqlShell.Sort.Runs

/-! Sorting yields all items, each of which may stand behind the one before it, and fails only as a
comparison of two of them does. Nothing is asked of the comparison: it may be no order at all.
-/

namespace SqlShell.Sort

variable {ε α : Type} {fails : ε → Prop} {less : Less ε α} {items : List α}

-----------------------------------------------------------------------------------------
-- Taking a run
-----------------------------------------------------------------------------------------

/-- The items that are counted stand to each other as they are to, by induction on the items. -/
theorem yields_runLength {down : Bool} {previous : α} (hc : Compares fails less (previous :: items))
    : Yields fails
        (fun count => count ≤ items.length
          ∧ List.IsChain (fun x y => less y x = .ok down) (previous :: items.take count))
        (runLength less down previous items) := by
  induction items generalizing previous with
  | nil => exact ⟨Nat.le_refl 0, .singleton previous⟩
  | cons item rest ih =>
      rw [runLength]
      apply (hc item (by simp) previous (by simp)).bind
      intro b hb _
      split
      · next hsame =>
          have hrest : Compares fails less (item :: rest) :=
            hc.mono fun x hx => List.mem_cons_of_mem previous hx
          apply (ih hrest).bind
          intro count _ hcount
          refine ⟨Nat.succ_le_succ hcount.1, ?_⟩
          rw [List.take_succ_cons, List.isChain_cons_cons]
          exact ⟨by rw [hb, beq_iff_eq.mp hsame], hcount.2⟩
      · exact ⟨Nat.zero_le _, .singleton previous⟩

/-- An item that is put in where a run is cut makes a longer run. -/
theorem isRun_insert {sorted : Array α} {item : α} {place : Nat}
    (hs : List.IsChain (Rises less) sorted.toList)
    (hcut : Cuts sorted (fun x => do return !(← less item x)) place)
    : IsRun less (sorted.toList ++ [item])
        (sorted.extract 0 place ++ #[item] ++ sorted.extract place sorted.size) := by
  have hitems : (sorted.extract 0 place ++ #[item] ++ sorted.extract place sorted.size).toList =
      sorted.toList.take place ++ (item :: sorted.toList.drop place) := by
    rw [Array.toList_append, Array.toList_append, toList_extract_size]
    simp
  constructor
  · rw [hitems]
    apply (hs.take place).append
    · rw [List.isChain_cons]
      exact ⟨fun y hy => Or.inr (eq_ok_of_not (hcut.refused y hy)), hs.drop place⟩
    · intro x hx y hy
      obtain rfl := Option.some.inj hy
      exact Or.inl (eq_ok_of_not (hcut.passed x hx))
  · rw [hitems]
    apply List.perm_middle.trans
    rw [List.take_append_drop]
    exact (List.perm_append_singleton item _).symm

/-- Items that are put in one after another make a longer run, by induction on these items. -/
theorem yields_insertItems {sorted : Array α} (hs : List.IsChain (Rises less) sorted.toList)
    (hc : Compares fails less (sorted.toList ++ items))
    : Yields fails (IsRun less (sorted.toList ++ items)) (insertItems less items sorted) := by
  induction items generalizing sorted with
  | nil => exact ⟨hs, by simp⟩
  | cons item rest ih =>
      have hp : ∀ x ∈ sorted, Answers fails (do return !(← less item x)) :=
        fun x hx => (hc item (by simp) x (by simp [hx])).map not
      have hsearch : Yields fails
          (Ceases (testAt sorted fun x => do return !(← less item x)) sorted.size)
          (halve (testAt sorted fun x => do return !(← less item x)) (sorted.size + 1) 0
            sorted.size) := by
        apply yields_halve (answers_testAt hp) (Nat.zero_le _) (Nat.le_refl _)
        · omega
        · intro h
          exact absurd h (Nat.lt_irrefl 0)
        · intro h
          exact absurd h (Nat.lt_irrefl _)
      rw [insertItems]
      apply hsearch.bind
      intro place _ hplace
      obtain ⟨hchain, hperm⟩ := isRun_insert hs hplace.cuts
      have hmore := hperm.append_right rest
      rw [List.append_assoc sorted.toList, List.singleton_append] at hmore
      apply (ih hchain (hc.mono fun x hx => hmore.subset hx)).mono
      intro run hrun
      exact ⟨hrun.chain, hrun.perm.trans hmore⟩

/-- A run has been taken from the start of the items, and is not empty if there are any. -/
structure Taken (less : Less ε α) (items : List α) (taken : Array α × List α) : Prop where
  chain : List.IsChain (Rises less) taken.1.toList
  perm : (taken.1.toList ++ taken.2).Perm items
  fewer : items ≠ [] → taken.2.length < items.length

/-- Items that fall one after another rise the other way round, and others rise as they stand. -/
theorem isChain_turned {run : List α} {down : Bool}
    (h : List.IsChain (fun x y => less y x = .ok down) run)
    : List.IsChain (Rises less) (if down then run.reverse else run) := by
  cases down with
  | true => exact List.isChain_reverse.mpr (h.imp fun _ _ hd => Or.inr hd)
  | false => exact h.imp fun _ _ hu => Or.inl hu

/-- The run at the start of the items is taken. -/
theorem yields_takeRun (hc : Compares fails less items) (least : Nat)
    : Yields fails (Taken less items) (takeRun less least items) := by
  rcases items with _ | ⟨first, _ | ⟨second, rest⟩⟩
  · exact ⟨.nil, .refl _, fun h => absurd rfl h⟩
  · exact ⟨.singleton first, .refl _, fun _ => Nat.one_pos⟩
  · rw [takeRun]
    apply (hc second (by simp) first (by simp)).bind
    intro down hdown _
    have hrest : Compares fails less (second :: rest) :=
      hc.mono fun x hx => List.mem_cons_of_mem first hx
    apply (yields_runLength hrest).bind
    intro count _ hcount
    dsimp only
    generalize hitems : first :: second :: rest = items at hc ⊢
    have hrun : List.IsChain (fun x y => less y x = .ok down) (items.take (count + 2)) := by
      rw [← hitems, List.take_succ_cons, List.take_succ_cons, List.isChain_cons_cons]
      exact ⟨hdown, hcount.2⟩
    rw [List.splitAt_eq]
    dsimp only
    have hchain := isChain_turned hrun
    have hperm : (if down then (items.take (count + 2)).reverse else items.take (count + 2)).Perm
        (items.take (count + 2)) := by
      split
      · exact List.reverse_perm _
      · exact .refl _
    generalize (if down then (items.take (count + 2)).reverse else items.take (count + 2)) = run
      at hchain hperm
    generalize hm : (items.drop (count + 2)).take (least - (count + 2)) = more
    generalize ha : (items.drop (count + 2)).drop (least - (count + 2)) = after
    have hall : (run ++ more ++ after).Perm items := by
      rw [List.append_assoc, ← hm, ← ha, List.take_append_drop]
      apply (hperm.append_right _).trans
      rw [List.take_append_drop]
    have hboth : Compares fails less (run.toArray.toList ++ more) :=
      hc.mono fun x hx => hall.subset (List.mem_append_left after hx)
    apply (yields_insertItems hchain hboth).bind
    intro sorted _ hsorted
    refine ⟨hsorted.chain, (hsorted.perm.append_right after).trans hall, fun _ => ?_⟩
    show after.length < items.length
    rw [← ha, ← hitems]
    simp only [List.length_drop, List.length_cons]
    omega

-----------------------------------------------------------------------------------------
-- The runs so far
-----------------------------------------------------------------------------------------

namespace Runs

variable {stack rest : List (Run α)} {all : List α}

/-- The items of runs. -/
def itemsOf (stack : List (Run α)) : List α :=
  stack.flatMap fun run => run.items.toList

/-- All runs rise, and together they have the items. -/
structure Holds (less : Less ε α) (items : List α) (stack : List (Run α)) : Prop where
  chains : ∀ run ∈ stack, List.IsChain (Rises less) run.items.toList
  perm : (itemsOf stack).Perm items

/-- Two neighbouring runs, the later one first, may be replaced by the run that they become. -/
theorem Holds.join {first : List (Run α)} {left right run : Run α}
    (h : Holds less items (first ++ right :: left :: rest))
    (hrun : IsRun less (left.items.toList ++ right.items.toList) run.items)
    : Holds less items (first ++ run :: rest) := by
  obtain ⟨chains, perm⟩ := h
  constructor
  · intro other ho
    rcases List.mem_append.mp ho with hf | ho
    · exact chains other (List.mem_append_left _ hf)
    · rcases List.mem_cons.mp ho with rfl | hr
      · exact hrun.chain
      · exact chains other (by simp [hr])
  · apply List.Perm.trans _ perm
    simp only [itemsOf, List.flatMap_append, List.flatMap_cons]
    apply List.Perm.append_left
    rw [← List.append_assoc]
    exact (hrun.perm.trans List.perm_append_comm).append_right _

/-- Joining two of the runs yields the run that they become. -/
theorem yields_join (first : List (Run α)) {left right : Run α} (hc : Compares fails less items)
    (h : Holds less items (first ++ right :: left :: rest)) (patience : Nat)
    : Yields fails (fun result => Holds less items (first ++ result.1 :: rest))
        (join less patience left right) := by
  have hboth : Compares fails less (left.items.toList ++ right.items.toList) := by
    apply hc.mono
    intro x hx
    apply h.perm.subset
    rcases List.mem_append.mp hx with hx | hx <;> simp [itemsOf, hx]
  have hl := h.chains left (by simp)
  have hr := h.chains right (by simp)
  apply (yields_merge hboth hl hr patience).bind
  intro result _ hrun
  exact h.join hrun

/-- Merging the last runs keeps the items, by induction on the steps that are left. -/
theorem yields_collapse (hc : Compares fails less items) (depth fuel : Nat) {runs : Runs α}
    (h : Holds less items runs.stack)
    : Yields fails (fun runs => Holds less items runs.stack) (collapse less depth fuel runs) := by
  induction fuel generalizing runs with
  | zero => exact h
  | succ fuel ih =>
      rw [collapse]
      split
      · next right left rest hs =>
          rw [hs] at h
          split
          · apply (yields_join [] hc h runs.patience).bind
            intro result _ hr
            exact ih hr
          · show Holds less items runs.stack
            rw [hs]
            exact h
      · exact h

/-- One more run stands before the ones so far. -/
theorem Holds.cons (h : Holds less items stack) (run : Run α)
    (hrun : List.IsChain (Rises less) run.items.toList)
    : Holds less (run.items.toList ++ items) (run :: stack) := by
  obtain ⟨chains, perm⟩ := h
  constructor
  · intro other ho
    rcases List.mem_cons.mp ho with rfl | hs
    · exact hrun
    · exact chains other hs
  · rw [itemsOf, List.flatMap_cons]
    exact perm.append_left _

/-- The depth of a run does not matter to what the runs hold. -/
theorem Holds.withDepth {last : Run α} (h : Holds less items (last :: rest)) (depth : Nat)
    : Holds less items ({ last with depth } :: rest) := by
  obtain ⟨chains, perm⟩ := h
  constructor
  · intro other ho
    rcases List.mem_cons.mp ho with rfl | hs
    · exact chains last List.mem_cons_self
    · exact chains other (List.mem_cons_of_mem last hs)
  · exact perm

/-- Another run joins the ones so far. -/
theorem yields_push (hc : Compares fails less items) (size start : Nat) {run : Array α}
    {runs : Runs α} (hrun : List.IsChain (Rises less) run.toList) (h : Holds less items runs.stack)
    : Yields fails (fun runs => Holds less (run.toList ++ items) runs.stack)
        (push less size start run runs) := by
  rw [push]
  split
  · next hs =>
      rw [hs] at h
      exact h.cons { start, items := run } hrun
  · next last rest hs =>
      apply (yields_collapse hc _ _ h).bind
      intro collapsed _ hcollapsed
      split
      · next last rest hs =>
          rw [hs] at hcollapsed
          exact (hcollapsed.withDepth _).cons { start, items := run } hrun
      · next hs =>
          rw [hs] at hcollapsed
          exact hcollapsed.cons { start, items := run } hrun

/-- A single run has all items. -/
theorem Holds.isRun {last : Run α} (h : Holds less items [last]) : IsRun less items last.items := by
  have hall : itemsOf [last] = last.items.toList := List.append_nil _
  exact ⟨h.chains last List.mem_cons_self, hall ▸ h.perm⟩

/-- Without runs there are no items. -/
theorem Holds.isRun_nil (h : Holds less items []) : IsRun less items #[] :=
  ⟨.nil, h.perm⟩

/-- Merging all runs yields one run of their items, by induction on the steps that are left, of
which there are enough for a single run to be left.
-/
theorem yields_mergeAll (hc : Compares fails less items) {fuel : Nat} {runs : Runs α}
    (h : Holds less items runs.stack) (hfuel : runs.stack.length ≤ fuel + 1)
    : Yields fails (IsRun less items) (mergeAll less fuel runs) := by
  induction fuel generalizing runs with
  | zero =>
      rw [mergeAll]
      rcases hs : runs.stack with _ | ⟨last, _ | ⟨second, rest⟩⟩ <;> rw [hs] at h hfuel
      · exact h.isRun_nil
      · exact h.isRun
      · simp at hfuel
  | succ fuel ih =>
      rw [mergeAll]
      split
      · next last second third rest hs =>
          rw [hs] at h hfuel
          split
          · apply (yields_join [last] hc h runs.patience).bind
            intro result _ hr
            exact ih hr (by simpa using hfuel)
          · apply (yields_join [] hc h runs.patience).bind
            intro result _ hr
            exact ih hr (by simpa using hfuel)
      · next last second hs =>
          rw [hs] at h
          apply (yields_join [] hc h runs.patience).bind
          intro result _ hr
          exact hr.isRun
      · next last hs =>
          rw [hs] at h
          exact h.isRun
      · next hs =>
          rw [hs] at h
          exact h.isRun_nil

/-- Taking in all runs of the items that are left keeps these with the ones so far. By induction on
the steps that are left, of which there are enough for all items.
-/
theorem yields_gather {all left : List α} (hc : Compares fails less all) (size : Nat)
    {fuel start : Nat} {runs : Runs α} (h : Holds less items runs.stack)
    (hall : (left ++ items).Perm all) (hfuel : left.length ≤ fuel)
    : Yields fails (fun runs => Holds less all runs.stack)
        (gather less size fuel start left runs) := by
  induction fuel generalizing start left items runs with
  | zero =>
      obtain rfl : left = [] := List.eq_nil_of_length_eq_zero (Nat.le_zero.mp hfuel)
      exact ⟨h.chains, h.perm.trans hall⟩
  | succ fuel ih =>
      cases left with
      | nil => exact ⟨h.chains, h.perm.trans hall⟩
      | cons item rest =>
          have hleft : Compares fails less (item :: rest) :=
            hc.mono fun x hx => hall.subset (List.mem_append_left _ hx)
          have hitems : Compares fails less items :=
            hc.mono fun x hx => hall.subset (List.mem_append_right _ hx)
          rw [gather]
          · apply (yields_takeRun hleft (leastRun size)).bind
            rintro ⟨run, after⟩ _ htaken
            have hfewer : after.length < (item :: rest).length := htaken.fewer (by simp)
            apply (yields_push hitems size start htaken.chain h).bind
            intro pushed _ hpushed
            apply ih hpushed
            · apply List.Perm.trans _ hall
              rw [← List.append_assoc]
              exact (List.perm_append_comm.trans htaken.perm).append_right items
            · omega
          · simp

end Runs

/-- Sorting yields all items in an order in which each of them may stand behind the one before it,
or it fails as the comparison of two of them does.
-/
theorem yields_sorted (less : Less ε α) (items : List α)
    : Yields (fun problem => ∃ x ∈ items, ∃ y ∈ items, less x y = .error problem)
        (fun result => List.IsChain (Rises less) result ∧ result.Perm items)
        (sorted less items) := by
  have hc : Compares (fun problem => ∃ x ∈ items, ∃ y ∈ items, less x y = .error problem) less
      items := by
    intro x hx y hy
    cases he : less x y with
    | ok answer => exact trivial
    | error problem => exact ⟨x, hx, y, hy, he⟩
  have hempty : Runs.Holds less [] ({} : Runs α).stack := ⟨by simp, .refl _⟩
  rw [sorted]
  apply (Runs.yields_gather hc items.length hempty (by simp) (Nat.le_refl _)).bind
  intro runs _ hruns
  apply (Runs.yields_mergeAll hc hruns (Nat.le_succ _)).bind
  intro run _ hrun
  exact ⟨hrun.chain, hrun.perm⟩

end SqlShell.Sort
