import SqlShell.Proofs.Sort.Sorting
import SqlShell.Proofs.Value.KeyOrder

/-! Which entries can be sorted by their keys: those whose keys are all of one kind, and a single
one whatever its key is.
-/

namespace SqlShell.Entries

/-- There is at most one key, or all keys are of one kind. -/
def AreComparable (entries : Entries) : Prop :=
  entries.length ≤ 1 ∨ ∃ kind, ∀ entry ∈ entries, entry.1.kind? = some kind

/-- The key of one entry does not precede that of another. -/
def Follows (x y : Value × Value) : Prop :=
  y.1.precedes x.1 = .ok false

/-- All entries in the order of their keys: no key precedes the one before it, and none any key
before it if all keys that are numbers have a place in the order.
-/
structure IsListing (entries listed : Entries) : Prop where
  perm : listed.Perm entries
  chain : listed.IsChain Follows
  pairwise : (∀ entry ∈ entries, entry.1.isNaN = false) → listed.Pairwise Follows

/-- The keys of both entries are of one kind. -/
def Alike (x y : Value × Value) : Prop :=
  ∃ kind, x.1.kind? = some kind ∧ y.1.kind? = some kind

instance : Trans Alike Alike Alike where
  trans := by
    rintro x y z ⟨kind, hx, hy⟩ ⟨other, hy', hz⟩
    obtain rfl := Option.some.inj (hy.symm.trans hy')
    exact ⟨kind, hx, hz⟩

/-- An entry whose key follows another one that has a place in the order. -/
def FollowsPlaced (x y : Value × Value) : Prop :=
  Follows x y ∧ y.1.rank?.isSome = true

instance : Trans FollowsPlaced FollowsPlaced FollowsPlaced where
  trans := fun hxy hyz => ⟨Value.precedes_false_trans hxy.2 hxy.1 hyz.1, hyz.2⟩

theorem follows_of_rises {x y : Value × Value}
    (h : Sort.Rises (fun x y => x.1.precedes y.1) x y)
    : Follows x y := by
  rcases h with h | h
  · exact h
  · exact Value.precedes_asymm h

/-- The keys of entries of which each follows the one before it are of one kind. -/
theorem areComparable_of_chain {listed : Entries} (h : listed.IsChain Follows)
    : listed.AreComparable := by
  rcases listed with _ | ⟨first, _ | ⟨second, rest⟩⟩
  · exact Or.inl (Nat.zero_le 1)
  · exact Or.inl (Nat.le_refl 1)
  · have halike : (first :: second :: rest).IsChain Alike := by
      apply h.imp
      intro x y hxy
      obtain ⟨kind, hy, hx⟩ := Value.kind_of_precedes hxy
      exact ⟨kind, hx, hy⟩
    obtain ⟨hfirst, -⟩ := List.pairwise_cons.mp (List.isChain_iff_pairwise.mp halike)
    obtain ⟨kind, hk, -⟩ := hfirst second List.mem_cons_self
    refine Or.inr ⟨kind, ?_⟩
    intro entry he
    rcases List.mem_cons.mp he with rfl | hr
    · exact hk
    · obtain ⟨other, hk', ho⟩ := hfirst entry hr
      obtain rfl := Option.some.inj (hk.symm.trans hk')
      exact ho

theorem AreComparable.of_perm {entries listed : Entries} (h : listed.AreComparable)
    (hp : listed.Perm entries)
    : entries.AreComparable := by
  rcases h with hone | ⟨kind, hk⟩
  · exact Or.inl (hp.length_eq ▸ hone)
  · exact Or.inr ⟨kind, fun entry he => hk entry (hp.symm.subset he)⟩

/-- Entries that follow each other are in order if their keys have places in the order. -/
theorem pairwise_of_chain {listed : Entries} (h : listed.IsChain Follows)
    (hn : ∀ entry ∈ listed, entry.1.isNaN = false)
    : listed.Pairwise Follows := by
  rcases areComparable_of_chain h with hone | ⟨kind, hk⟩
  · rcases listed with _ | ⟨first, _ | ⟨second, rest⟩⟩
    · exact .nil
    · exact List.pairwise_singleton _ _
    · simp at hone
  · have hplaced : listed.IsChain FollowsPlaced := by
      apply h.imp_of_mem_imp
      intro x y hx hy hxy
      exact ⟨hxy, Value.isSome_rank?_of_kind (hk y hy) (hn y hy)⟩
    exact (List.isChain_iff_pairwise.mp hplaced).imp fun hxy => hxy.1

/-- Sorting entries lists all of them in the order of their keys, just if these can be compared. -/
theorem sorted_cases (entries : Entries)
    : entries.AreComparable ∧ (∃ listed, entries.sorted = .ok listed ∧ entries.IsListing listed)
      ∨ ¬ entries.AreComparable ∧ ∃ problem, entries.sorted = .error problem := by
  have hyields := Sort.yields_sorted (fun x y : Value × Value => x.1.precedes y.1) entries
  rw [← sorted] at hyields
  cases hs : entries.sorted with
  | ok listed =>
      rw [hs] at hyields
      obtain ⟨hrises, hperm⟩ := hyields
      have hchain : listed.IsChain Follows := hrises.imp fun _ _ => follows_of_rises
      refine Or.inl ⟨(areComparable_of_chain hchain).of_perm hperm, listed, rfl, hperm, hchain, ?_⟩
      intro hn
      exact pairwise_of_chain hchain fun entry he => hn entry (hperm.subset he)
  | error problem =>
      rw [hs] at hyields
      obtain ⟨x, hx, y, hy, he⟩ := hyields
      refine Or.inr ⟨?_, problem, rfl⟩
      rintro (hone | ⟨kind, hk⟩)
      · rcases entries with _ | ⟨entry, _ | ⟨second, rest⟩⟩
        · cases hx
        · have hsingle : Entries.sorted [entry] = .ok [entry] := rfl
          cases hsingle.symm.trans hs
        · simp at hone
      · obtain ⟨b, hb, -⟩ := Value.precedes_of_kind (hk x hx) (hk y hy)
        cases hb.symm.trans he

end SqlShell.Entries
