import SqlShell.Proofs.Value.EntryLayers
import SqlShell.Yaml.Load

/-! The keys of a map in a document differ from each other, also where mappings take over the entries
of others. Every step of loading keeps this of the maps that are filled, since entries are only put
under keys.
-/

namespace SqlShell.Yaml

/-- No key comes twice among the keys. -/
def DifferByKey {α : Type} (entries : List (Value × α)) : Prop :=
  entries.Pairwise fun first second => first.1.sameKey second.1 = false

/-- No key comes twice, if the part is a map. -/
def Part.KeysDiffer : Part → Prop
  | .map entries => DifferByKey entries
  | _ => True

/-- No key comes twice in any of the maps that are filled. -/
def Loading.KeysDiffer (loading : Loading) : Prop :=
  ∀ (number : Nat) (part : Part), loading.parts[number]? = some (some part) → part.KeysDiffer

namespace Loading

variable {loading after : Loading}

theorem KeysDiffer.of_parts (h : loading.KeysDiffer) (hp : after.parts = loading.parts)
    : after.KeysDiffer := by
  intro number part he
  exact h number part (hp ▸ he)

theorem KeysDiffer.setPart (h : loading.KeysDiffer) (number : Nat) {part : Part}
    (hp : part.KeysDiffer)
    : (loading.setPart number part).KeysDiffer := by
  intro other found he
  rw [Loading.setPart, Array.getElem?_setIfInBounds] at he
  split at he
  · split at he
    · obtain rfl := Option.some.inj (Option.some.inj he)
      exact hp
    · exact nomatch he
  · exact h other found he

theorem KeysDiffer.setEntries (h : loading.KeysDiffer) (number : Nat) (entries : List (Nat × Nat))
    : (loading.setEntries number entries).KeysDiffer :=
  h

theorem parts_keepKey (loading : Loading) (key : Nat)
    : (loading.keepKey key).parts = loading.parts := by
  rw [keepKey]
  split <;> rfl

theorem parts_foldl_keepKey (entries : List (Nat × Nat)) (loading : Loading)
    : (entries.foldl (fun loading entry => loading.keepKey entry.1) loading).parts =
        loading.parts := by
  induction entries generalizing loading with
  | nil => rfl
  | cons entry rest ih => exact (ih _).trans (parts_keepKey loading entry.1)

end Loading

namespace Load

variable {α β : Type}

/-- Where the step succeeds, its value has the property, and no key has come twice in any map. -/
def Gives (P : α → Prop) (act : Load α) : Prop :=
  ∀ loading, loading.KeysDiffer → ∀ value after, act.run loading = .ok (value, after) →
    after.KeysDiffer ∧ P value

/-- Where the step succeeds, no key has come twice in any map. -/
abbrev Keeps (act : Load α) : Prop :=
  Gives (fun _ => True) act

-----------------------------------------------------------------------------------------
-- How steps are put together
-----------------------------------------------------------------------------------------

variable {P : α → Prop} {Q : β → Prop}

theorem Gives.pure {value : α} (h : P value) : Gives P (pure value : Load α) := by
  intro loading hl found after he
  obtain ⟨rfl, rfl⟩ := Prod.mk.inj (Except.ok.inj he)
  exact ⟨hl, h⟩

theorem Gives.throw (problem : Problem) : Gives P (throw problem : Load α) :=
  fun _ _ _ _ he => nomatch he

theorem Gives.bind {act : Load α} {next : α → Load β} (h : Gives P act)
    (hn : ∀ value, P value → Gives Q (next value))
    : Gives Q (act >>= next) := by
  intro loading hl value after he
  rw [StateT.run_bind] at he
  cases ha : act.run loading with
  | error problem =>
      rw [ha] at he
      exact nomatch he
  | ok result =>
      rw [ha] at he
      obtain ⟨hbetween, hp⟩ := h loading hl result.1 result.2 ha
      exact hn result.1 hp result.2 hbetween value after he

theorem Gives.get : Gives Loading.KeysDiffer (get : Load Loading) := by
  intro loading hl found after he
  obtain ⟨rfl, rfl⟩ := Prod.mk.inj (Except.ok.inj he)
  exact ⟨hl, hl⟩

theorem Gives.set {loading : Loading} (h : loading.KeysDiffer) : Keeps (set loading : Load PUnit) := by
  intro _ _ found after he
  obtain ⟨-, rfl⟩ := Prod.mk.inj (Except.ok.inj he)
  exact ⟨h, trivial⟩

theorem Gives.modify {f : Loading → Loading}
    (h : ∀ loading : Loading, loading.KeysDiffer → (f loading).KeysDiffer)
    : Keeps (modify f : Load PUnit) := by
  intro loading hl found after he
  obtain ⟨-, rfl⟩ := Prod.mk.inj (Except.ok.inj he)
  exact ⟨h loading hl, trivial⟩

theorem Gives.keeps {act : Load α} (h : Gives P act) : Keeps act :=
  fun loading hl value after he => ⟨(h loading hl value after he).1, trivial⟩

theorem Gives.liftM {result : Except Problem α} : Keeps (liftM result : Load α) := by
  intro loading hl found after he
  cases result with
  | error problem => exact nomatch he
  | ok value =>
      obtain ⟨-, rfl⟩ := Prod.mk.inj (Except.ok.inj he)
      exact ⟨hl, trivial⟩

theorem Gives.forM {items : List α} {act : α → Load PUnit} (h : ∀ item, Keeps (act item))
    : Keeps (items.forM act) := by
  induction items with
  | nil => exact .pure trivial
  | cons item rest ih => exact (h item).bind fun _ _ => ih

theorem Gives.mapM {items : List α} {act : α → Load β} (h : ∀ item, Keeps (act item))
    : Keeps (items.mapM act) := by
  induction items with
  | nil => exact .pure trivial
  | cons item rest ih =>
      rw [List.mapM_cons]
      exact (h item).bind fun _ _ => ih.bind fun _ _ => .pure trivial

theorem Gives.foldlM {items : List β} {act : α → β → Load α} {start : α} (hs : P start)
    (h : ∀ value item, P value → Gives P (act value item))
    : Gives P (items.foldlM act start) := by
  induction items generalizing start with
  | nil => exact .pure hs
  | cons item rest ih =>
      rw [List.foldlM_cons]
      exact (h start item hs).bind fun _ hv => ih hv

-----------------------------------------------------------------------------------------
-- Loading
-----------------------------------------------------------------------------------------

theorem keeps_scalarText (fuel number : Nat) : Keeps (scalarText fuel number) := by
  induction fuel generalizing number with
  | zero => exact .throw _
  | succ fuel ih =>
      refine Gives.get.bind fun loading _ => ?_
      cases loading.node number with
      | scalar tag text => exact .pure trivial
      | sequence tag items => exact .throw _
      | mapping tag entries =>
          dsimp only
          split
          · exact ih _
          · exact .throw _

theorem keeps_plainValue (number : Nat) : Keeps (plainValue number) := by
  refine Gives.get.bind fun loading _ => (keeps_scalarText _ _).bind fun text _ => ?_
  split
  · exact .throw _
  · exact .liftM

theorem keeps_takeUp (number : Nat) : Keeps (takeUp number) := by
  refine Gives.get.bind fun loading hl => ?_
  split
  · exact .pure trivial
  · split
    · refine .set (Loading.KeysDiffer.of_parts (hl.setPart number ?_) rfl)
      trivial
    · refine (keeps_plainValue number).bind fun value _ => .modify fun after ha => ?_
      exact ha.setPart number trivial

/-- The entries that a mapping has after its own merges. -/
def mergedEntries (fuel mapping : Nat) : Load (List (Nat × Nat)) := do
  merge fuel mapping
  match (← get).entries? mapping with
  | some entries => return entries
  | none => throw .malformed

theorem keeps_mergedEntries {fuel : Nat} (h : ∀ number, Keeps (merge fuel number)) (mapping : Nat)
    : Keeps (mergedEntries fuel mapping) := by
  refine (h mapping).bind fun _ _ => Gives.get.bind fun loading _ => ?_
  split
  · exact .pure trivial
  · exact .throw _

/-- Merging changes nodes only, by induction on how many merges may follow each other. -/
theorem keeps_merge (fuel number : Nat) : Keeps (merge fuel number) := by
  induction fuel generalizing number with
  | zero => exact .pure trivial
  | succ fuel ih =>
      have hrest (taken : List (Nat × Nat)) : Keeps (do
          merge fuel number
          modify fun loading =>
            loading.setEntries number (taken ++ (loading.entries? number).getD []) : Load PUnit) :=
        (ih number).bind fun _ _ => .modify fun after ha => ha.setEntries _ _
      refine Gives.get.bind fun loading hl => ?_
      dsimp only
      split
      · exact .set (hl.of_parts (Loading.parts_foldl_keepKey _ _))
      · refine (Gives.set (hl.setEntries _ _)).bind fun _ _ => ?_
        split
        · exact (keeps_mergedEntries ih _).bind fun taken _ => hrest taken
        · exact (Gives.mapM (keeps_mergedEntries ih)).bind fun taken _ => hrest taken.reverse.flatten
        · exact (Gives.throw _).bind fun taken (_ : True) => hrest taken

theorem mem_put {keyed : List (Nat × Value × Nat)} {keyNode : Nat} {key : Value} {value : Nat}
    {entry : Nat × Value × Nat} (h : entry ∈ put keyNode key value keyed)
    : entry = (keyNode, key, value) ∨ ∃ old ∈ keyed, entry.2.1 = old.2.1 := by
  induction keyed with
  | nil => exact Or.inl (List.mem_singleton.mp h)
  | cons first rest ih =>
      rw [put] at h
      split at h
      · rcases List.mem_cons.mp h with rfl | h
        · exact Or.inr ⟨first, List.mem_cons_self, rfl⟩
        · exact Or.inr ⟨entry, List.mem_cons_of_mem first h, rfl⟩
      · rcases List.mem_cons.mp h with rfl | h
        · exact Or.inr ⟨entry, List.mem_cons_self, rfl⟩
        · refine (ih h).imp_right ?_
          rintro ⟨old, ho, he⟩
          exact ⟨old, List.mem_cons_of_mem first ho, he⟩

/-- Putting a key keeps those that are there, and adds it only if it differs from all of them. -/
theorem differByKey_put {keyed : List (Nat × Value × Nat)} (h : DifferByKey (keyed.map (·.2)))
    (keyNode : Nat) (key : Value) (value : Nat)
    : DifferByKey ((put keyNode key value keyed).map (·.2)) := by
  induction keyed with
  | nil => exact List.pairwise_singleton _ _
  | cons entry rest ih =>
      obtain ⟨hfirst, hrest⟩ := List.pairwise_cons.mp h
      rw [put]
      split
      · exact List.pairwise_cons.mpr ⟨hfirst, hrest⟩
      · next hk =>
          have hnew : entry.1 ≠ keyNode ∧ entry.2.1.sameKey key = false := by simpa using hk
          refine List.pairwise_cons.mpr ⟨fun other ho => ?_, ih hrest⟩
          obtain ⟨found, hf, rfl⟩ := List.mem_map.mp ho
          rcases mem_put hf with rfl | ⟨old, ho, he⟩
          · exact hnew.2
          · rw [he]
            exact hfirst old.2 (List.mem_map_of_mem ho)

theorem gives_keyedEntries (number : Nat) : Gives DifferByKey (keyedEntries number) := by
  refine Gives.get.bind fun loading _ => (keeps_merge _ number).bind fun _ _ => ?_
  refine Gives.get.bind fun loading _ => ?_
  split
  · exact .throw _
  · refine Gives.bind (P := fun keyed => DifferByKey (List.map (·.2) keyed))
      (.foldlM .nil fun keyed entry hk => ?_) fun keyed hk => .pure hk
    refine (keeps_takeUp _).bind fun _ _ => Gives.get.bind fun loading _ => ?_
    split
    · exact (keeps_takeUp _).bind fun _ _ => .pure (differByKey_put hk _ _ _)
    · exact .throw _

theorem keeps_fill (number : Nat) : Keeps (fill number) := by
  have hset (part : Part) (hp : part.KeysDiffer) : Keeps (modify (·.setPart number part)) :=
    .modify fun after ha => ha.setPart number hp
  refine Gives.get.bind fun loading _ => ?_
  dsimp only
  split
  · exact (Gives.forM keeps_takeUp).bind fun _ _ => hset (.list _) trivial
  · exact (gives_keyedEntries number).bind fun entries he => hset (.map entries) he
  · exact (gives_keyedEntries number).bind fun entries _ => hset (.set _) trivial
  · refine (Gives.mapM fun item => ?_).bind fun pairs _ => hset (.pairs pairs) trivial
    refine Gives.get.bind fun loading _ => ?_
    split
    · exact (keeps_takeUp _).bind fun _ _ => (keeps_takeUp _).bind fun _ _ => .pure trivial
    · exact .throw _
  · exact (Gives.throw _).bind hset

theorem keeps_fillFrom (fuel place : Nat) : Keeps (fillFrom fuel place) := by
  induction fuel generalizing place with
  | zero => exact .pure trivial
  | succ fuel ih =>
      refine Gives.get.bind fun loading _ => ?_
      split
      · exact .pure trivial
      · exact (keeps_fill _).bind fun _ _ => ih _

end Load

namespace Document

/-- In every map of the document all keys differ. -/
def KeysDiffer (document : Document) : Prop :=
  ∀ number, (document.part number).KeysDiffer

theorem keysDiffer_ofGraph {graph : Graph} {document : Document} (h : ofGraph graph = .ok document)
    : document.KeysDiffer := by
  have hload : Load.Keeps (do
      Load.takeUp graph.root
      Load.fillFrom graph.nodes.size 0) :=
    (Load.keeps_takeUp graph.root).bind fun _ _ => Load.keeps_fillFrom _ 0
  have hstart : Loading.KeysDiffer
      { nodes := graph.nodes, parts := Array.replicate graph.nodes.size none } := by
    intro number part he
    rw [Array.getElem?_replicate] at he
    split at he
    · exact nomatch he
    · exact nomatch he
  rw [ofGraph] at h
  cases hr : StateT.run (do
      Load.takeUp graph.root
      Load.fillFrom graph.nodes.size 0)
      { nodes := graph.nodes, parts := Array.replicate graph.nodes.size none } with
  | error problem =>
      rw [hr] at h
      exact nomatch h
  | ok result =>
      rw [hr] at h
      obtain rfl := Except.ok.inj h
      have hkept := (hload _ hstart result.1 result.2 hr).1
      intro number
      rw [part, Array.getElem?_map]
      cases hp : result.2.parts[number]? with
      | none => trivial
      | some found =>
          cases found with
          | none => trivial
          | some part => exact hkept number part hp

theorem keysDiffer_ofText {text : List Char} {document : Document} (h : ofText text = .ok document)
    : document.KeysDiffer := by
  rw [ofText] at h
  cases hg : Graph.ofText? text with
  | error problem =>
      rw [hg] at h
      exact nomatch h
  | ok graph =>
      rw [hg] at h
      cases graph with
      | none =>
          obtain rfl := Except.ok.inj h
          intro number
          match number with
          | 0 => trivial
          | number + 1 => trivial
      | some graph => exact keysDiffer_ofGraph h

theorem KeysDiffer.entries {document : Document} (h : document.KeysDiffer) {number : Nat}
    {entries : Entries} (he : document.entries? number = some entries)
    : entries.AreDistinct := by
  have hp := h number
  rw [entries?] at he
  split at he
  · next found hf =>
      rw [hf] at hp
      obtain rfl := Option.some.inj he
      exact List.pairwise_map.mpr hp
  · exact nomatch he

/-- Taking an entry out of a document leaves the keys different. -/
theorem KeysDiffer.take {document : Document} (h : document.KeysDiffer) (key : Value)
    : (document.take key).2.KeysDiffer := by
  intro number
  have hroot := h document.root
  have hpart := h number
  rw [Document.take]
  split
  · next entries he =>
      rw [he] at hroot
      rw [part, Array.getElem?_setIfInBounds]
      split
      · split
        · exact List.Pairwise.filter _ hroot
        · trivial
      · exact hpart
  · exact hpart

end Document

end SqlShell.Yaml
