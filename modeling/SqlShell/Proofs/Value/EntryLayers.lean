import SqlShell.Proofs.Value.KeyIdentity

/-! Maps laid over each other. The keys of all of them are there once, in the order in which they first
appear and as they are written there, and the last map that has a key gives its value. Laying over
can be done in any grouping.
-/

namespace SqlShell.Entries

/-- The keys of entries, in order. -/
def keys (entries : Entries) : List Value :=
  List.map Prod.fst entries

/-- No two of the entries have the same key. -/
def AreDistinct (entries : Entries) : Prop :=
  List.Pairwise (fun first second => first.1.sameKey second.1 = false) entries

/-- The keys of maps, each where it first appears and as it is written there. -/
def keysInOrder (maps : List Entries) : List Value :=
  (maps.flatMap keys).eraseDupsBy Value.sameKey

/-- The value of a key in the last of the maps that has it. -/
def lastGiven (maps : List Entries) (key : Value) : Option Value :=
  maps.reverse.findSome? fun entries => entries.find? key

/-- The entries are the given maps, each one laid over those before it. A key that is not even the
same as itself stays with the value that it came with.
-/
structure AreLayered (maps : List Entries) (entries : Entries) : Prop where
  keys_eq : entries.keys = keysInOrder maps
  distinct : entries.AreDistinct
  find?_eq : ∀ key, entries.find? key = lastGiven maps key
  value_eq : ∀ entry ∈ entries, lastGiven maps entry.1 = some entry.2
    ∨ entry.1.identity? = none ∧ entry ∈ maps.flatten

-----------------------------------------------------------------------------------------
-- Keys
-----------------------------------------------------------------------------------------

/-- The keys with one more, unless it is there. -/
def addKey (keys : List Value) (key : Value) : List Value :=
  if keys.any key.sameKey then keys else keys ++ [key]

/-- The keys with more of them, as far as they are not there yet. -/
def addKeys (keys more : List Value) : List Value :=
  more.foldl addKey keys

theorem addKeys_cons (keys : List Value) (key : Value) (rest : List Value)
    : addKeys keys (key :: rest) = addKeys (addKey keys key) rest :=
  rfl

theorem any_congr {key other : Value} (h : key.sameKey other = true) (keys : List Value)
    : keys.any key.sameKey = keys.any other.sameKey :=
  congrArg keys.any (funext fun third => Value.sameKey_congr h third)

theorem any_addKey (keys : List Value) (next key : Value)
    : (addKey keys next).any key.sameKey = (keys.any key.sameKey || key.sameKey next) := by
  rw [addKey]
  split
  · next hn =>
      cases hk : key.sameKey next with
      | true => rw [any_congr hk, hn, Bool.true_or]
      | false => exact (Bool.or_false _).symm
  · simp

/-- A key is there after others were added if it was there or is one of them. -/
theorem any_addKeys (keys more : List Value) (key : Value)
    : (addKeys keys more).any key.sameKey = (keys.any key.sameKey || more.any key.sameKey) := by
  induction more generalizing keys with
  | nil => exact (Bool.or_false _).symm
  | cons next rest ih =>
      rw [addKeys_cons, ih, any_addKey, List.any_cons, Bool.or_assoc]

theorem addKeys_addKey (keys more : List Value) (key : Value)
    : addKeys keys (addKey more key) = addKey (addKeys keys more) key := by
  rw [addKey]
  split
  · next hk =>
      rw [addKey, any_addKeys, hk, Bool.or_true, if_pos rfl]
  · exact List.foldl_append

/-- Adding keys can be done in any grouping, by induction on the last of them. -/
theorem addKeys_addKeys (keys more rest : List Value)
    : addKeys keys (addKeys more rest) = addKeys (addKeys keys more) rest := by
  induction rest generalizing more with
  | nil => rfl
  | cons key rest ih =>
      rw [addKeys_cons, addKeys_cons, ih, addKeys_addKey]

/-- Keys that are added one by one are those that are left without repetitions. -/
theorem loop_eq_addKeys (more keys : List Value)
    : List.eraseDupsBy.loop Value.sameKey more keys.reverse = addKeys keys more := by
  induction more generalizing keys with
  | nil => simp [List.eraseDupsBy.loop, addKeys]
  | cons key rest ih =>
      rw [List.eraseDupsBy.loop, addKeys_cons, addKey, List.any_reverse]
      cases keys.any key.sameKey with
      | true => exact ih keys
      | false =>
          rw [← List.reverse_concat]
          exact ih (keys ++ [key])

theorem keysInOrder_eq (maps : List Entries) : keysInOrder maps = addKeys [] (maps.flatMap keys) :=
  loop_eq_addKeys (maps.flatMap keys) []

/-- Keys that differ from each other and from those that are there are all added. -/
theorem addKeys_of_distinct {more : List Value} (keys : List Value)
    (h : (keys ++ more).Pairwise fun first second => first.sameKey second = false)
    : addKeys keys more = keys ++ more := by
  induction more generalizing keys with
  | nil => exact (List.append_nil keys).symm
  | cons key rest ih =>
      have hnew : keys.any key.sameKey = false := by
        refine List.any_eq_false.mpr fun other ho => ?_
        rw [Value.sameKey_comm, (List.pairwise_append.mp h).2.2 other ho key List.mem_cons_self]
        exact Bool.false_ne_true
      have hrest : keys ++ key :: rest = (keys ++ [key]) ++ rest := by simp
      rw [addKeys_cons, addKey, hnew, if_neg Bool.false_ne_true, hrest]
      exact ih (keys ++ [key]) (hrest ▸ h)

-----------------------------------------------------------------------------------------
-- Putting
-----------------------------------------------------------------------------------------

variable {entries changes : Entries}

theorem addKeys_append (keys more rest : List Value)
    : addKeys keys (more ++ rest) = addKeys (addKeys keys more) rest :=
  List.foldl_append

theorem keys_cons (entry : Value × Value) (rest : Entries)
    : keys (entry :: rest) = entry.1 :: keys rest :=
  rfl

theorem keys_put (entries : Entries) (key value : Value)
    : (entries.put key value).keys = addKey entries.keys key := by
  induction entries with
  | nil => rfl
  | cons entry rest ih =>
      rw [put, addKey, keys_cons, List.any_cons, Value.sameKey_comm key]
      cases entry.1.sameKey key with
      | true => rfl
      | false =>
          rw [if_neg Bool.false_ne_true, keys_cons, ih, Bool.false_or, addKey]
          split <;> rfl

theorem keys_update (entries changes : Entries)
    : (entries.update changes).keys = addKeys entries.keys changes.keys := by
  induction changes generalizing entries with
  | nil => rfl
  | cons change rest ih =>
      rw [keys_cons, addKeys_cons, ← keys_put entries change.1 change.2]
      exact ih (entries.put change.1 change.2)

theorem areDistinct_iff (entries : Entries)
    : entries.AreDistinct ↔ entries.keys.Pairwise fun first second => first.sameKey second = false := by
  rw [AreDistinct, keys, List.pairwise_map]

theorem pairwise_addKey {keys : List Value}
    (h : keys.Pairwise fun first second => first.sameKey second = false) (key : Value)
    : (addKey keys key).Pairwise fun first second => first.sameKey second = false := by
  rw [addKey]
  split
  · exact h
  · next hk =>
      refine List.pairwise_append.mpr ⟨h, List.pairwise_singleton _ _, fun other ho last hl => ?_⟩
      obtain rfl := List.mem_singleton.mp hl
      rw [Value.sameKey_comm]
      exact Bool.eq_false_iff.mpr fun hs => hk (List.any_eq_true.mpr ⟨other, ho, hs⟩)

theorem AreDistinct.put (h : entries.AreDistinct) (key value : Value)
    : (entries.put key value).AreDistinct := by
  rw [areDistinct_iff, keys_put]
  exact pairwise_addKey ((areDistinct_iff entries).mp h) key

theorem AreDistinct.update (h : entries.AreDistinct) (changes : Entries)
    : (entries.update changes).AreDistinct := by
  induction changes generalizing entries with
  | nil => exact h
  | cons change rest ih => exact ih (h.put change.1 change.2)

-----------------------------------------------------------------------------------------
-- Values
-----------------------------------------------------------------------------------------

theorem find?_cons (entry : Value × Value) (rest : Entries) (key : Value)
    : find? (entry :: rest) key =
        if entry.1.sameKey key then some entry.2 else find? rest key := by
  rw [find?, List.find?_cons]
  cases entry.1.sameKey key <;> rfl

theorem find?_put (entries : Entries) (key value other : Value)
    : (entries.put key value).find? other =
        if key.sameKey other then some value else entries.find? other := by
  induction entries with
  | nil => exact find?_cons (key, value) [] other
  | cons entry rest ih =>
      rw [put]
      cases hk : entry.1.sameKey key with
      | true =>
          rw [if_pos rfl, find?_cons, find?_cons, Value.sameKey_congr hk]
          split <;> rfl
      | false =>
          rw [if_neg Bool.false_ne_true, find?_cons, ih, find?_cons]
          cases he : entry.1.sameKey other with
          | true =>
              have hne : key.sameKey other = false := by
                rw [Value.sameKey_comm, ← Value.sameKey_congr he, hk]
              rw [hne]
              rfl
          | false => rfl

theorem find?_eq_none_of_distinct {entry : Value × Value} {rest : Entries}
    (h : AreDistinct (entry :: rest)) {key : Value} (hk : entry.1.sameKey key = true)
    : find? rest key = none := by
  rw [find?, Option.map_eq_none_iff, List.find?_eq_none]
  intro other ho
  rw [Value.sameKey_comm, ← Value.sameKey_congr hk, (List.pairwise_cons.mp h).1 other ho]
  exact Bool.false_ne_true

/-- Changes of different keys win over what was there. -/
theorem find?_update (h : changes.AreDistinct) (entries : Entries) (key : Value)
    : (entries.update changes).find? key = (changes.find? key).or (entries.find? key) := by
  induction changes generalizing entries with
  | nil => rfl
  | cons change rest ih =>
      have hstep := ih (List.pairwise_cons.mp h).2 (entries.put change.1 change.2)
      rw [find?_put] at hstep
      rw [find?_cons]
      refine hstep.trans ?_
      cases hk : change.1.sameKey key with
      | true => rw [find?_eq_none_of_distinct h hk]; rfl
      | false => rfl

/-- In distinct entries each value is found under its key. -/
theorem find?_of_mem (h : entries.AreDistinct) {entry : Value × Value} (hm : entry ∈ entries)
    (hk : entry.1.sameKey entry.1 = true)
    : entries.find? entry.1 = some entry.2 := by
  induction entries with
  | nil => exact absurd hm List.not_mem_nil
  | cons first rest ih =>
      rw [find?_cons]
      rcases List.mem_cons.mp hm with rfl | hm
      · exact if_pos hk
      · rw [(List.pairwise_cons.mp h).1 entry hm]
        exact ih (List.pairwise_cons.mp h).2 hm

/-- A key that is not even the same as itself is not found. -/
theorem find?_of_identity_none {key : Value} (hk : key.identity? = none) (entries : Entries)
    : entries.find? key = none := by
  rw [find?, Option.map_eq_none_iff, List.find?_eq_none]
  intro entry _ hs
  obtain ⟨hsome, he⟩ := (Value.sameKey_iff entry.1 key).mp hs
  rw [he, hk] at hsome
  exact nomatch hsome

/-- An entry whose key is not even the same as itself has come with its value. -/
theorem mem_of_mem_put {entry : Value × Value} {key value : Value}
    (hm : entry ∈ entries.put key value) (hk : entry.1.identity? = none)
    : entry ∈ entries ∨ entry = (key, value) := by
  induction entries with
  | nil => exact Or.inr (List.mem_singleton.mp hm)
  | cons first rest ih =>
      rw [put] at hm
      split at hm
      · next hs =>
          rcases List.mem_cons.mp hm with rfl | hm
          · have hsome := ((Value.sameKey_iff first.1 key).mp hs).1
            rw [hk] at hsome
            exact nomatch hsome
          · exact Or.inl (List.mem_cons_of_mem first hm)
      · rcases List.mem_cons.mp hm with rfl | hm
        · exact Or.inl List.mem_cons_self
        · exact (ih hm).imp_left (List.mem_cons_of_mem first)

theorem mem_of_mem_update {entry : Value × Value} (hm : entry ∈ entries.update changes)
    (hk : entry.1.identity? = none)
    : entry ∈ entries ∨ entry ∈ changes := by
  induction changes generalizing entries with
  | nil => exact Or.inl hm
  | cons change rest ih =>
      rcases ih hm with hm | hm
      · rcases mem_of_mem_put hm hk with hm | rfl
        · exact Or.inl hm
        · exact Or.inr List.mem_cons_self
      · exact Or.inr (List.mem_cons_of_mem change hm)

-----------------------------------------------------------------------------------------
-- Layers
-----------------------------------------------------------------------------------------

theorem AreDistinct.areLayered (h : entries.AreDistinct) : AreLayered [entries] entries where
  keys_eq := by
    rw [keysInOrder_eq, List.flatMap_singleton]
    exact (addKeys_of_distinct [] ((areDistinct_iff entries).mp h)).symm
  distinct := h
  find?_eq key := by
    simp [lastGiven]
  value_eq := by
    intro entry hm
    cases hk : entry.1.sameKey entry.1 with
    | true => exact Or.inl (by simpa [lastGiven] using find?_of_mem h hm hk)
    | false => exact Or.inr ⟨(Value.sameKey_self entry.1).mp hk, by simpa using hm⟩

theorem AreLayered.mem_flatten {maps : List Entries} (h : AreLayered maps entries)
    {entry : Value × Value} (hm : entry ∈ entries) (hk : entry.1.identity? = none)
    : entry ∈ maps.flatten := by
  rcases h.value_eq entry hm with hv | ⟨-, hm⟩
  · rw [← h.find?_eq, find?_of_identity_none hk] at hv
    exact nomatch hv
  · exact hm

/-- Maps laid over maps are layers again. -/
theorem AreLayered.update {maps upper : List Entries} (h : AreLayered maps entries)
    (ho : AreLayered upper changes)
    : AreLayered (maps ++ upper) (entries.update changes) := by
  have hdistinct : (entries.update changes).AreDistinct := h.distinct.update changes
  have hfind : ∀ key, (entries.update changes).find? key = lastGiven (maps ++ upper) key := by
    intro key
    rw [find?_update ho.distinct, ho.find?_eq, h.find?_eq, lastGiven, lastGiven, lastGiven,
      List.reverse_append, List.findSome?_append]
  constructor
  case keys_eq =>
    rw [keys_update, h.keys_eq, ho.keys_eq, keysInOrder_eq, keysInOrder_eq, keysInOrder_eq,
      addKeys_addKeys, List.flatMap_append, addKeys_append]
    rfl
  case distinct => exact hdistinct
  case find?_eq => exact hfind
  case value_eq =>
    intro entry hm
    cases hk : entry.1.sameKey entry.1 with
    | true => exact Or.inl (hfind entry.1 ▸ find?_of_mem hdistinct hm hk)
    | false =>
        have hnone := (Value.sameKey_self entry.1).mp hk
        refine Or.inr ⟨hnone, ?_⟩
        rw [List.flatten_append]
        rcases mem_of_mem_update hm hnone with hm | hm
        · exact List.mem_append_left _ (h.mem_flatten hm hnone)
        · exact List.mem_append_right _ (ho.mem_flatten hm hnone)

end SqlShell.Entries
