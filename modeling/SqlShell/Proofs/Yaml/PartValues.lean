import Mathlib.Logic.Relation
import SqlShell.Proofs.Value.KeyIdentity
import SqlShell.Proofs.Yaml.DistinctKeys

/-! The values of the parts of a document. A value is made of the parts that stand in its own one, so
that an entry which is taken out of the whole is missing only where the whole stands in itself.
-/

namespace SqlShell.Yaml

-----------------------------------------------------------------------------------------
-- Entries under a text
-----------------------------------------------------------------------------------------

section Entries

variable {α : Type} {entries : List (Value × α)} {name : String}

theorem find?_text_eq_none
    : entries.find? (·.1.sameKey (.text name)) = none ↔ ∀ value, (.text name, value) ∉ entries := by
  simp only [List.find?_eq_none, Value.sameKey_text_iff]
  refine ⟨fun h value hm => h _ hm rfl, ?_⟩
  rintro h ⟨key, value⟩ hm rfl
  exact h value hm

/-- Where keys differ, an entry is found under its key. -/
theorem DifferByKey.find?_text (h : DifferByKey entries) {value : α}
    (hm : (.text name, value) ∈ entries)
    : entries.find? (·.1.sameKey (.text name)) = some (.text name, value) := by
  induction entries with
  | nil => exact absurd hm List.not_mem_nil
  | cons entry rest ih =>
      obtain ⟨hfirst, hrest⟩ := List.pairwise_cons.mp h
      rcases List.mem_cons.mp hm with rfl | hm
      · rw [List.find?_cons, (Value.sameKey_text_iff _ name).mpr rfl]
      · rw [List.find?_cons, hfirst _ hm]
        exact ih hrest hm

end Entries

-----------------------------------------------------------------------------------------
-- Values
-----------------------------------------------------------------------------------------

namespace Part

variable {part : Part} {inner other : Nat → Value}

/-- The numbers of the parts that a part names. -/
def named : Part → List Nat
  | .plain _ => []
  | .list items => items
  | .pairs items => items.flatMap fun (key, value) => [key, value]
  | .set _ => []
  | .map entries => entries.map (·.2)

/-- The part is a map. -/
def isMap : Part → Bool
  | .map _ => true
  | _ => false

/-- The part is the value of what has no content. -/
def isNull : Part → Bool
  | .plain .null => true
  | _ => false

/-- The value of a part, made of the values of those that it names. -/
def valueOf (part : Part) (inner : Nat → Value) : Value :=
  match part with
  | .plain value => value
  | .list items => .list (items.map inner)
  | .pairs items => .list (items.map fun (key, value) => .pair (inner key) (inner value))
  | .set items => .set items
  | .map entries => .map (entries.map fun (key, value) => (key, inner value))

theorem eq_of_isNull (h : part.isNull = true) : part = .plain .null := by
  unfold isNull at h
  split at h
  · rfl
  · exact nomatch h

theorem valueOf_congr (h : ∀ number ∈ part.named, inner number = other number)
    : part.valueOf inner = part.valueOf other := by
  cases part with
  | plain value => rfl
  | set items => rfl
  | list items => exact congrArg Value.list (List.map_congr_left h)
  | pairs items =>
      refine congrArg Value.list (List.map_congr_left fun (key, value) hm => ?_)
      have hnamed (number : Nat) (hn : number ∈ [key, value]) : inner number = other number :=
        h number (List.mem_flatMap.mpr ⟨(key, value), hm, hn⟩)
      exact congrArg₂ Value.pair (hnamed key (by simp)) (hnamed value (by simp))
  | map entries =>
      refine congrArg Value.map (List.map_congr_left fun (key, value) hm => ?_)
      exact congrArg (Prod.mk key) (h value (List.mem_map_of_mem hm))

/-- Whether a part counts as absent is told by itself alone. -/
theorem isEmpty_valueOf (part : Part) (inner other : Nat → Value)
    : (part.valueOf inner).isEmpty = (part.valueOf other).isEmpty := by
  cases part <;> simp [valueOf, Value.isEmpty]

end Part

namespace Document

variable {document other : Document} {number : Nat}

theorem valueWithin_succ (document : Document) (levels : Nat) (around : List Nat) (number : Nat)
    : document.valueWithin (levels + 1) around number =
        if around.contains number then .again (document.part number).isMap
        else (document.part number).valueOf (document.valueWithin levels (number :: around)) := by
  rw [valueWithin]
  cases document.part number <;> rfl

theorem lt_size_of_part_ne (h : document.part number ≠ .plain .null)
    : number < document.parts.size := by
  refine Nat.lt_of_not_le fun hle => h ?_
  rw [part, Array.getElem?_eq_none hle]
  rfl

theorem isEmpty_value (h : other.part number = document.part number)
    : (other.value number).isEmpty = (document.value number).isEmpty := by
  rw [value, value, valueWithin_succ, valueWithin_succ, h]
  exact Part.isEmpty_valueOf _ _ _

theorem isEmpty_of_isNull (h : (document.part number).isNull = true)
    : (document.value number).isEmpty = true := by
  rw [value, valueWithin_succ, Part.eq_of_isNull h]
  rfl

-----------------------------------------------------------------------------------------
-- Entries
-----------------------------------------------------------------------------------------

/-- The entries at the top of a document that is a mapping or has no content. -/
def topEntries? (document : Document) : Option (List (Value × Nat)) :=
  match document.part document.root with
  | .plain .null => some []
  | .map entries => some entries
  | _ => none

theorem root_cases {entries : List (Value × Nat)} (ht : document.topEntries? = some entries)
    : document.part document.root = .map entries
      ∨ document.part document.root = .plain .null ∧ entries = [] := by
  rw [topEntries?] at ht
  split at ht
  · next h => exact Or.inr ⟨h, (Option.some.inj ht).symm⟩
  · next h => exact Or.inl (h.trans (congrArg Part.map (Option.some.inj ht)))
  · exact nomatch ht

theorem KeysDiffer.topEntries (h : document.KeysDiffer) {entries : List (Value × Nat)}
    (ht : document.topEntries? = some entries)
    : DifferByKey entries := by
  rcases root_cases ht with hroot | ⟨-, rfl⟩
  · have hpart := h document.root
    rw [hroot] at hpart
    exact hpart
  · exact .nil

theorem isSome_entries? (document : Document) (number : Nat)
    : (document.entries? number).isSome = (document.part number).isMap := by
  rw [entries?]
  cases document.part number <;> rfl

-----------------------------------------------------------------------------------------
-- Parts in each other
-----------------------------------------------------------------------------------------

/-- One part names another one. -/
def Names (document : Document) (outer inner : Nat) : Prop :=
  inner ∈ (document.part outer).named

/-- The whole of a document stands in itself. -/
def ContainsItself (document : Document) : Prop :=
  Relation.TransGen document.Names document.root document.root

/-- A document in which no part names the whole does not contain itself. -/
theorem not_containsItself (h : document.parts.all fun part => !part.named.contains document.root)
    : ¬document.ContainsItself := by
  intro hc
  obtain ⟨outer, -, hn⟩ := Relation.TransGen.tail'_iff.mp hc
  rw [Names, part] at hn
  cases hp : document.parts[outer]? with
  | none =>
      rw [hp] at hn
      exact List.not_mem_nil hn
  | some found =>
      rw [hp] at hn
      have hall : (!found.named.contains document.root) = true :=
        Array.all_eq_true'.mp h found (Array.mem_of_getElem? hp)
      have hin : found.named.contains document.root = true := List.contains_iff_mem.mpr hn
      rw [hin] at hall
      exact Bool.false_ne_true hall

/-- A part has the same value in two documents that agree on the parts that stand in it. By
induction on the levels.
-/
theorem valueWithin_congr (levels : Nat) (around : List Nat)
    (h : ∀ inner, Relation.ReflTransGen document.Names number inner →
      other.part inner = document.part inner)
    : other.valueWithin levels around number = document.valueWithin levels around number := by
  induction levels generalizing number around with
  | zero => rfl
  | succ levels ih =>
      have hinner (inner : Nat) (hi : inner ∈ (document.part number).named)
          : other.valueWithin levels (number :: around) inner =
              document.valueWithin levels (number :: around) inner :=
        ih (number :: around) fun below hb => h below (.head hi hb)
      rw [valueWithin_succ, valueWithin_succ, h number .refl, Part.valueOf_congr hinner]

-----------------------------------------------------------------------------------------
-- Without an entry
-----------------------------------------------------------------------------------------

theorem take_of_null (h : document.part document.root = .plain .null) (key : Value)
    : document.take key = (none, document) := by
  rw [take, h]

section Take

variable {entries : List (Value × Nat)}

/-- The entries without a key. -/
def without (entries : List (Value × Nat)) (key : Value) : List (Value × Nat) :=
  entries.filter fun entry => !entry.1.sameKey key

variable (hroot : document.part document.root = .map entries) (key : Value)

include hroot

theorem take_eq
    : document.take key =
        ((entries.find? (·.1.sameKey key)).map (·.2),
          ⟨document.parts.setIfInBounds document.root (.map (without entries key)),
            document.root⟩) := by
  rw [take, hroot]
  rfl

theorem root_take : (document.take key).2.root = document.root := by
  rw [take_eq hroot]

theorem part_take_root : (document.take key).2.part document.root = .map (without entries key) := by
  have hlt : document.root < document.parts.size :=
    lt_size_of_part_ne fun h => nomatch hroot.symm.trans h
  rw [take_eq hroot, part, Array.getElem?_setIfInBounds_self_of_lt hlt]
  rfl

theorem part_take (hn : number ≠ document.root)
    : (document.take key).2.part number = document.part number := by
  rw [take_eq hroot, part, Array.getElem?_setIfInBounds_ne hn.symm, part]

/-- The value of a part in which the whole does not stand is left as it is. -/
theorem value_take (hn : ¬Relation.ReflTransGen document.Names number document.root)
    : (document.take key).2.value number = document.value number := by
  have hsize : (document.take key).2.parts.size = document.parts.size := by
    rw [take_eq hroot, Array.size_setIfInBounds]
  rw [value, value, hsize]
  refine valueWithin_congr _ _ fun inner hi => part_take hroot key ?_
  rintro rfl
  exact hn hi

theorem entries?_take (hn : ¬Relation.ReflTransGen document.Names number document.root)
    : (document.take key).2.entries? number = document.entries? number := by
  have hne : number ≠ document.root := fun he => hn (he ▸ .refl)
  rw [entries?, entries?, part_take hroot key hne]
  cases hp : document.part number with
  | map inner =>
      refine congrArg some (List.map_congr_left fun entry hm => ?_)
      have hnames : document.Names number entry.2 := by
        rw [Names, hp]
        exact List.mem_map_of_mem hm
      exact congrArg (Prod.mk entry.1) (value_take hroot key fun hr => hn (.head hnames hr))
  | _ => rfl

theorem not_reaches_root (h : ¬document.ContainsItself) {inside : Value}
    (hm : (inside, number) ∈ entries)
    : ¬Relation.ReflTransGen document.Names number document.root := by
  have hnames : document.Names document.root number := by
    rw [Names, hroot]
    exact List.mem_map_of_mem hm
  exact fun hr => h (.head' hnames hr)

end Take

end Document

end SqlShell.Yaml
