import SqlShell.Sort.Gallop

/-!
Merging two sorted runs that stand side by side. Items are taken one by one until one run has given
many of them in a row; from then on whole stretches are looked for and moved at once.
-/

namespace SqlShell.Sort

/-- A comparison of two items that may fail. -/
abbrev Less (ε α : Type) := α → α → Except ε Bool

/-- The end of the runs at which they are merged. -/
inductive Front where
  | low
  | high
  deriving DecidableEq, Repr

namespace Front

/-- The item of a run at the front. -/
def item? {α : Type} (front : Front) (run : Array α) : Option α :=
  match front with
  | .low => run[0]?
  | .high => run.back?

/-- The place of that item in a run of so many items. -/
def place (front : Front) (size : Nat) : Nat :=
  match front with
  | .low => 0
  | .high => size - 1

/-- The number of items at the front up to a place that is found by a search. -/
def count (front : Front) (size found : Nat) : Nat :=
  match front with
  | .low => found
  | .high => size - found

/-- So many items at the front of a run, and the other ones. -/
def split {α : Type} (front : Front) (count : Nat) (run : Array α) : Array α × Array α :=
  match front with
  | .low => (run.extract 0 count, run.extract count run.size)
  | .high => (run.extract (run.size - count) run.size, run.extract 0 (run.size - count))

/-- The merged items with more of them behind those at the front. -/
def join {α : Type} (front : Front) (done more : Array α) : Array α :=
  match front with
  | .low => done ++ more
  | .high => more ++ done

end Front

/-- A merge under way: what is left of both runs, and the items merged so far. -/
structure Merging (α : Type) where
  front : Front
  left : Array α
  right : Array α
  done : Array α := #[]

namespace Merging

/-- Moves so many items of the left run to the merged ones. -/
def takeLeft {α : Type} (merging : Merging α) (count : Nat) : Merging α :=
  let (taken, left) := merging.front.split count merging.left
  { merging with left, done := merging.front.join merging.done taken }

/-- Moves so many items of the right run to the merged ones. -/
def takeRight {α : Type} (merging : Merging α) (count : Nat) : Merging α :=
  let (taken, right) := merging.front.split count merging.right
  { merging with right, done := merging.front.join merging.done taken }

/-- The merged runs, once nothing is left to compare: one run is used up, or what is left of the
one that ends the merge is a single item, which is known to come last.
-/
def over? {α : Type} (merging : Merging α) : Option (Array α) :=
  let { front, left, right, done } := merging
  match front with
  | .low =>
      if right.isEmpty then some (done ++ left)
      else if left.size = 1 then some (done ++ right ++ left)
      else if left.isEmpty then some (done ++ right)
      else none
  | .high =>
      if left.isEmpty then some (right ++ done)
      else if right.size = 1 then some (right ++ left ++ done)
      else if right.isEmpty then some (left ++ done)
      else none

end Merging

/-- The number of items in a row from which on stretches are worth looking for. -/
def worthwhile : Nat := 7

mutual

/-- Merges item by item. The runs have given so many items in a row; as soon as that reaches the
`patience`, stretches are looked for. With the merged runs it tells the patience that is left.
-/
def mergeItems {ε α : Type} (less : Less ε α)
    : Nat → Nat → Nat → Nat → Merging α → Except ε (Array α × Nat)
  | 0, patience, _, _, merging => .ok (merging.done, patience)
  | fuel + 1, patience, lefts, rights, merging => do
      match merging.front.item? merging.left, merging.front.item? merging.right with
      | some x, some y => do
          let fromRight := (← less y x) == (merging.front == .low)
          let merging := if fromRight then merging.takeRight 1 else merging.takeLeft 1
          let lefts := if fromRight then 0 else lefts + 1
          let rights := if fromRight then rights + 1 else 0
          match merging.over? with
          | some merged => return (merged, patience)
          | none =>
              if patience ≤ max lefts rights then
                mergeStretches less fuel (patience + 1) merging
              else
                mergeItems less fuel patience lefts rights merging
      | _, _ => return (merging.done, patience)

/-- Merges stretch by stretch, as long as that is worthwhile. -/
def mergeStretches {ε α : Type} (less : Less ε α)
    : Nat → Nat → Merging α → Except ε (Array α × Nat)
  | 0, patience, merging => .ok (merging.done, patience)
  | fuel + 1, patience, merging => do
      let patience := if 1 < patience then patience - 1 else patience
      let front := merging.front
      let { left, .. } := merging
      let lefts ← match front.item? merging.right with
        | some y => do
            let notAfter : Test ε := fun i =>
              match left[i]? with
              | some x => return !(← less y x)
              | none => return false
            pure (front.count left.size (← gallop notAfter left.size (front.place left.size)))
        | none => pure 0
      let merging := merging.takeLeft lefts
      if let some merged := merging.over? then
        return (merged, patience)
      let merging := merging.takeRight 1
      if let some merged := merging.over? then
        return (merged, patience)
      let { right, .. } := merging
      let rights ← match front.item? merging.left with
        | some x => do
            let before : Test ε := fun i =>
              match right[i]? with
              | some y => less y x
              | none => return false
            pure (front.count right.size (← gallop before right.size (front.place right.size)))
        | none => pure 0
      let merging := merging.takeRight rights
      if let some merged := merging.over? then
        return (merged, patience)
      let merging := merging.takeLeft 1
      if let some merged := merging.over? then
        return (merged, patience)
      if worthwhile ≤ max lefts rights then
        mergeStretches less fuel patience merging
      else
        mergeItems less fuel (patience + 1) 0 0 merging

end

/-- Merges two sorted runs. The items of the left run that come before the right one stay where
they are, as do those of the right run that come after the left one. The first item of the right
run comes first among the others, and the last item of the left run last.
-/
def merge {ε α : Type} (less : Less ε α) (patience : Nat) (left right : Array α)
    : Except ε (Array α × Nat) := do
  match right[0]? with
  | none => return (left, patience)
  | some first => do
      let notAfter : Test ε := fun i =>
        match left[i]? with
        | some x => return !(← less first x)
        | none => return false
      let start ← gallop notAfter left.size 0
      match left.back? with
      | none => return (right, patience)
      | some last => do
          if start = left.size then
            return (left ++ right, patience)
          let before : Test ε := fun i =>
            match right[i]? with
            | some y => less y last
            | none => return false
          let stop ← gallop before right.size (right.size - 1)
          if stop = 0 then
            return (left ++ right, patience)
          let lower := left.extract start left.size
          let upper := right.extract 0 stop
          let begun : Merging α :=
            if lower.size ≤ upper.size then
              Merging.takeRight { front := .low, left := lower, right := upper } 1
            else
              Merging.takeLeft { front := .high, left := lower, right := upper } 1
          let (merged, patience) ← match begun.over? with
            | some merged => pure (merged, patience)
            | none => mergeItems less (left.size + right.size) patience 0 0 begun
          return (left.extract 0 start ++ merged ++ right.extract stop right.size, patience)

end SqlShell.Sort
