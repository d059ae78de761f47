import SqlShell.Sort.Merge

/-!
Sorting by runs: the items are cut into runs that rise already, short ones are made longer by
putting items in one after another, and neighbouring runs are merged.
-/

namespace SqlShell.Sort

/-- The length of the run at the start of the items after the given one, each item standing to
its predecessor as `down` says.
-/
def runLength {ε α : Type} (less : Less ε α) (down : Bool) : α → List α → Except ε Nat
  | _, [] => .ok 0
  | previous, item :: rest => do
      if (← less item previous) == down then
        return (← runLength less down item rest) + 1
      else
        return 0

/-- The sorted items with the remaining ones put in one after another, each after those that equal
it.
-/
def insertItems {ε α : Type} (less : Less ε α) : List α → Array α → Except ε (Array α)
  | [], sorted => .ok sorted
  | item :: rest, sorted => do
      let notAfter : Test ε := fun i =>
        match sorted[i]? with
        | some x => return !(← less item x)
        | none => return false
      let place ← halve notAfter (sorted.size + 1) 0 sorted.size
      insertItems less rest
        (sorted.extract 0 place ++ #[item] ++ sorted.extract place sorted.size)

/-- The sorted run at the start of the items, with the items after it. A falling run is turned
around. A run of less than the least length is made as long as that, if there are more items.
-/
def takeRun {ε α : Type} (less : Less ε α) (least : Nat) :
    List α → Except ε (Array α × List α)
  | [] => .ok (#[], [])
  | [item] => .ok (#[item], [])
  | first :: second :: rest => do
      let down ← less second first
      let length := (← runLength less down second rest) + 2
      let items := first :: second :: rest
      let run := items.take length
      let sorted := (if down then run.reverse else run).toArray
      let (more, after) := (items.drop length).splitAt (least - length)
      return (← insertItems less more sorted, after)

/-- From so many items on, runs need not be as long as all items together. -/
def manyItems : Nat := 64

/-- The least length of runs of so many items: their number halved until it is below the limit,
and one more if halving lost anything.
-/
def leastRun (size : Nat) : Nat :=
  halveSize size size 0
where
  halveSize : Nat → Nat → Nat → Nat
    | 0, size, lost => size + lost
    | fuel + 1, size, lost =>
        if size < manyItems then size + lost
        else halveSize fuel (size / 2) (max lost (size % 2))

/-- The depth of the place between two neighbouring runs in a balanced tree over all items: the
number of binary digits up to which the middles of both runs, as fractions of the size, agree.
-/
def depthBetween (size start first second : Nat) : Nat :=
  firstDifference (size + 2) (2 * start + first) (2 * start + 2 * first + second)
where
  firstDifference : Nat → Nat → Nat → Nat
    | 0, _, _ => 1
    | fuel + 1, a, b =>
        if size ≤ a then firstDifference fuel (2 * (a - size)) (2 * (b - size)) + 1
        else if size ≤ b then 1
        else firstDifference fuel (2 * a) (2 * b) + 1

/-- A sorted run, the place where it starts, and the depth of the place after it. -/
structure Run (α : Type) where
  start : Nat
  items : Array α
  depth : Nat := 0

/-- The runs so far, the last one first, and the patience of merges. -/
structure Runs (α : Type) where
  stack : List (Run α) := []
  patience : Nat := worthwhile

namespace Runs

/-- The run that two neighbouring ones become, with the patience that is left. -/
def join {ε α : Type} (less : Less ε α) (patience : Nat) (left right : Run α) :
    Except ε (Run α × Nat) := do
  let (items, patience) ← merge less patience left.items right.items
  return ({ left with items }, patience)

/-- Merges the last two runs while the place between them is deeper than the given one. -/
def collapse {ε α : Type} (less : Less ε α) (depth : Nat) : Nat → Runs α → Except ε (Runs α)
  | 0, runs => .ok runs
  | fuel + 1, runs => do
      match runs.stack with
      | right :: left :: rest =>
          if depth < left.depth then
            let (run, patience) ← join less runs.patience left right
            collapse less depth fuel { stack := run :: rest, patience }
          else
            return runs
      | _ => return runs

/-- Takes in the next run, which starts at the given place of so many items. -/
def push {ε α : Type} (less : Less ε α) (size start : Nat) (items : Array α) (runs : Runs α) :
    Except ε (Runs α) := do
  match runs.stack with
  | [] => return { runs with stack := [{ start, items }] }
  | last :: _ => do
      let depth := depthBetween size last.start last.items.size items.size
      let runs ← collapse less depth runs.stack.length runs
      match runs.stack with
      | last :: rest =>
          return { runs with stack := { start, items } :: { last with depth } :: rest }
      | [] => return { runs with stack := [{ start, items }] }

/-- Merges all runs, two of the last three at a time: the shorter of the outer ones with the one
between them.
-/
def mergeAll {ε α : Type} (less : Less ε α) : Nat → Runs α → Except ε (Array α)
  | 0, runs => .ok ((runs.stack.map Run.items).headD #[])
  | fuel + 1, runs => do
      match runs.stack with
      | last :: second :: third :: rest =>
          if third.items.size < last.items.size then
            let (run, patience) ← join less runs.patience third second
            mergeAll less fuel { stack := last :: run :: rest, patience }
          else
            let (run, patience) ← join less runs.patience second last
            mergeAll less fuel { stack := run :: third :: rest, patience }
      | [last, second] => return (← join less runs.patience second last).1.items
      | [last] => return last.items
      | [] => return #[]

/-- Takes in all runs of the items that are left. -/
def gather {ε α : Type} (less : Less ε α) (size : Nat) :
    Nat → Nat → List α → Runs α → Except ε (Runs α)
  | 0, _, _, runs => .ok runs
  | _, _, [], runs => .ok runs
  | fuel + 1, start, items, runs => do
      let (run, rest) ← takeRun less (leastRun size) items
      gather less size fuel (start + run.size) rest (← push less size start run runs)

end Runs

/-- The items in rising order, equal ones in the order in which they were. -/
def sorted {ε α : Type} (less : Less ε α) (items : List α) : Except ε (List α) := do
  let runs ← Runs.gather less items.length items.length 0 items {}
  return (← runs.mergeAll less runs.stack.length).toList

example : (sorted (fun x y => .ok (x < y) : Less Unit Nat) [3, 1, 2]).toOption
    = some [1, 2, 3] := by decide

end SqlShell.Sort
