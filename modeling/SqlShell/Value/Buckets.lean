import SqlShell.Value.Hash

/-!
The order in which a set lists its items. Each item goes to the first free one of the places that
its hash leads to, and the places are listed in order.
-/

namespace SqlShell

namespace Buckets

/-- The least number of places. -/
def leastSize : Nat := 8

/-- The number of places after one that are looked at with it. -/
def windowSize : Nat := 9

/-- The least of the doubled sizes that is greater than a bound, doubling at most so many times. -/
def sizeAbove (bound : Nat) : Nat → Nat → Nat
  | 0, size => size
  | steps + 1, size => if size ≤ bound then sizeAbove bound steps (2 * size) else size

/-- The number of places for so many items: at least a third of the least number stays free, and
more than half of a greater one.
-/
def sizeFor (count : Nat) : Nat :=
  if count * 5 < (leastSize - 1) * 3 then leastSize
  else sizeAbove (2 * count) count leastSize

/-- The places that are looked at together from one on. At the end it is that one alone. -/
def window (size place : Nat) : List Nat :=
  if place + windowSize < size then (List.range (windowSize + 1)).map (place + ·) else [place]

/-- The first free place on the way of a hash, after at most so many windows. What is left of the
hash sends the way on from each window.
-/
def freePlace? (taken : Array (Option Value)) : Nat → Nat → Nat → Option Nat
  | 0, _, _ => none
  | steps + 1, place, rest =>
      match (window taken.size place).find? fun place => (taken[place]?.getD none).isNone with
      | some free => some free
      | none =>
          let rest := rest / 32
          freePlace? taken steps ((place * 5 + 1 + rest) % taken.size) rest

/-- The places after one more item. -/
def insert (taken : Array (Option Value)) (item : Value) (hash : Nat) : Array (Option Value) :=
  match freePlace? taken (taken.size + 64) (hash % taken.size) hash with
  | some free => taken.setIfInBounds free (some item)
  | none => taken

end Buckets

/-- The items of a set as the set lists them. Where a hash is not always the same they stay in the
order of insertion.
-/
def Value.listed (items : List Value) : List Value :=
  match items.mapM fun item => item.hash?.map fun hash => (item, hash) with
  | none => items
  | some hashed =>
      let places := Array.replicate (Buckets.sizeFor items.length) none
      let places := hashed.foldl (fun taken (item, hash) => Buckets.insert taken item hash) places
      places.toList.filterMap id

end SqlShell
