/-!
Finding a place among sorted items. Comparisons may fail, and which pair of items fails first is
told to the user, so these searches say exactly which places they look at, and in which order.
-/

namespace SqlShell.Sort

/-- A test of the places of a sequence that may fail. The places that pass it come first. -/
abbrev Test (ε : Type) := Nat → Except ε Bool

/-- The first place from `low` to `high` that does not pass, found by halving the stretch. -/
def halve {ε : Type} (passes : Test ε) : Nat → Nat → Nat → Except ε Nat
  | 0, low, _ => .ok low
  | fuel + 1, low, high =>
      if low < high then do
        let middle := low + (high - low) / 2
        if ← passes middle then halve passes fuel (middle + 1) high
        else halve passes fuel low middle
      else
        .ok low

/-- Steps of growing length, each twice the one before and one more, as long as they lead to places
that pass and stay below `most`: the last length that passed, and the one that did not.
-/
def stride {ε : Type} (passes : Test ε) (most : Nat) : Nat → Nat → Nat → Except ε (Nat × Nat)
  | 0, last, next => .ok (last, min next most)
  | fuel + 1, last, next =>
      if next < most then do
        if ← passes next then stride passes most fuel next (2 * next + 1)
        else return (last, next)
      else
        .ok (last, min next most)

/-- The first of `size` places that does not pass, looked for around the place `hint` before the
stretch that is left is halved.
-/
def gallop {ε : Type} (passes : Test ε) (size hint : Nat) : Except ε Nat := do
  if ← passes hint then
    let (last, next) ← stride (fun step => passes (hint + step)) (size - hint) size 0 1
    halve passes size (hint + last + 1) (hint + next)
  else
    let (last, next) ← stride (fun step => return !(← passes (hint - step))) (hint + 1) size 0 1
    halve passes size (hint + 1 - next) (hint - last)

example : (gallop (fun i => .ok (i < 5) : Test Unit) 9 0).toOption = some 5 := by decide
example : (gallop (fun i => .ok (i < 5) : Test Unit) 9 8).toOption = some 5 := by decide

end SqlShell.Sort
