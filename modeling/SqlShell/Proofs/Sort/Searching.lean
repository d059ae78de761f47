import SqlShell.Sort.Gallop

/-! Where the searches for a place end: where the places cease to pass, even if later ones pass
again. They fail only as the test of a place does.
-/

namespace SqlShell.Sort

variable {ε α β : Type} {fails : ε → Prop}

-----------------------------------------------------------------------------------------
-- Computations that may fail
-----------------------------------------------------------------------------------------

/-- The result is a value with the property, or a failure of the kind. -/
def Yields (fails : ε → Prop) (P : α → Prop) : Except ε α → Prop
  | .ok value => P value
  | .error problem => fails problem

theorem Yields.mono {P Q : α → Prop} {result : Except ε α} (h : Yields fails P result)
    (hpq : ∀ value, P value → Q value)
    : Yields fails Q result := by
  cases result with
  | ok value => exact hpq value h
  | error problem => exact h

/-- A computation after another one starts from a value that this one has yielded. -/
theorem Yields.bind {P : α → Prop} {Q : β → Prop} {result : Except ε α} {next : α → Except ε β}
    (h : Yields fails P result)
    (hn : ∀ value, result = .ok value → P value → Yields fails Q (next value))
    : Yields fails Q (result >>= next) := by
  cases result with
  | ok value => exact hn value rfl h
  | error problem => exact h

/-- A computation that fails only in the expected ways. -/
abbrev Answers (fails : ε → Prop) (result : Except ε α) : Prop :=
  Yields fails (fun _ => True) result

theorem Answers.map {result : Except ε α} (h : Answers fails result) (f : α → β)
    : Answers fails (do return f (← result)) :=
  h.bind fun _ _ _ => trivial

theorem eq_ok_of_not {result : Except ε Bool} {b : Bool} (h : (do return !(← result)) = .ok b)
    : result = .ok !b := by
  cases result with
  | error problem => cases h
  | ok value =>
      obtain rfl := Except.ok.inj h
      exact congrArg Except.ok (Bool.not_not value).symm

-----------------------------------------------------------------------------------------
-- Places where a sequence ceases to pass
-----------------------------------------------------------------------------------------

variable {passes : Test ε} {size low high most last next : Nat}

/-- The place lies within a sequence of so many places or at its end. The one before it passes, and
it does not pass itself.
-/
structure Ceases (passes : Test ε) (size place : Nat) : Prop where
  le : place ≤ size
  passed : 0 < place → passes (place - 1) = .ok true
  refused : place < size → passes place = .ok false

/-- Halving a stretch ends where places cease to pass, if that may be at both ends of the stretch.
By induction on the steps that are left, of which there are enough to use up the stretch.
-/
theorem yields_halve (h : ∀ place, Answers fails (passes place)) {fuel : Nat}
    (hlh : low ≤ high) (hsize : high ≤ size) (hfuel : high ≤ low + fuel)
    (hlow : 0 < low → passes (low - 1) = .ok true) (hhigh : high < size → passes high = .ok false)
    : Yields fails (Ceases passes size) (halve passes fuel low high) := by
  induction fuel generalizing low high with
  | zero =>
      obtain rfl : low = high := by omega
      exact ⟨hsize, hlow, hhigh⟩
  | succ fuel ih =>
      rw [halve]
      split
      · next hlt =>
          apply (h (low + (high - low) / 2)).bind
          intro passed hp _
          cases passed with
          | true =>
              apply ih (by omega) hsize (by omega) _ hhigh
              intro _
              simpa using hp
          | false =>
              apply ih (by omega) (by omega) (by omega) hlow
              intro _
              exact hp
      · next hge =>
          obtain rfl : low = high := by omega
          exact ⟨hsize, hlow, hhigh⟩

/-- A step that passes and a longer one that does not pass, or that is the longest one. -/
structure Straddles (passes : Test ε) (most : Nat) (steps : Nat × Nat) : Prop where
  lt : steps.1 < steps.2
  le : steps.2 ≤ most
  passed : passes steps.1 = .ok true
  refused : steps.2 < most → passes steps.2 = .ok false

/-- The longest step straddles a place with each shorter one that passes. -/
theorem straddles_most (hlast : last < most) (hnext : most ≤ next) (hp : passes last = .ok true)
    : Straddles passes most (last, min next most) := by
  have hmin : min next most = most := Nat.min_eq_right hnext
  rw [hmin]
  exact ⟨hlast, Nat.le_refl most, hp, fun hlt => absurd hlt (Nat.lt_irrefl most)⟩

/-- Steps of growing length end with two that straddle a place where steps cease to pass. By
induction on the steps that are left, of which there are enough to reach the longest one.
-/
theorem yields_stride (h : ∀ step, Answers fails (passes step)) {fuel : Nat} (hlast : last < most)
    (hnext : last < next) (hfuel : most ≤ next + fuel) (hp : passes last = .ok true)
    : Yields fails (Straddles passes most) (stride passes most fuel last next) := by
  induction fuel generalizing last next with
  | zero => exact straddles_most hlast hfuel hp
  | succ fuel ih =>
      rw [stride]
      split
      · next hlt =>
          apply (h next).bind
          intro passed hn _
          cases passed with
          | true => exact ih hlt (by omega) (by omega) hn
          | false => exact ⟨hnext, Nat.le_of_lt hlt, hp, fun _ => hn⟩
      · next hge => exact straddles_most hlast (Nat.le_of_not_lt hge) hp

/-- A search from a place that passes goes up: the stretch between the two steps is halved. -/
theorem yields_gallop_up (h : ∀ place, Answers fails (passes place)) {hint : Nat}
    (hhint : hint < size) {steps : Nat × Nat}
    (hs : Straddles (fun step => passes (hint + step)) (size - hint) steps)
    : Yields fails (Ceases passes size)
        (halve passes size (hint + steps.1 + 1) (hint + steps.2)) := by
  obtain ⟨hlt, hle, hpassed, hrefused⟩ := hs
  apply yields_halve h
  · omega
  · omega
  · omega
  · intro _
    exact hpassed
  · intro hhigh
    apply hrefused
    omega

/-- A search from a place that does not pass goes down, by the steps that do not pass. -/
theorem yields_gallop_down (h : ∀ place, Answers fails (passes place)) {hint : Nat}
    (hhint : hint < size) {steps : Nat × Nat}
    (hs : Straddles (fun step => return !(← passes (hint - step))) (hint + 1) steps)
    : Yields fails (Ceases passes size)
        (halve passes size (hint + 1 - steps.2) (hint - steps.1)) := by
  obtain ⟨hlt, hle, hpassed, hrefused⟩ := hs
  apply yields_halve h
  · omega
  · omega
  · omega
  · intro hlow
    have hp := eq_ok_of_not (hrefused (by omega))
    have hplace : hint + 1 - steps.2 - 1 = hint - steps.2 := by omega
    rw [hplace]
    exact hp
  · intro _
    exact eq_ok_of_not hpassed

/-- A search around a place ends where places cease to pass. -/
theorem yields_gallop (h : ∀ place, Answers fails (passes place)) {hint : Nat} (hhint : hint < size)
    : Yields fails (Ceases passes size) (gallop passes size hint) := by
  rw [gallop]
  apply (h hint).bind
  intro passed hp _
  cases passed with
  | true =>
      have hup : ∀ step, Answers fails (passes (hint + step)) := fun step => h _
      apply (yields_stride hup (Nat.sub_pos_of_lt hhint) Nat.one_pos (by omega) hp).bind
      intro steps _ hs
      exact yields_gallop_up h hhint hs
  | false =>
      have hdown : ∀ step, Answers fails (do return !(← passes (hint - step))) :=
        fun step => (h _).map not
      have hstart : (do return !(← passes (hint - 0)) : Except ε Bool) = .ok true := by
        rw [Nat.sub_zero, hp]
        rfl
      apply (yields_stride hdown (Nat.succ_pos hint) Nat.one_pos (by omega) hstart).bind
      intro steps _ hs
      exact yields_gallop_down h hhint hs

/-- In an empty sequence there is nothing to search. -/
theorem gallop_empty (h : passes 0 = .ok false) : gallop passes 0 0 = .ok 0 := by
  rw [gallop, h]
  rfl

end SqlShell.Sort
