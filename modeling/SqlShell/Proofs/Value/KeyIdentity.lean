import SqlShell.Value.Entries

/-! What makes two values one key. Each value that can be found again has an identity, and two
values are one key just if they have the same one: numbers are told by their value alone, whatever
their type.
-/

namespace SqlShell

/-- What a key is told by. -/
inductive KeyIdentity where
  | null
  | number (value : Rat)
  | infinity (negative : Bool)
  | notNumber
  | text (s : String)
  | bytes (data : List UInt8)
  | date (date : Date)
  | moment (knowsOffset : Bool) (instant : Int)
  deriving DecidableEq, Repr

/-- The key is told by a number, or by its being none. -/
def KeyIdentity.isNumeric : KeyIdentity → Bool
  | .number _ => true
  | .infinity _ => true
  | .notNumber => true
  | _ => false

namespace Binary64

/-- What a floating point number is told by; a result that is no number is not even itself. -/
def identity? : Binary64 → Option KeyIdentity
  | .nan => none
  | .infinity negative => some (.infinity negative)
  | .finite negative significand exponent =>
      (ratio? (.finite negative significand exponent)).map fun (num, den) => .number (mkRat num den)

theorem scale_den_ne_zero (num : Nat) (exponent : Int) : (scale num 1 exponent).2 ≠ 0 := by
  rw [scale]
  split
  · exact Nat.ne_of_gt (Nat.mul_pos Nat.one_pos (Nat.pow_pos Nat.two_pos))
  · exact Nat.one_ne_zero

theorem exists_ratio (negative : Bool) (significand : Nat) (exponent : Int)
    : ∃ num den, ratio? (.finite negative significand exponent) = some (num, den) ∧ den ≠ 0 :=
  ⟨_, _, rfl, scale_den_ne_zero significand (-exponent)⟩

theorem same_iff (x y : Binary64)
    : x.same y = true ↔ x.identity?.isSome = true ∧ x.identity? = y.identity? := by
  cases x with
  | nan => cases y <;> simp [same, ratio?, identity?]
  | infinity negative =>
      cases y with
      | nan => simp [same, ratio?, identity?]
      | infinity other => simp [same, ratio?, identity?]
      | finite other size place => simp [same, ratio?, identity?]
  | finite negative significand exponent =>
      obtain ⟨a, b, hx, hb⟩ := exists_ratio negative significand exponent
      cases y with
      | nan => simp [same, ratio?, identity?]
      | infinity other => simp [same, ratio?, identity?]
      | finite other size place =>
          obtain ⟨c, d, hy, hd⟩ := exists_ratio other size place
          simp [same, identity?, hx, hy, Rat.mkRat_eq_iff hb hd]

theorem sameInt_iff (x : Binary64) (n : Int)
    : x.sameInt n = true ↔ x.identity? = some (.number n) := by
  cases x with
  | nan => simp [sameInt, ratio?, identity?]
  | infinity negative => simp [sameInt, ratio?, identity?]
  | finite negative significand exponent =>
      obtain ⟨a, b, hx, hb⟩ := exists_ratio negative significand exponent
      simp [sameInt, identity?, hx, ← Rat.mkRat_one, Rat.mkRat_eq_iff hb Nat.one_ne_zero]

end Binary64

/-- What an amount is told by. -/
def Amount.identity? : Amount → Option KeyIdentity
  | .whole n => some (.number n)
  | .real x => x.identity?

theorem Amount.same_iff (a b : Amount)
    : a.same b = true ↔ a.identity?.isSome = true ∧ a.identity? = b.identity? := by
  cases a with
  | whole m =>
      cases b with
      | whole n => simp [same, identity?]
      | real y => simpa [same, identity?, Binary64.sameInt_iff] using Eq.comm
  | real x =>
      cases b with
      | whole n =>
          simp only [same, identity?, Binary64.sameInt_iff, iff_and_self]
          exact fun h => h ▸ rfl
      | real y => exact Binary64.same_iff x y

theorem Amount.isNumeric_identity {a : Amount} {identity : KeyIdentity}
    (h : a.identity? = some identity)
    : identity.isNumeric = true ∧ identity ≠ .notNumber := by
  rcases a with n | (_ | negative | ⟨negative, significand, exponent⟩)
  · obtain rfl := Option.some.inj h
    exact ⟨rfl, nofun⟩
  · exact nomatch h
  · obtain rfl := Option.some.inj h
    exact ⟨rfl, nofun⟩
  · obtain rfl := Option.some.inj h
    exact ⟨rfl, nofun⟩

namespace Value

/-- What a value that is no number is told by; lists and maps are not told at all. -/
def plainIdentity? : Value → Option KeyIdentity
  | .null => some .null
  | .text s => some (.text s)
  | .bytes data => some (.bytes data)
  | .date day => some (.date day)
  | .moment time => some (.moment time.offset.isSome time.instant)
  | _ => none

/-- What a value is told by as a key. -/
def identity? (x : Value) : Option KeyIdentity :=
  match x.amount? with
  | some amount => if x.isNotNumber then some .notNumber else amount.identity?
  | none => x.plainIdentity?

theorem isNumeric_plainIdentity {x : Value} {identity : KeyIdentity}
    (h : x.plainIdentity? = some identity)
    : identity.isNumeric = false := by
  cases x <;> simp [plainIdentity?] at h <;> subst h <;> rfl

theorem identity?_amount {x : Value} {a : Amount} (h : x.amount? = some a)
    : x.identity? = if x.isNotNumber then some .notNumber else a.identity? := by
  rw [identity?, h]

theorem identity?_plain {x : Value} (h : x.amount? = none) : x.identity? = x.plainIdentity? := by
  rw [identity?, h]

theorem identity?_of_isNotNumber {x : Value} {a : Amount} (h : x.amount? = some a)
    (hn : x.isNotNumber = true)
    : a.identity? = none := by
  cases x <;> simp [isNotNumber] at hn
  obtain rfl := Option.some.inj h
  rfl

theorem sameKey_amounts {x y : Value} {a b : Amount} (hx : x.amount? = some a)
    (hy : y.amount? = some b)
    : x.sameKey y = true ↔ x.identity?.isSome = true ∧ x.identity? = y.identity? := by
  have hkey : x.sameKey y = (a.same b || (x.isNotNumber && y.isNotNumber)) := by
    unfold sameKey
    rw [hx, hy]
  rw [hkey, Bool.or_eq_true, Amount.same_iff, Bool.and_eq_true, identity?_amount hx,
    identity?_amount hy]
  cases hm : x.isNotNumber with
  | true =>
      rw [identity?_of_isNotNumber hx hm]
      cases hn : y.isNotNumber with
      | true => simp
      | false => simpa using fun he => (Amount.isNumeric_identity (Eq.symm he)).2 rfl
  | false =>
      cases hn : y.isNotNumber with
      | true =>
          rw [identity?_of_isNotNumber hy hn]
          cases ha : a.identity? with
          | none => simp
          | some identity => simpa using (Amount.isNumeric_identity ha).2
      | false => simp

/-- No number is the same key as what is none. -/
theorem identity?_ne {x y : Value} {a : Amount} (hx : x.amount? = some a) (hy : y.amount? = none)
    (hs : x.identity?.isSome = true)
    : x.identity? ≠ y.identity? := by
  intro he
  obtain ⟨identity, hi⟩ := Option.isSome_iff_exists.mp hs
  have hplain : identity.isNumeric = false := by
    rw [he, identity?_plain hy] at hi
    exact isNumeric_plainIdentity hi
  rw [identity?_amount hx] at hi
  split at hi
  · obtain rfl := Option.some.inj hi
    exact absurd hplain nofun
  · rw [(Amount.isNumeric_identity hi).1] at hplain
    exact absurd hplain nofun

theorem sameKey_plain {x y : Value} (hx : x.amount? = none) (hy : y.amount? = none)
    : x.sameKey y = true ↔ x.identity?.isSome = true ∧ x.identity? = y.identity? := by
  rw [identity?_plain hx, identity?_plain hy]
  unfold sameKey
  rw [hx, hy]
  dsimp only
  split
  · exact ⟨fun _ => ⟨rfl, rfl⟩, fun _ => rfl⟩
  · simp [plainIdentity?]
  · simp [plainIdentity?]
  · simp [plainIdentity?]
  · simp [plainIdentity?, Moment.same]
  · cases x <;> simp [plainIdentity?]
    all_goals cases y <;> simp_all

/-- Two values are one key just if they have the same identity. -/
theorem sameKey_iff (x y : Value)
    : x.sameKey y = true ↔ x.identity?.isSome = true ∧ x.identity? = y.identity? := by
  cases hx : x.amount? with
  | some a =>
      cases hy : y.amount? with
      | some b => exact sameKey_amounts hx hy
      | none =>
          have hkey : x.sameKey y = false := by
            unfold sameKey
            rw [hx, hy]
          rw [hkey]
          exact ⟨nofun, fun h => absurd h.2 (identity?_ne hx hy h.1)⟩
  | none =>
      cases hy : y.amount? with
      | some b =>
          have hkey : x.sameKey y = false := by
            unfold sameKey
            rw [hx, hy]
          rw [hkey]
          exact ⟨nofun, fun h => absurd h.2.symm (identity?_ne hy hx (h.2 ▸ h.1))⟩
      | none => exact sameKey_plain hx hy

/-- A value is the same key as itself unless it has no identity. -/
theorem sameKey_self (x : Value) : x.sameKey x = false ↔ x.identity? = none := by
  rw [← Bool.not_eq_true, sameKey_iff]
  simp

/-- Only a text is the same key as a text. -/
theorem sameKey_text_iff (x : Value) (s : String) : x.sameKey (.text s) = true ↔ x = .text s := by
  cases x <;> simp [sameKey, amount?]

theorem sameKey_comm (x y : Value) : x.sameKey y = y.sameKey x := by
  have hiff : x.sameKey y = true ↔ y.sameKey x = true := by
    rw [sameKey_iff, sameKey_iff]
    exact ⟨fun h => ⟨h.2 ▸ h.1, h.2.symm⟩, fun h => ⟨h.2 ▸ h.1, h.2.symm⟩⟩
  exact Bool.eq_iff_iff.mpr hiff

/-- Values that are one key are the same key as just the same values. -/
theorem sameKey_congr {x y : Value} (h : x.sameKey y = true) (z : Value) : x.sameKey z = y.sameKey z := by
  have hiff : x.sameKey z = true ↔ y.sameKey z = true := by
    rw [sameKey_iff, sameKey_iff, ((sameKey_iff x y).mp h).2]
  exact Bool.eq_iff_iff.mpr hiff

end Value

end SqlShell
