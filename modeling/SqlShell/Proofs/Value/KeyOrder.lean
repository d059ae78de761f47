import SqlShell.Proofs.Value.KeyIdentity
import SqlShell.Value.Order
import Mathlib.Algebra.Order.Field.Basic
import Mathlib.Algebra.Order.Ring.Rat
import Mathlib.Data.List.Lex
import Mathlib.Data.Prod.Lex
import Mathlib.Order.WithBot
import Mathlib.Tactic.NormNum

/-! Which keys can be compared, and in which order they are. Keys are of kinds, and two of them can
be compared just if they are of one kind. Numbers that are none can be compared, but have no place
in the order.
-/

namespace SqlShell

/-- The kinds of keys that can be compared with each other. -/
inductive KeyKind where
  | number
  | text
  | bytes
  | date
  | moment (knowsOffset : Bool)
  deriving DecidableEq, Repr

/-- The kind of a key, if it can be compared at all. -/
def Value.kind? (x : Value) : Option KeyKind :=
  match x.amount? with
  | some _ => some .number
  | none =>
      match x with
      | .text _ => some .text
      | .bytes _ => some .bytes
      | .date _ => some .date
      | .moment time => some (.moment time.offset.isSome)
      | _ => none

-----------------------------------------------------------------------------------------
-- Numbers
-----------------------------------------------------------------------------------------

/-- The numbers with what is below and above all of them. -/
abbrev ExtendedNumber := WithBot (WithTop ℚ)

namespace ExtendedNumber

/-- A number among the extended ones. -/
def finite (q : ℚ) : ExtendedNumber :=
  ((q : WithTop ℚ) : WithBot (WithTop ℚ))

@[simp]
theorem finite_lt_finite {p q : ℚ} : finite p < finite q ↔ p < q := by
  rw [finite, finite, WithBot.coe_lt_coe, WithTop.coe_lt_coe]

@[simp]
theorem finite_lt_top (q : ℚ) : finite q < ⊤ :=
  WithBot.coe_lt_coe.mpr (WithTop.coe_lt_top q)

@[simp]
theorem bot_lt_finite (q : ℚ) : ⊥ < finite q :=
  WithBot.bot_lt_coe _

end ExtendedNumber

namespace Binary64

open ExtendedNumber (finite_lt_finite)

/-- The place of a floating point number in the order of numbers, unless it is none. -/
def rank? : Binary64 → Option ExtendedNumber
  | .nan => none
  | .infinity negative => some (if negative then ⊥ else ⊤)
  | .finite negative significand exponent =>
      match ratio? (.finite negative significand exponent) with
      | some (num, den) => some (.finite (mkRat num den))
      | none => none

theorem rank?_finite {negative : Bool} {significand : Nat} {exponent num : Int} {den : Nat}
    (h : ratio? (.finite negative significand exponent) = some (num, den))
    : rank? (.finite negative significand exponent) = some (.finite (mkRat num den)) := by
  rw [rank?, h]

theorem mkRat_lt_mkRat {a c : Int} {b d : Nat} (hb : b ≠ 0) (hd : d ≠ 0)
    : mkRat a b < mkRat c d ↔ a * d < c * b := by
  have hb' : (0 : ℚ) < b := Nat.cast_pos.mpr (Nat.pos_of_ne_zero hb)
  have hd' : (0 : ℚ) < d := Nat.cast_pos.mpr (Nat.pos_of_ne_zero hd)
  rw [Rat.mkRat_eq_div, Rat.mkRat_eq_div, div_lt_div_iff₀ hb' hd']
  norm_cast

/-- One number is less than another if its place is, by cases of both. -/
theorem less_iff (x y : Binary64)
    : x.less y = true ↔ ∃ r ∈ x.rank?, ∃ s ∈ y.rank?, r < s := by
  cases x with
  | nan => cases y <;> simp [less, ratio?, rank?]
  | infinity negative =>
      cases y with
      | nan => simp [less, ratio?, rank?]
      | infinity other => cases negative <;> cases other <;> simp [less, ratio?, rank?]
      | finite other size place => cases negative <;> simp [less, ratio?, rank?]
  | finite negative significand exponent =>
      obtain ⟨a, b, hx, hb⟩ := exists_ratio negative significand exponent
      cases y with
      | nan => simp [less, ratio?, rank?]
      | infinity other => cases other <;> simp [less, ratio?, rank?]
      | finite other size place =>
          obtain ⟨c, d, hy, hd⟩ := exists_ratio other size place
          simp [less, hx, hy, rank?_finite hx, rank?_finite hy, mkRat_lt_mkRat hb hd]

theorem lessInt_iff (x : Binary64) (n : Int)
    : x.lessInt n = true ↔ ∃ r ∈ x.rank?, r < ExtendedNumber.finite n := by
  cases x with
  | nan => simp [lessInt, ratio?, rank?]
  | infinity negative => cases negative <;> simp [lessInt, ratio?, rank?]
  | finite negative significand exponent =>
      obtain ⟨a, b, hx, hb⟩ := exists_ratio negative significand exponent
      have hn : mkRat a b < (n : ℚ) ↔ a < n * b := by
        rw [← Rat.mkRat_one, mkRat_lt_mkRat hb Nat.one_ne_zero]
        simp
      simp [lessInt, hx, rank?_finite hx, hn]

theorem intLess_iff (n : Int) (x : Binary64)
    : intLess n x = true ↔ ∃ s ∈ x.rank?, ExtendedNumber.finite n < s := by
  cases x with
  | nan => simp [intLess, ratio?, rank?]
  | infinity negative => cases negative <;> simp [intLess, ratio?, rank?]
  | finite negative significand exponent =>
      obtain ⟨a, b, hx, hb⟩ := exists_ratio negative significand exponent
      have hn : (n : ℚ) < mkRat a b ↔ n * b < a := by
        rw [← Rat.mkRat_one, mkRat_lt_mkRat Nat.one_ne_zero hb]
        simp
      simp [intLess, hx, rank?_finite hx, hn]

end Binary64

/-- The place of an amount in the order of numbers, unless it is none. -/
def Amount.rank? : Amount → Option ExtendedNumber
  | .whole n => some (.finite n)
  | .real x => x.rank?

theorem Amount.less_iff (a b : Amount) : a.less b = true ↔ ∃ r ∈ a.rank?, ∃ s ∈ b.rank?, r < s := by
  cases a with
  | whole m =>
      cases b with
      | whole n => simp [less, rank?]
      | real y => simpa [less, rank?] using Binary64.intLess_iff m y
  | real x =>
      cases b with
      | whole n => simpa [less, rank?] using Binary64.lessInt_iff x n
      | real y => exact Binary64.less_iff x y

-----------------------------------------------------------------------------------------
-- Keys
-----------------------------------------------------------------------------------------

namespace Value

/-- The places of keys of one kind: numbers first, texts by their codes. -/
abbrev Rank := ExtendedNumber ×ₗ List ℕ

/-- The place of a key in the order of its kind, unless it is a number that is none. -/
def rank? (x : Value) : Option Rank :=
  match x.amount? with
  | some amount => amount.rank?.map fun number => toLex (number, [])
  | none =>
      match x with
      | .text s => some (toLex (⊥, s.toList.map Char.toNat))
      | .bytes data => some (toLex (⊥, data.map UInt8.toNat))
      | .date day => some (toLex (.finite day.dayNumber, []))
      | .moment time => some (toLex (.finite time.instant, []))
      | _ => none

theorem lexLess_iff (xs ys : List Nat) : lexLess xs ys = true ↔ xs < ys := by
  induction xs generalizing ys with
  | nil => cases ys <;> simp [lexLess]
  | cons x xs ih =>
      cases ys with
      | nil => simp [lexLess]
      | cons y ys => simp [lexLess, ih, List.cons_lt_cons_iff]

/-- Numbers of any type can be compared. -/
theorem precedes_amounts {x y : Value} {a c : Amount} (hx : x.amount? = some a)
    (hy : y.amount? = some c)
    : x.precedes y = .ok (a.less c) := by
  unfold precedes
  rw [hx, hy]

theorem rank?_amount {x : Value} {a : Amount} (h : x.amount? = some a)
    : x.rank? = a.rank?.map fun number => toLex (number, []) := by
  unfold rank?
  rw [h]

/-- What the keys of a kind are. -/
def IsOfKind (x : Value) : KeyKind → Prop
  | .number => ∃ a, x.amount? = some a
  | .text => ∃ s, x = .text s
  | .bytes => ∃ data, x = .bytes data
  | .date => ∃ day, x = .date day
  | .moment knowsOffset => ∃ time, x = .moment time ∧ time.offset.isSome = knowsOffset

theorem isOfKind_of_kind? {x : Value} {kind : KeyKind} (h : x.kind? = some kind)
    : x.IsOfKind kind := by
  cases x <;> simp [kind?, amount?] at h <;> subst h <;> simp [IsOfKind, amount?]

/-- Two keys of one kind can be compared, and the first one precedes the second one if its place
does.
-/
theorem precedes_of_kind {x y : Value} {kind : KeyKind} (hx : x.kind? = some kind)
    (hy : y.kind? = some kind)
    : ∃ b, x.precedes y = .ok b ∧ (b = true ↔ ∃ r ∈ x.rank?, ∃ s ∈ y.rank?, r < s) := by
  have hx := isOfKind_of_kind? hx
  have hy := isOfKind_of_kind? hy
  cases kind with
  | number =>
      obtain ⟨a, ha⟩ := hx
      obtain ⟨c, hc⟩ := hy
      refine ⟨_, precedes_amounts ha hc, ?_⟩
      rw [Amount.less_iff, rank?_amount ha, rank?_amount hc]
      simp [Prod.Lex.toLex_lt_toLex]
  | text =>
      obtain ⟨s, rfl⟩ := hx
      obtain ⟨t, rfl⟩ := hy
      refine ⟨_, rfl, ?_⟩
      simp [rank?, amount?, lexLess_iff, Prod.Lex.toLex_lt_toLex]
  | bytes =>
      obtain ⟨s, rfl⟩ := hx
      obtain ⟨t, rfl⟩ := hy
      refine ⟨_, rfl, ?_⟩
      simp [rank?, amount?, lexLess_iff, Prod.Lex.toLex_lt_toLex]
  | date =>
      obtain ⟨s, rfl⟩ := hx
      obtain ⟨t, rfl⟩ := hy
      refine ⟨_, rfl, ?_⟩
      simp [rank?, amount?, Prod.Lex.toLex_lt_toLex]
  | moment knowsOffset =>
      obtain ⟨s, rfl, hs⟩ := hx
      obtain ⟨t, rfl, ht⟩ := hy
      have hclocks : (s.offset.isSome == t.offset.isSome) = true := by rw [hs, ht, beq_self_eq_true]
      refine ⟨_, if_pos hclocks, ?_⟩
      simp [rank?, amount?, Prod.Lex.toLex_lt_toLex]

/-- Only keys of one kind can be compared. -/
theorem kind_of_precedes {x y : Value} {b : Bool} (h : x.precedes y = .ok b)
    : ∃ kind, x.kind? = some kind ∧ y.kind? = some kind := by
  cases x <;> cases y <;> simp [precedes, amount?] at h <;> simp [kind?, amount?]
  split at h
  · next hclocks => exact hclocks.symm
  · cases h

/-- A key that precedes another one does not follow it. -/
theorem precedes_asymm {x y : Value} (h : x.precedes y = .ok true) : y.precedes x = .ok false := by
  obtain ⟨kind, hx, hy⟩ := kind_of_precedes h
  obtain ⟨b, hb, hless⟩ := precedes_of_kind hx hy
  obtain ⟨c, hc, hmore⟩ := precedes_of_kind hy hx
  obtain rfl := Except.ok.inj (h.symm.trans hb)
  obtain ⟨r, hr, s, hs, hlt⟩ := hless.mp rfl
  cases c with
  | false => exact hc
  | true =>
      obtain ⟨s', hs', r', hr', hgt⟩ := hmore.mp rfl
      obtain rfl := Option.some.inj (hr.symm.trans hr')
      obtain rfl := Option.some.inj (hs.symm.trans hs')
      exact absurd hgt (not_lt_of_gt hlt)

/-- If one key does not follow another, and that one not a third, then neither does the first follow
the third. The one between them has to have a place in the order.
-/
theorem precedes_false_trans {x y z : Value} (hplaced : y.rank?.isSome = true)
    (hxy : y.precedes x = .ok false) (hyz : z.precedes y = .ok false)
    : z.precedes x = .ok false := by
  obtain ⟨kind, hy, hx⟩ := kind_of_precedes hxy
  obtain ⟨other, hz, hy'⟩ := kind_of_precedes hyz
  obtain rfl := Option.some.inj (hy.symm.trans hy')
  obtain ⟨b, hb, hyx⟩ := precedes_of_kind hy hx
  obtain ⟨c, hc, hzy⟩ := precedes_of_kind hz hy
  obtain ⟨d, hd, hzx⟩ := precedes_of_kind hz hx
  obtain rfl := Except.ok.inj (hxy.symm.trans hb)
  obtain rfl := Except.ok.inj (hyz.symm.trans hc)
  obtain ⟨q, hq⟩ := Option.isSome_iff_exists.mp hplaced
  cases d with
  | false => exact hd
  | true =>
      obtain ⟨s, hs, r, hr, hsr⟩ := hzx.mp rfl
      have hqr : ¬ q < r := fun hlt => Bool.false_ne_true (hyx.mpr ⟨q, hq, r, hr, hlt⟩)
      have hsq : ¬ s < q := fun hlt => Bool.false_ne_true (hzy.mpr ⟨s, hs, q, hq, hlt⟩)
      exact absurd (hsr.trans_le (not_lt.mp hqr)) hsq

/-- The value is a number that is none. -/
def isNaN : Value → Bool
  | .notNumber => true
  | .float .nan => true
  | _ => false

/-- All keys that can be compared have a place in the order, but numbers that are none. -/
theorem isSome_rank?_of_kind {x : Value} {kind : KeyKind} (hk : x.kind? = some kind)
    (hn : x.isNaN = false)
    : x.rank?.isSome = true := by
  cases x with
  | float number =>
      cases number with
      | nan => cases hn
      | infinity negative => rfl
      | finite negative significand exponent => rfl
  | notNumber => cases hn
  | _ => first | rfl | cases hk

end Value

end SqlShell
