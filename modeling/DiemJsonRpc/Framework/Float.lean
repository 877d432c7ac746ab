import Mathlib.Algebra.Order.Ring.Rat
import Mathlib.Algebra.Order.Ring.Cast

/-!
# Python floats

`time.time()` returns a float; `Retry` multiplies its float `delay_secs` by the number of tries,
`wait_for_transaction2` adds a float timeout to a clock reading, and `time.sleep` turns its
argument into whole nanoseconds, which must fit in 64 bits.  Each of these is an IEEE 754
binary64 operation rounded to nearest, ties to even, and the client's control flow follows the
rounded values: the deadline `start_time + timeout_secs` is not the exact sum, and a sleep of
`1e10` seconds overflows.

A finite `Double` is `mant * 2 ^ exp` with a 53-bit signed significand and the format's exponent
range, both carried as fields.  `PyFloat` adds the two infinities and NaN.  Rounding works on
integers only (`roundDyadic`): an operation builds its exact result as an integer times a power
of two, or, for a quotient, as enough of its bits and a sticky bit (`roundFraction`), and rounds
once.  Everything here computes, so `decide` evaluates the client's arithmetic on given values.

The sign of a zero and the payload of a NaN are not modelled: nothing the client does tells them
apart.
-/

namespace DiemJsonRpc

/-- The number of binary digits of `n`, found 32 bits at a time. -/
def bitLength (n : ℕ) : ℕ := go n n
where
  /-- At most `fuel` chunks of 32 bits. -/
  go : ℕ → ℕ → ℕ
    | 0, _ => 0
    | fuel + 1, m => if m < 2 ^ 32 then small 32 m else go fuel (m >>> 32) + 32
  /-- The digits of `m < 2 ^ k`, one at a time. -/
  small : ℕ → ℕ → ℕ
    | 0, _ => 0
    | k + 1, m => if m = 0 then 0 else small k (m >>> 1) + 1

lemma bitLength.small_bound : ∀ k m, m < 2 ^ k → m < 2 ^ small k m
  | 0, _, h => h
  | k + 1, m, h => by
    unfold small
    split_ifs with h0
    · simp [h0]
    · have ih := small_bound k (m >>> 1) (by rw [Nat.pow_succ] at h; omega)
      rw [Nat.pow_succ]
      omega

lemma bitLength.go_bound : ∀ fuel m, m ≤ fuel → m < 2 ^ go fuel m
  | 0, m, h => by simp [go]; omega
  | fuel + 1, m, h => by
    unfold go
    split_ifs with hm
    · exact small_bound 32 m hm
    · have hq : m >>> 32 = m / 2 ^ 32 := Nat.shiftRight_eq_div_pow m 32
      have ih := go_bound fuel (m >>> 32) (by rw [hq]; omega)
      rw [hq, Nat.div_lt_iff_lt_mul (Nat.two_pow_pos 32)] at ih
      rw [hq, Nat.pow_add]
      exact ih

lemma lt_two_pow_bitLength (n : ℕ) : n < 2 ^ bitLength n := bitLength.go_bound n n (Nat.le_refl n)

/-- `m / 2 ^ k` rounded to the nearest integer, ties to the even one. -/
def roundShift (m : ℕ) : ℕ → ℕ
  | 0 => m
  | k + 1 =>
    let q := m >>> (k + 1)
    let r := m - q <<< (k + 1)
    if r < 1 <<< k ∨ (r = 1 <<< k ∧ q % 2 = 0) then q else q + 1

lemma roundShift_le (m k : ℕ) : roundShift m k ≤ m / 2 ^ k + 1 := by
  cases k with
  | zero => simp [roundShift]
  | succ k =>
    simp only [roundShift, Nat.shiftRight_eq_div_pow]
    split_ifs <;> omega

/-- The exponent of the last place of `m * 2 ^ e` written with 53 significant bits, but not
below the last place of the subnormals. -/
def lastPlace (m : ℕ) (e : ℤ) : ℤ := max ((bitLength m : ℤ) + e - 53) (-1074)

/-- `m * 2 ^ e` as a multiple of `2 ^ lastPlace m e`, rounded to nearest, ties to even. -/
def roundedSignificand (m : ℕ) (e : ℤ) : ℕ :=
  if lastPlace m e ≤ e then m <<< (e - lastPlace m e).toNat
  else roundShift m (lastPlace m e - e).toNat

lemma roundedSignificand_le (m : ℕ) (e : ℤ) : roundedSignificand m e ≤ 2 ^ 53 := by
  have hm := lt_two_pow_bitLength m
  have hE : (bitLength m : ℤ) + e - 53 ≤ lastPlace m e := Int.le_max_left _ _
  unfold roundedSignificand
  split_ifs with h
  · have hk : bitLength m + (e - lastPlace m e).toNat ≤ 53 := by omega
    calc m <<< (e - lastPlace m e).toNat
        = m * 2 ^ (e - lastPlace m e).toNat := Nat.shiftLeft_eq _ _
      _ ≤ 2 ^ bitLength m * 2 ^ (e - lastPlace m e).toNat :=
          Nat.mul_le_mul_right _ (Nat.le_of_lt hm)
      _ ≤ 2 ^ 53 := by rw [← Nat.pow_add]; exact Nat.pow_le_pow_right Nat.two_pos hk
  · generalize hkdef : (lastPlace m e - e).toNat = k
    have hk : bitLength m ≤ 53 + k := by omega
    have hlt : m / 2 ^ k < 2 ^ 53 := by
      rw [Nat.div_lt_iff_lt_mul (Nat.two_pow_pos k), ← Nat.pow_add]
      exact Nat.lt_of_lt_of_le hm (Nat.pow_le_pow_right Nat.two_pos hk)
    have := roundShift_le m k
    omega

/-- A finite IEEE 754 binary64 value, `mant * 2 ^ exp`. -/
structure Double where
  mant : ℤ
  exp : ℤ
  mant_lt : mant.natAbs < 2 ^ 53
  exp_ge : -1074 ≤ exp
  exp_le : exp ≤ 971
  deriving DecidableEq, Repr

/-- A Python `float`: a finite double, an infinity (`neg` for `-inf`), or NaN. -/
inductive PyFloat where
  | finite (x : Double)
  | inf (neg : Bool)
  | nan
  deriving DecidableEq, Repr

/-- The double `(-1) ^ neg * n * 2 ^ E`, or an infinity when `E` is past the largest exponent. -/
def finiteOrInf (neg : Bool) (n : ℕ) (E : ℤ) (hn : n < 2 ^ 53) (hE : -1074 ≤ E) : PyFloat :=
  if h : E ≤ 971 then .finite ⟨if neg then -n else n, E, by cases neg <;> simpa, hE, h⟩
  else .inf neg

/-- The double nearest `(-1) ^ neg * m * 2 ^ e`, ties to the even significand; an infinity past
the largest double.  A significand rounded up to `2 ^ 53` moves to the next exponent. -/
def roundDyadic (neg : Bool) (m : ℕ) (e : ℤ) : PyFloat :=
  have hE : -1074 ≤ lastPlace m e := Int.le_max_right _ _
  if hn : roundedSignificand m e < 2 ^ 53 then
    finiteOrInf neg (roundedSignificand m e) (lastPlace m e) hn hE
  else
    finiteOrInf neg (roundedSignificand m e / 2) (lastPlace m e + 1)
      (by have := roundedSignificand_le m e; omega) (by omega)

/-- The double nearest `a * 2 ^ e`. -/
def roundInt (a e : ℤ) : PyFloat := roundDyadic (decide (a < 0)) a.natAbs e

/-- The double nearest `(-1) ^ neg * num / den * 2 ^ e`, for `den ≠ 0`: at least 55 bits of the
quotient and a sticky bit for a nonzero remainder, which one rounding then treats as the exact
value would be. -/
def roundFraction (neg : Bool) (num den : ℕ) (e : ℤ) : PyFloat :=
  let t := bitLength den + 55
  let sticky := if (num <<< t) % den = 0 then 0 else 1
  roundDyadic neg (2 * ((num <<< t) / den) + sticky) (e - t - 1)

namespace Double

/-- `x` as an integer number of units `2 ^ e`, for `e ≤ x.exp`. -/
def inUnits (x : Double) (e : ℤ) : ℤ := x.mant * ((1 <<< (x.exp - e).toNat : ℕ) : ℤ)

/-- `x + y`: the exact sum in units of the smaller exponent, rounded once. -/
def add (x y : Double) : PyFloat :=
  roundInt (x.inUnits (min x.exp y.exp) + y.inUnits (min x.exp y.exp)) (min x.exp y.exp)

/-- `x * y`: the exact product, rounded once. -/
def mul (x y : Double) : PyFloat := roundInt (x.mant * y.mant) (x.exp + y.exp)

/-- `x < y`, both in units of the smaller exponent. -/
def lt (x y : Double) : Bool :=
  x.inUnits (min x.exp y.exp) < y.inUnits (min x.exp y.exp)

/-- `-x`. -/
def neg (x : Double) : Double := ⟨-x.mant, x.exp, by simpa using x.mant_lt, x.exp_ge, x.exp_le⟩

/-- The integer nearest `x` away from zero: `ceil` above zero, `floor` below. -/
def roundAway (x : Double) : ℤ :=
  if 0 ≤ x.exp then x.inUnits 0
  else
    let k := (-x.exp).toNat
    let q := x.mant.natAbs >>> k
    let up : ℤ := if q <<< k = x.mant.natAbs then q else q + 1
    if x.mant < 0 then -up else up

end Double

namespace PyFloat

/-- `float(n)`, correctly rounded. -/
def ofNat (n : ℕ) : PyFloat := roundDyadic false n 0

instance : NatCast PyFloat := ⟨ofNat⟩

instance (n : ℕ) : OfNat PyFloat n := ⟨ofNat n⟩

/-- A decimal literal `m * 10 ^ d` or `m * 10 ^ (-d)`, correctly rounded as CPython parses it. -/
instance : OfScientific PyFloat where
  ofScientific m s d := if s then roundFraction false m (10 ^ d) 0 else ofNat (m * 10 ^ d)

instance : Neg PyFloat := ⟨fun
  | finite x => finite x.neg
  | inf neg => inf !neg
  | nan => nan⟩

/-- `x + y`: `inf + -inf` is NaN, an infinity absorbs a finite value. -/
def add : PyFloat → PyFloat → PyFloat
  | finite x, finite y => x.add y
  | inf a, inf b => if a = b then inf a else nan
  | inf a, finite _ | finite _, inf a => inf a
  | _, _ => nan

/-- `x * y`: an infinity times zero is NaN, signs multiply. -/
def mul : PyFloat → PyFloat → PyFloat
  | finite x, finite y => x.mul y
  | inf a, inf b => inf (a != b)
  | inf a, finite y | finite y, inf a => if y.mant = 0 then nan else inf (a != decide (y.mant < 0))
  | _, _ => nan

instance : Add PyFloat := ⟨add⟩

instance : Mul PyFloat := ⟨mul⟩

/-- Python's `x < y`, false whenever one side is NaN. -/
def lt : PyFloat → PyFloat → Bool
  | finite x, finite y => x.lt y
  | finite _, inf neg => !neg
  | inf neg, finite _ => neg
  | inf a, inf b => a && !b
  | _, _ => false

instance : LT PyFloat := ⟨fun x y => x.lt y = true⟩

instance (x y : PyFloat) : Decidable (x < y) := inferInstanceAs (Decidable (x.lt y = true))

/-- `bool(x)`: only a zero is false; NaN is true. -/
def truthy : PyFloat → Bool
  | finite x => x.mant != 0
  | _ => true

end PyFloat

end DiemJsonRpc
