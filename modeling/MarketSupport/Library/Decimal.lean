import Mathlib.Algebra.Order.Field.Rat
import Mathlib.Algebra.Order.Field.Power
import Mathlib.Tactic.Ring
import Mathlib.Tactic.Positivity

/-!
# Decimal numbers of bounded precision

A decimal is a sign, a coefficient and an exponent. `normalize` rounds half to even at the
precision of a context and removes the trailing zeros of the coefficient.

## Main results

* `normalize_eq` — a number that the precision can hold is normalised without loss.
* `normalize_isNormal` — what is normalised has few digits and no trailing zero.
-/

namespace MarketSupport.Library

structure Decimal where
  neg : Bool
  coeff : ℕ
  exp : ℤ
  deriving DecidableEq, Repr

/-- The precision and the exponent range of an arithmetic context. -/
structure DecimalContext where
  prec : ℕ
  emin : ℤ
  emax : ℤ
  prec_pos : 0 < prec
  emin_le : emin ≤ emax

namespace Decimal

/-- The number of digits of a coefficient; zero has one. -/
def digits (n : ℕ) : ℕ := (Nat.toDigits 10 n).length

def magnitude (d : Decimal) : ℚ := d.coeff * 10 ^ d.exp

/-- The number that a decimal denotes. -/
def toRat (d : Decimal) : ℚ := if d.neg then -d.magnitude else d.magnitude

/-- The exponent of the leading digit. -/
def adjusted (d : Decimal) : ℤ := d.exp + digits d.coeff - 1

/-- Drop `k` digits, rounding half to even: whether the quotient is rounded up. -/
def roundsUp (n k : ℕ) : Bool :=
  10 ^ k < 2 * (n % 10 ^ k) || (10 ^ k == 2 * (n % 10 ^ k) && n / 10 ^ k % 2 == 1)

/-- Remove trailing zeros while the exponent is below `top`. -/
def stripZeros (top : ℤ) : ℕ → ℕ → ℤ → ℕ × ℤ
  | 0, c, e => (c, e)
  | fuel + 1, c, e =>
    if c % 10 = 0 ∧ e < top then stripZeros top fuel (c / 10) (e + 1) else (c, e)

end Decimal

namespace DecimalContext

open Decimal

variable (ctx : DecimalContext)

/-- The least exponent of a subnormal number. -/
def etiny : ℤ := ctx.emin - ctx.prec + 1

/-- The greatest exponent of a coefficient of full length. -/
def etop : ℤ := ctx.emax - ctx.prec + 1

/-- The coefficient `c` without its last `k` digits; a carry to one digit more than the
precision moves the exponent. -/
def round (c k : ℕ) (expMin : ℤ) : ℕ × ℤ :=
  if roundsUp c k then
    if ctx.prec < digits (c / 10 ^ k + 1) then ((c / 10 ^ k + 1) / 10, expMin + 1)
    else (c / 10 ^ k + 1, expMin)
  else (c / 10 ^ k, expMin)

/-- Round to the context; nothing when the exponent overflows. -/
def fix (d : Decimal) : Option Decimal :=
  if d.coeff = 0 then some { d with exp := min (max d.exp ctx.etiny) ctx.emax }
  else
    let top := digits d.coeff + d.exp - ctx.prec
    if ctx.etop < top then none
    else
      let expMin := max top ctx.etiny
      if d.exp < expMin then
        let r := ctx.round d.coeff (expMin - d.exp).toNat expMin
        if ctx.etop < r.2 then none else some ⟨d.neg, r.1, r.2⟩
      else some d

/-- Round to the context and remove the trailing zeros. -/
def normalize (d : Decimal) : Option Decimal :=
  (ctx.fix d).map fun r =>
    if r.coeff = 0 then ⟨r.neg, 0, 0⟩
    else
      let s := stripZeros ctx.emax (digits r.coeff) r.coeff r.exp
      ⟨r.neg, s.1, s.2⟩

end DecimalContext

namespace Decimal

section Digits

variable {n k : ℕ}

theorem digits_le_iff (hk : 0 < k) : digits n ≤ k ↔ n < 10 ^ k :=
  Nat.length_toDigits_le_iff (by decide) hk

theorem digits_pos : 0 < digits n := Nat.length_toDigits_pos

theorem lt_pow_digits : n < 10 ^ digits n := (digits_le_iff digits_pos).mp le_rfl

theorem pow_le_of_lt_digits (hk : 0 < k) (h : k < digits n) : 10 ^ k ≤ n := by
  by_contra hlt
  have := (digits_le_iff hk).mpr (not_le.mp hlt)
  omega

theorem digits_zero : digits 0 = 1 := rfl

theorem pow_pred_digits_le (hn : n ≠ 0) : 10 ^ (digits n - 1) ≤ n := by
  rcases Nat.eq_zero_or_pos (digits n - 1) with hzero | hpos
  · rw [hzero]
    exact Nat.one_le_iff_ne_zero.mpr hn
  · exact pow_le_of_lt_digits hpos (by omega)

/-- Each zero that is appended is one more digit. -/
theorem digits_mul_pow (hn : n ≠ 0) : digits (n * 10 ^ k) = digits n + k := by
  apply le_antisymm
  · rw [digits_le_iff (by have := @digits_pos n; omega), pow_add]
    exact Nat.mul_lt_mul_of_pos_right lt_pow_digits (by positivity)
  · by_contra hlt
    have hpos := @digits_pos (n * 10 ^ k)
    have hupper : n * 10 ^ k < 10 ^ (digits n + k - 1) :=
      lt_of_lt_of_le lt_pow_digits (Nat.pow_le_pow_right (by decide) (by omega))
    have hlower := Nat.mul_le_mul_right (10 ^ k) (pow_pred_digits_le hn)
    rw [← pow_add] at hlower
    have hexp : digits n - 1 + k = digits n + k - 1 := by have := @digits_pos n; omega
    rw [hexp] at hlower
    exact absurd hupper (not_lt.mpr hlower)

end Digits

section Exact

variable {c n : ℕ} {x e : ℤ}

theorem zpow_eq_mul_pow (h : x ≤ e) : (10 : ℚ) ^ e = 10 ^ x * ((10 ^ (e - x).toNat : ℕ) : ℚ) := by
  have hexp : e = x + ((e - x).toNat : ℤ) := by omega
  conv_lhs => rw [hexp, zpow_add₀ (by norm_num), zpow_natCast]
  push_cast
  rfl

/-- The decimal with the fewest digits divides every other one of its value. -/
theorem eq_mul_pow_of_magnitude_eq (h : (c : ℚ) * 10 ^ x = n * 10 ^ e) (hn : ¬ 10 ∣ n) :
    x ≤ e ∧ c = n * 10 ^ (e - x).toNat := by
  rcases le_or_gt x e with hle | hgt
  · refine ⟨hle, ?_⟩
    rw [zpow_eq_mul_pow hle] at h
    have hpos : (10 : ℚ) ^ x ≠ 0 := by positivity
    have hcast : (c : ℚ) = ((n * 10 ^ (e - x).toNat : ℕ) : ℚ) := by
      apply mul_right_cancel₀ hpos
      rw [h]
      push_cast
      ring
    exact_mod_cast hcast
  · exfalso
    rw [zpow_eq_mul_pow hgt.le] at h
    have hpos : (10 : ℚ) ^ e ≠ 0 := by positivity
    have hcast : (n : ℚ) = ((c * 10 ^ (x - e).toNat : ℕ) : ℚ) := by
      apply mul_right_cancel₀ hpos
      rw [← h]
      push_cast
      ring
    have hnat : n = c * 10 ^ (x - e).toNat := by exact_mod_cast hcast
    obtain ⟨j, hj⟩ : ∃ j, (x - e).toNat = j + 1 := ⟨(x - e).toNat - 1, by omega⟩
    exact hn ⟨c * 10 ^ j, by rw [hnat, hj, pow_succ]; ring⟩

/-- Two coefficients without a trailing zero of one value are one. -/
theorem eq_of_magnitude_eq (h : (c : ℚ) * 10 ^ x = n * 10 ^ e) (hc : ¬ 10 ∣ c) (hn : ¬ 10 ∣ n) :
    c = n ∧ x = e := by
  obtain ⟨hle, -⟩ := eq_mul_pow_of_magnitude_eq h hn
  obtain ⟨hge, hcoeff⟩ := eq_mul_pow_of_magnitude_eq h.symm hc
  have hexp : x = e := le_antisymm hle hge
  subst hexp
  simp only [sub_self, Int.toNat_zero, pow_zero, mul_one] at hcoeff
  exact ⟨hcoeff.symm, rfl⟩

theorem exists_not_dvd (hn : n ≠ 0) (e : ℤ) :
    ∃ m j : ℕ, ¬ 10 ∣ m ∧ n = m * 10 ^ j ∧ (n : ℚ) * 10 ^ e = m * 10 ^ (e + (j : ℤ)) := by
  induction n using Nat.strong_induction_on generalizing e with
  | _ n ih =>
    by_cases hdvd : 10 ∣ n
    · obtain ⟨q, rfl⟩ := hdvd
      obtain ⟨m, j, hm, heq, hvalue⟩ := ih q (by omega) (by omega) (e + 1)
      refine ⟨m, j + 1, hm, by rw [pow_succ, ← mul_assoc, ← heq, mul_comm], ?_⟩
      have hexp : e + ((j + 1 : ℕ) : ℤ) = e + 1 + j := by push_cast; ring
      rw [hexp, ← hvalue, zpow_add_one₀ (by norm_num)]
      push_cast
      ring
    · exact ⟨n, 0, hdvd, by simp, by simp⟩

end Exact

section Strip

variable {top : ℤ}

theorem stripZeros_mul_pow {n : ℕ} (hn : ¬ 10 ∣ n) (fuel j : ℕ) (hj : j ≤ fuel) (e : ℤ)
    (he : e + j ≤ top) : stripZeros top fuel (n * 10 ^ j) e = (n, e + j) := by
  induction j generalizing fuel e with
  | zero =>
    cases fuel with
    | zero => simp [stripZeros]
    | succ fuel =>
      have : ¬ (n % 10 = 0 ∧ e < top) := fun h => hn (Nat.dvd_of_mod_eq_zero h.1)
      simp [stripZeros, this]
  | succ j ih =>
    obtain ⟨fuel, rfl⟩ : ∃ f, fuel = f + 1 := ⟨fuel - 1, by omega⟩
    have hmul : n * 10 ^ (j + 1) = n * 10 ^ j * 10 := by rw [pow_succ, mul_assoc]
    have hstep : n * 10 ^ (j + 1) % 10 = 0 ∧ e < top := ⟨by rw [hmul]; simp, by omega⟩
    rw [stripZeros, if_pos hstep, hmul, Nat.mul_div_cancel _ (by decide),
      ih fuel (by omega) (e + 1) (by push_cast at he; omega)]
    congr 1
    push_cast
    ring

/-- What is left: a coefficient that is no larger, without a trailing zero below `top`. -/
theorem stripZeros_spec (fuel c : ℕ) (e : ℤ) (hc : c ≠ 0) (hfuel : c < 10 ^ fuel) :
    (stripZeros top fuel c e).1 ≠ 0 ∧ (stripZeros top fuel c e).1 ≤ c ∧
      e ≤ (stripZeros top fuel c e).2 ∧ (stripZeros top fuel c e).2 ≤ max e top ∧
      (10 ∣ (stripZeros top fuel c e).1 → top ≤ (stripZeros top fuel c e).2) := by
  induction fuel generalizing c e with
  | zero => simp at hfuel; omega
  | succ fuel ih =>
    rw [stripZeros]
    split_ifs with hstep
    · have hlt : c / 10 < 10 ^ fuel := by rw [pow_succ] at hfuel; omega
      obtain ⟨hne, hle, hexp, hmax, hdvd⟩ := ih (c / 10) (e + 1) (by omega) hlt
      exact ⟨hne, by omega, by omega, by omega, hdvd⟩
    · refine ⟨hc, le_rfl, le_rfl, le_max_left _ _, fun hdvd => ?_⟩
      by_contra htop
      exact hstep ⟨Nat.mod_eq_zero_of_dvd hdvd, by omega⟩

end Strip

end Decimal

namespace DecimalContext

open Decimal

variable {ctx : DecimalContext} {d r : Decimal}

section Exact

variable {n : ℕ} {e : ℤ}

theorem round_of_dvd {q k : ℕ} {expMin : ℤ} :
    ctx.round (q * 10 ^ k) k expMin = (q, expMin) := by
  have hpos : 0 < 10 ^ k := by positivity
  have hup : roundsUp (q * 10 ^ k) k = false := by
    simp only [roundsUp, Nat.mul_mod_left, mul_zero, Bool.or_eq_false_iff, decide_eq_false_iff_not,
      not_lt, zero_le, Bool.and_eq_false_iff, beq_eq_false_iff_ne, true_and]
    exact Or.inl hpos.ne'
  simp [round, hup, Nat.mul_div_cancel _ hpos]

/-- The digits that are dropped are among the trailing zeros. -/
theorem fix_mul_pow {neg : Bool} {j : ℕ} (hn : n ≠ 0) (hprec : digits n ≤ ctx.prec)
    (htiny : ctx.etiny ≤ e) (hemax : e + digits n - 1 ≤ ctx.emax) :
    ∃ i : ℕ, ctx.fix ⟨neg, n * 10 ^ j, e - j⟩ = some ⟨neg, n * 10 ^ i, e - i⟩ := by
  have hdigits := digits_mul_pow (k := j) hn
  have hpos := @digits_pos n
  have hrange := ctx.emin_le
  obtain ⟨m, hm⟩ : ∃ m : ℤ, m = max ((digits n : ℤ) + e - ctx.prec) ctx.etiny := ⟨_, rfl⟩
  have htop : (digits (n * 10 ^ j) : ℤ) + (e - j) - ctx.prec = digits n + e - ctx.prec := by
    rw [hdigits]
    push_cast
    ring
  have hmtop : ¬ ctx.etop < m := by simp only [hm, etop, etiny] at *; omega
  have hover : ¬ ctx.etop < (digits n : ℤ) + e - ctx.prec := by simp only [etop]; omega
  simp only [fix, mul_eq_zero, hn, Nat.pow_eq_zero, OfNat.ofNat_ne_zero, ne_eq, false_and,
    or_self, if_false, htop, hover, ← hm]
  split_ifs with hround hcarry
  · exfalso
    obtain ⟨k, hk⟩ : ∃ k : ℕ, (m - (e - j)).toNat = k := ⟨_, rfl⟩
    have hsplit : n * 10 ^ j = n * 10 ^ (j - k) * 10 ^ k := by
      rw [mul_assoc, ← pow_add]
      congr 2
      omega
    rw [hk, hsplit, round_of_dvd] at hcarry
    exact hmtop hcarry
  · obtain ⟨k, hk⟩ : ∃ k : ℕ, (m - (e - j)).toNat = k := ⟨_, rfl⟩
    have hkj : k ≤ j := by omega
    have hsplit : n * 10 ^ j = n * 10 ^ (j - k) * 10 ^ k := by
      rw [mul_assoc, ← pow_add]
      congr 2
      omega
    refine ⟨j - k, ?_⟩
    rw [hk, hsplit, round_of_dvd]
    simp only [Option.some.injEq, Decimal.mk.injEq, true_and]
    omega
  · exact ⟨j, rfl⟩

/-- A number whose digits the precision can hold keeps its value; it overflows exactly when its
leading digit is above the range. -/
theorem normalize_eq (hn : ¬ 10 ∣ n) (hprec : digits n ≤ ctx.prec) (htiny : ctx.etiny ≤ e)
    (hvalue : d.magnitude = n * 10 ^ e) :
    ctx.normalize d = if e + digits n - 1 ≤ ctx.emax then some ⟨d.neg, n, e⟩ else none := by
  obtain ⟨neg, c, x⟩ := d
  have hn0 : n ≠ 0 := by rintro rfl; exact hn (Nat.dvd_zero 10)
  obtain ⟨hle, hc⟩ := eq_mul_pow_of_magnitude_eq hvalue hn
  simp only at hle hc
  obtain ⟨j, rfl⟩ : ∃ j : ℕ, x = e - j := ⟨(e - x).toNat, by omega⟩
  have hj : (e - (e - (j : ℤ))).toNat = j := by omega
  rw [hj] at hc
  subst hc
  split_ifs with htop
  · obtain ⟨i, hi⟩ := @fix_mul_pow _ _ _ neg j hn0 hprec htiny htop
    have hi0 : n * 10 ^ i ≠ 0 := by positivity
    have hfuel : i ≤ digits (n * 10 ^ i) := by rw [digits_mul_pow hn0]; omega
    have hpos := @digits_pos n
    rw [normalize, hi]
    simp only [Option.map_some, hi0, if_false,
      stripZeros_mul_pow hn _ _ hfuel (e - i) (by omega : e - i + i ≤ ctx.emax), sub_add_cancel]
  · have hover : ctx.etop < (digits (n * 10 ^ j) : ℤ) + (e - j) - ctx.prec := by
      rw [digits_mul_pow hn0, etop]
      push_cast
      omega
    have hc0 : n * 10 ^ j ≠ 0 := by positivity
    simp only [normalize, fix, hc0, if_false, hover, if_true, Option.map_none]

end Exact

section Normal

/-- Few digits, no trailing zero, and one zero only. -/
def IsNormal (ctx : DecimalContext) (r : Decimal) : Prop :=
  (r.coeff = 0 → r.exp = 0) ∧
    (r.coeff ≠ 0 → r.coeff < 10 ^ ctx.prec ∧ ctx.etiny ≤ r.exp ∧ r.exp ≤ ctx.emax ∧
      (10 ∣ r.coeff → ctx.emax ≤ r.exp))

theorem round_lt (c k : ℕ) (expMin : ℤ) (hc : c < 10 ^ (ctx.prec + k)) :
    (ctx.round c k expMin).1 < 10 ^ ctx.prec ∧ expMin ≤ (ctx.round c k expMin).2 := by
  have hquot : c / 10 ^ k < 10 ^ ctx.prec := by
    rw [Nat.div_lt_iff_lt_mul (by positivity), ← pow_add]
    exact hc
  obtain ⟨p, hp⟩ : ∃ p, ctx.prec = p + 1 := ⟨ctx.prec - 1, by have := ctx.prec_pos; omega⟩
  unfold round
  split_ifs with hup hcarry
  · refine ⟨?_, by simp⟩
    have hpow : 10 ^ ctx.prec = 10 * 10 ^ p := by rw [hp, pow_succ, mul_comm]
    have : 0 < 10 ^ p := by positivity
    simp only
    omega
  · exact ⟨(digits_le_iff ctx.prec_pos).mp (not_lt.mp hcarry), le_rfl⟩
  · exact ⟨hquot, le_rfl⟩

theorem fix_spec (h : ctx.fix d = some r) :
    r.neg = d.neg ∧ (d.coeff = 0 → r.coeff = 0) ∧
      (d.coeff ≠ 0 → r.coeff < 10 ^ ctx.prec ∧ ctx.etiny ≤ r.exp ∧ r.exp ≤ ctx.emax) := by
  have hprec := ctx.prec_pos
  simp only [fix] at h
  split_ifs at h with hzero htop hround hcarry
  · obtain rfl := Option.some.inj h
    simp [hzero]
  · obtain rfl := Option.some.inj h
    obtain ⟨hlt, hle⟩ := @round_lt ctx d.coeff
      (max (digits d.coeff + d.exp - ctx.prec) ctx.etiny - d.exp).toNat
      (max (digits d.coeff + d.exp - ctx.prec) ctx.etiny)
      (lt_of_lt_of_le lt_pow_digits (Nat.pow_le_pow_right (by decide) (by omega)))
    refine ⟨rfl, fun h => absurd h hzero, fun _ => ⟨hlt, le_trans (le_max_right _ _) hle, ?_⟩⟩
    simp only [etop] at hcarry ⊢
    omega
  · obtain rfl := Option.some.inj h
    have hdigits := @digits_pos d.coeff
    simp only [etop] at htop
    refine ⟨rfl, fun h => absurd h hzero, fun _ => ⟨?_, by omega, by omega⟩⟩
    exact lt_of_lt_of_le lt_pow_digits (Nat.pow_le_pow_right (by decide) (by omega))

theorem normalize_isNormal (h : ctx.normalize d = some r) :
    r.neg = d.neg ∧ ctx.IsNormal r ∧ (d.coeff = 0 → r.coeff = 0) := by
  obtain ⟨f, hf, hr⟩ := Option.map_eq_some_iff.mp h
  obtain ⟨hneg, hzero, hbounds⟩ := fix_spec hf
  split_ifs at hr with hf0
  · subst hr
    exact ⟨hneg, ⟨fun _ => rfl, fun h => absurd rfl h⟩, fun _ => rfl⟩
  · have hd0 : d.coeff ≠ 0 := fun hd => hf0 (hzero hd)
    obtain ⟨hlt, htiny, hemax⟩ := hbounds hd0
    obtain ⟨hne, hle, hexp, hmax, hdvd⟩ :=
      @stripZeros_spec ctx.emax _ f.coeff f.exp hf0 lt_pow_digits
    subst hr
    refine ⟨hneg, ⟨fun h => absurd h hne, fun _ => ⟨?_, ?_, ?_, hdvd⟩⟩, fun h => absurd h hd0⟩
    · exact lt_of_le_of_lt hle hlt
    · exact le_trans htiny hexp
    · exact le_trans hmax (max_le hemax le_rfl)

end Normal

end DecimalContext

end MarketSupport.Library
