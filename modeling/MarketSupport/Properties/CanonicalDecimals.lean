import MarketSupport.Evidence.CanonicalDecimals
import Mathlib.Tactic.Linarith

/-!
# Canonical decimals and their values

A text is canonicalised through the default context, whose 28 digits are fewer than the 30 that
are accepted. What has no more digits than the context keeps its value.

## Main results

* `canonicalize_idem` — a canonical text is canonical again.
* `canonicalize_faithful_iff` — canonicalising is faithful exactly on what the context holds.
-/

namespace MarketSupport

open Library

section Values

variable (digit : Char → Option (Fin 10))

/-- The number that a text denotes. -/
def decimalValue (text : String) : Option ℚ :=
  match decimalOfText digit text with
  | some (.finite d) => some d.toRat
  | _ => none

/-- At most 28 significant digits, and at most 29 behind the point. -/
def FitsContext (text : String) : Prop :=
  ∃ v, decimalValue digit text = some v ∧ ∃ n : ℕ, n < 10 ^ 28 ∧ ∃ e : ℤ, -29 ≤ e ∧ |v| = n * 10 ^ e

end Values

variable {digit : Char → Option (Fin 10)} {x y s t : String} {d r : Decimal}

theorem magnitude_nonneg (d : Decimal) : 0 ≤ d.magnitude := by
  unfold Decimal.magnitude
  positivity

theorem abs_toRat (d : Decimal) : |d.toRat| = d.magnitude := by
  unfold Decimal.toRat
  split_ifs
  · rw [abs_neg, abs_of_nonneg (magnitude_nonneg d)]
  · exact abs_of_nonneg (magnitude_nonneg d)

theorem magnitude_eq_zero : d.magnitude = 0 ↔ d.coeff = 0 := by
  have hpow : (10 : ℚ) ^ d.exp ≠ 0 := by positivity
  rw [Decimal.magnitude, mul_eq_zero, Nat.cast_eq_zero, or_iff_left hpow]

theorem neg_iff_of_toRat_eq {d' : Decimal} (h : d.toRat = d'.toRat) (hd : d.coeff ≠ 0) :
    d.neg = d'.neg := by
  have hpos : 0 < d.magnitude :=
    lt_of_le_of_ne (magnitude_nonneg d) fun h0 => hd (magnitude_eq_zero.mp h0.symm)
  have hpos' := magnitude_nonneg d'
  unfold Decimal.toRat at h
  split_ifs at h with h1 h2 h2
  · rw [h1, h2]
  · linarith
  · linarith
  · rw [Bool.not_eq_true] at h1 h2
    rw [h1, h2]

/-- What an accepted text denotes, and the normalised decimal that is written. -/
theorem accepted_cases (h : canonicalize digit x = .ok s) :
    ∃ d r, decimalOfText digit x = some (.finite d) ∧ defaultContext.normalize d = some r ∧
      canonicalText digit (formatF r) = .ok s := by
  unfold canonicalize at h
  split at h
  · cases h
  · rename_i d hd
    split at h
    · cases h
    · rename_i r hr
      exact ⟨d, r, hd, hr, h⟩
  · cases h

/-- The default context normalises what it holds without loss. -/
theorem normalize_of_fits {n : ℕ} {e : ℤ} (hn : ¬ 10 ∣ n) (hlt : n < 10 ^ 28) (he : -29 ≤ e)
    (hvalue : d.magnitude = n * 10 ^ e) :
    defaultContext.normalize d =
      if e + Decimal.digits n - 1 ≤ 999999 then some ⟨d.neg, n, e⟩ else none :=
  DecimalContext.normalize_eq hn ((Decimal.digits_le_iff (by decide)).mpr hlt)
    (le_trans (by decide) he) hvalue

theorem not_dvd_of_isNormal (hnormal : defaultContext.IsNormal r) (hzero : r.coeff ≠ 0)
    (hmax : r.exp ≤ 29) : ¬ 10 ∣ r.coeff := by
  intro hdvd
  have hemax : (999999 : ℤ) ≤ r.exp := (hnormal.2 hzero).2.2.2 hdvd
  omega

/-- A canonical text is read as the decimal it was written from. -/
theorem decimalOfText_canonical (hr : defaultContext.normalize d = some r)
    (h : canonicalText digit (formatF r) = .ok s) :
    ∃ d', decimalOfText digit s = some (.finite d') ∧ d'.toRat = r.toRat ∧
      canonicalize digit s = .ok s := by
  obtain ⟨-, hnormal, -⟩ := DecimalContext.normalize_isNormal hr
  rcases canonicalText_ok hnormal h with ⟨hzero, rfl⟩ | ⟨hzero, rfl, hmin, hmax⟩
  · exact ⟨⟨false, 0, 0⟩, rfl, by simp [Decimal.toRat, Decimal.magnitude, hzero], rfl⟩
  · have hread : decimalOfText digit (String.ofList (formatF r)) = some (.finite (unscaled r)) :=
      decimalOfText_formatF (isExact_unscaled hnormal)
    have hn := not_dvd_of_isNormal hnormal hzero hmax
    have hlt := (hnormal.2 hzero).1
    have hdigits : Decimal.digits r.coeff ≤ 28 := (Decimal.digits_le_iff (by decide)).mpr hlt
    have hsame : defaultContext.normalize (unscaled r) = some r := by
      rw [normalize_of_fits hn hlt hmin (unscaled_magnitude r), if_pos (by omega)]
      rfl
    refine ⟨unscaled r, hread, unscaled_toRat r, ?_⟩
    simp only [canonicalize, hread, hsame]
    exact h

/-- A canonical text is canonical again. -/
theorem canonicalize_idem (h : canonicalize digit x = .ok s) : canonicalize digit s = .ok s := by
  obtain ⟨d, r, -, hr, htext⟩ := accepted_cases h
  obtain ⟨-, -, -, hidem⟩ := decimalOfText_canonical hr htext
  exact hidem

/-- The value is kept exactly when the context holds it. -/
theorem decimalValue_eq_iff (h : canonicalize digit x = .ok s) :
    decimalValue digit s = decimalValue digit x ↔ FitsContext digit x := by
  obtain ⟨d, r, hd, hr, htext⟩ := accepted_cases h
  obtain ⟨d', hd', hvalue, -⟩ := decimalOfText_canonical hr htext
  obtain ⟨hneg, hnormal, hzero⟩ := DecimalContext.normalize_isNormal hr
  simp only [FitsContext, decimalValue, hd, hd', Option.some.injEq, exists_eq_left', hvalue,
    abs_toRat]
  constructor
  · intro hsame
    have hmagnitude : d.magnitude = r.coeff * 10 ^ r.exp := by
      rw [← abs_toRat, ← hsame, abs_toRat]
      rfl
    rcases canonicalText_ok hnormal htext with ⟨h0, -⟩ | ⟨h0, -, hmin, -⟩
    · exact ⟨0, by norm_num, 0, by norm_num, by simp [hmagnitude, h0]⟩
    · exact ⟨r.coeff, (hnormal.2 h0).1, r.exp, hmin, hmagnitude⟩
  · rintro ⟨n, hlt, e, he, hmagnitude⟩
    by_cases hn : n = 0
    · have hd0 : d.coeff = 0 := magnitude_eq_zero.mp (by simp [hmagnitude, hn])
      simp [Decimal.toRat, Decimal.magnitude, hzero hd0, hd0]
    · obtain ⟨m, j, hm, hmn, hshift⟩ := Decimal.exists_not_dvd hn e
      have hle : m ≤ n := by
        rw [hmn]
        exact Nat.le_mul_of_pos_right m (by positivity)
      have hr' := normalize_of_fits hm (lt_of_le_of_lt hle hlt) (by omega : -29 ≤ e + (j : ℤ))
        (hmagnitude.trans hshift)
      rw [hr] at hr'
      split_ifs at hr' with hrange
      obtain rfl := Option.some.inj hr'
      simp only [Decimal.toRat]
      rw [hmagnitude, hshift]
      rfl

/-- Equal normalised values have one canonical text. -/
theorem canonicalText_eq_of_toRat_eq {r' : Decimal} (hnormal : defaultContext.IsNormal r)
    (hnormal' : defaultContext.IsNormal r') (h : canonicalText digit (formatF r) = .ok s)
    (h' : canonicalText digit (formatF r') = .ok t) (hvalue : r.toRat = r'.toRat) : s = t := by
  have hmagnitude : r.magnitude = r'.magnitude := by rw [← abs_toRat, hvalue, abs_toRat]
  rcases canonicalText_ok hnormal h with ⟨hzero, rfl⟩ | ⟨hzero, rfl, -, hmax⟩ <;>
    rcases canonicalText_ok hnormal' h' with ⟨hzero', rfl⟩ | ⟨hzero', rfl, -, hmax'⟩
  · rfl
  · exact absurd (magnitude_eq_zero.mp (hmagnitude ▸ magnitude_eq_zero.mpr hzero)) hzero'
  · exact absurd (magnitude_eq_zero.mp (hmagnitude ▸ magnitude_eq_zero.mpr hzero')) hzero
  · obtain ⟨hcoeff, hexp⟩ := Decimal.eq_of_magnitude_eq hmagnitude
      (not_dvd_of_isNormal hnormal hzero hmax) (not_dvd_of_isNormal hnormal' hzero' hmax')
    have hneg := neg_iff_of_toRat_eq hvalue hzero
    obtain ⟨neg, c, e⟩ := r
    obtain ⟨neg', c', e'⟩ := r'
    cases hcoeff
    cases hexp
    cases hneg
    rfl

/-- Two accepted texts keep their values, are canonical once canonicalised, and have one
canonical text exactly when they are equal numbers, if and only if the context holds both. -/
theorem canonicalize_faithful_iff (hx : canonicalize digit x = .ok s)
    (hy : canonicalize digit y = .ok t) :
    ((decimalValue digit s = decimalValue digit x ∧ canonicalize digit s = .ok s) ∧
      (decimalValue digit t = decimalValue digit y ∧ canonicalize digit t = .ok t) ∧
      (s = t ↔ decimalValue digit x = decimalValue digit y)) ↔
    FitsContext digit x ∧ FitsContext digit y := by
  have hkeepx := decimalValue_eq_iff hx
  have hkeepy := decimalValue_eq_iff hy
  constructor
  · rintro ⟨⟨hs, -⟩, ⟨ht, -⟩, -⟩
    exact ⟨hkeepx.mp hs, hkeepy.mp ht⟩
  · rintro ⟨hfx, hfy⟩
    refine ⟨⟨hkeepx.mpr hfx, canonicalize_idem hx⟩, ⟨hkeepy.mpr hfy, canonicalize_idem hy⟩, ?_, ?_⟩
    · rintro rfl
      rw [← hkeepx.mpr hfx, hkeepy.mpr hfy]
    · intro hvalue
      obtain ⟨d, r, hd, hr, htext⟩ := accepted_cases hx
      obtain ⟨d', r', hd', hr', htext'⟩ := accepted_cases hy
      obtain ⟨c, hc, hcr, -⟩ := decimalOfText_canonical hr htext
      obtain ⟨c', hc', hcr', -⟩ := decimalOfText_canonical hr' htext'
      have hsame : decimalValue digit s = decimalValue digit t := by
        rw [hkeepx.mpr hfx, hvalue, hkeepy.mpr hfy]
      simp only [decimalValue, hc, hc', Option.some.injEq, hcr, hcr'] at hsame
      exact canonicalText_eq_of_toRat_eq (DecimalContext.normalize_isNormal hr).2.1
        (DecimalContext.normalize_isNormal hr').2.1 htext htext' hsame

/-! ## A number of 29 digits -/

/-- `1.50` and `15e-1` are one number, which the context holds, and have one text. -/
theorem canonicalize_faithful_iff_short :
    (FitsContext (fun _ => none) "1.50" ∧ FitsContext (fun _ => none) "15e-1") ∧
      canonicalize (fun _ => none) "1.50" = .ok "1.5" ∧
      canonicalize (fun _ => none) "15e-1" = .ok "1.5" ∧
      decimalValue (fun _ => none) "1.5" = decimalValue (fun _ => none) "1.50" ∧
      canonicalize (fun _ => none) "1.5" = .ok "1.5" ∧
      decimalValue (fun _ => none) "1.50" = decimalValue (fun _ => none) "15e-1" := by
  have h : canonicalize (fun _ => none) "1.50" = .ok "1.5" := by decide +kernel
  have h' : canonicalize (fun _ => none) "15e-1" = .ok "1.5" := by decide +kernel
  have hfits : FitsContext (fun _ => none) "1.50" ∧ FitsContext (fun _ => none) "15e-1" :=
    ⟨⟨3 / 2, by decide +kernel, 15, by decide, -1, by decide, by norm_num⟩,
      ⟨3 / 2, by decide +kernel, 15, by decide, -1, by decide, by norm_num⟩⟩
  obtain ⟨⟨hvalue, hagain⟩, -, hsame⟩ := (canonicalize_faithful_iff h h').mpr hfits
  exact ⟨hfits, h, h', hvalue, hagain, hsame.mp rfl⟩

/-- The last of 29 digits is rounded away, and the text is that of another number. -/
theorem longInteger_rounded :
    canonicalize (fun _ => none) "12345678901234567890123456789" =
        .ok "12345678901234567890123456790" ∧
      canonicalize (fun _ => none) "12345678901234567890123456790" =
        .ok "12345678901234567890123456790" ∧
      decimalValue (fun _ => none) "12345678901234567890123456790" ≠
        decimalValue (fun _ => none) "12345678901234567890123456789" := by
  refine ⟨by decide +kernel, by decide +kernel, ?_⟩
  decide +kernel

end MarketSupport
