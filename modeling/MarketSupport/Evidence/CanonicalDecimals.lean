import MarketSupport.Library.Decimal
import MarketSupport.Rendering.ResponseIds
import Mathlib.Data.List.DropRight

/-!
# Canonical decimal texts

`canonicalize` reads a decimal exactly, normalises it in the default context and writes it
positionally. `digit` says which character outside ASCII is which decimal digit.
-/

namespace MarketSupport

open Library

/-- What `canonicalize` raises: a `ValueError` with its text, or an exception of `decimal`. -/
inductive DecimalFault where
  | valueError (message : String)
  | overflow
  | invalidOperation
  deriving DecidableEq, Repr

/-- The default context: 28 digits, `Emin` and `Emax`. -/
def defaultContext : DecimalContext := ⟨28, -999999, 999999, by decide, by decide⟩

/-- `MAX_PREC`, `MIN_EMIN` and `MAX_EMAX`: the context in which texts are read. -/
def maxContext : DecimalContext :=
  ⟨999999999999999999, -999999999999999999, 999999999999999999, by decide, by decide⟩

/-- The value of `Decimal(text)`. -/
inductive ParsedDecimal where
  | finite (d : Decimal)
  | infinity
  | nan
  deriving DecidableEq, Repr

/-- A decimal that a context holds as it is. -/
def IsExact (ctx : DecimalContext) (d : Decimal) : Prop :=
  Decimal.digits d.coeff ≤ ctx.prec ∧ ctx.etiny ≤ d.exp ∧ d.adjusted ≤ ctx.emax

instance (ctx : DecimalContext) (d : Decimal) : Decidable (IsExact ctx d) :=
  inferInstanceAs (Decidable (_ ∧ _ ∧ _))

/-- A sign, if there is one, and what follows. -/
def readSign : List Char → Bool × List Char
  | '-' :: cs => (true, cs)
  | '+' :: cs => (false, cs)
  | cs => (false, cs)

/-- A nonempty run of digits. -/
def readDigits (cs : List Char) : Option ℕ :=
  if cs ≠ [] ∧ cs.all Char.isDigit then some (Nat.ofDigitChars 10 cs 0) else none

/-- The exponent part, from its letter on. -/
def readExponent : List Char → Option ℤ
  | [] => some 0
  | _ :: cs => (readDigits (readSign cs).2).map fun n => if (readSign cs).1 then -n else n

/-- Digits with at most one point, and an exponent; only what is exact is read. -/
def readNumber (neg : Bool) (cs : List Char) : Option Decimal :=
  let mantissa := cs.takeWhile (fun c => c != 'e' && c != 'E')
  let whole := mantissa.takeWhile (· != '.')
  let fraction := (mantissa.dropWhile (· != '.')).drop 1
  (readDigits (whole ++ fraction)).bind fun coeff =>
    (readExponent (cs.dropWhile (fun c => c != 'e' && c != 'E'))).bind fun exp =>
      let d : Decimal := ⟨neg, coeff, exp - fraction.length⟩
      if IsExact maxContext d then some d else none

/-- The digits after `nan` or `snan`. -/
def isPayload (cs : List Char) : Bool :=
  cs.all Char.isDigit && Decimal.digits (Nat.ofDigitChars 10 cs 0) ≤ maxContext.prec

/-- `inf`, `infinity`, `nan` and `snan`, in lower case. -/
def readSpecial (cs : List Char) : Option ParsedDecimal :=
  if cs = "inf".toList ∨ cs = "infinity".toList then some .infinity
  else if "nan".toList <+: cs ∧ isPayload (cs.drop 3) then some .nan
  else if "snan".toList <+: cs ∧ isPayload (cs.drop 4) then some .nan
  else none

section Text

variable (digit : Char → Option (Fin 10))

def asciiChar (c : Char) : Option Char :=
  if 0 < c.toNat ∧ c.toNat ≤ 127 then some c
  else if isPySpace c then some ' '
  else (digit c).map fun d => Nat.digitChar d

/-- The characters of a numeric text: stripped, without underscores, digits as ASCII digits. -/
def numericAsAscii (text : String) : Option (List Char) :=
  ((strip text).toList.filter (· != '_')).mapM (asciiChar digit)

/-- `Decimal(text)`; nothing when it raises `InvalidOperation`. -/
def decimalOfText (text : String) : Option ParsedDecimal :=
  (numericAsAscii digit text).bind fun cs =>
    let r := readSign cs
    (readSpecial (r.2.map Char.toLower)).or ((readNumber r.1 r.2).map .finite)

/-- The digits before and behind the point in the positional form. -/
def positional (c : ℕ) (e : ℤ) : List Char × List Char :=
  let ds := Nat.toDigits 10 c
  let dotplace := e + ds.length
  if dotplace < 0 then (['0'], List.replicate (-dotplace).toNat '0' ++ ds)
  else if ds.length < dotplace then
    (ds ++ List.replicate (dotplace - ds.length).toNat '0', [])
  else
    (if ds.take dotplace.toNat = [] then ['0'] else ds.take dotplace.toNat,
      ds.drop dotplace.toNat)

/-- `format(value, "f")` of a normalised decimal. -/
def formatF (d : Decimal) : List Char :=
  (if d.neg then ['-'] else []) ++ (positional d.coeff d.exp).1 ++
    if (positional d.coeff d.exp).2 = [] then [] else '.' :: (positional d.coeff d.exp).2

/-- `Decimal(text) == 0`. -/
def isZeroText (text : List Char) : Except DecimalFault Bool :=
  match decimalOfText digit (String.ofList text) with
  | none => .error .invalidOperation
  | some (.finite d) => .ok (d.coeff = 0)
  | some _ => .ok false

/-- `canonicalize` after the text is written positionally: the length of each part is checked. -/
def checkedText (normalized : List Char) : Except DecimalFault String :=
  let integer := normalized.takeWhile (· != '.')
  let fractional := (normalized.dropWhile (· != '.')).drop 1
  let significant := (integer.dropWhile (fun c => c == '-' || c == '0') ++ fractional).length
  if 30 < significant ∨ 30 < (integer.dropWhile (· == '-')).length ∨ 29 < fractional.length then
    .error (.valueError "canonical_decimal_precision_exceeded")
  else if normalized = [] ∨ normalized = ['-', '0'] then .ok "0"
  else .ok (String.ofList normalized)

/-- Trailing zeros behind a point go, and a point is never first. -/
def trimmed (normalized : List Char) : List Char :=
  let cut := if '.' ∈ normalized then
      (normalized.rdropWhile (· == '0')).rdropWhile (· == '.')
    else normalized
  let led := if ['.'] <+: cut then '0' :: cut else cut
  if ['-', '.'] <+: led then '-' :: '0' :: led.drop 1 else led

/-- `canonicalize` from the positional text on. -/
def canonicalText (normalized : List Char) : Except DecimalFault String := do
  let zero ← if ['-'] <+: normalized then isZeroText digit normalized else .ok false
  if zero then .ok "0" else checkedText (trimmed normalized)

/-- `CanonicalDecimalStringV1.canonicalize`. -/
def canonicalize (value : String) : Except DecimalFault String :=
  match decimalOfText digit value with
  | none => .error (.valueError "invalid_canonical_decimal")
  | some (.finite d) =>
    match defaultContext.normalize d with
    | none => .error .overflow
    | some normalized => canonicalText digit (formatF normalized)
  | some _ => .error (.valueError "non_finite_canonical_decimal")

end Text

/-! ## Reading what is written -/

section Positional

variable {c : ℕ} {e : ℤ}

theorem getLast_toDigits (c : ℕ) :
    (Nat.toDigits 10 c).getLast Nat.toDigits_ne_nil = Nat.digitChar (c % 10) := by
  rcases Nat.lt_or_ge c 10 with hlt | hge
  · simp [Nat.toDigits_of_lt_base hlt, Nat.mod_eq_of_lt hlt]
  · simp [Nat.toDigits_of_base_le (by decide) hge]

theorem positional_isDigit :
    ∀ x ∈ (positional c e).1 ++ (positional c e).2, x.isDigit := by
  have hds : ∀ x ∈ Nat.toDigits 10 c, x.isDigit :=
    fun x hx => Nat.isDigit_of_mem_toDigits (by decide) (by decide) hx
  intro x hx
  simp only [positional] at hx
  split_ifs at hx with hneg hbig htake
  · simp only [List.mem_append, List.mem_singleton, List.mem_replicate] at hx
    rcases hx with rfl | ⟨-, rfl⟩ | hx
    · rfl
    · rfl
    · exact hds x hx
  · simp only [List.append_nil, List.mem_append, List.mem_replicate] at hx
    rcases hx with hx | ⟨-, rfl⟩
    · exact hds x hx
    · rfl
  · rcases List.mem_append.mp hx with hx | hx
    · obtain rfl := List.mem_singleton.mp hx
      rfl
    · exact hds x (List.mem_of_mem_drop hx)
  · rw [List.take_append_drop] at hx
    exact hds x hx

theorem positional_whole_ne_nil : (positional c e).1 ≠ [] := by
  simp only [positional]
  split_ifs with hneg hbig htake <;> simp_all [Nat.toDigits_ne_nil]

theorem positional_fraction_length : (positional c e).2.length = (-e).toNat := by
  have hpos := @Nat.length_toDigits_pos 10 c
  simp only [positional]
  split_ifs with hneg hbig htake <;>
    simp only [List.length_append, List.length_replicate, List.length_drop, List.length_nil] <;>
    omega

theorem positional_whole_length (he : 0 ≤ e) :
    (positional c e).1.length = Decimal.digits c + e.toNat := by
  have hpos := @Nat.length_toDigits_pos 10 c
  simp only [positional, Decimal.digits]
  split_ifs with hneg hbig htake
  · omega
  · rw [List.length_append, List.length_replicate]
    omega
  · have := congrArg List.length htake
    simp only [List.length_take, List.length_nil] at this
    omega
  · rw [List.length_take]
    omega

/-- The digits in a row are the coefficient, with a zero for each positive exponent. -/
theorem ofDigitChars_positional :
    Nat.ofDigitChars 10 ((positional c e).1 ++ (positional c e).2) 0 = c * 10 ^ e.toNat := by
  simp only [positional]
  split_ifs with hneg hbig htake
  · have he : e.toNat = 0 := by omega
    rw [Nat.ofDigitChars_append, Nat.ofDigitChars_append, Nat.ofDigitChars_replicate_zero]
    simp [Nat.ofDigitChars_cons, he]
  · have he : (e + ((Nat.toDigits 10 c).length : ℤ) - (Nat.toDigits 10 c).length).toNat
        = e.toNat := by omega
    rw [List.append_nil, Nat.ofDigitChars_append, Nat.ofDigitChars_ten_toDigits,
      Nat.ofDigitChars_replicate_zero, he, mul_comm]
  · have hdrop : (Nat.toDigits 10 c).drop (e + ((Nat.toDigits 10 c).length : ℤ)).toNat
        = Nat.toDigits 10 c := by
      have hsplit := List.take_append_drop (e + ((Nat.toDigits 10 c).length : ℤ)).toNat
        (Nat.toDigits 10 c)
      rwa [htake, List.nil_append] at hsplit
    have hlength := congrArg List.length hdrop
    have hpos := @Nat.length_toDigits_pos 10 c
    have he : e.toNat = 0 := by
      rw [List.length_drop] at hlength
      omega
    rw [hdrop, he]
    simp [Nat.ofDigitChars_cons]
  · have he : e.toNat = 0 := by omega
    rw [List.take_append_drop, Nat.ofDigitChars_ten_toDigits, he]
    simp

/-- The last digit behind the point is the last one of the coefficient. -/
theorem positional_fraction_getLast (h : (positional c e).2 ≠ []) :
    (positional c e).2.getLast h = Nat.digitChar (c % 10) := by
  rw [← getLast_toDigits]
  simp only [positional] at h ⊢
  split_ifs at h ⊢ with hneg hbig htake
  · simp [Nat.toDigits_ne_nil]
  · exact absurd rfl h
  all_goals exact List.getLast_drop _

end Positional

section Reading

variable {digit : Char → Option (Fin 10)}

/-- The characters that `format` writes. -/
def IsPlain (c : Char) : Prop := c.isDigit ∨ c = '-' ∨ c = '.'

theorem IsPlain.toNat {c : Char} (h : IsPlain c) : 45 ≤ c.toNat ∧ c.toNat ≤ 57 := by
  rcases h with h | rfl | rfl
  · simp only [Char.isDigit, Bool.and_eq_true, decide_eq_true_eq] at h
    have h1 : (48 : UInt32).toNat ≤ c.val.toNat := UInt32.le_iff_toNat_le.mp h.1
    have h2 : c.val.toNat ≤ (57 : UInt32).toNat := UInt32.le_iff_toNat_le.mp h.2
    change 45 ≤ c.val.toNat ∧ c.val.toNat ≤ 57
    simp only [UInt32.reduceToNat] at h1 h2
    omega
  · decide
  · decide

theorem IsPlain.not_isPySpace {c : Char} (h : IsPlain c) : isPySpace c = false := by
  have := h.toNat
  simp only [isPySpace, Bool.or_eq_false_iff, decide_eq_false_iff_not, Bool.and_eq_false_iff,
    List.mem_cons, List.not_mem_nil, or_false, not_or]
  refine ⟨?_, by omega⟩
  repeat' constructor
  all_goals omega

theorem IsPlain.ne_underscore {c : Char} (h : IsPlain c) : (c != '_') = true := by
  have := h.toNat
  simp only [bne_iff_ne]
  rintro rfl
  simp at this

theorem IsPlain.asciiChar {c : Char} (h : IsPlain c) : asciiChar digit c = some c := by
  have := h.toNat
  exact if_pos ⟨by omega, by omega⟩

theorem dropWhile_eq_self_of_forall {p : Char → Bool} {cs : List Char}
    (h : ∀ c ∈ cs, p c = false) : cs.dropWhile p = cs := by
  cases cs with
  | nil => rfl
  | cons c cs => simp [List.dropWhile, h c List.mem_cons_self]

theorem numericAsAscii_ofList {cs : List Char} (h : ∀ c ∈ cs, IsPlain c) :
    numericAsAscii digit (String.ofList cs) = some cs := by
  have hspace : ∀ c ∈ cs, isPySpace c = false := fun c hc => (h c hc).not_isPySpace
  have hstrip : (strip (String.ofList cs)).toList = cs := by
    have hreverse : ∀ c ∈ cs.reverse, isPySpace c = false :=
      fun c hc => hspace c (List.mem_reverse.mp hc)
    rw [strip, String.toList_ofList, String.toList_ofList, dropWhile_eq_self_of_forall hspace,
      dropWhile_eq_self_of_forall hreverse, List.reverse_reverse]
  have hunderscore : cs.filter (· != '_') = cs :=
    List.filter_eq_self.mpr fun c hc => (h c hc).ne_underscore
  rw [numericAsAscii, hstrip, hunderscore]
  clear hstrip hunderscore hspace
  induction cs with
  | nil => rfl
  | cons c cs ih =>
    rw [List.mapM_cons, (h c List.mem_cons_self).asciiChar,
      ih fun x hx => h x (List.mem_cons_of_mem _ hx)]
    rfl

/-- A point and the digits behind it, if there are any. -/
def pointed (fraction : List Char) : List Char :=
  if fraction = [] then [] else '.' :: fraction

variable {whole fraction : List Char}

theorem takeWhile_point (h : ∀ c ∈ whole, c.isDigit) (neg : List Char) (hneg : '.' ∉ neg) :
    (neg ++ whole ++ pointed fraction).takeWhile (· != '.') = neg ++ whole ∧
      ((neg ++ whole ++ pointed fraction).dropWhile (· != '.')).drop 1 = fraction := by
  have hall : ∀ c ∈ neg ++ whole, (c != '.') = true := by
    intro c hc
    rw [bne_iff_ne]
    rintro rfl
    rcases List.mem_append.mp hc with hc | hc
    · exact hneg hc
    · exact absurd (h _ hc) (by decide)
  rw [List.takeWhile_append_of_pos hall, List.dropWhile_append_of_pos hall]
  unfold pointed
  split_ifs with hnil <;> simp [hnil]

theorem readNumber_plain (neg : Bool) (hw : whole ≠ []) (h : ∀ c ∈ whole ++ fraction, c.isDigit) :
    readNumber neg (whole ++ pointed fraction) =
      if IsExact maxContext ⟨neg, Nat.ofDigitChars 10 (whole ++ fraction) 0, -fraction.length⟩
      then some ⟨neg, Nat.ofDigitChars 10 (whole ++ fraction) 0, -fraction.length⟩ else none := by
  have hletter : ∀ c ∈ whole ++ pointed fraction, (c != 'e' && c != 'E') = true := by
    intro c hc
    have hplain : IsPlain c := by
      simp only [pointed] at hc
      rcases List.mem_append.mp hc with hc | hc
      · exact .inl (h c (List.mem_append_left _ hc))
      · split_ifs at hc with hnil
        · exact absurd hc List.not_mem_nil
        · rcases List.mem_cons.mp hc with rfl | hc
          · exact .inr (.inr rfl)
          · exact .inl (h c (List.mem_append_right _ hc))
    have := hplain.toNat
    rw [Bool.and_eq_true, bne_iff_ne, bne_iff_ne]
    constructor <;> rintro rfl <;> simp at this
  have htake : (whole ++ pointed fraction).takeWhile (fun c => c != 'e' && c != 'E')
      = whole ++ pointed fraction := List.takeWhile_eq_self_iff.mpr hletter
  have hdrop : (whole ++ pointed fraction).dropWhile (fun c => c != 'e' && c != 'E') = [] :=
    List.dropWhile_eq_nil_iff.mpr hletter
  obtain ⟨hwhole, hfraction⟩ :=
    @takeWhile_point whole fraction (fun c hc => h c (List.mem_append_left _ hc)) []
      List.not_mem_nil
  simp only [List.nil_append] at hwhole hfraction
  have hdigits : readDigits (whole ++ fraction) =
      some (Nat.ofDigitChars 10 (whole ++ fraction) 0) :=
    if_pos ⟨by simp [hw], List.all_eq_true.mpr h⟩
  simp only [readNumber, htake, hdrop, hwhole, hfraction, hdigits, readExponent, Option.bind_some,
    zero_sub]

/-- A sign and a digit are no special value. -/
theorem readSpecial_digit {c : Char} {cs : List Char} (h : c.isDigit) :
    readSpecial ((c :: cs).map Char.toLower) = none := by
  have hc := (show IsPlain c from .inl h).toNat
  have hlower : c.toLower = c := by
    refine dif_neg fun hupper => ?_
    have h1 : (65 : UInt32).toNat ≤ c.val.toNat := UInt32.le_iff_toNat_le.mp hupper.1
    change 45 ≤ c.val.toNat ∧ c.val.toNat ≤ 57 at hc
    simp only [UInt32.reduceToNat] at h1
    omega
  have hne : c ≠ 'i' ∧ c ≠ 'n' ∧ c ≠ 's' := by
    refine ⟨?_, ?_, ?_⟩ <;> rintro rfl <;> simp at hc
  simp [readSpecial, hlower, hne, hne.2.1.symm, hne.2.2.symm]

theorem readSign_digit {c : Char} {cs : List Char} (h : c.isDigit) :
    readSign (c :: cs) = (false, c :: cs) := by
  unfold readSign
  split
  · rename_i heq
    cases heq
    exact absurd h (by decide)
  · rename_i heq
    cases heq
    exact absurd h (by decide)
  · rfl

/-- The sign that `format` writes. -/
def signed (neg : Bool) : List Char := if neg then ['-'] else []

theorem decimalOfText_plain (neg : Bool) (hw : whole ≠ [])
    (h : ∀ c ∈ whole ++ fraction, c.isDigit) (hexact : IsExact maxContext
      ⟨neg, Nat.ofDigitChars 10 (whole ++ fraction) 0, -fraction.length⟩) :
    decimalOfText digit (String.ofList (signed neg ++ whole ++ pointed fraction)) =
      some (.finite ⟨neg, Nat.ofDigitChars 10 (whole ++ fraction) 0, -fraction.length⟩) := by
  have hplain : ∀ c ∈ signed neg ++ whole ++ pointed fraction, IsPlain c := by
    intro c hc
    simp only [signed, pointed, List.mem_append] at hc
    rcases hc with (hc | hc) | hc
    · split_ifs at hc
      · exact .inr (.inl (List.mem_singleton.mp hc))
      · exact absurd hc List.not_mem_nil
    · exact .inl (h c (List.mem_append_left _ hc))
    · split_ifs at hc
      · exact absurd hc List.not_mem_nil
      · rcases List.mem_cons.mp hc with rfl | hc
        · exact .inr (.inr rfl)
        · exact .inl (h c (List.mem_append_right _ hc))
  obtain ⟨c, cs, rfl⟩ := List.exists_cons_of_ne_nil hw
  have hc : c.isDigit := h c (List.mem_append_left _ List.mem_cons_self)
  have hsign : readSign (signed neg ++ (c :: cs) ++ pointed fraction) =
      (neg, c :: cs ++ pointed fraction) := by
    cases neg
    · exact readSign_digit hc
    · rfl
  rw [decimalOfText, numericAsAscii_ofList hplain]
  simp only [Option.bind_some, hsign]
  rw [readNumber_plain neg hw h, if_pos hexact, List.cons_append, readSpecial_digit hc]
  rfl

theorem formatF_eq (d : Decimal) :
    formatF d = signed d.neg ++ (positional d.coeff d.exp).1 ++
      pointed (positional d.coeff d.exp).2 := rfl

variable {r : Decimal}

/-- The positional form of a decimal, read again: no exponent is above zero. -/
def unscaled (r : Decimal) : Decimal := ⟨r.neg, r.coeff * 10 ^ r.exp.toNat, min r.exp 0⟩

theorem decimalOfText_formatF (hexact : IsExact maxContext (unscaled r)) :
    decimalOfText digit (String.ofList (formatF r)) = some (.finite (unscaled r)) := by
  have hlength : -((positional r.coeff r.exp).2.length : ℤ) = min r.exp 0 := by
    rw [positional_fraction_length]
    omega
  have hread := @decimalOfText_plain digit _ (positional r.coeff r.exp).2 r.neg
    positional_whole_ne_nil positional_isDigit
  rw [ofDigitChars_positional, hlength] at hread
  rw [formatF_eq]
  exact hread hexact

theorem unscaled_magnitude (r : Decimal) : (unscaled r).magnitude = r.magnitude := by
  rcases le_total r.exp 0 with hle | hge
  · simp [unscaled, Decimal.magnitude, hle, Int.toNat_of_nonpos hle]
  · have hexp : r.exp = (r.exp.toNat : ℤ) := (Int.toNat_of_nonneg hge).symm
    have hpow : (10 : ℚ) ^ r.exp = 10 ^ r.exp.toNat := by
      conv_lhs => rw [hexp]
      exact zpow_natCast _ _
    simp [unscaled, Decimal.magnitude, hge, hpow]

theorem unscaled_toRat (r : Decimal) : (unscaled r).toRat = r.toRat := by
  simp only [Decimal.toRat, unscaled_magnitude]
  rfl

/-- A normalised decimal is within the limits of the texts. -/
theorem isExact_unscaled (h : defaultContext.IsNormal r) : IsExact maxContext (unscaled r) := by
  by_cases hzero : r.coeff = 0
  · have hexp := h.1 hzero
    simp only [IsExact, unscaled, hzero, hexp, zero_mul, Decimal.adjusted, Decimal.digits_zero]
    decide
  · obtain ⟨hlt, htiny, hemax, -⟩ := h.2 hzero
    have hdigits : Decimal.digits r.coeff ≤ 28 := (Decimal.digits_le_iff (by decide)).mpr hlt
    have hpos := @Decimal.digits_pos r.coeff
    simp only [IsExact, unscaled, Decimal.adjusted, Decimal.digits_mul_pow hzero]
    simp only [defaultContext, maxContext, DecimalContext.etiny] at htiny hemax ⊢
    push_cast at htiny ⊢
    omega

end Reading

/-! ## What is accepted -/

section Accepted

variable {digit : Char → Option (Fin 10)} {r : Decimal} {value text : String}

/-- The last character behind a point is a digit other than zero. -/
theorem formatF_getLast (hnormal : defaultContext.IsNormal r) (hzero : r.coeff ≠ 0)
    (hpoint : '.' ∈ formatF r) (hne : formatF r ≠ []) :
    (formatF r).getLast hne ≠ '0' ∧ (formatF r).getLast hne ≠ '.' := by
  have hfraction : (positional r.coeff r.exp).2 ≠ [] := by
    intro hnil
    simp only [formatF_eq, hnil, pointed, if_true, List.append_nil, List.mem_append] at hpoint
    rcases hpoint with hsign | hwhole
    · unfold signed at hsign
      split_ifs at hsign
      · exact absurd (List.mem_singleton.mp hsign) (by decide)
      · exact absurd hsign List.not_mem_nil
    · exact absurd (positional_isDigit _ (List.mem_append_left _ hwhole)) (by decide)
  have hlast : (formatF r).getLast hne = (positional r.coeff r.exp).2.getLast hfraction := by
    simp only [formatF_eq, pointed, hfraction, if_false]
    rw [List.getLast_append_of_ne_nil _ (List.cons_ne_nil _ _), List.getLast_cons hfraction]
  have hexp : r.exp < 0 := by
    have hlength := positional_fraction_length (c := r.coeff) (e := r.exp)
    have := List.length_pos_iff.mpr hfraction
    omega
  obtain ⟨-, -, -, hdvd⟩ := hnormal.2 hzero
  rw [hlast]
  constructor
  · rw [positional_fraction_getLast, ne_eq, Nat.digitChar_eq_zero]
    intro hmod
    have := hdvd (Nat.dvd_of_mod_eq_zero hmod)
    simp only [defaultContext] at this
    omega
  · have hdigit := positional_isDigit _ (List.mem_append_right _ (List.getLast_mem hfraction))
    intro hdot
    rw [hdot] at hdigit
    exact absurd hdigit (by decide)

/-- Only zero is written with the digit zero alone. -/
theorem formatF_ne (hzero : r.coeff ≠ 0) : formatF r ≠ [] ∧ formatF r ≠ ['-', '0'] := by
  obtain ⟨c, cs, hwhole⟩ :=
    List.exists_cons_of_ne_nil (positional_whole_ne_nil (c := r.coeff) (e := r.exp))
  have hdigits := positional_isDigit (c := r.coeff) (e := r.exp)
  have hvalue := ofDigitChars_positional (c := r.coeff) (e := r.exp)
  have hc : c ≠ '-' := by
    rintro rfl
    exact absurd (hdigits '-' (by simp [hwhole])) (by decide)
  rw [formatF_eq, hwhole]
  refine ⟨by simp, fun heq => ?_⟩
  unfold signed pointed at heq
  split_ifs at heq with hneg hnil
  · simp only [List.append_nil, List.cons_append, List.nil_append, List.cons.injEq, true_and] at heq
    obtain ⟨rfl, rfl⟩ := heq
    rw [hwhole, hnil] at hvalue
    have hcoeff : r.coeff * 10 ^ r.exp.toNat = 0 := hvalue.symm
    exact hzero ((Nat.mul_eq_zero.mp hcoeff).resolve_right (by positivity))
  · simp at heq
  · simp [hc] at heq
  · simp [hc] at heq

theorem trimmed_formatF (hnormal : defaultContext.IsNormal r) (hzero : r.coeff ≠ 0) :
    trimmed (formatF r) = formatF r := by
  have hcut : (if '.' ∈ formatF r then
      ((formatF r).rdropWhile (· == '0')).rdropWhile (· == '.') else formatF r) = formatF r := by
    split_ifs with hpoint
    · have hlast := formatF_getLast hnormal hzero hpoint
      have hzeros : (formatF r).rdropWhile (· == '0') = formatF r :=
        List.rdropWhile_eq_self_iff.mpr fun hne => by simpa using (hlast hne).1
      have hdots : (formatF r).rdropWhile (· == '.') = formatF r :=
        List.rdropWhile_eq_self_iff.mpr fun hne => by simpa using (hlast hne).2
      rw [hzeros, hdots]
    · rfl
  obtain ⟨c, cs, hwhole⟩ :=
    List.exists_cons_of_ne_nil (positional_whole_ne_nil (c := r.coeff) (e := r.exp))
  have hdigit := positional_isDigit (c := r.coeff) (e := r.exp) c (by simp [hwhole])
  have hc : c ≠ '.' := by rintro rfl; exact absurd hdigit (by decide)
  have hminus : c ≠ '-' := by rintro rfl; exact absurd hdigit (by decide)
  have hdot : ¬ ['.'] <+: formatF r := by
    rw [formatF_eq, hwhole, signed]
    split_ifs <;> simp [hc.symm]
  have hsigned : ¬ ['-', '.'] <+: formatF r := by
    rw [formatF_eq, hwhole, signed]
    split_ifs <;> simp [hc.symm, hminus.symm]
  simp only [trimmed, hcut, if_neg hdot, if_neg hsigned]

/-- A nonzero text is written as it is, a zero as `0`. -/
theorem canonicalText_ok (hnormal : defaultContext.IsNormal r)
    (h : canonicalText digit (formatF r) = .ok text) :
    (r.coeff = 0 ∧ text = "0") ∨
      (r.coeff ≠ 0 ∧ text = String.ofList (formatF r) ∧ -29 ≤ r.exp ∧ r.exp ≤ 29) := by
  by_cases hzero : r.coeff = 0
  · refine .inl ⟨hzero, ?_⟩
    obtain ⟨neg, c, e⟩ := r
    obtain rfl : c = 0 := hzero
    obtain rfl : e = 0 := hnormal.1 rfl
    cases neg
    · exact (Except.ok.inj (h.symm.trans rfl)).trans rfl
    · exact (Except.ok.inj (h.symm.trans rfl)).trans rfl
  · refine .inr ⟨hzero, ?_⟩
    have hread := @decimalOfText_formatF digit r (isExact_unscaled hnormal)
    have hnonzero : isZeroText digit (formatF r) = .ok false := by
      simp [isZeroText, hread, unscaled, hzero]
    have hchecked : checkedText (formatF r) = .ok text := by
      rw [canonicalText, hnonzero, trimmed_formatF hnormal hzero] at h
      split_ifs at h <;> exact h
    obtain ⟨hwhole, hfraction⟩ :=
      @takeWhile_point (positional r.coeff r.exp).1 (positional r.coeff r.exp).2
      (fun c hc => positional_isDigit c (List.mem_append_left _ hc)) (signed r.neg)
      (by unfold signed; split_ifs <;> simp)
    rw [← formatF_eq] at hwhole hfraction
    simp only [checkedText, hwhole, hfraction] at hchecked
    split_ifs at hchecked with hlimits hempty
    · exact absurd hempty (not_or.mpr (formatF_ne hzero))
    · have hdrop : (signed r.neg ++ (positional r.coeff r.exp).1).dropWhile (· == '-')
          = (positional r.coeff r.exp).1 := by
        have hdigits := positional_isDigit (c := r.coeff) (e := r.exp)
        have hwhole : (positional r.coeff r.exp).1.dropWhile (· == '-')
            = (positional r.coeff r.exp).1 := by
          refine dropWhile_eq_self_of_forall fun c hc => ?_
          rw [beq_eq_false_iff_ne]
          rintro rfl
          exact absurd (hdigits '-' (List.mem_append_left _ hc)) (by decide)
        cases r.neg
        · exact hwhole
        · exact hwhole
      rw [hdrop, positional_fraction_length] at hlimits
      refine ⟨(Except.ok.inj hchecked).symm, by omega, ?_⟩
      by_contra hbig
      have hlength := positional_whole_length (c := r.coeff) (show 0 ≤ r.exp by omega)
      have := @Decimal.digits_pos r.coeff
      omega

end Accepted

end MarketSupport
