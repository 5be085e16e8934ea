import Mathlib.Data.List.DropRight
import Mathlib.Data.Nat.Notation

/-!
# Base 64

Three bytes are written as four digits, and what remains is padded to four. The reader is
lenient: it passes over characters that are no digits and stops where the padding is complete.

## Main results

* `scan_encode` — the reader returns the bytes of a padded encoding.
-/

namespace MarketSupport.Library

/-- An alphabet of sixty-four digits, with a reader for them and a character to pad with. -/
structure Alphabet64 where
  digit : ℕ → Char
  value : Char → Option ℕ
  pad : Char
  value_digit : ∀ v < 64, value (digit v) = some v
  digit_ne_pad : ∀ v < 64, digit v ≠ pad

namespace Alphabet64

variable (A : Alphabet64)

/-- The digits of a list of bytes, without padding. -/
def encode : List (Fin 256) → List Char
  | [] => []
  | [a] => [A.digit (a.val / 4), A.digit (a.val % 4 * 16)]
  | [a, b] =>
    [A.digit (a.val / 4), A.digit (a.val % 4 * 16 + b.val / 16), A.digit (b.val % 16 * 4)]
  | a :: b :: c :: rest =>
    A.digit (a.val / 4) :: A.digit (a.val % 4 * 16 + b.val / 16) ::
      A.digit (b.val % 16 * 4 + c.val / 64) :: A.digit (c.val % 64) :: encode rest

/-- How many characters fill the last group of four. -/
def padding (length : ℕ) : ℕ := (4 - length % 4) % 4

/-- The last eight bits of a number. -/
def lowByte (n : ℕ) : Fin 256 := ⟨n % 256, Nat.mod_lt n (by decide)⟩

/-- The reader. Of the current group it has `pos` digits and, in `left`, the bits of the last
one that are not yet written; `pads` counts the padding just before. -/
def scan (pos left pads : ℕ) : List Char → Option (List (Fin 256))
  | [] => if pos = 0 then some [] else none
  | c :: rest =>
    if c = A.pad then
      if pos < 2 then scan pos left pads rest
      else if pos + (pads + 1) ≥ 4 then some []
      else scan pos left (pads + 1) rest
    else match A.value c, pos with
      | none, _ => scan pos left pads rest
      | some v, 0 => scan 1 v 0 rest
      | some v, 1 => (scan 2 (v % 16) 0 rest).map (lowByte (left * 4 + v / 16) :: ·)
      | some v, 2 => (scan 3 (v % 4) 0 rest).map (lowByte (left * 16 + v / 4) :: ·)
      | some v, _ => (scan 0 0 0 rest).map (lowByte (left * 64 + v) :: ·)

variable {A}

section Scan

variable {v left pads : ℕ} {rest : List Char}

theorem scan_digit_zero (hv : v < 64) : A.scan 0 left pads (A.digit v :: rest) =
    A.scan 1 v 0 rest := by
  simp [scan, A.digit_ne_pad v hv, A.value_digit v hv]

theorem scan_digit_one (hv : v < 64) : A.scan 1 left pads (A.digit v :: rest) =
    (A.scan 2 (v % 16) 0 rest).map (lowByte (left * 4 + v / 16) :: ·) := by
  simp [scan, A.digit_ne_pad v hv, A.value_digit v hv]

theorem scan_digit_two (hv : v < 64) : A.scan 2 left pads (A.digit v :: rest) =
    (A.scan 3 (v % 4) 0 rest).map (lowByte (left * 16 + v / 4) :: ·) := by
  simp [scan, A.digit_ne_pad v hv, A.value_digit v hv]

theorem scan_digit_three (hv : v < 64) : A.scan 3 left pads (A.digit v :: rest) =
    (A.scan 0 0 0 rest).map (lowByte (left * 64 + v) :: ·) := by
  simp [scan, A.digit_ne_pad v hv, A.value_digit v hv]

theorem scan_pads_two : A.scan 2 left 0 [A.pad, A.pad] = some [] := by
  simp [scan]

theorem scan_pads_three : A.scan 3 left 0 [A.pad] = some [] := by
  simp [scan]

end Scan

theorem lowByte_eq {n : ℕ} {a : Fin 256} (h : n = a.val) : lowByte n = a := by
  apply Fin.ext
  change n % 256 = a.val
  rw [h, Nat.mod_eq_of_lt a.isLt]

theorem padding_add_four (length : ℕ) : padding (length + 4) = padding length := by
  unfold padding
  omega

/-- The reader takes the bytes of a padded encoding, group by group. -/
theorem scan_encode (bytes : List (Fin 256)) :
    A.scan 0 0 0 (A.encode bytes ++ List.replicate (padding (A.encode bytes).length) A.pad) =
      some bytes := by
  induction bytes using encode.induct with
  | case1 => simp [encode, padding, scan]
  | case2 a =>
    have ha := a.isLt
    have hpad : List.replicate (padding (A.encode [a]).length) A.pad = [A.pad, A.pad] := rfl
    rw [hpad]
    simp only [encode, List.cons_append, List.nil_append]
    rw [scan_digit_zero (by omega), scan_digit_one (by omega), scan_pads_two, Option.map_some,
      lowByte_eq (a := a) (by omega)]
  | case3 a b =>
    have ha := a.isLt
    have hb := b.isLt
    have hpad : List.replicate (padding (A.encode [a, b]).length) A.pad = [A.pad] := rfl
    rw [hpad]
    simp only [encode, List.cons_append, List.nil_append]
    rw [scan_digit_zero (by omega), scan_digit_one (by omega), scan_digit_two (by omega),
      scan_pads_three, Option.map_some, Option.map_some, lowByte_eq (a := a) (by omega), lowByte_eq
        (a := b) (by omega)]
  | case4 a b c rest ih =>
    have ha := a.isLt
    have hb := b.isLt
    have hc := c.isLt
    simp only [encode, List.length_cons, List.cons_append]
    rw [padding_add_four, scan_digit_zero (by omega), scan_digit_one (by omega),
      scan_digit_two (by omega), scan_digit_three (by omega), ih]
    simp only [Option.map_some]
    rw [lowByte_eq (a := a) (by omega), lowByte_eq (a := b) (by omega),
      lowByte_eq (a := c) (by omega)]

/-- Every character of an encoding is a digit. -/
theorem forall_mem_encode {P : Char → Prop} (h : ∀ v < 64, P (A.digit v)) (bytes : List (Fin 256)) :
    ∀ c ∈ A.encode bytes, P c := by
  induction bytes using encode.induct with
  | case1 =>
    intro c hc
    cases hc
  | case2 a =>
    have ha := a.isLt
    simp only [encode, List.forall_mem_cons]
    exact ⟨h _ (by omega), h _ (by omega), by simp⟩
  | case3 a b =>
    have ha := a.isLt
    have hb := b.isLt
    simp only [encode, List.forall_mem_cons]
    exact ⟨h _ (by omega), h _ (by omega), h _ (by omega), by simp⟩
  | case4 a b c rest ih =>
    have ha := a.isLt
    have hb := b.isLt
    have hc := c.isLt
    simp only [encode, List.forall_mem_cons]
    exact ⟨h _ (by omega), h _ (by omega), h _ (by omega), h _ (by omega), ih⟩

theorem encode_ne_nil {bytes : List (Fin 256)} (h : bytes ≠ []) : A.encode bytes ≠ [] := by
  cases bytes using encode.fun_cases <;> simp_all [encode]

theorem rdropWhile_encode (bytes : List (Fin 256)) (n : ℕ) :
    (A.encode bytes ++ List.replicate n A.pad).rdropWhile (· == A.pad) = A.encode bytes := by
  rw [List.rdropWhile, List.reverse_append, List.dropWhile_append_of_pos (by simp)]
  have hdigits : ∀ c ∈ A.encode bytes, (c == A.pad) = false := by
    refine forall_mem_encode (fun v hv => ?_) bytes
    exact beq_eq_false_iff_ne.mpr (A.digit_ne_pad v hv)
  cases hrev : (A.encode bytes).reverse with
  | nil => simpa using (List.reverse_eq_nil_iff.mp hrev).symm
  | cons c rest =>
    have hc := hdigits c (List.mem_reverse.mp (hrev ▸ List.mem_cons_self))
    rw [List.dropWhile_cons_of_neg (by simp [hc]), ← hrev, List.reverse_reverse]

end Alphabet64

end MarketSupport.Library
