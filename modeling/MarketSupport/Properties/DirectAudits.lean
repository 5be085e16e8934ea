import MarketSupport.Identity.KeyBytes
import MarketSupport.Observability.DirectAudit

/-!
# Keyed digests

A key has one configured text, and what a digest covers tells the purpose, the conversation and
the content apart.

## Main results

* `decodeDirectAuditHmacKey_eq_ok_iff` — which texts are keys, and of which bytes.
* `directAuditMessage_inj` — different digests cover different bytes.
-/

namespace MarketSupport

open Library

/-! ## Keys -/

section Key

variable {bytes : Bytes}

theorem urlsafeDigit_plain : ∀ v < 64, isPySpace (urlsafeDigit v) = false ∧
    (urlsafeDigit v).toNat < 128 ∧
    urlsafeDigit v ≠ '=' := by
  decide +kernel

theorem urlsafe_plain (bytes : Bytes) : ∀ c ∈ urlsafeAlphabet.encode bytes,
    isPySpace c = false ∧ c.toNat < 128 ∧ c ≠ '=' :=
  Alphabet64.forall_mem_encode urlsafeDigit_plain bytes

theorem urlsafeB64decode_encode (bytes : Bytes) : urlsafeB64decode
    (urlsafeB64encode bytes) = some bytes :=
  Alphabet64.scan_encode bytes

theorem dropWhile_of_forall {α : Type*} {p : α → Bool} {l : List α} (h : ∀ a ∈ l, p a = false) :
    l.dropWhile p = l := by
  cases l with
  | nil => rfl
  | cons a l => exact List.dropWhile_cons_of_neg (by simp [h a List.mem_cons_self])

/-- A text without white space is stripped. -/
theorem strip_of_forall {s : String} (h : ∀ c ∈ s.toList, isPySpace c = false) : strip s = s := by
  unfold strip
  rw [dropWhile_of_forall h, dropWhile_of_forall fun c hc => h c (List.mem_reverse.mp hc),
    List.reverse_reverse, String.ofList_toList]

/-- The text of a key is accepted. -/
theorem decodeDirectAuditHmacKey_encode (hleast : 32 ≤ bytes.length) (hmost : bytes.length ≤ 64) :
    decodeDirectAuditHmacKey (String.ofList (urlsafeAlphabet.encode bytes)) = .ok bytes := by
  have hplain := urlsafe_plain bytes
  have hnil : urlsafeAlphabet.encode bytes ≠ [] := by
    apply Alphabet64.encode_ne_nil
    intro h
    rw [h] at hleast
    cases hleast
  have hbad : ¬(String.ofList (urlsafeAlphabet.encode bytes) = "" ∨
      strip (String.ofList (urlsafeAlphabet.encode bytes)) ≠ String.ofList
        (urlsafeAlphabet.encode bytes) ∨
      '=' ∈ (String.ofList (urlsafeAlphabet.encode bytes)).toList) := by
    rintro (hempty | hstrip | hpad)
    · exact hnil (by simpa using congrArg String.toList hempty)
    · exact hstrip (strip_of_forall fun c hc => (hplain c (by simpa using hc)).1)
    · exact (hplain '=' (by simpa using hpad)).2.2 rfl
  have hascii : ¬(String.ofList (urlsafeAlphabet.encode bytes)).toList.any
    (fun c => 128 ≤ c.toNat) = true := by
    intro hany
    obtain ⟨c, hc, hbig⟩ := List.any_eq_true.mp hany
    have hsmall := (hplain c (by simpa using hc)).2.1
    simp only [decide_eq_true_eq] at hbig
    omega
  have hdecode : urlsafeB64decode (urlsafeAlphabet.encode bytes ++
      List.replicate (Alphabet64.padding (urlsafeAlphabet.encode bytes).length) '=') = some bytes :=
    urlsafeB64decode_encode bytes
  have hcanonical : (urlsafeB64encode bytes).rdropWhile (· == '=') = urlsafeAlphabet.encode bytes :=
    urlsafeAlphabet.rdropWhile_encode bytes _
  unfold decodeDirectAuditHmacKey
  rw [if_neg hbad, if_neg hascii]
  simp only [String.toList_ofList, hdecode, hcanonical]
  rw [if_neg (not_not.mpr ⟨hleast, hmost⟩), if_neg (not_not.mpr rfl)]

end Key

/-- The keys are the encodings of thirty-two to sixty-four bytes, without padding. -/
theorem decodeDirectAuditHmacKey_eq_ok_iff (encodedKey : String) (key : Bytes) :
    decodeDirectAuditHmacKey encodedKey = .ok key ↔
      (32 ≤ key.length ∧ key.length ≤ 64) ∧ encodedKey.toList = urlsafeAlphabet.encode key := by
  constructor
  · intro h
    unfold decodeDirectAuditHmacKey at h
    split_ifs at h with hbad hascii
    cases hdecoded : urlsafeB64decode (encodedKey.toList ++
        List.replicate (Alphabet64.padding encodedKey.toList.length) '=') with
    | none => rw [hdecoded] at h; cases h
    | some decoded =>
      rw [hdecoded] at h
      dsimp only at h
      split_ifs at h with hlength hcanonical
      obtain rfl := Except.ok.inj h
      have hdigits : (urlsafeB64encode decoded).rdropWhile (· == '=') =
        urlsafeAlphabet.encode decoded :=
        urlsafeAlphabet.rdropWhile_encode decoded _
      exact ⟨hlength, (not_not.mp hcanonical).symm.trans hdigits⟩
  · intro ⟨⟨hleast, hmost⟩, htext⟩
    have hkey : encodedKey = String.ofList (urlsafeAlphabet.encode key) := by
      rw [← htext, String.ofList_toList]
    rw [hkey]
    exact decodeDirectAuditHmacKey_encode hleast hmost

/-! ## Digests -/

/-- A purpose is told by its bytes, which hold no NUL. -/
theorem purpose_bytes : ∀ purpose : DirectAuditPurposeV1, (0 : Fin 256) ∉ utf8Bytes
    purpose.text := by
  intro purpose
  cases purpose <;> decide +kernel

theorem DirectAuditPurposeV1.text_injective : Function.Injective DirectAuditPurposeV1.text := by
  intro a b h
  cases a <;> cases b <;> first | rfl | (exact absurd h (by decide))

/-- The bytes under a digest tell its purpose, its conversation and its content. -/
theorem directAuditMessage_inj (purpose purpose' : DirectAuditPurposeV1)
    (stateKey stateKey' : ConversationStateKey) (payload payload' : Bytes) :
    directAuditMessage purpose stateKey payload = directAuditMessage purpose' stateKey' payload' ↔
      purpose = purpose' ∧ stateKey = stateKey' ∧ payload = payload' := by
  constructor
  · intro h
    simp only [directAuditMessage, List.intercalate, List.intersperse, List.flatten_cons,
      List.flatten_nil, List.append_nil, List.singleton_append, List.append_cancel_left_eq,
      List.cons.injEq, true_and] at h
    -- the purpose ends at the first NUL, the key where its JSON text does
    obtain ⟨hpurpose, hrest⟩ := append_separator_inj (purpose_bytes purpose)
      (purpose_bytes purpose') h
    obtain rfl := DirectAuditPurposeV1.text_injective (utf8Bytes_injective hpurpose)
    obtain rfl : stateKey = stateKey' := by
      obtain ⟨z, hz, -⟩ | ⟨z, hz, -⟩ := List.append_eq_append_iff.mp hrest
      · exact stateKey_of_bytes_append hz
      · exact (stateKey_of_bytes_append hz).symm
    have hpayload := List.append_cancel_left hrest
    exact ⟨rfl, rfl, (List.cons.inj hpayload).2⟩
  · rintro ⟨rfl, rfl, rfl⟩
    rfl

end MarketSupport
