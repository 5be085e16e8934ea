import MarketSupport.Identity.StateKey
import MarketSupport.Library.PrefixCode

/-!
# Key bytes

Different state keys have different canonical bytes, whatever follows them. The escapes of a JSON
string are read back one character at a time, so every string of the payload ends at its closing
quote. Suffixes of one state key are in the order of their code points.
-/

namespace MarketSupport

open Library

/-! ## Reading escapes -/

def hexValue (c : Char) : ℕ := "0123456789abcdef".toList.idxOf c

theorem hexValue_hexDigit : ∀ n < 16, hexValue (hexDigit n) = n := by decide

/-- The 16-bit unit of an escape, and the text after it. -/
def readUnit : List Char → Option (ℕ × List Char)
  | '\\' :: 'u' :: a :: b :: c :: d :: rest =>
    some (hexValue a * 4096 + hexValue b * 256 + hexValue c * 16 + hexValue d, rest)
  | _ => none

theorem readUnit_unicodeEscape {n : ℕ} (hn : n < 65536) (rest : List Char) :
    readUnit (unicodeEscape n ++ rest) = some (n, rest) := by
  have hdigit : ∀ m, hexValue (hexDigit (m % 16)) = m % 16 :=
    fun m => hexValue_hexDigit _ (Nat.mod_lt _ (by omega))
  simp only [unicodeEscape, List.cons_append, List.nil_append, readUnit, hdigit]
  congr 2
  omega

/-- The character of a unit: a high surrogate takes the unit after it. -/
def charOfUnit (unit : ℕ) (rest : List Char) : Option (Char × List Char) :=
  if 0xd800 ≤ unit ∧ unit < 0xdc00 then
    (readUnit rest).map fun low =>
      (Char.ofNat (65536 + (unit - 0xd800) * 1024 + (low.1 - 0xdc00)), low.2)
  else some (Char.ofNat unit, rest)

/-- The first character of the text of a JSON string, and the text after it. -/
def readChar : List Char → Option (Char × List Char)
  | '\\' :: '"' :: rest => some ('"', rest)
  | '\\' :: '\\' :: rest => some ('\\', rest)
  | '\\' :: 'n' :: rest => some ('\n', rest)
  | '\\' :: 'r' :: rest => some ('\r', rest)
  | '\\' :: 't' :: rest => some ('\t', rest)
  | '\\' :: 'b' :: rest => some (Char.ofNat 8, rest)
  | '\\' :: 'f' :: rest => some (Char.ofNat 12, rest)
  | '\\' :: rest => (readUnit ('\\' :: rest)).bind fun unit => charOfUnit unit.1 unit.2
  | c :: rest => some (c, rest)
  | [] => none

theorem readChar_unicodeEscape {n : ℕ} (hn : n < 65536) (rest : List Char) :
    readChar (unicodeEscape n ++ rest) = charOfUnit n rest := by
  have hread : readChar (unicodeEscape n ++ rest) =
      (readUnit (unicodeEscape n ++ rest)).bind fun unit => charOfUnit unit.1 unit.2 := rfl
  rw [hread, readUnit_unicodeEscape hn, Option.bind_some]

/-- No character is a surrogate. -/
theorem toNat_not_surrogate (c : Char) : ¬(0xd800 ≤ c.toNat ∧ c.toNat < 0xe000) := by
  have hvalid : c.toNat < 0xd800 ∨ 0xdfff < c.toNat ∧ c.toNat < 0x110000 := c.valid
  omega

theorem readChar_escapeChar (c : Char) (rest : List Char) :
    readChar (escapeChar c ++ rest) = some (c, rest) := by
  have hnat : Char.ofNat c.toNat = c := Char.ofNat_toNat c
  have hsurrogate := toNat_not_surrogate c
  have hmax : c.toNat < 0x110000 := by
    have hvalid : c.toNat < 0xd800 ∨ 0xdfff < c.toNat ∧ c.toNat < 0x110000 := c.valid
    omega
  unfold escapeChar
  split_ifs with hquote hback hn hr ht hb hf hprint hunit
  · rw [hquote]; rfl
  · rw [hback]; rfl
  · rw [hn]; rfl
  · rw [hr]; rfl
  · rw [ht]; rfl
  · rw [← hnat, hb]; rfl
  · rw [← hnat, hf]; rfl
  · rw [List.singleton_append, readChar]
    all_goals simp [hback]
  · rw [readChar_unicodeEscape hunit, charOfUnit, if_neg (by omega), hnat]
  · rw [List.append_assoc, readChar_unicodeEscape (by omega), charOfUnit, if_pos (by omega),
      readUnit_unicodeEscape (by omega), Option.map_some]
    have hcode : 65536 + (0xd800 + (c.toNat - 65536) / 1024 - 0xd800) * 1024 +
        (0xdc00 + (c.toNat - 65536) % 1024 - 0xdc00) = c.toNat := by omega
    rw [hcode, hnat]

/-! ## Payloads -/

theorem escapeChar_prefixCode : PrefixCode escapeChar := .of_decode readChar_escapeChar

/-- An escaped character never begins with the closing quote. -/
theorem exists_escapeChar_eq (c : Char) : ∃ d w, escapeChar c = d :: w ∧ d ≠ '"' := by
  unfold escapeChar
  split_ifs with hquote
  all_goals first
    | exact ⟨_, _, rfl, by decide⟩
    | exact ⟨_, _, rfl, hquote⟩

theorem jsonString_prefixCode : PrefixCode jsonString := by
  have hbody : PrefixCode ((fun l : List Char => l.flatMap escapeChar ++ ['"']) ∘ String.toList) :=
    (escapeChar_prefixCode.sequence exists_escapeChar_eq).comp_injective
      fun _ _ => String.ext
  intro a b x y h
  exact hbody (List.cons.inj h).2

theorem canonicalStateKeyPayload_prefixCode : PrefixCode canonicalStateKeyPayload := by
  rintro ⟨⟨⟩, namespace₁, tenant₁, scene₁, subject₁, principal₁⟩
    ⟨⟨⟩, namespace₂, tenant₂, scene₂, subject₂, principal₂⟩ x y h
  simp only [canonicalStateKeyPayload, jsonMember, List.intercalate, List.intersperse,
    List.flatten_cons, List.flatten_nil, List.append_assoc, List.cons_append, List.nil_append,
    List.append_cancel_left_eq, List.cons.injEq, true_and] at h
  obtain ⟨rfl, h⟩ := jsonString_prefixCode h
  simp only [List.append_cancel_left_eq, List.cons.injEq, true_and] at h
  obtain ⟨rfl, h⟩ := jsonString_prefixCode h
  simp only [List.append_cancel_left_eq, List.cons.injEq, true_and] at h
  obtain ⟨hscene, h⟩ := jsonString_prefixCode h
  obtain rfl := Scene.text_injective hscene
  simp only [List.append_cancel_left_eq, List.cons.injEq, true_and] at h
  obtain ⟨rfl, h⟩ := jsonString_prefixCode h
  simp only [List.append_cancel_left_eq, List.cons.injEq, true_and] at h
  obtain ⟨rfl, h⟩ := jsonString_prefixCode h
  simp only [List.append_cancel_left_eq, List.cons.injEq, true_and] at h
  exact ⟨rfl, h⟩

/-! ## Bytes -/

/-- All characters are below 128, so one byte takes each. -/
def Ascii (text : List Char) : Prop := ∀ c ∈ text, c.toNat < 128

theorem Ascii.append {a b : List Char} (ha : Ascii a) (hb : Ascii b) : Ascii (a ++ b) :=
  fun _ hc => (List.mem_append.mp hc).elim (ha _) (hb _)

theorem Ascii.cons {c : Char} {text : List Char} (hc : c.toNat < 128) (h : Ascii text) :
    Ascii (c :: text) :=
  List.forall_mem_cons.mpr ⟨hc, h⟩

theorem Ascii.flatten {texts : List (List Char)} (h : ∀ text ∈ texts, Ascii text) :
    Ascii texts.flatten := by
  intro c hc
  obtain ⟨text, htext, hmem⟩ := List.mem_flatten.mp hc
  exact h text htext c hmem

theorem ascii_unicodeEscape (n : ℕ) : Ascii (unicodeEscape n) := by
  have hdigit : ∀ d < 16, (hexDigit d).toNat < 128 := by decide
  have hmod : ∀ m, (hexDigit (m % 16)).toNat < 128 := fun m => hdigit _ (Nat.mod_lt _ (by omega))
  exact .cons (by decide) (.cons (by decide) (.cons (hmod _) (.cons (hmod _) (.cons (hmod _)
    (.cons (hmod _) (by simp [Ascii]))))))

theorem ascii_escapeChar (c : Char) : Ascii (escapeChar c) := by
  unfold escapeChar
  split_ifs with _ _ _ _ _ _ _ hprint
  all_goals first
    | exact ascii_unicodeEscape _
    | exact (ascii_unicodeEscape _).append (ascii_unicodeEscape _)
    | exact .cons (by omega) (by simp [Ascii])
    | exact .cons (by decide) (.cons (by decide) (by simp [Ascii]))

theorem ascii_jsonString (s : String) : Ascii (jsonString s) := by
  refine .append (.cons (by decide) fun c hc => ?_) (.cons (by decide) (by simp [Ascii]))
  obtain ⟨d, _, hd⟩ := List.mem_flatMap.mp hc
  exact ascii_escapeChar d c hd

theorem Ascii.jsonMember (name : String) {value : List Char} (h : Ascii value) :
    Ascii (jsonMember name value) :=
  (ascii_jsonString name).append (.cons (by decide) h)

theorem ascii_canonicalStateKeyPayload (k : ConversationStateKey) :
    Ascii (canonicalStateKeyPayload k) := by
  have hmember : ∀ name s, Ascii (jsonMember name (jsonString s)) :=
    fun name s => .jsonMember name (ascii_jsonString s)
  have hcomma : Ascii [','] := .cons (by decide) (by simp [Ascii])
  have hversion : Ascii (jsonMember "version" ['1']) :=
    .jsonMember _ (.cons (by decide) (by simp [Ascii]))
  refine .append (.cons (by decide) (.flatten ?_)) (.cons (by decide) (by simp [Ascii]))
  simp only [List.intersperse, List.forall_mem_cons, hmember, hcomma, hversion, List.not_mem_nil,
    false_implies, implies_true, and_self]

/-- The bytes of an ASCII text are read back. -/
theorem read_canonicalJsonBytes {text : List Char} (h : Ascii text) :
    (canonicalJsonBytes text).map (fun byte => Char.ofNat byte.val) = text := by
  rw [canonicalJsonBytes, List.map_map]
  refine (List.map_congr_left fun c hc => ?_).trans (List.map_id _)
  have hlt := h c hc
  simp only [Function.comp_apply, Fin.val_ofNat, id_eq]
  rw [Nat.mod_eq_of_lt (by omega), Char.ofNat_toNat]

theorem utf8Bytes_injective : Function.Injective utf8Bytes := by
  intro s t h
  have hbytes : s.toUTF8.data.toList = t.toUTF8.data.toList :=
    List.map_injective_iff.mpr (fun _ _ => UInt8.toFin_inj.mp) h
  exact String.toByteArray_inj.mp (ByteArray.ext (Array.toList_inj.mp hbytes))

/-- A payload whose bytes continue those of another is that of the same state key. -/
theorem stateKey_of_bytes_append {k l : ConversationStateKey} {z : Bytes}
    (h : canonicalJsonBytes (canonicalStateKeyPayload l) =
      canonicalJsonBytes (canonicalStateKeyPayload k) ++ z) : k = l := by
  have hread := congrArg (List.map fun byte => Char.ofNat byte.val) h
  rw [List.map_append, read_canonicalJsonBytes (ascii_canonicalStateKeyPayload l),
    read_canonicalJsonBytes (ascii_canonicalStateKeyPayload k)] at hread
  exact (canonicalStateKeyPayload_prefixCode (hread.symm.trans (List.append_nil _).symm)).1

/-- The bytes of a key tell the state key from the suffix. -/
theorem keyBytes_inj {k l : ConversationStateKey} {s t : String} :
    keyBytes k s = keyBytes l t ↔ k = l ∧ s = t := by
  refine ⟨fun h => ?_, fun ⟨hk, hs⟩ => hk ▸ hs ▸ rfl⟩
  obtain rfl : k = l := by
    obtain ⟨z, hz, -⟩ | ⟨z, hz, -⟩ := List.append_eq_append_iff.mp h
    · exact stateKey_of_bytes_append hz
    · exact (stateKey_of_bytes_append hz).symm
  exact ⟨rfl, utf8Bytes_injective (List.append_cancel_left h)⟩

/-- Equal bytes, with the same suffix, imply equal state keys. -/
theorem keyBytes_injective (suffix : String) : Function.Injective (keyBytes · suffix) :=
  fun _ _ h => (keyBytes_inj.mp h).1

/-! ## The order of bytes -/

/-- A code point by its digits to the base 64. -/
theorem exists_digits {v : ℕ} (hv : v < 0x110000) : ∃ a b c d, a < 8 ∧ b < 64 ∧ c < 64 ∧ d < 64 ∧
    v % 64 = d ∧ v / 64 % 64 = c ∧ v / 4096 % 64 = b ∧ v / 262144 % 8 = a ∧
      v = a * 262144 + b * 4096 + c * 64 + d :=
  ⟨v / 262144 % 8, v / 4096 % 64, v / 64 % 64, v % 64, by omega, by omega, by omega, by omega,
    rfl, rfl, rfl, rfl, by omega⟩

/-- The bytes of characters are in the order of their code points. -/
theorem precedes_utf8EncodeChar {c d : Char} (h : c < d) :
    Precedes (String.utf8EncodeChar c) (String.utf8EncodeChar d) := by
  have hlt : c.val.toNat < d.val.toNat := h
  have hmax : d.val.toNat < 0x110000 := by
    have hvalid : d.val.toNat < 0xd800 ∨ 0xdfff < d.val.toNat ∧ d.val.toNat < 0x110000 := d.valid
    omega
  obtain ⟨p, q, r, s, hp, hq, hr, hs, hmod, hmid, hhigh, htop, hc⟩ :=
    exists_digits (hlt.trans hmax)
  obtain ⟨p', q', r', s', hp', hq', hr', hs', hmod', hmid', hhigh', htop', hd⟩ :=
    exists_digits hmax
  unfold String.utf8EncodeChar
  dsimp only
  simp only [hmod, hmod', hmid, hmid', hhigh, hhigh', htop, htop']
  clear hmod hmod' hmid hmid' hhigh hhigh' htop htop'
  split_ifs <;>
    simp only [Precedes, UInt8.lt_iff_toNat_lt, ← UInt8.toNat_inj, UInt8.toNat_ofNat'] <;> omega

theorem utf8Bytes_eq (s : String) :
    utf8Bytes s = (s.toList.flatMap String.utf8EncodeChar).map UInt8.toFin := by
  rw [utf8Bytes, String.toUTF8, ← String.utf8Encode_toList, List.utf8Encode,
    List.toList_data_toByteArray]

/-- UTF-8 keeps the order of texts by their code points. -/
theorem utf8Bytes_strictMono : StrictMono utf8Bytes := by
  intro s t h
  rw [utf8Bytes_eq, utf8Bytes_eq]
  refine List.map_lt (fun _ _ => id) (flatMap_lt_flatMap (fun _ _ => precedes_utf8EncodeChar)
    (fun _ => String.utf8EncodeChar_ne_nil) ?_)
  exact String.lt_iff_toList_lt.mp h

/-- With one state key the suffixes decide. -/
theorem keyBytes_strictMono (k : ConversationStateKey) : StrictMono (keyBytes k) :=
  fun _ _ h => List.append_left_lt (utf8Bytes_strictMono h)

/-- Bytes of different state keys differ within the payload. -/
theorem precedes_of_keyBytes_lt {k l : ConversationStateKey} (hne : k ≠ l) {s t : String}
    (h : keyBytes k s < keyBytes l t) : Precedes (canonicalJsonBytes (canonicalStateKeyPayload k))
      (canonicalJsonBytes (canonicalStateKeyPayload l)) := by
  have hnot : ∀ {k l : ConversationStateKey}, k ≠ l →
      ¬canonicalJsonBytes (canonicalStateKeyPayload k) <+:
        canonicalJsonBytes (canonicalStateKeyPayload l) :=
    fun hne ⟨_, hprefix⟩ => hne (stateKey_of_bytes_append hprefix.symm)
  obtain hlt | heq | hgt := lt_trichotomy (canonicalJsonBytes (canonicalStateKeyPayload k))
    (canonicalJsonBytes (canonicalStateKeyPayload l))
  · exact precedes_of_lt hlt (hnot hne)
  · exact absurd (heq ▸ List.prefix_rfl) (hnot hne)
  · exact absurd ((precedes_of_lt hgt (hnot hne.symm)).append_lt.trans h) (lt_irrefl _)

/-- With different state keys the suffixes play no part. -/
theorem keyBytes_lt_of_ne {k l : ConversationStateKey} (hne : k ≠ l) {s t : String}
    (h : keyBytes k s < keyBytes l t) (s' t' : String) : keyBytes k s' < keyBytes l t' :=
  (precedes_of_keyBytes_lt hne h).append_lt

end MarketSupport
