import MarketSupport.Validation.ImageMarkers

/-!
# Markup in sanitised texts

The sanitiser deletes the pairs of asterisks, then the triples of backticks. Two asterisks that had
nothing but triples of backticks between them stand next to each other after that.

## Main results

* `sanitizesFully_iff` — the texts of which the sanitiser leaves no markup.
-/

namespace MarketSupport

/-! ## Split pairs -/

/-- After pairs of asterisks and backticks, `ticks` of which were passed, an asterisk without a
partner follows, and the backticks come in threes. -/
def loneAhead : ℕ → List Char → Bool
  | ticks, '*' :: '*' :: cs => loneAhead ticks cs
  | ticks, '*' :: _ => ticks % 3 = 0
  | ticks, '`' :: cs => loneAhead (ticks + 1) cs
  | _, _ => false

/-- Two asterisks without a partner have only backticks, in threes, and pairs of asterisks between
them. -/
def splitsPair : List Char → Bool
  | '*' :: '*' :: cs => splitsPair cs
  | '*' :: cs => loneAhead 0 cs || splitsPair cs
  | _ :: cs => splitsPair cs
  | [] => false

/-! ## The property -/

/-- Nothing is left of the markers, and sanitising again changes nothing, also in a response. -/
structure SanitizesFully (text : String) : Prop where
  plain : ∀ marker ∈ plainTextMarkers, ¬ marker.toList <:+: (sanitizePlainText text).toList
  idempotent : sanitizePlainText (sanitizePlainText text) = sanitizePlainText text
  responses : ∀ uuid uuid' response, response.reply.text = text →
    (ensureResponseIds uuid' (ensureResponseIds uuid response)).reply.text =
      (ensureResponseIds uuid response).reply.text

/-! ## Runs -/

section Runs

variable {c d : Char} {k n : ℕ} {cs rest : List Char}

/-- The characters `c` at the front of a text. -/
theorem exists_run (c : Char) (cs : List Char) :
    ∃ n rest, cs = List.replicate n c ++ rest ∧ rest.head? ≠ some c := by
  induction cs with
  | nil => exact ⟨0, [], rfl, by simp⟩
  | cons d cs ih =>
    by_cases hd : d = c
    · obtain ⟨n, rest, rfl, hrest⟩ := ih
      exact ⟨n + 1, rest, by rw [hd, List.replicate_succ, List.cons_append], hrest⟩
    · exact ⟨0, d :: cs, rfl, by simpa using hd⟩

theorem replicate_prefix_iff (hrest : rest.head? ≠ some c) :
    List.replicate k c <+: List.replicate n c ++ rest ↔ k ≤ n := by
  induction n generalizing k with
  | zero =>
    cases k with
    | zero => simp
    | succ k =>
      refine iff_of_false (fun h => ?_) (by omega)
      obtain ⟨t, rfl⟩ := h
      simp [List.replicate_succ] at hrest
  | succ n ih =>
    cases k with
    | zero => simp
    | succ k =>
      rw [List.replicate_succ, List.replicate_succ, List.cons_append, List.prefix_cons_inj, ih]
      omega

/-- A run that is too short ends before a repetition of its character. -/
theorem replicate_infix_append (hn : n < k) (hd : d ≠ c)
    (h : List.replicate k c <:+: List.replicate n c ++ d :: rest) :
    List.replicate k c <:+: rest := by
  have hnot : ∀ m < k, ¬ List.replicate k c <+: List.replicate m c ++ d :: rest := fun m hm h =>
    absurd ((replicate_prefix_iff (by simpa using hd)).mp h) (by omega)
  induction n with
  | zero => exact (List.infix_cons_iff.mp h).resolve_left (hnot 0 hn)
  | succ n ih =>
    rw [List.replicate_succ, List.cons_append, List.infix_cons_iff] at h
    exact ih (by omega) (h.resolve_left (hnot (n + 1) hn))

theorem removeMarker_skip (marker : List Char) (skip : ℕ) (cs : List Char) :
    removeMarker marker skip cs = removeMarker marker 0 (cs.drop skip) := by
  induction cs generalizing skip with
  | nil => cases skip <;> rfl
  | cons c cs ih =>
    cases skip with
    | zero => rfl
    | succ skip => exact ih skip

theorem removeMarker_cons_drop {marker : List Char} (h : marker <+: d :: cs) :
    removeMarker marker 0 (d :: cs) = removeMarker marker 0 (cs.drop (marker.length - 1)) := by
  simp only [removeMarker, List.isPrefixOf_iff_prefix, h, if_true]
  exact removeMarker_skip ..

theorem removeMarker_cons_keep {marker : List Char} (h : ¬ marker <+: d :: cs) :
    removeMarker marker 0 (d :: cs) = d :: removeMarker marker 0 cs := by
  simp only [removeMarker, List.isPrefixOf_iff_prefix, h, if_false]

theorem removeMarker_cons_of_ne (hk : 0 < k) (hd : d ≠ c) (cs : List Char) :
    removeMarker (List.replicate k c) 0 (d :: cs) =
      d :: removeMarker (List.replicate k c) 0 cs := by
  refine removeMarker_cons_keep fun h => ?_
  exact absurd ((replicate_prefix_iff (n := 0) (by simpa using hd)).mp h) (by omega)

/-- Of a run, the remainder is left. -/
theorem removeMarker_run (hk : 0 < k) (hrest : rest.head? ≠ some c) (n : ℕ) :
    removeMarker (List.replicate k c) 0 (List.replicate n c ++ rest) =
      List.replicate (n % k) c ++ removeMarker (List.replicate k c) 0 rest := by
  induction n using Nat.strong_induction_on with
  | _ n ih =>
    obtain hn | hn := lt_or_ge n k
    · rw [Nat.mod_eq_of_lt hn]
      cases n with
      | zero => rfl
      | succ n =>
        have hnot : ¬ List.replicate k c <+: c :: (List.replicate n c ++ rest) := fun h =>
          absurd ((replicate_prefix_iff (n := n + 1) hrest).mp h) (by omega)
        have hstep := ih n (Nat.lt_succ_self n)
        rw [Nat.mod_eq_of_lt (by omega)] at hstep
        rw [List.replicate_succ, List.cons_append, removeMarker_cons_keep hnot, hstep,
          List.cons_append]
    · obtain ⟨m, rfl⟩ := Nat.exists_eq_add_of_le hn
      obtain ⟨j, rfl⟩ : ∃ j, k = j + 1 := ⟨k - 1, by omega⟩
      have hbegins : List.replicate (j + 1) c <+:
          c :: (List.replicate (j + m) c ++ rest) :=
        (replicate_prefix_iff (n := j + m + 1) hrest).mpr (by omega)
      have hdrop : (List.replicate (j + m) c ++ rest).drop j = List.replicate m c ++ rest := by
        rw [List.replicate_add, List.append_assoc, List.drop_left' (by simp)]
      have hrun : List.replicate (j + 1 + m) c ++ rest =
          c :: (List.replicate (j + m) c ++ rest) := by
        rw [show j + 1 + m = j + m + 1 by omega, List.replicate_succ, List.cons_append]
      rw [hrun, removeMarker_cons_drop hbegins, List.length_replicate, Nat.add_sub_cancel,
        hdrop, ih m (by omega), Nat.add_mod_left]

/-- What a pass of the sanitiser deletes does not occur after it. -/
theorem not_infix_removeMarker (c : Char) (hk : 0 < k) (cs : List Char) :
    ¬ List.replicate k c <:+: removeMarker (List.replicate k c) 0 cs := by
  induction hn : cs.length using Nat.strong_induction_on generalizing cs with
  | _ n ih =>
    obtain ⟨m, rest, rfl, hrest⟩ := exists_run c cs
    have hmod : m % k < k := Nat.mod_lt _ hk
    rw [removeMarker_run hk hrest]
    cases rest with
    | nil =>
      intro h
      have := h.length_le
      simp only [removeMarker, List.append_nil, List.length_replicate] at this
      omega
    | cons d rest =>
      have hd : d ≠ c := by simpa using hrest
      rw [removeMarker_cons_of_ne hk hd]
      intro h
      exact ih rest.length (by simp at hn; omega) rest rfl (replicate_infix_append hmod hd h)

theorem removeMarker_eq_self {marker : List Char} (h : ¬ marker <:+: cs) :
    removeMarker marker 0 cs = cs := by
  induction cs with
  | nil => rfl
  | cons d cs ih =>
    rw [List.infix_cons_iff, not_or] at h
    rw [removeMarker_cons_keep h.1, ih h.2]

end Runs

/-! ## Pairs after the second pass -/

def withoutPairs (cs : List Char) : List Char := removeMarker (List.replicate 2 '*') 0 cs

def withoutTriples (cs : List Char) : List Char := removeMarker (List.replicate 3 '`') 0 cs

theorem toList_sanitizePlainText (text : String) :
    (sanitizePlainText text).toList = withoutTriples (withoutPairs text.toList) := by
  simp only [sanitizePlainText, plainTextMarkers, List.foldl_cons, List.foldl_nil,
    String.toList_ofList]
  rfl

@[simp] theorem withoutPairs_pair (cs : List Char) :
    withoutPairs ('*' :: '*' :: cs) = withoutPairs cs := rfl

theorem withoutPairs_cons {c : Char} (hc : c ≠ '*') (cs : List Char) :
    withoutPairs (c :: cs) = c :: withoutPairs cs := removeMarker_cons_of_ne (by omega) hc cs

theorem withoutPairs_lone {cs : List Char} (hcs : ∀ rest, cs = '*' :: rest → False) :
    withoutPairs ('*' :: cs) = '*' :: withoutPairs cs := by
  have hhead : cs.head? ≠ some '*' := by
    intro h
    obtain ⟨rest, rfl⟩ := List.head?_eq_some_iff.mp h
    exact hcs rest rfl
  exact removeMarker_run (k := 2) (by omega) hhead 1

theorem withoutTriples_cons {c : Char} (hc : c ≠ '`') (cs : List Char) :
    withoutTriples (c :: cs) = c :: withoutTriples cs := removeMarker_cons_of_ne (by omega) hc cs

theorem withoutTriples_run {rest : List Char} (hrest : rest.head? ≠ some '`') (n : ℕ) :
    withoutTriples (List.replicate n '`' ++ rest) =
      List.replicate (n % 3) '`' ++ withoutTriples rest := removeMarker_run (by omega) hrest n

theorem pair_infix_ticks (n : ℕ) (cs : List Char) :
    ['*', '*'] <:+: List.replicate n '`' ++ cs ↔ ['*', '*'] <:+: cs := by
  induction n with
  | zero => simp
  | succ n ih =>
    rw [List.replicate_succ, List.cons_append, List.infix_cons_iff, ih, or_iff_right]
    simp

/-- A backtick makes and breaks no pair. -/
theorem pair_infix_tick (cs : List Char) :
    ['*', '*'] <:+: withoutTriples ('`' :: cs) ↔ ['*', '*'] <:+: withoutTriples cs := by
  obtain ⟨n, rest, rfl, hrest⟩ := exists_run '`' cs
  rw [← List.cons_append, ← List.replicate_succ, withoutTriples_run hrest,
    withoutTriples_run hrest, pair_infix_ticks, pair_infix_ticks]

/-- After `ticks` backticks, the next character that is left is an asterisk. -/
theorem loneAhead_iff (ticks : ℕ) (cs : List Char) :
    (withoutTriples (List.replicate ticks '`' ++ withoutPairs cs)).head? = some '*' ↔
      loneAhead ticks cs = true := by
  fun_induction loneAhead ticks cs with
  | case1 ticks cs ih => exact ih
  | case2 ticks cs hne =>
    have hlone := withoutPairs_lone hne
    rw [hlone, withoutTriples_run (by simp), withoutTriples_cons (by decide)]
    by_cases hticks : ticks % 3 = 0
    · simp [hticks]
    · obtain ⟨m, hm⟩ := Nat.exists_eq_succ_of_ne_zero hticks
      simp [hm, List.replicate_succ]
  | case3 ticks cs ih =>
    rw [withoutPairs_cons (by decide), List.append_cons, ← List.replicate_succ']
    exact ih
  | case4 cs ticks hpair hlone htick =>
    cases cs with
    | nil =>
      have hnil : withoutTriples (List.replicate ticks '`' ++ []) =
          List.replicate (ticks % 3) '`' ++ withoutTriples [] := withoutTriples_run (by simp) ticks
      rw [withoutPairs, removeMarker, hnil]
      cases hticks : ticks % 3 <;> simp [withoutTriples, removeMarker, List.replicate_succ]
    | cons c cs =>
      have hstar : c ≠ '*' := fun h => hlone cs (h ▸ rfl)
      have hback : c ≠ '`' := fun h => htick cs (h ▸ rfl)
      rw [withoutPairs_cons hstar, withoutTriples_run (by simpa using hback),
        withoutTriples_cons hback]
      cases hticks : ticks % 3 <;> simp [List.replicate_succ, hstar]

theorem pair_prefix_cons_iff {cs : List Char} : ['*', '*'] <+: '*' :: cs ↔ cs.head? = some '*' := by
  cases cs with
  | nil => simp
  | cons c cs => simp [eq_comm]

/-- A pair of asterisks is left when the backticks between its asterisks are deleted. -/
theorem splitsPair_iff (cs : List Char) :
    ['*', '*'] <:+: withoutTriples (withoutPairs cs) ↔ splitsPair cs = true := by
  fun_induction splitsPair cs with
  | case1 cs ih => exact ih
  | case2 cs hne ih =>
    have hahead := loneAhead_iff 0 cs
    rw [List.replicate_zero, List.nil_append] at hahead
    rw [withoutPairs_lone hne, withoutTriples_cons (by decide), List.infix_cons_iff,
      pair_prefix_cons_iff, hahead, ih, Bool.or_eq_true]
  | case3 c cs hpair hlone ih =>
    have hstar : c ≠ '*' := fun h => hlone h
    rw [withoutPairs_cons hstar]
    by_cases hback : c = '`'
    · rw [hback, pair_infix_tick, ih]
    · rw [withoutTriples_cons hback, List.infix_cons_iff, ih, or_iff_right]
      simp [hstar.symm]
  | case4 => simp [withoutPairs, withoutTriples, removeMarker]

/-! ## Texts -/

theorem plain_iff (text : String) :
    (∀ marker ∈ plainTextMarkers, ¬ marker.toList <:+: (sanitizePlainText text).toList) ↔
      splitsPair text.toList = false := by
  have hticks : ¬ "```".toList <:+: withoutTriples (withoutPairs text.toList) :=
    not_infix_removeMarker '`' (k := 3) (by omega) _
  have hstars : "**".toList <:+: withoutTriples (withoutPairs text.toList) ↔
      splitsPair text.toList = true := splitsPair_iff text.toList
  simp only [plainTextMarkers, List.forall_mem_cons, List.not_mem_nil, false_implies, implies_true,
    toList_sanitizePlainText, hticks, hstars, not_false_eq_true, and_true, Bool.not_eq_true]

/-- A text without markup stays as it is. -/
theorem sanitizePlainText_eq_self {text : String}
    (h : ∀ marker ∈ plainTextMarkers, ¬ marker.toList <:+: text.toList) :
    sanitizePlainText text = text := by
  have hpair : withoutPairs text.toList = text.toList := removeMarker_eq_self (h "**" (by decide))
  have htriple : withoutTriples text.toList = text.toList :=
    removeMarker_eq_self (h "```" (by decide))
  apply String.toList_inj.mp
  rw [toList_sanitizePlainText, hpair, htriple]

/-- The sanitiser leaves no markup exactly when the text splits no pair of asterisks. -/
theorem sanitizesFully_iff (text : String) :
    SanitizesFully text ↔ splitsPair text.toList = false := by
  constructor
  · intro h
    exact (plain_iff text).mp h.plain
  · intro h
    have hplain := (plain_iff text).mpr h
    have hagain := sanitizePlainText_eq_self hplain
    refine ⟨hplain, hagain, fun uuid uuid' response htext => ?_⟩
    subst htext
    exact hagain

/-- A pair is split by a triple of backticks. -/
theorem sanitizesFully_split : sanitizePlainText "*```*" = "**" ∧
    sanitizePlainText (sanitizePlainText "*```*") = "" ∧ ¬ SanitizesFully "*```*" := by
  refine ⟨by decide +kernel, by decide +kernel, fun h => ?_⟩
  exact h.plain "**" (by decide) (by decide +kernel)

end MarketSupport
