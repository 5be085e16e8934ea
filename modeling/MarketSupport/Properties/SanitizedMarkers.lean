import MarketSupport.Library.Erasure
import MarketSupport.Properties.ComposerAuthority

/-!
# Markers of sanitised texts

The markers of a composed text are checked before the sanitiser deletes pairs of asterisks and
triples of backticks from it. What it deletes may stand inside of a marker.

## Main results

* `sanitizedMarkers_iff` — the markers that reach the user are the checked ones exactly when no
  marker of the composed text is broken by what the sanitiser deletes.
-/

namespace MarketSupport

open Library

/-! ## Texts with places -/

/-- A character and its place in the composed text. -/
abbrev PlacedText := List (Char × ℕ)

def placedText (text : String) : PlacedText := text.toList.zipIdx

/-- `removeMarker` for placed texts. -/
def removePlaced (marker : List Char) : ℕ → PlacedText → PlacedText
  | _, [] => []
  | skip + 1, _ :: cs => removePlaced marker skip cs
  | 0, c :: cs =>
    if marker.isPrefixOf ((c :: cs).map Prod.fst) then removePlaced marker (marker.length - 1) cs
    else c :: removePlaced marker 0 cs

/-- The characters that the sanitiser keeps. -/
def keptText (text : String) : PlacedText :=
  plainTextMarkers.foldl (fun t m => removePlaced m.toList 0 t) (placedText text)

/-- The matches of `finditer`, each with all of its characters. -/
def placedMarkers (word : Char → Bool) : ℕ → PlacedText → List PlacedText
  | _, [] => []
  | skip + 1, _ :: cs => placedMarkers word skip cs
  | 0, c :: cs => match markerAt word ((c :: cs).map Prod.fst) with
    | some name => (c :: cs).take (name.length + 4) :: placedMarkers word (name.length + 3) cs
    | none => placedMarkers word 0 cs

/-- The characters stood next to each other. -/
def Consecutive (text : PlacedText) : Prop := text.IsChain (fun a b => b.2 = a.2 + 1)

instance (text : PlacedText) : Decidable (Consecutive text) :=
  inferInstanceAs (Decidable (text.IsChain _))

/-! ## Broken markers -/

/-- The characters of the texts that the sanitiser deletes. -/
def isMarkup (c : Char) : Bool := c = '*' || c = '`'

/-- Every asterisk stands in a pair of asterisks. -/
def asterisksPaired : List Char → Bool
  | '*' :: '*' :: cs => asterisksPaired cs
  | '*' :: _ => false
  | _ :: cs => asterisksPaired cs
  | [] => true

/-- A gap of asterisks and backticks in which the asterisks come in pairs and the backticks in
threes. -/
def vanishes (gap : List Char) : Bool := asterisksPaired gap && gap.count '`' % 3 = 0

/-- The gap, unless it vanishes. -/
def closeGap (gap : PlacedText) : PlacedText := if vanishes (gap.map Prod.fst) then [] else gap

/-- A text without its gaps that vanish; `gap` are the asterisks and backticks in front. -/
def legibleFrom (gap : PlacedText) : PlacedText → PlacedText
  | [] => closeGap gap
  | c :: cs => if isMarkup c.1 then legibleFrom (gap ++ [c]) cs
    else closeGap gap ++ c :: legibleFrom [] cs

/-- No marker is broken by a gap that vanishes: the markers that can be read when these gaps are
passed over have no gap. -/
def NoBrokenMarker (word : Char → Bool) (text : String) : Prop :=
  ∀ m ∈ placedMarkers word 0 (legibleFrom [] (placedText text)), Consecutive m

instance (word : Char → Bool) (text : String) : Decidable (NoBrokenMarker word text) :=
  inferInstanceAs (Decidable (∀ m ∈ _, Consecutive m))

/-! ## The property -/

/-- Every marker that reaches the user is backed by an admitted binding, and was a marker of the
text that was checked. -/
structure MarkersChecked (env : ComposerEnvironment) (source : ComposerInvocationV1)
    (output : ComposerReplyOutput) (uuid : UuidHex) : Prop where
  backed : ∀ filename ∈ imageMarkerFilenames env.word
    (ensureResponseIds uuid output.toReplyResponse).reply.text,
    ∃ evidenceId, Behind env source filename evidenceId
  unchanged : ∀ m ∈ placedMarkers env.word 0 (keptText output.reply.text),
    m ∈ placedMarkers env.word 0 (placedText output.reply.text)

variable {word : Char → Bool}

/-! ## Placed markers -/

theorem map_fst_removePlaced (marker : List Char) (skip : ℕ) (cs : PlacedText) :
    (removePlaced marker skip cs).map Prod.fst = removeMarker marker skip (cs.map Prod.fst) := by
  induction cs generalizing skip with
  | nil => cases skip <;> rfl
  | cons c cs ih =>
    cases skip with
    | zero =>
      simp only [removePlaced, List.map_cons, removeMarker]
      split_ifs
      · exact ih _
      · rw [List.map_cons, ih]
    | succ skip => exact ih skip

@[simp] theorem map_fst_placedText (text : String) :
    (placedText text).map Prod.fst = text.toList := by
  simp [placedText]

/-- The characters that are kept are the sanitised text. -/
theorem map_fst_keptText (text : String) :
    (keptText text).map Prod.fst = (sanitizePlainText text).toList := by
  simp [keptText, sanitizePlainText, plainTextMarkers, map_fst_removePlaced]

theorem placedMarkers_skip (skip : ℕ) (cs : PlacedText) :
    placedMarkers word skip cs = placedMarkers word 0 (cs.drop skip) := by
  induction cs generalizing skip with
  | nil => cases skip <;> rfl
  | cons c cs ih =>
    cases skip with
    | zero => rfl
    | succ skip => exact ih skip

/-- The markers, with their names. -/
theorem map_placedMarkers (skip : ℕ) (cs : PlacedText) :
    (placedMarkers word skip cs).map (·.map Prod.fst) =
      (markersFrom word skip (cs.map Prod.fst)).map markerText := by
  induction cs generalizing skip with
  | nil => cases skip <;> rfl
  | cons c cs ih =>
    cases skip with
    | zero =>
      simp only [placedMarkers, List.map_cons, markersFrom]
      cases hname : markerAt word (c.1 :: cs.map Prod.fst) with
      | none => exact ih 0
      | some name =>
        have htake := List.prefix_iff_eq_take.mp (markerAt_eq_some_iff.mp hname).2
        rw [length_markerText] at htake
        simp only [List.map_cons, ih, List.map_take, ← htake]
    | succ skip => exact ih skip

variable (word) in
/-- A text begins with a marker, or its first character begins none. -/
theorem marker_cases (cs : PlacedText) :
    (∃ name m cs', IsMarkerName word name ∧ m.map Prod.fst = markerText name ∧ cs = m ++ cs') ∨
      markerAt word (cs.map Prod.fst) = none := by
  cases hname : markerAt word (cs.map Prod.fst) with
  | none => exact .inr rfl
  | some name =>
    obtain ⟨hmarker, htext⟩ := markerAt_eq_some_iff.mp hname
    obtain ⟨m, ⟨cs', rfl⟩, hm⟩ := List.prefix_map_iff.mp htext
    exact .inl ⟨name, m, cs', hmarker, hm.symm, rfl⟩

theorem markerAt_append {name : List Char} {m : PlacedText} (hname : IsMarkerName word name)
    (hm : m.map Prod.fst = markerText name) (cs : PlacedText) :
    markerAt word ((m ++ cs).map Prod.fst) = some name :=
  markerAt_eq_some_iff.mpr ⟨hname, by rw [List.map_append, hm]; exact List.prefix_append _ _⟩

theorem placedMarkers_append {name : List Char} {m : PlacedText} (hname : IsMarkerName word name)
    (hm : m.map Prod.fst = markerText name) (cs : PlacedText) :
    placedMarkers word 0 (m ++ cs) = m :: placedMarkers word 0 cs := by
  have hlength : m.length = name.length + 4 := by
    rw [← length_markerText, ← hm, List.length_map]
  have hat : markerAt word ((m ++ cs).map Prod.fst) = some name := markerAt_append hname hm cs
  obtain ⟨c, m, rfl⟩ := List.exists_cons_of_length_eq_add_one hlength
  simp only [List.cons_append] at hat ⊢
  simp only [placedMarkers, hat, placedMarkers_skip (name.length + 3)]
  simp only [List.length_cons, Nat.add_right_cancel_iff] at hlength
  simp [← hlength]

theorem placedMarkers_cons {c : Char × ℕ} {cs : PlacedText}
    (h : markerAt word ((c :: cs).map Prod.fst) = none) :
    placedMarkers word 0 (c :: cs) = placedMarkers word 0 cs := by
  rw [placedMarkers, h]

/-! ## Markup -/

/-- A marker has no character that the sanitiser deletes. -/
theorem isMarkup_of_mem {name : List Char} (hname : IsMarkerName word name) {c : Char}
    (hc : c ∈ markerText name) : isMarkup c = false := by
  by_contra hmarkup
  have hcases : c = '*' ∨ c = '`' := by
    simpa [isMarkup, Decidable.or_iff_not_imp_left] using hmarkup
  simp only [markerText, List.mem_append, List.mem_cons, List.not_mem_nil, or_false] at hc
  obtain (hc | hc) | hc := hc
  · obtain rfl | rfl := hcases <;> simp at hc
  · have hchar := hname.chars c hc
    obtain rfl | rfl := hcases <;> simp [isMarkerChar] at hchar
  · obtain rfl | rfl := hcases <;> simp at hc

theorem isMarkup_of_mem_placed {name : List Char} {m : PlacedText}
    (hname : IsMarkerName word name) (hm : m.map Prod.fst = markerText name) {c : Char × ℕ}
    (hc : c ∈ m) : isMarkup c.1 = false :=
  isMarkup_of_mem hname (hm ▸ List.mem_map_of_mem hc)

theorem markerAt_of_isMarkup {c : Char × ℕ} {cs : PlacedText} (hc : isMarkup c.1 = true) :
    markerAt word ((c :: cs).map Prod.fst) = none := by
  obtain ⟨name, m, cs', hname, hm, hcs⟩ | hnone := marker_cases word (c :: cs)
  · have hne : m ≠ [] := by
      rintro rfl
      simp [markerText] at hm
    obtain ⟨d, m, rfl⟩ := List.exists_cons_of_ne_nil hne
    obtain ⟨rfl, -⟩ := List.cons.inj hcs
    rw [isMarkup_of_mem_placed hname hm List.mem_cons_self] at hc
    cases hc
  · exact hnone

/-- Passing over markup in front. -/
theorem placedMarkers_markup_append {g cs : PlacedText} (hg : ∀ c ∈ g, isMarkup c.1 = true) :
    placedMarkers word 0 (g ++ cs) = placedMarkers word 0 cs := by
  induction g with
  | nil => rfl
  | cons c g ih =>
    rw [List.cons_append, placedMarkers_cons (markerAt_of_isMarkup (hg c List.mem_cons_self)),
      ih fun d hd => hg d (List.mem_cons_of_mem _ hd)]

theorem markerAt_of_sameGaps {cs cs' : PlacedText} (h : SameGaps (fun c => isMarkup c.1) cs cs')
    (hnone : markerAt word (cs.map Prod.fst) = none) :
    markerAt word (cs'.map Prod.fst) = none := by
  obtain ⟨name, m, rest, hname, hm, rfl⟩ | hnone' := marker_cases word cs'
  · have hmarkup : ∀ c ∈ m, isMarkup c.1 = false := fun c => isMarkup_of_mem_placed hname hm
    obtain ⟨_, l, _, rfl, _⟩ := h.symm.of_prefix hmarkup (List.prefix_append m rest)
    rw [markerAt_append hname hm] at hnone
    cases hnone
  · exact hnone'

/-- What the markers of a text are does not depend on what its gaps are. -/
theorem placedMarkers_of_sameGaps {cs cs' : PlacedText}
    (h : SameGaps (fun c => isMarkup c.1) cs cs') :
    placedMarkers word 0 cs = placedMarkers word 0 cs' := by
  induction hn : cs.length using Nat.strong_induction_on generalizing cs cs' with
  | _ n ih =>
    obtain ⟨name, m, rest, hname, hm, rfl⟩ | hnone := marker_cases word cs
    · have hmarkup : ∀ c ∈ m, isMarkup c.1 = false := fun c => isMarkup_of_mem_placed hname hm
      obtain ⟨l, l', hl, rfl, hgaps⟩ := h.of_prefix hmarkup (List.prefix_append m rest)
      obtain rfl := List.append_cancel_left hl
      have hpos : 0 < m.length := by
        have := congrArg List.length hm
        simp only [List.length_map, length_markerText] at this
        omega
      rw [placedMarkers_append hname hm, placedMarkers_append hname hm,
        ih rest.length (by simp at hn; omega) hgaps rfl]
    · cases h with
      | nil => rfl
      | @keep c l l' hc h =>
        rw [placedMarkers_cons hnone, placedMarkers_cons (markerAt_of_sameGaps (.keep hc h) hnone)]
        exact ih l.length (by simp at hn; omega) h rfl
      | @gap g g' l l' hg hg' hne hne' h =>
        have hpos := List.length_pos_of_ne_nil hne
        rw [placedMarkers_markup_append hg, placedMarkers_markup_append hg']
        exact ih l.length (by simp at hn; omega) h rfl

/-- A marker of consecutive characters was in the text before others were erased. -/
theorem placedMarkers_of_erases {raw kept : PlacedText}
    (h : Erases (fun c => isMarkup c.1 = true) raw kept) (hraw : Consecutive raw)
    (hkept : ∀ m ∈ placedMarkers word 0 kept, Consecutive m) :
    placedMarkers word 0 kept = placedMarkers word 0 raw := by
  induction hn : raw.length using Nat.strong_induction_on generalizing raw kept with
  | _ n ih =>
    cases h with
    | nil => rfl
    | @erase c raw kept hc h =>
      rw [placedMarkers_cons (markerAt_of_isMarkup hc)]
      exact ih raw.length (by simp at hn; omega) h hraw.of_cons hkept rfl
    | @keep c raw kept h =>
      obtain ⟨name, m, rest, hname, hm, hcs⟩ | hnone := marker_cases word (c :: kept)
      · -- the marker is consecutive, so that nothing was erased in it
        rw [hcs, placedMarkers_append hname hm] at hkept ⊢
        have hconsecutive := hkept m List.mem_cons_self
        have hne : m ≠ [] := by
          rintro rfl
          simp [markerText] at hm
        obtain ⟨d, m, rfl⟩ := List.exists_cons_of_ne_nil hne
        obtain ⟨rfl, rfl⟩ := List.cons.inj hcs
        obtain ⟨raw', rfl, h'⟩ := h.append_of_isChain Prod.snd (fun _ _ hab => hab)
          hraw hconsecutive
        have hraw' : Consecutive raw' :=
          List.IsChain.right_of_append (show List.IsChain _ (c :: m ++ raw') from hraw)
        rw [← List.cons_append, placedMarkers_append hname hm,
          ih raw'.length (by simp at hn; omega) h' hraw'
            (fun m' hm' => hkept m' (List.mem_cons_of_mem _ hm')) rfl]
      · -- a marker of the text would still be one
        obtain ⟨name, m, rest, hname, hm, hcs⟩ | hnone' :=
          marker_cases word (c :: raw)
        · have herases : Erases (fun c => isMarkup c.1 = true) (m ++ rest) (c :: kept) :=
            hcs ▸ Erases.keep h
          obtain ⟨rest', hcs', _⟩ := herases.of_append fun d hd => by
            rw [isMarkup_of_mem_placed hname hm hd]
            exact Bool.false_ne_true
          rw [hcs', markerAt_append hname hm] at hnone
          cases hnone
        · rw [placedMarkers_cons hnone] at hkept ⊢
          rw [placedMarkers_cons hnone']
          exact ih raw.length (by simp at hn; omega) h hraw.of_cons hkept rfl

/-! ## What the sanitiser keeps -/

theorem prefix_append_iff_of_markup {marker : List Char} {g cs : PlacedText}
    (hmarker : ∀ c ∈ marker, isMarkup c = true) (hcs : ∀ c ∈ cs.head?, isMarkup c.1 = false) :
    marker <+: (g ++ cs).map Prod.fst ↔ marker <+: g.map Prod.fst := by
  rw [List.map_append]
  refine ⟨fun h => ?_, fun h => h.trans (List.prefix_append _ _)⟩
  obtain hshort | hlong := le_or_gt marker.length (g.map Prod.fst).length
  · exact List.prefix_of_prefix_length_le h (List.prefix_append _ _) hshort
  · -- the text would go on with a character of the marker
    obtain ⟨rest, rfl⟩ := List.prefix_of_prefix_length_le (List.prefix_append _ _) h hlong.le
    rw [List.prefix_append_right_inj] at h
    cases rest with
    | nil => simp
    | cons d rest =>
      cases cs with
      | nil => simp at h
      | cons c cs =>
        obtain ⟨rfl, -⟩ := List.cons_prefix_cons.mp h
        have hd := hmarker c.1 (by simp)
        rw [hcs c rfl] at hd
        cases hd

/-- The sanitiser treats gaps of markup apart from what follows. -/
theorem removePlaced_append {marker : List Char} {g cs : PlacedText}
    (hmarker : ∀ c ∈ marker, isMarkup c = true) (hcs : ∀ c ∈ cs.head?, isMarkup c.1 = false)
    {skip : ℕ} (hskip : skip ≤ g.length) : removePlaced marker skip (g ++ cs) =
      removePlaced marker skip g ++ removePlaced marker 0 cs := by
  induction g generalizing skip with
  | nil =>
    obtain rfl := Nat.le_zero.mp hskip
    rfl
  | cons c g ih =>
    cases skip with
    | zero =>
      have hiff := prefix_append_iff_of_markup (g := c :: g) hmarker hcs
      simp only [List.cons_append] at hiff ⊢
      simp only [removePlaced, List.isPrefixOf_iff_prefix, hiff]
      split_ifs with hbegins
      · have := hbegins.length_le
        simp only [List.length_map, List.length_cons] at this
        exact ih (by omega)
      · rw [List.cons_append, ih (Nat.zero_le _)]
    | succ skip => exact ih (Nat.le_of_succ_le_succ hskip)

theorem removePlaced_cons {marker : List Char} (hne : marker ≠ [])
    (hmarker : ∀ c ∈ marker, isMarkup c = true) {c : Char × ℕ} (hc : isMarkup c.1 = false)
    (cs : PlacedText) : removePlaced marker 0 (c :: cs) = c :: removePlaced marker 0 cs := by
  have hnot : ¬ marker <+: (c :: cs).map Prod.fst := by
    obtain ⟨d, marker, rfl⟩ := List.exists_cons_of_ne_nil hne
    intro h
    obtain ⟨rfl, -⟩ := List.cons_prefix_cons.mp h
    rw [hmarker c.1 List.mem_cons_self] at hc
    cases hc
  simp only [removePlaced, List.isPrefixOf_iff_prefix, hnot, if_false]

/-- A pass of the sanitiser erases characters of its marker. -/
theorem erases_removePlaced {q : Char → Prop} {marker : List Char} (hne : marker ≠ [])
    (hmarker : ∀ c ∈ marker, q c) {skip : ℕ} {cs : PlacedText} (hskip : ∀ c ∈ cs.take skip, q c.1) :
    Erases (fun c => q c.1) cs (removePlaced marker skip cs) := by
  induction cs generalizing skip with
  | nil => cases skip <;> exact .nil
  | cons c cs ih =>
    cases skip with
    | zero =>
      simp only [removePlaced, List.isPrefixOf_iff_prefix]
      split_ifs with hbegins
      · have hmatch : ∀ d ∈ (c :: cs).take marker.length, q d.1 := by
          intro d hd
          rw [List.prefix_iff_eq_take] at hbegins
          refine hmarker d.1 ?_
          rw [hbegins, ← List.map_take]
          exact List.mem_map_of_mem hd
        obtain ⟨d, marker, rfl⟩ := List.exists_cons_of_ne_nil hne
        rw [List.length_cons, List.take_succ_cons] at hmatch
        exact .erase (hmatch c List.mem_cons_self)
          (ih fun a ha => hmatch a (List.mem_cons_of_mem _ ha))
      · exact .keep (ih (by simp))
    | succ skip =>
      rw [List.take_succ_cons] at hskip
      exact .erase (hskip c List.mem_cons_self)
        (ih fun d hd => hskip d (List.mem_cons_of_mem _ hd))

/-- Both passes. -/
def keptOf (cs : PlacedText) : PlacedText :=
  removePlaced ['`', '`', '`'] 0 (removePlaced ['*', '*'] 0 cs)

theorem keptText_eq (text : String) : keptText text = keptOf (placedText text) := rfl

theorem isMarkup_asterisks : ∀ c ∈ ['*', '*'], isMarkup c = true := by simp [isMarkup]

theorem isMarkup_backticks : ∀ c ∈ ['`', '`', '`'], isMarkup c = true := by simp [isMarkup]

theorem erases_keptOf (cs : PlacedText) : Erases (fun c => isMarkup c.1 = true) cs (keptOf cs) :=
  have hstars : Erases (fun c => isMarkup c.1 = true) cs (removePlaced ['*', '*'] 0 cs) :=
    erases_removePlaced (q := fun c => isMarkup c = true) (by simp) isMarkup_asterisks (by simp)
  hstars.trans
    (erases_removePlaced (q := fun c => isMarkup c = true) (by simp) isMarkup_backticks (by simp))

theorem keptOf_append {g : PlacedText} {c : Char × ℕ} (hc : isMarkup c.1 = false)
    (cs : PlacedText) : keptOf (g ++ c :: cs) = keptOf g ++ c :: keptOf cs := by
  have hhead : ∀ d ∈ (c :: removePlaced ['*', '*'] 0 cs).head?, isMarkup d.1 = false := by
    simpa using hc
  rw [keptOf, removePlaced_append isMarkup_asterisks (by simpa using hc) (Nat.zero_le _),
    removePlaced_cons (by simp) isMarkup_asterisks hc,
    removePlaced_append isMarkup_backticks hhead (Nat.zero_le _),
    removePlaced_cons (by simp) isMarkup_backticks hc]
  rfl

/-! ## Gaps that vanish -/

theorem removeMarker_pair (cs : List Char) :
    removeMarker ['*', '*'] 0 ('*' :: '*' :: cs) = removeMarker ['*', '*'] 0 cs := rfl

theorem removeMarker_cons {c : Char} (hc : c ≠ '*') (cs : List Char) :
    removeMarker ['*', '*'] 0 (c :: cs) = c :: removeMarker ['*', '*'] 0 cs := by
  simp [removeMarker, hc.symm]

theorem removeMarker_asterisks {cs : List Char} (hcs : ∀ c ∈ cs, isMarkup c = true)
    (h : asterisksPaired cs = true) :
    removeMarker ['*', '*'] 0 cs = List.replicate (cs.count '`') '`' := by
  fun_induction asterisksPaired cs with
  | case1 cs ih =>
    rw [removeMarker_pair, ih (fun c hc => hcs c (by simp [hc])) h]
    simp
  | case2 cs => cases h
  | case3 c cs _ hne ih =>
    have hc : c = '`' := by
      have := hcs c List.mem_cons_self
      simp only [isMarkup, Bool.or_eq_true, decide_eq_true_eq] at this
      exact this.resolve_left hne
    subst hc
    rw [removeMarker_cons (by decide), ih (fun d hd => hcs d (List.mem_cons_of_mem _ hd)) h,
      List.count_cons_self, List.replicate_succ]
  | case4 => rfl

theorem asterisk_mem_removeMarker {cs : List Char} (h : asterisksPaired cs = false) :
    '*' ∈ removeMarker ['*', '*'] 0 cs := by
  fun_induction asterisksPaired cs with
  | case1 cs ih => exact ih h
  | case2 cs hne =>
    have hnot : ¬ ['*'] <+: cs := by
      rintro ⟨t, ht⟩
      exact hne t ht.symm
    simp [removeMarker, hnot]
  | case3 c cs _ hne ih =>
    rw [removeMarker_cons hne]
    exact List.mem_cons_of_mem _ (ih h)
  | case4 => cases h

theorem removeMarker_backticks (n : ℕ) :
    removeMarker ['`', '`', '`'] 0 (List.replicate n '`') = List.replicate (n % 3) '`' := by
  induction n using Nat.strong_induction_on with
  | _ n ih =>
    match n with
    | 0 | 1 | 2 => rfl
    | n + 3 =>
      rw [Nat.add_mod_right, ← ih n (by omega)]
      rfl

/-- A gap is deleted when its asterisks come in pairs and its backticks in threes. -/
theorem keptOf_eq_nil_iff {g : PlacedText} (hg : ∀ c ∈ g, isMarkup c.1 = true) :
    keptOf g = [] ↔ vanishes (g.map Prod.fst) = true := by
  cases hpaired : asterisksPaired (g.map Prod.fst) with
  | false =>
    have hmem : '*' ∈ (removePlaced ['*', '*'] 0 g).map Prod.fst := by
      rw [map_fst_removePlaced]
      exact asterisk_mem_removeMarker hpaired
    obtain ⟨⟨c, place⟩, hc, rfl⟩ := List.mem_map.mp hmem
    have herases : Erases (fun c => c.1 = '`') (removePlaced ['*', '*'] 0 g) (keptOf g) :=
      erases_removePlaced (q := (· = '`')) (by simp) (by simp) (by simp)
    have hkept : keptOf g ≠ [] := List.ne_nil_of_mem (herases.mem hc (by simp))
    simp [vanishes, hpaired, hkept]
  | true =>
    have hchars : (keptOf g).map Prod.fst =
        List.replicate ((g.map Prod.fst).count '`' % 3) '`' := by
      rw [keptOf, map_fst_removePlaced, map_fst_removePlaced,
        removeMarker_asterisks (by simpa using hg) hpaired, removeMarker_backticks]
    rw [← List.map_eq_nil_iff (f := Prod.fst), hchars, List.replicate_eq_nil_iff]
    simp [vanishes, hpaired]

theorem closeGap_eq_nil_iff {g : PlacedText} :
    closeGap g = [] ↔ g = [] ∨ vanishes (g.map Prod.fst) = true := by
  unfold closeGap
  split_ifs with h <;> simp [h]

/-- The sanitiser leaves something of the gaps that stay. -/
theorem sameGaps_closeGap {g l r : PlacedText} (hg : ∀ c ∈ g, isMarkup c.1 = true)
    (h : SameGaps (fun c => isMarkup c.1) l r) :
    SameGaps (fun c => isMarkup c.1) (keptOf g ++ l) (closeGap g ++ r) := by
  have hkept : ∀ c ∈ keptOf g, isMarkup c.1 = true := fun c hc =>
    hg c ((erases_keptOf g).sublist.subset hc)
  have hclosed : ∀ c ∈ closeGap g, isMarkup c.1 = true := by
    intro c hc
    unfold closeGap at hc
    split_ifs at hc
    · cases hc
    · exact hg c hc
  refine SameGaps.append hkept hclosed ?_ h
  rw [keptOf_eq_nil_iff hg, closeGap_eq_nil_iff]
  refine ⟨.inr, fun h => h.elim (fun hnil => ?_) id⟩
  subst hnil
  rfl

/-- The sanitised text and the legible text have the same gaps. -/
theorem sameGaps_legibleFrom {g cs : PlacedText} (hg : ∀ c ∈ g, isMarkup c.1 = true) :
    SameGaps (fun c => isMarkup c.1) (keptOf (g ++ cs)) (legibleFrom g cs) := by
  induction cs generalizing g with
  | nil => simpa [legibleFrom] using sameGaps_closeGap hg .nil
  | cons c cs ih =>
    rw [legibleFrom]
    split_ifs with hc
    · rw [List.append_cons]
      exact ih fun d hd => (List.mem_append.mp hd).elim (hg d) fun hd =>
        List.mem_singleton.mp hd ▸ hc
    · have hc' : isMarkup c.1 = false := Bool.eq_false_iff.mpr hc
      have hrest := ih (g := []) (by simp)
      rw [keptOf_append hc']
      exact sameGaps_closeGap hg (.keep hc' hrest)

/-! ## The markers that reach the user -/

theorem consecutive_zipIdx (cs : List Char) (n : ℕ) : Consecutive (cs.zipIdx n) := by
  induction cs generalizing n with
  | nil => exact .nil
  | cons c cs ih =>
    rw [List.zipIdx_cons]
    cases cs with
    | nil => exact .singleton _
    | cons d cs => exact List.isChain_cons_cons.mpr ⟨rfl, ih (n + 1)⟩

theorem consecutive_of_mem {cs m : PlacedText} (hcs : Consecutive cs) (skip : ℕ)
    (hm : m ∈ placedMarkers word skip cs) : Consecutive m := by
  induction cs generalizing skip with
  | nil => cases skip <;> cases hm
  | cons c cs ih =>
    cases skip with
    | zero =>
      rw [placedMarkers] at hm
      split at hm
      · obtain rfl | hm := List.mem_cons.mp hm
        · exact hcs.take _
        · exact ih hcs.of_cons _ hm
      · exact ih hcs.of_cons 0 hm
    | succ skip => exact ih hcs.of_cons skip hm

/-- The sanitiser makes no marker exactly when none is broken. -/
theorem unchanged_iff (text : String) :
    (∀ m ∈ placedMarkers word 0 (keptText text), m ∈ placedMarkers word 0 (placedText text)) ↔
      NoBrokenMarker word text := by
  have hlegible : placedMarkers word 0 (keptText text) =
      placedMarkers word 0 (legibleFrom [] (placedText text)) :=
    placedMarkers_of_sameGaps (sameGaps_legibleFrom (g := []) (by simp))
  have hconsecutive : Consecutive (placedText text) := consecutive_zipIdx _ 0
  rw [NoBrokenMarker, ← hlegible]
  constructor
  · exact fun h m hm => consecutive_of_mem hconsecutive 0 (h m hm)
  · intro h m hm
    rw [keptText_eq] at h hm
    rwa [placedMarkers_of_erases (erases_keptOf _) hconsecutive h] at hm

/-- The filenames of placed markers. -/
theorem mem_filenames_iff {text : String} {cs : PlacedText} (hcs : cs.map Prod.fst = text.toList)
    {filename : String} : filename ∈ imageMarkerFilenames word text ↔
      ∃ m ∈ placedMarkers word 0 cs, m.map Prod.fst = markerText filename.toList := by
  rw [mem_imageMarkerFilenames, ← hcs, ← List.mem_map_of_injective markerText_injective,
    ← map_placedMarkers, List.mem_map]

/-- Of an accepted output, the markers that reach the user are the checked ones exactly when no
marker of its text is broken. -/
theorem sanitizedMarkers_iff {env : ComposerEnvironment}
    (compose : ComposerPromptInputV1 → Except ComposerException ComposerReplyOutput)
    {source : ComposerInvocationV1} {output : ComposerReplyOutput}
    (h : composeV2Reply env (some compose) source = .ok output) (uuid : UuidHex) :
    MarkersChecked env source output uuid ↔ NoBrokenMarker env.word output.reply.text := by
  rw [← unchanged_iff]
  refine ⟨fun hchecked => hchecked.unchanged, fun hunchanged => ⟨fun filename hmem => ?_,
    hunchanged⟩⟩
  obtain ⟨m, hm, hname⟩ := (mem_filenames_iff (map_fst_keptText output.reply.text)).mp hmem
  have hraw : filename ∈ imageMarkerFilenames env.word output.reply.text :=
    (mem_filenames_iff (map_fst_placedText output.reply.text)).mpr ⟨m, hunchanged m hm, hname⟩
  exact (withoutAuthority_of_ok h).backed filename hraw

open ComposedAnswer in
/-- The marker of a text is kept, and the asterisks around a word are not part of it. -/
theorem sanitizedMarkers_iff_image :
    imageMarkerFilenames environment.word (ensureResponseIds uuid
      (answer "%%a.png%% **a**").toReplyResponse).reply.text = ["a.png"] ∧
    NoBrokenMarker environment.word "%%a.png%% **a**" ∧
    MarkersChecked environment (invocation [⟨fact.evidenceId, "chart", "%%a.png%%"⟩])
      (answer "%%a.png%% **a**") uuid := by
  have hkept : NoBrokenMarker environment.word "%%a.png%% **a**" := by decide +kernel
  exact ⟨by decide +kernel, hkept,
    (sanitizedMarkers_iff (fun _ => .ok (answer "%%a.png%% **a**")) (by decide +kernel) _).mpr
      hkept⟩

open ComposedAnswer in
/-- The sanitiser makes a marker of an accepted text that has none. -/
theorem sanitizedMarkers_broken :
    composeV2Reply environment (some fun _ => .ok (answer "%%a**.png%%")) (invocation []) =
      .ok (answer "%%a**.png%%") ∧
    (ensureResponseIds uuid (answer "%%a**.png%%").toReplyResponse).reply.text =
      "%%a.png%%" ∧
    ¬ MarkersChecked environment (invocation []) (answer "%%a**.png%%") uuid := by
  refine ⟨by decide +kernel, by decide +kernel, fun h => ?_⟩
  obtain ⟨_, binding, hmem, _⟩ := h.backed "a.png" (by decide +kernel)
  cases hmem

end MarketSupport
