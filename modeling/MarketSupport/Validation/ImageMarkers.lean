import MarketSupport.Rendering.ResponseIds

/-!
# Image markers

`image_marker_filenames` finds the texts `%%name.png%%` from the left. `word` says which
characters outside ASCII are word characters.
-/

namespace MarketSupport

variable (word : Char → Bool)

/-- `[\w\d_.-]`. -/
def isMarkerChar (c : Char) : Bool :=
  if c.toNat < 128 then c.isAlphanum || (c ∈ ['_', '.', '-'] : Bool) else word c

/-- The filename of a match of `%%([\w\d_.-]+\.png)%%` at the beginning of a text. A match ends
with the characters of the filename, which are none of `%`. -/
def markerAt (text : List Char) : Option (List Char) :=
  let name := (text.drop 2).takeWhile (isMarkerChar word)
  if ['%', '%'] <+: text ∧ ".png".toList <:+ name ∧ 4 < name.length ∧
      ['%', '%'] <+: text.drop (name.length + 2) then some name
  else none

/-- The filenames of `finditer`; `skip` counts the characters of a match that are passed. -/
def markersFrom : ℕ → List Char → List (List Char)
  | _, [] => []
  | skip + 1, _ :: cs => markersFrom skip cs
  | 0, c :: cs => match markerAt word (c :: cs) with
    | some name => name :: markersFrom (name.length + 3) cs
    | none => markersFrom 0 cs

/-- `image_marker_filenames`: each filename once. -/
def imageMarkerFilenames (text : String) : List String :=
  ((markersFrom word 0 text.toList).map String.ofList).eraseDups

variable {word}

/-! ## Markers -/

/-- `%%name%%`. -/
def markerText (name : List Char) : List Char := ['%', '%'] ++ name ++ ['%', '%']

@[simp] theorem length_markerText (name : List Char) :
    (markerText name).length = name.length + 4 := by
  simp [markerText]

variable (word) in
/-- The filenames that the expression for a marker matches. -/
structure IsMarkerName (name : List Char) : Prop where
  chars : ∀ c ∈ name, isMarkerChar word c = true
  suffix : ".png".toList <:+ name
  length : 4 < name.length

theorem isMarkerChar_percent : isMarkerChar word '%' = false := rfl

/-- A marker begins a text when the text of one is a prefix of it. -/
theorem markerAt_eq_some_iff {text name : List Char} :
    markerAt word text = some name ↔ IsMarkerName word name ∧ markerText name <+: text := by
  constructor
  · intro h
    simp only [markerAt] at h
    split_ifs at h with hcond
    obtain ⟨⟨rest, rfl⟩, hsuffix, hlength, hend⟩ := hcond
    obtain rfl := Option.some.inj h
    simp only [List.cons_append, List.nil_append, List.drop_succ_cons, List.drop_zero]
      at hsuffix hlength hend ⊢
    have hchars : ∀ c ∈ rest.takeWhile (isMarkerChar word), isMarkerChar word c = true :=
      List.all_eq_true.mp List.all_takeWhile
    obtain ⟨after, hafter⟩ := List.takeWhile_prefix (isMarkerChar word) (l := rest)
    generalize rest.takeWhile (isMarkerChar word) = name at *
    subst hafter
    rw [List.drop_left] at hend
    obtain ⟨tail, rfl⟩ := hend
    exact ⟨⟨hchars, hsuffix, hlength⟩, tail, by simp [markerText]⟩
  · rintro ⟨hname, rest, rfl⟩
    have htake : (name ++ '%' :: '%' :: rest).takeWhile (isMarkerChar word) = name := by
      rw [List.takeWhile_append_of_pos hname.chars]
      simp [isMarkerChar_percent]
    have hdrop : (markerText name ++ rest).drop 2 = name ++ '%' :: '%' :: rest := by
      simp [markerText]
    have hend : (markerText name ++ rest).drop (name.length + 2) = '%' :: '%' :: rest := by
      rw [Nat.add_comm, ← List.drop_drop, hdrop, List.drop_left]
    simp only [markerAt, hdrop, htake, hend]
    rw [if_pos]
    exact ⟨⟨name ++ '%' :: '%' :: rest, by simp [markerText]⟩, hname.suffix,
      hname.length, ⟨rest, rfl⟩⟩

theorem mem_imageMarkerFilenames {text filename : String} :
    filename ∈ imageMarkerFilenames word text ↔
      filename.toList ∈ markersFrom word 0 text.toList := by
  rw [imageMarkerFilenames, List.mem_eraseDups, List.mem_map]
  constructor
  · rintro ⟨name, hmem, rfl⟩
    simpa using hmem
  · exact fun h => ⟨filename.toList, h, by simp⟩

theorem markerText_injective : Function.Injective markerText := fun a b h => by
  simpa [markerText] using h

theorem markersFrom_skip (skip : ℕ) (cs : List Char) :
    markersFrom word skip cs = markersFrom word 0 (cs.drop skip) := by
  induction cs generalizing skip with
  | nil => cases skip <;> rfl
  | cons c cs ih =>
    cases skip with
    | zero => rfl
    | succ skip => exact ih skip

theorem markersFrom_append {name : List Char} (hname : IsMarkerName word name) (cs : List Char) :
    markersFrom word 0 (markerText name ++ cs) = name :: markersFrom word 0 cs := by
  have hmarker : markerAt word (markerText name ++ cs) = some name :=
    markerAt_eq_some_iff.mpr ⟨hname, List.prefix_append _ _⟩
  obtain ⟨rest, hrest⟩ : ∃ rest, markerText name ++ cs = '%' :: rest := ⟨_, rfl⟩
  have hdrop : rest.drop (name.length + 3) = cs := by
    have hlength : (markerText name ++ cs).drop (name.length + 4) = cs := by
      rw [← length_markerText, List.drop_left]
    rwa [hrest] at hlength
  rw [hrest] at hmarker ⊢
  rw [markersFrom, hmarker]
  change name :: markersFrom word (name.length + 3) rest = _
  rw [markersFrom_skip, hdrop]

theorem markersFrom_cons {c : Char} {cs : List Char} (h : ¬ ['%', '%'] <+: c :: cs) :
    markersFrom word 0 (c :: cs) = markersFrom word 0 cs := by
  have hnone : markerAt word (c :: cs) = none := if_neg fun hmarker => h hmarker.1
  rw [markersFrom, hnone]

/-- A text without `%` has no marker. -/
theorem markersFrom_of_not_mem {cs : List Char} (h : '%' ∉ cs) (skip : ℕ) :
    markersFrom word skip cs = [] := by
  induction cs generalizing skip with
  | nil => cases skip <;> rfl
  | cons c cs ih =>
    have hc : '%' ≠ c := fun hc => h (hc ▸ List.mem_cons_self)
    have hcs : '%' ∉ cs := fun hmem => h (List.mem_cons_of_mem _ hmem)
    cases skip with
    | zero =>
      have hnone : markerAt word (c :: cs) = none := by simp [markerAt, hc]
      rw [markersFrom, hnone]
      exact ih hcs 0
    | succ skip => exact ih hcs skip

theorem imageMarkerFilenames_of_not_mem {text : String} (h : '%' ∉ text.toList) :
    imageMarkerFilenames word text = [] := by
  rw [imageMarkerFilenames, markersFrom_of_not_mem h]
  rfl

/-- The sanitiser only deletes characters. -/
theorem removeMarker_sublist (marker : List Char) (skip : ℕ) (cs : List Char) :
    (removeMarker marker skip cs).Sublist cs := by
  induction cs generalizing skip with
  | nil => cases skip <;> exact .slnil
  | cons c cs ih =>
    cases skip with
    | zero =>
      rw [removeMarker]
      split_ifs
      · exact (ih _).cons c
      · exact (ih 0).cons_cons c
    | succ skip => exact (ih skip).cons c

theorem sanitizePlainText_sublist (text : String) :
    (sanitizePlainText text).toList.Sublist text.toList := by
  simp only [sanitizePlainText, plainTextMarkers, List.foldl_cons, List.foldl_nil,
    String.toList_ofList]
  exact (removeMarker_sublist _ _ _).trans (removeMarker_sublist _ _ _)

end MarketSupport
