import MarketSupport.Integrations.DocumentManifest

/-!
# Documents asked for

The ids that the store is asked for are distinct ids of listed products, the selected ones
first. They exceed the limit by one when the selection fills it alone, and an identifier shown
for two products is only resolved to the last of them.

## Main results

* `labelsResolved_iff_candidates` — what is asked of the identifiers, over the candidates of the
  manifest.
* `selectionCorrect_iff` — when the ids respect the limit and the identifiers of the manifest.
-/

namespace MarketSupport

open Library

variable (sanitizer : DocumentSanitizer) (selection : DocumentProductSelection)
  (products : List DocumentProduct) (baselineCategories : List String) (maxDocuments : ℕ)

/-- Every selected identifier that is shown for a product is resolved to this product. -/
def LabelsResolved : Prop :=
  selection.confidence ≠ .none → ∀ documentId ∈ selection.documentIds,
    ∀ id ∈ listedIds products, safeProductIdentifier sanitizer id = strip documentId →
      normalizedId sanitizer products (strip documentId) = id

/-- Every selected identifier of a candidate is resolved to the product of the candidate. -/
def CandidatesResolved (candidates : List DocumentProductCandidate) : Prop :=
  selection.confidence ≠ .none → ∀ documentId ∈ selection.documentIds,
    ∀ shown ∈ candidates.zip (listedIds products), shown.1.id = strip documentId →
      normalizedId sanitizer products (strip documentId) = shown.2

/-- What is asked of the ids that are fetched. -/
structure SelectionCorrect : Prop where
  length_le : (fetchedDocumentIds sanitizer selection products baselineCategories
    maxDocuments).length ≤ maxDocuments
  nodup : (fetchedDocumentIds sanitizer selection products baselineCategories maxDocuments).Nodup
  listed : ∀ id ∈ fetchedDocumentIds sanitizer selection products baselineCategories maxDocuments,
    id ∈ listedIds products
  selected_first : validatedSelectedDocumentIds sanitizer selection products maxDocuments <+:
    fetchedDocumentIds sanitizer selection products baselineCategories maxDocuments
  selection_order : (validatedSelectedDocumentIds sanitizer selection products
    maxDocuments).Sublist (selection.documentIds.map fun documentId =>
      normalizedId sanitizer products (strip documentId))
  labels : LabelsResolved sanitizer selection products

/-- The selection leaves room, or the documents that would be added are already selected. -/
def RoomForFallback : Prop :=
  (namedIds sanitizer selection products).eraseDups.length < maxDocuments ∨
    ∀ id ∈ (fallbackOrder products baselineCategories).take maxDocuments,
      id ∈ (namedIds sanitizer selection products).eraseDups.take maxDocuments

/-- No selected identifier is shown for products with different ids. -/
def LabelsDistinct : Prop :=
  selection.confidence ≠ .none → ∀ documentId ∈ selection.documentIds,
    ∀ a ∈ listedIds products, ∀ b ∈ listedIds products,
      safeProductIdentifier sanitizer a = strip documentId →
      safeProductIdentifier sanitizer b = strip documentId → a = b

variable {sanitizer selection products baselineCategories maxDocuments}

/-! ## Identifiers -/

/-- An identifier that is shown is resolved to a listed product that it is shown for. -/
theorem normalizedId_of_shown {id selectedId : String} (hid : id ∈ listedIds products)
    (hshown : safeProductIdentifier sanitizer id = selectedId) :
    normalizedId sanitizer products selectedId ∈ listedIds products ∧
      safeProductIdentifier sanitizer (normalizedId sanitizer products selectedId) =
        selectedId := by
  unfold normalizedId
  cases hfind : (listedIds products).reverse.find? fun id =>
      safeProductIdentifier sanitizer id = selectedId with
  | none =>
    have hnone := List.find?_eq_none.mp hfind id (List.mem_reverse.mpr hid)
    exact absurd hshown (by simpa using hnone)
  | some found =>
    exact ⟨List.mem_reverse.mp (List.mem_of_find?_eq_some hfind), by
      simpa using List.find?_some hfind⟩

theorem labelsResolved_iff :
    LabelsResolved sanitizer selection products ↔ LabelsDistinct sanitizer selection products := by
  constructor
  · intro h hconfidence documentId hdocument a ha b hb hshownA hshownB
    rw [← h hconfidence documentId hdocument a ha hshownA]
    exact h hconfidence documentId hdocument b hb hshownB
  · intro h hconfidence documentId hdocument id hid hshown
    obtain ⟨hlisted, hsafe⟩ := normalizedId_of_shown hid hshown
    exact h hconfidence documentId hdocument _ hlisted id hid hsafe hshown

/-- The identifiers that are shown are those of the candidates. -/
theorem labelsResolved_iff_candidates {candidates : List DocumentProductCandidate}
    (h : productManifest sanitizer products = .ok candidates) :
    LabelsResolved sanitizer selection products ↔
      CandidatesResolved sanitizer selection products candidates := by
  have hshown : (candidates.zip (listedIds products)).map (Prod.map (·.id) id) =
      (listedIds products).map fun listed => (safeProductIdentifier sanitizer listed, listed) := by
    rw [← List.zip_map_left, map_id_productManifest h, List.zip_eq_zipWith, List.zipWith_map_left,
      List.zipWith_self]
  unfold LabelsResolved CandidatesResolved
  refine imp_congr_right fun _ => forall₂_congr fun documentId _ => ?_
  constructor
  · intro hlabels shown hmem hsame
    have hpair : (shown.1.id, shown.2) ∈ (listedIds products).map fun listed =>
        (safeProductIdentifier sanitizer listed, listed) :=
      hshown ▸ List.mem_map.mpr ⟨shown, hmem, rfl⟩
    obtain ⟨listed, hlisted, heq⟩ := List.mem_map.mp hpair
    obtain ⟨hsafe, rfl⟩ := Prod.mk.inj heq
    exact hlabels _ hlisted (hsafe.trans hsame)
  · intro hcandidates listed hlisted hsafe
    have hpair : (safeProductIdentifier sanitizer listed, listed) ∈
        (candidates.zip (listedIds products)).map (Prod.map (·.id) id) :=
      hshown ▸ List.mem_map_of_mem hlisted
    obtain ⟨shown, hmem, heq⟩ := List.mem_map.mp hpair
    obtain ⟨hid, rfl⟩ := Prod.mk.inj heq
    exact hcandidates shown hmem (hid.trans hsafe)

/-! ## The ids that are fetched -/

/-- The first selected ids, completed with the first fallback ids. -/
theorem fetchedDocumentIds_eq (h : 1 ≤ maxDocuments) :
    fetchedDocumentIds sanitizer selection products baselineCategories maxDocuments =
      (appendNew maxDocuments
        ((namedIds sanitizer selection products).eraseDups.take maxDocuments)
        ((fallbackOrder products baselineCategories).take maxDocuments)).1 := by
  rw [fetchedDocumentIds, selectedWithFallbackIds, validatedSelectedDocumentIds_eq h,
    fallbackDocumentIds_eq h]
  split_ifs with hempty
  · have hnodup : ((fallbackOrder products baselineCategories).take maxDocuments).Nodup :=
      (nodup_eraseDups _).sublist (List.take_sublist _ _)
    rw [hempty, appendNew_nil_fst h, eraseDups_of_nodup hnodup, List.take_take, Nat.min_self]
  · rfl

theorem length_fetchedDocumentIds_le_iff (h : 1 ≤ maxDocuments) :
    (fetchedDocumentIds sanitizer selection products baselineCategories maxDocuments).length ≤
        maxDocuments ↔
      RoomForFallback sanitizer selection products baselineCategories maxDocuments := by
  rw [fetchedDocumentIds_eq h, length_appendNew_le_iff (List.length_take_le _ _), RoomForFallback,
    List.length_take]
  exact or_congr_left (by omega)

/-- The ids that are fetched are distinct ids of listed products, the selected ones first, in
their order. They respect the limit and the identifiers that are shown exactly when the
selection leaves room for the first fallback document and no selected identifier is shown for
two products; the identifiers that are shown are those of the manifest. -/
theorem selectionCorrect_iff (h : 1 ≤ maxDocuments) :
    (SelectionCorrect sanitizer selection products baselineCategories maxDocuments ↔
      RoomForFallback sanitizer selection products baselineCategories maxDocuments ∧
        LabelsDistinct sanitizer selection products) ∧
    ∀ candidates, productManifest sanitizer products = .ok candidates →
      (LabelsResolved sanitizer selection products ↔
        CandidatesResolved sanitizer selection products candidates) := by
  refine ⟨?_, fun candidates hmanifest => labelsResolved_iff_candidates hmanifest⟩
  rw [← labelsResolved_iff, ← length_fetchedDocumentIds_le_iff h]
  refine ⟨fun hcorrect => ⟨hcorrect.length_le, hcorrect.labels⟩, fun ⟨hlength, hlabels⟩ => ?_⟩
  have hselected : ((namedIds sanitizer selection products).eraseDups.take maxDocuments).Nodup :=
    (nodup_eraseDups _).sublist (List.take_sublist _ _)
  refine ⟨hlength, ?_, ?_, ?_, ?_, hlabels⟩
  · rw [fetchedDocumentIds_eq h]
    exact nodup_appendNew hselected
  · intro id hid
    rw [fetchedDocumentIds_eq h, appendNew_fst] at hid
    obtain hid | hid := List.mem_append.mp hid
    · exact mem_listedIds_of_named (List.mem_eraseDups.mp (List.mem_of_mem_take hid))
    · exact mem_fallbackOrder.mp
        (List.mem_of_mem_take (mem_newElements.mp (List.mem_of_mem_take hid)).1)
  · rw [fetchedDocumentIds_eq h, validatedSelectedDocumentIds_eq h, appendNew_fst]
    exact List.prefix_append _ _
  · rw [validatedSelectedDocumentIds_eq h]
    refine (List.take_sublist _ _).trans ((eraseDups_sublist _).trans ?_)
    unfold namedIds
    split_ifs
    · exact List.nil_sublist _
    · exact List.filter_sublist

/-! ## A selection that fills the limit -/

namespace FullSelection

/-- The texts of the samples are left as they are. -/
def plain : DocumentSanitizer where
  sanitize text := ⟨text, false, false⟩
  sha256Hex _ := "e3b0c44298fc"

def twoProducts : List DocumentProduct :=
  [{ id := "fund-a", category := "funds" }, { id := "guide", category := "baseline" }]

def oneSelected : DocumentProductSelection := ⟨["fund-a"], .high⟩

end FullSelection

/-- With two documents allowed there is room for the baseline document after the selected one. -/
theorem selectionCorrect_iff_two :
    RoomForFallback FullSelection.plain FullSelection.oneSelected FullSelection.twoProducts
        ["baseline"] 2 ∧
      LabelsDistinct FullSelection.plain FullSelection.oneSelected FullSelection.twoProducts ∧
      SelectionCorrect FullSelection.plain FullSelection.oneSelected FullSelection.twoProducts
        ["baseline"] 2 ∧
      ∃ candidates, productManifest FullSelection.plain FullSelection.twoProducts = .ok candidates ∧
        CandidatesResolved FullSelection.plain FullSelection.oneSelected
          FullSelection.twoProducts candidates := by
  have hroom : RoomForFallback FullSelection.plain FullSelection.oneSelected
      FullSelection.twoProducts ["baseline"] 2 := .inl (by decide +kernel)
  have hdistinct : LabelsDistinct FullSelection.plain FullSelection.oneSelected
      FullSelection.twoProducts := by
    intro _
    decide +kernel
  obtain ⟨hiff, hcandidates⟩ :=
    selectionCorrect_iff (by decide : 1 ≤ 2)
  have hcorrect := hiff.mpr ⟨hroom, hdistinct⟩
  obtain ⟨candidates, hmanifest⟩ := exists_of_isOk
    (by decide +kernel : (productManifest FullSelection.plain FullSelection.twoProducts).isOk =
      true)
  exact ⟨hroom, hdistinct, hcorrect, candidates, hmanifest,
    (hcandidates candidates hmanifest).mp hcorrect.labels⟩

/-- With one document allowed and one selected, the baseline document is asked for as well. -/
theorem fullSelection_exceeds :
    ¬ SelectionCorrect FullSelection.plain FullSelection.oneSelected FullSelection.twoProducts
      ["baseline"] 1 := by
  intro h
  exact absurd h.length_le (by decide +kernel)

end MarketSupport
