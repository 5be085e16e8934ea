import MarketSupport.Library.DistinctPrefix
import MarketSupport.Library.Except
import MarketSupport.Rendering.ResponseIds

/-!
# Selection of documents

The selector is shown a manifest of the products of the document store, under identifiers that
are safe to show, and names some of them. What it names is mapped back to the ids of the store
and completed with the products of the baseline categories.
-/

namespace MarketSupport

open Library

/-! ## Safe texts -/

/-- What is read of `SanitizedDocumentText`: the text, and the two tests of
`sanitized_label_was_redacted`. -/
structure SanitizedDocumentText where
  text : String
  internalLocatorRedacted : Bool
  secretRedacted : Bool
  deriving DecidableEq, Repr

/-- `sanitize_document_text_for_evidence` and the hexadecimal digest of a text. -/
structure DocumentSanitizer where
  sanitize : String → SanitizedDocumentText
  sha256Hex : String → String

variable (sanitizer : DocumentSanitizer)

/-- `text[:160].strip() or "document"`. -/
def labelText (text : String) : String :=
  let label := strip (String.ofList (text.toList.take 160))
  if label = "" then "document" else label

/-- `safe_document_source_id`, which `safe_product_identifier` calls. -/
def safeProductIdentifier (value : String) : String :=
  let sanitized := sanitizer.sanitize value
  if sanitized.internalLocatorRedacted || sanitized.secretRedacted then
    "document:" ++ String.ofList ((sanitizer.sha256Hex value).toList.take 12)
  else labelText sanitized.text

def safeDocumentLabel (value : String) : String :=
  let sanitized := sanitizer.sanitize value
  if sanitized.internalLocatorRedacted || sanitized.secretRedacted then "document"
  else labelText sanitized.text

/-! ## Products -/

/-- The values of a product, each as `str(product.get(name) or "")`. -/
structure DocumentProduct where
  id : String
  name : String := ""
  title : String := ""
  category : String := ""
  keywords : List String := []
  summary : String := ""
  deriving DecidableEq, Repr

/-- The id that the code uses for a product. -/
def DocumentProduct.productId (product : DocumentProduct) : String := strip product.id

structure DocumentProductCandidate where
  id : String
  name : String
  title : String
  category : String
  keywords : List String
  summary : String
  deriving DecidableEq, Repr

/-- The constructor of a candidate, with the bounds of its fields. -/
def documentProductCandidate (candidate : DocumentProductCandidate) :
    Except String DocumentProductCandidate :=
  if candidate.id ≠ "" ∧ candidate.id.length ≤ 160 ∧ candidate.name.length ≤ 160 ∧
      candidate.title.length ≤ 240 ∧ candidate.category.length ≤ 80 ∧
      candidate.keywords.length ≤ 20 ∧ candidate.summary.length ≤ 1200 then .ok candidate
  else .error "ValidationError"

def candidateOfProduct (product : DocumentProduct) : DocumentProductCandidate where
  id := safeProductIdentifier sanitizer product.productId
  name := safeDocumentLabel sanitizer (strip product.name)
  title := safeDocumentLabel sanitizer (strip product.title)
  category := safeDocumentLabel sanitizer (strip product.category)
  keywords := (product.keywords.map fun item => safeDocumentLabel sanitizer (strip item)).filter
    (· ≠ "")
  summary := safeDocumentLabel sanitizer (strip product.summary)

/-- `product_manifest`. -/
def productManifest (products : List DocumentProduct) :
    Except String (List DocumentProductCandidate) :=
  (products.filter (·.productId ≠ "")).mapM fun product =>
    documentProductCandidate (candidateOfProduct sanitizer product)

/-! ## Selected documents -/

inductive SelectionConfidence where
  | none
  | low
  | medium
  | high
  deriving DecidableEq, Repr

/-- What is read of `DocumentProductSelection`. -/
structure DocumentProductSelection where
  documentIds : List String
  confidence : SelectionConfidence
  deriving DecidableEq, Repr

/-- The ids of the products that have one, in order. -/
def listedIds (products : List DocumentProduct) : List String :=
  (products.map (·.productId)).filter (· ≠ "")

/-- `safe_to_raw_ids.get(selected_id, selected_id)`; the last product wins. -/
def normalizedId (products : List DocumentProduct) (selectedId : String) : String :=
  ((listedIds products).reverse.find? fun id =>
    safeProductIdentifier sanitizer id = selectedId).getD selectedId

/-- `validated_selected_document_ids`. -/
def validatedSelectedDocumentIds (selection : DocumentProductSelection)
    (products : List DocumentProduct) (maxDocuments : ℕ) : List String :=
  if selection.confidence = .none then []
  else
    let ids := selection.documentIds.map fun documentId =>
      normalizedId sanitizer products (strip documentId)
    (appendNew maxDocuments [] (ids.filter fun id => id ≠ "" ∧ id ∈ listedIds products)).1

/-- The ids of the products of the baseline categories. -/
def baselineIds (products : List DocumentProduct) (baselineCategories : List String) :
    List String :=
  let wanted := (baselineCategories.map strip).filter (· ≠ "")
  listedIds (products.filter fun product => strip product.category ∈ wanted)

/-- `fallback_document_ids`. -/
def fallbackDocumentIds (products : List DocumentProduct) (baselineCategories : List String)
    (maxDocuments : ℕ) : List String :=
  let baseline := appendNew maxDocuments [] (baselineIds products baselineCategories)
  if baseline.2 then baseline.1
  else (appendNew maxDocuments baseline.1 (listedIds products)).1

/-- `selected_with_fallback_ids`. -/
def selectedWithFallbackIds (documentIds fallbackIds : List String) (maxDocuments : ℕ) :
    List String :=
  if documentIds = [] then fallbackIds else (appendNew maxDocuments documentIds fallbackIds).1

/-- The ids that `fetch_context_async` asks the store for. -/
def fetchedDocumentIds (selection : DocumentProductSelection) (products : List DocumentProduct)
    (baselineCategories : List String) (maxDocuments : ℕ) : List String :=
  selectedWithFallbackIds
    (validatedSelectedDocumentIds sanitizer selection products maxDocuments)
    (fallbackDocumentIds products baselineCategories maxDocuments) maxDocuments

/-! ## What is collected -/

/-- The ids of the store that the selector names, in its order. -/
def namedIds (selection : DocumentProductSelection) (products : List DocumentProduct) :
    List String :=
  if selection.confidence = .none then []
  else (selection.documentIds.map fun documentId =>
    normalizedId sanitizer products (strip documentId)).filter (· ∈ listedIds products)

/-- The order in which documents are added: the baseline categories first. -/
def fallbackOrder (products : List DocumentProduct) (baselineCategories : List String) :
    List String :=
  (baselineIds products baselineCategories ++ listedIds products).eraseDups

variable {sanitizer} {selection : DocumentProductSelection} {products : List DocumentProduct}
  {baselineCategories : List String} {maxDocuments : ℕ}

/-- The identifiers of the manifest are the safe ones of the listed products. -/
theorem map_id_productManifest {candidates : List DocumentProductCandidate}
    (h : productManifest sanitizer products = .ok candidates) :
    candidates.map (·.id) = (listedIds products).map (safeProductIdentifier sanitizer) := by
  rw [map_of_mapM h (g := (·.id)) (k := fun product =>
    safeProductIdentifier sanitizer product.productId)]
  · rw [listedIds, List.filter_map, List.map_map]
    rfl
  · intro product candidate hcandidate
    unfold documentProductCandidate at hcandidate
    split_ifs at hcandidate
    exact (Except.ok.inj hcandidate) ▸ rfl

theorem ne_empty_of_mem_listedIds {id : String} (h : id ∈ listedIds products) : id ≠ "" := by
  simpa using (List.mem_filter.mp h).2

/-- The first distinct ids that the selector names. -/
theorem validatedSelectedDocumentIds_eq (h : 1 ≤ maxDocuments) :
    validatedSelectedDocumentIds sanitizer selection products maxDocuments =
      (namedIds sanitizer selection products).eraseDups.take maxDocuments := by
  unfold validatedSelectedDocumentIds namedIds
  split_ifs with hnone
  · simp
  · dsimp only
    rw [appendNew_nil_fst h]
    congr 2
    refine List.filter_congr fun id _ => ?_
    by_cases hmem : id ∈ listedIds products
    · simp [hmem, ne_empty_of_mem_listedIds hmem]
    · simp [hmem]

theorem fallbackDocumentIds_eq (h : 1 ≤ maxDocuments) :
    fallbackDocumentIds products baselineCategories maxDocuments =
      (fallbackOrder products baselineCategories).take maxDocuments :=
  appendNew_again_fst h

theorem mem_fallbackOrder {id : String} :
    id ∈ fallbackOrder products baselineCategories ↔ id ∈ listedIds products := by
  have hsub : id ∈ baselineIds products baselineCategories → id ∈ listedIds products := by
    simp only [baselineIds, listedIds, List.mem_filter, List.mem_map]
    rintro ⟨⟨product, ⟨hmem, _⟩, rfl⟩, hne⟩
    exact ⟨⟨product, hmem, rfl⟩, hne⟩
  simp only [fallbackOrder, List.mem_eraseDups, List.mem_append]
  exact ⟨fun h => h.elim hsub fun hlisted => hlisted, .inr⟩

theorem mem_listedIds_of_named {id : String} (h : id ∈ namedIds sanitizer selection products) :
    id ∈ listedIds products := by
  unfold namedIds at h
  split_ifs at h
  · cases h
  · simpa using (List.mem_filter.mp h).2

end MarketSupport
