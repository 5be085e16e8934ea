import Mathlib.Algebra.Order.Ring.Rat
import Mathlib.Data.List.Sort
import MarketSupport.Library.Except
import MarketSupport.Library.Runs
import MarketSupport.Library.TtlCache
import MarketSupport.Schemas.Reply

/-!
# The document cache

`_get_documents` asks the document store for documents by their ids. With a cache authority, it
keeps them under the hash of a key, in which the ids are sorted.
-/

namespace MarketSupport

open Library

/-! ## Cache keys -/

/-- A full match of the prefix, a colon and 64 lowercase hexadecimal digits. -/
def isHashRef (label ref : String) : Bool :=
  (label ++ ":").toList.isPrefixOf ref.toList &&
    (ref.toList.drop (label.length + 1)).length == 64 &&
    (ref.toList.drop (label.length + 1)).all isLowerHex

structure DocumentMcpCacheConfigV1 where
  clientContractVersion : String
  corpusVersion : String
  requestSchemaHash : String
  responseSchemaHash : String
  timeoutMilliseconds : ℕ
  maxCandidates : ℕ
  ttlSeconds : ℕ
  capacity : ℕ
  deriving DecidableEq, Repr

structure DocumentQueryEvidenceCommandV1 where
  sourceVersion : String
  query : String
  documentIds : List String
  page : ℤ
  pageSize : ℤ
  maxResults : ℤ
  deriving DecidableEq, Repr

/-- The constructor of a command, which sorts the document ids. -/
def documentQueryEvidenceCommandV1 (command : DocumentQueryEvidenceCommandV1) :
    Except String DocumentQueryEvidenceCommandV1 :=
  if (1 ≤ command.sourceVersion.length ∧ command.sourceVersion.length ≤ 120) ∧
      (1 ≤ command.query.length ∧ command.query.length ≤ 200) ∧
      (1 ≤ command.documentIds.length ∧ command.documentIds.length ≤ 50) ∧
      (∀ id ∈ command.documentIds, 1 ≤ id.length ∧ id.length ≤ 160) ∧
      (1 ≤ command.page ∧ command.page ≤ 65535) ∧ (1 ≤ command.pageSize ∧ command.pageSize ≤ 50) ∧
      (1 ≤ command.maxResults ∧ command.maxResults ≤ 50) then
    if command.documentIds.Nodup then
      .ok { command with documentIds := command.documentIds.insertionSort (· ≤ ·) }
    else .error "duplicate_document_id"
  else .error "ValidationError"

structure EvidenceCommandCacheKeyV1 where
  stateKeyRef : String
  policyId : String
  manifestRef : String
  businessScopeHash : String
  evidenceCommandHash : String
  sourceCacheConfig : DocumentMcpCacheConfigV1
  deriving DecidableEq, Repr

/-- The constructor of a key. -/
def evidenceCommandCacheKeyV1 (key : EvidenceCommandCacheKeyV1) :
    Except String EvidenceCommandCacheKeyV1 :=
  if isHashRef "csk1" key.stateKeyRef ∧ isHashRef "pol1" key.policyId ∧
      (1 ≤ key.manifestRef.length ∧ key.manifestRef.length ≤ 200) ∧
      isHashRef "bsh1" key.businessScopeHash ∧ isHashRef "ech1" key.evidenceCommandHash then .ok key
  else .error "ValidationError"

/-- `evidence_command_hash` and `evidence_cache_key_hash`. -/
structure CacheKeyHashes where
  commandHash : DocumentQueryEvidenceCommandV1 → String
  cacheKeyHash : EvidenceCommandCacheKeyV1 → String

structure DocumentMcpCacheAuthorityV1 where
  stateKeyRef : String
  policyId : String
  manifestRef : String
  businessScopeHash : String
  sourceCacheConfig : DocumentMcpCacheConfigV1
  deriving DecidableEq, Repr

/-- The command of a query under an authority, before it is canonical. -/
def DocumentMcpCacheAuthorityV1.command (authority : DocumentMcpCacheAuthorityV1) (query : String)
    (documentIds : List String) (maxResults : ℤ) : DocumentQueryEvidenceCommandV1 where
  sourceVersion := authority.sourceCacheConfig.clientContractVersion
  query
  documentIds
  page := 1
  pageSize := min maxResults 50
  maxResults

def DocumentMcpCacheAuthorityV1.cacheKey (authority : DocumentMcpCacheAuthorityV1)
    (evidenceCommandHash : String) : EvidenceCommandCacheKeyV1 where
  stateKeyRef := authority.stateKeyRef
  policyId := authority.policyId
  manifestRef := authority.manifestRef
  businessScopeHash := authority.businessScopeHash
  evidenceCommandHash
  sourceCacheConfig := authority.sourceCacheConfig

/-- `key_for_document_query`. -/
def DocumentMcpCacheAuthorityV1.keyForDocumentQuery (authority : DocumentMcpCacheAuthorityV1)
    (hashes : CacheKeyHashes) (query : String) (documentIds : List String) (maxResults : ℤ) :
    Except String String := do
  let command ← documentQueryEvidenceCommandV1 (authority.command query documentIds maxResults)
  let cacheKey ← evidenceCommandCacheKeyV1 (authority.cacheKey (hashes.commandHash command))
  return hashes.cacheKeyHash cacheKey

/-! ## The client -/

/-- A client and the store behind it. `answer` are the documents of the answer to a
`get_documents` that is sent at a time, and `idText` is `str(document.get("id") or "")`. -/
structure DocumentMcpClient (Document : Type) where
  cacheTtlSeconds : ℚ
  answer : ℚ → List String → List Document
  idText : Document → String

/-- A call of `_get_documents`, with the clock when the cache is read and a request to the store
would be sent, and when the cache is written. -/
structure GetDocumentsCall where
  documentIds : List String
  query : String
  maxResults : ℤ
  cacheAuthority : Option DocumentMcpCacheAuthorityV1
  askedAt : ℚ
  writtenAt : ℚ
  deriving DecidableEq, Repr

abbrev DocumentCache (Document : Type) := TtlStore String ℚ (List Document)

variable {Document : Type}

/-- The ids that are not empty, in the order of the call. -/
def GetDocumentsCall.orderedIds (call : GetDocumentsCall) : List String :=
  call.documentIds.filter (· ≠ "")

/-- `resolved.get(document_id)`; the last document of an id wins. -/
def DocumentMcpClient.resolved (client : DocumentMcpClient Document) (documents : List Document)
    (documentId : String) : Option Document :=
  documents.reverse.find? fun document =>
    client.idText document ≠ "" ∧ client.idText document = documentId

theorem idText_of_resolved {client : DocumentMcpClient Document} {documents : List Document}
    {documentId : String} {document : Document}
    (h : client.resolved documents documentId = some document) :
    client.idText document = documentId := by
  unfold DocumentMcpClient.resolved at h
  have hfound := List.find?_some h
  exact (of_decide_eq_true hfound).2

/-- What the store returns for the ids of a call, in their order. -/
def DocumentMcpClient.fetch (client : DocumentMcpClient Document) (call : GetDocumentsCall) :
    List Document :=
  call.orderedIds.filterMap (client.resolved (client.answer call.askedAt call.orderedIds))

/-- The key of a call, when caching is enabled. -/
def DocumentMcpClient.cacheKeyRef (client : DocumentMcpClient Document) (hashes : CacheKeyHashes)
    (call : GetDocumentsCall) : Except String (Option String) :=
  match call.cacheAuthority with
  | none => .ok none
  | some authority =>
    if 0 < client.cacheTtlSeconds then
      (authority.keyForDocumentQuery hashes call.query call.orderedIds call.maxResults).map some
    else .ok none

/-- `_get_documents`; an empty cached list counts as none. -/
def DocumentMcpClient.getDocuments (client : DocumentMcpClient Document) (hashes : CacheKeyHashes)
    (cache : DocumentCache Document) (call : GetDocumentsCall) :
    Except String (List Document) × DocumentCache Document :=
  if call.orderedIds = [] then (.ok [], cache)
  else match client.cacheKeyRef hashes call with
    | .error e => (.error e, cache)
    | .ok none => (.ok (client.fetch call), cache)
    | .ok (some key) =>
      match cache.get call.askedAt key with
      | (some (document :: documents), cache) => (.ok (document :: documents), cache)
      | (_, cache) =>
        let output := client.fetch call
        (.ok output, cache.set call.writtenAt client.cacheTtlSeconds key output)

/-- The client as a system whose state is the cache. -/
def DocumentMcpClient.system (client : DocumentMcpClient Document) (hashes : CacheKeyHashes) :
    System (DocumentCache Document) GetDocumentsCall (Except String (List Document)) :=
  ⟨client.getDocuments hashes⟩

end MarketSupport
