import MarketSupport.Evidence.Grounding
import MarketSupport.Identity.Request
import MarketSupport.Rendering.ResponseIds

/-!
# Adapter preflight

Before a reply is rendered, the adapter resolves every artifact that the plan may need. There is
one request for every resolve type.
-/

namespace MarketSupport

/-! ## Requests and results -/

structure AdapterResolveRequest where
  resolveType : AdapterResolveType
  distName : String
  materialPackOption : Option String
  deriving DecidableEq, Repr

/-- The check of a resolved result, which has a reference that is not blank. -/
def resolvedHasRef (status : AdapterResolveStatus) (resolveRef : Option String) : Bool :=
  status ≠ .resolved ∨ strip (resolveRef.getD "") ≠ ""

/-- The fields of `AdapterResolveResult` that evidence is built from. -/
structure AdapterResolveResult where
  resolveType : AdapterResolveType
  status : AdapterResolveStatus
  resolvedAt : ℤ
  resolveRef : Option String
  period : Option String
  reportDate : Option String
  resolved_has_ref : resolvedHasRef status resolveRef = true
  deriving DecidableEq, Repr

theorem AdapterResolveResult.exists_resolveRef {result : AdapterResolveResult}
    (h : result.status = .resolved) : ∃ ref, result.resolveRef = some ref := by
  have hkept := result.resolved_has_ref
  cases href : result.resolveRef with
  | none =>
    rw [href, h] at hkept
    exact absurd hkept (by decide)
  | some ref => exact ⟨ref, rfl⟩

/-- The results answer the requests: each is of the type of one request. -/
def AnswersEach (requests : List AdapterResolveRequest)
    (results : List AdapterResolveResult) : Prop :=
  (results.map (·.resolveType)).Perm (requests.map (·.resolveType))

/-! ## Building requests -/

/-- `ordered_resolve_types`. -/
def orderedResolveTypes (resolveTypes : List AdapterResolveType) : List AdapterResolveType :=
  [.materialPack, .weeklyReport, .monthlyReport, .salesMention].filter (· ∈ resolveTypes)

theorem nodup_orderedResolveTypes {resolveTypes : List AdapterResolveType} :
    (orderedResolveTypes resolveTypes).Nodup :=
  List.Nodup.filter _ (by decide)

@[simp] theorem mem_orderedResolveTypes {resolveTypes : List AdapterResolveType}
    {resolveType : AdapterResolveType} :
    resolveType ∈ orderedResolveTypes resolveTypes ↔ resolveType ∈ resolveTypes := by
  cases resolveType <;> simp [orderedResolveTypes]

/-- `resolve_material_pack_options.get(resolve_type)`, of a dictionary given by its items. -/
def optionForResolveType (options : List (AdapterResolveType × String))
    (resolveType : AdapterResolveType) : Option String :=
  (options.reverse.find? (·.1 = resolveType)).map (·.2)

/-- `_material_pack_option_for_resolve_type`. -/
def materialPackOptionForResolveType (options : List (AdapterResolveType × String))
    (resolveType : AdapterResolveType) : Option String :=
  if resolveType ≠ .materialPack then none
  else (optionForResolveType options resolveType).filter (· ≠ "")

/-- `_build_resolve_requests`. -/
def buildResolveRequests (distName : String) (resolveTypes : List AdapterResolveType)
    (options : List (AdapterResolveType × String)) : List AdapterResolveRequest :=
  (orderedResolveTypes resolveTypes).map fun resolveType =>
    ⟨resolveType, distName, materialPackOptionForResolveType options resolveType⟩

/-! ## The snapshot -/

/-- An item of `AdapterPreflightSnapshot`, with its result. -/
structure AdapterPreflightRecord where
  resolveType : AdapterResolveType
  result : Option AdapterResolveResult
  deriving DecidableEq, Repr

/-- The part of an item that candidates read. -/
def AdapterPreflightRecord.item (item : AdapterPreflightRecord) : AdapterPreflightItem :=
  ⟨item.resolveType, item.result.map (·.status)⟩

/-- `AdapterPreflightService.collect`; without results the client failed. -/
def collectPreflight (requests : List AdapterResolveRequest)
    (results : Option (List AdapterResolveResult)) : List AdapterPreflightRecord :=
  match results with
  | none => requests.map fun request => ⟨request.resolveType, none⟩
  | some results => requests.map fun request =>
      ⟨request.resolveType, results.reverse.find? (·.resolveType = request.resolveType)⟩

/-! ## What is resolved -/

/-- A resolved item, with its result and its reference. -/
def AdapterPreflightRecord.resolved? (item : AdapterPreflightRecord) :
    Option (AdapterResolveResult × String) :=
  item.result.bind fun result =>
    if result.status ≠ .resolved then none else result.resolveRef.map (result, ·)

/-- `results.get(resolve_type)` of the resolved items. -/
def resolvedResult (preflight : List AdapterPreflightRecord) (resolveType : AdapterResolveType) :
    Option (AdapterResolveResult × String) :=
  (preflight.filter (·.resolveType = resolveType)).reverse.findSome? (·.resolved?)

theorem map_resolveType_buildResolveRequests {distName : String}
    {resolveTypes : List AdapterResolveType} {options : List (AdapterResolveType × String)} :
    (buildResolveRequests distName resolveTypes options).map (·.resolveType) =
      orderedResolveTypes resolveTypes := by
  rw [buildResolveRequests, List.map_map]
  exact List.map_id _

/-- The items of a type, when there is one request for every type. -/
theorem filter_collectPreflight {requests : List AdapterResolveRequest}
    (hnodup : (requests.map (·.resolveType)).Nodup) {resolveType : AdapterResolveType}
    (h : resolveType ∈ requests.map (·.resolveType))
    (results : Option (List AdapterResolveResult)) :
    (collectPreflight requests results).filter (·.resolveType = resolveType) =
      [⟨resolveType, results.bind (·.reverse.find? (·.resolveType = resolveType))⟩] := by
  have hmap : collectPreflight requests results = (requests.map (·.resolveType)).map fun t =>
      ⟨t, results.bind (·.reverse.find? (·.resolveType = t))⟩ := by
    cases results <;> simp [collectPreflight]
  have hone : (requests.map (·.resolveType)).filter (· = resolveType) = [resolveType] := by
    rw [List.filter_eq, List.count_eq_one_of_mem hnodup h, List.replicate_one]
  rw [hmap, List.filter_map]
  change ((requests.map (·.resolveType)).filter (· = resolveType)).map _ = _
  rw [hone]
  rfl

/-- What is resolved for a type is the last result for it. -/
theorem resolvedResult_collectPreflight {requests : List AdapterResolveRequest}
    (hnodup : (requests.map (·.resolveType)).Nodup) {resolveType : AdapterResolveType}
    (h : resolveType ∈ requests.map (·.resolveType))
    (results : Option (List AdapterResolveResult)) :
    resolvedResult (collectPreflight requests results) resolveType =
      AdapterPreflightRecord.resolved?
      ⟨resolveType, results.bind (·.reverse.find? (·.resolveType = resolveType))⟩ := by
  rw [resolvedResult, filter_collectPreflight hnodup h, List.reverse_singleton,
    List.findSome?_singleton]

end MarketSupport
