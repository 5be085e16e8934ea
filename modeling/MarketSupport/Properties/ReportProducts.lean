import MarketSupport.Integrations.ReportScope

/-!
# Lists of products that are complete

The pages of a product list are answers to separate calls. Every answer is checked to be about the
report that was asked for, but only the first one has to be resolved and to announce a number of
products, and a list is complete when it has at least that many.

## Main results

* `collectProductsFact_sound_iff` — the answers for which a list that is said to be complete is.
-/

namespace MarketSupport

open Library Program

abbrev ReportScopeExchange :=
  Exchange AdapterReportScopeRequest fun _ => Option AdapterReportScopeResult

/-- The results among the answers. -/
def deliveredResults (l : List ReportScopeExchange) : List AdapterReportScopeResult :=
  l.filterMap (·.2)

/-- The products of all answers. -/
def deliveredProducts (l : List ReportScopeExchange) : List ReportScopeProduct :=
  (deliveredResults l).flatMap (·.products)

/-- An answer to the request for a page does not say that it is another one. -/
def NamesItsPage (exchange : ReportScopeExchange) : Prop :=
  ∀ result ∈ exchange.2, ∀ page ∈ result.productPage, exchange.1.page = some page

/-! ## The property -/

variable (distName : String) (target : ReportTarget)

/-- The requests for the pages with these numbers. -/
def pageRequests (pages : List ℕ) : List AdapterReportScopeRequest :=
  pages.map fun page => reportRequest distName target .listProducts (some page)

/-- A later page is one of the list that the first page begins. -/
structure SameList (first result : AdapterReportScopeResult) : Prop where
  materialType : result.materialType = first.materialType
  distName : result.distName = first.distName
  period : result.period = first.period
  reportDate : result.reportDate = first.reportDate
  resolved : result.status = .resolved
  total : result.productTotalCount = first.productTotalCount

/-- The list has the announced products, from each page once. -/
structure CompleteList (l : List ReportScopeExchange) (payload : ReportScopeProductsCanonicalV1) :
    Prop where
  requested : l.map (·.1) = pageRequests distName target (List.range' 1 l.length)
  answered : ∀ x ∈ l, x.2.isSome
  numbered : ∀ x ∈ l, NamesItsPage x
  products : payload.products = (deliveredProducts l).map canonicalProduct
  exact : payload.products.length = payload.totalCount
  same : ∃ first ∈ (deliveredResults l).head?, first.productTotalCount = some payload.totalCount ∧
    ∀ result ∈ deliveredResults l, SameList first result

/-- What is returned after the exchanges: why there is no list, or a list of at most two hundred
products, which is complete when it says so. -/
def ProductListSound (l : List ReportScopeExchange)
    (result : Except EvidenceException CanonicalEvidenceFactV1) : Prop :=
  ∃ fact, result = .ok fact ∧ (fact.factType = .reportScopeUnavailable ∨
    ∃ payload, fact.factType = .reportScopeProducts ∧
      fact.reportPayload = some (.products payload) ∧ payload.products.length ≤ 200 ∧
      (payload.fullProductListInProjection = true → CompleteList distName target l payload))

/-! ## The answers -/

/-- The answer passes the check for its request. -/
def IsBound (exchange : ReportScopeExchange) : Prop :=
  ∃ result, exchange.2 = some result ∧ reportScopeBindingError exchange.1 result = none

/-- Every answer is bound to its request, and the first one announces a number of products. -/
structure ListsProducts (l : List ReportScopeExchange) (first : AdapterReportScopeResult)
    (totalCount : ℕ) : Prop where
  bound : ∀ x ∈ l, IsBound x
  head : (deliveredResults l).head? = some first
  resolved : first.status = .resolved
  total : first.productTotalCount = some totalCount

/-- The texts of the answers are within the bounds of a fact. -/
structure FieldsFit (l : List ReportScopeExchange) (first : AdapterReportScopeResult) : Prop where
  reasonCode : first.reasonCode.length ≤ 120
  products : ∀ product ∈ deliveredProducts l, productAccepted (canonicalProduct product) = true
  provenance : provenanceAccepted target (factScope target (some first)) = true

/-- The pages go on with what the first one began, and have no product too many. -/
structure PagesContinue (l : List ReportScopeExchange) (first : AdapterReportScopeResult)
    (totalCount : ℕ) : Prop where
  numbered : ∀ x ∈ l, NamesItsPage x
  reportDate : ∀ result ∈ deliveredResults l, result.reportDate = first.reportDate
  resolved : ∀ result ∈ deliveredResults l, result.status = .resolved
  total : ∀ result ∈ deliveredResults l, result.productTotalCount = some totalCount
  period : target.period = none → ∀ result ∈ deliveredResults l, result.period = first.period
  noSurplus : (deliveredProducts l).length ≤ totalCount

/-- The answers that keep what the code does not check. -/
structure AnswersContinue (l : List ReportScopeExchange) : Prop where
  fits : ∀ first totalCount, ListsProducts l first totalCount → FieldsFit target l first
  unavailable_fits : (∀ first totalCount, ¬ListsProducts l first totalCount) →
    provenanceAccepted target (factScope target none) = true
  pages : ∀ first totalCount, ListsProducts l first totalCount →
    totalCount ≤ (deliveredProducts l).length → PagesContinue target l first totalCount

/-! ## The calls -/

variable {distName target} {l : List ReportScopeExchange}

theorem deliveredProducts_cons_some (request : AdapterReportScopeRequest)
    (result : AdapterReportScopeResult) (l : List ReportScopeExchange) :
    deliveredProducts (⟨request, some result⟩ :: l) = result.products ++ deliveredProducts l := rfl

theorem isBound_some {request : AdapterReportScopeRequest} {result : AdapterReportScopeResult} :
    IsBound ⟨request, some result⟩ ↔ reportScopeBindingError request result = none := by
  simp [IsBound]

theorem boundResult_eq_ok {request : AdapterReportScopeRequest} {errorCode : String}
    {answer : Option AdapterReportScopeResult} {result : AdapterReportScopeResult} :
    boundResult request errorCode answer = .ok result ↔
      answer = some result ∧ reportScopeBindingError request result = none := by
  cases answer with
  | none => simp [boundResult]
  | some delivered =>
    rw [boundResult]
    cases hbinding : reportScopeBindingError request delivered with
    | none =>
      rw [Option.elim_none, Except.ok.injEq, Option.some.injEq]
      exact ⟨fun h => ⟨h, h ▸ hbinding⟩, And.left⟩
    | some e =>
      rw [Option.elim_some]
      refine ⟨nofun, fun h => ?_⟩
      rw [← Option.some.inj h.1, hbinding] at h
      cases h.2

/-- A call makes one exchange, whose check is its result. -/
theorem boundReport_spec (command : ReportCommand) (page : Option ℕ) (errorCode : String) :
    (boundReport distName target command page errorCode).wp fun l result =>
      ∃ answer, l = [⟨reportRequest distName target command page, answer⟩] ∧
        result = boundResult (reportRequest distName target command page) errorCode answer :=
  fun answer => ⟨answer, rfl, rfl⟩

theorem not_isBound_of_error {request : AdapterReportScopeRequest} {errorCode e : String}
    {answer : Option AdapterReportScopeResult}
    (h : .error e = boundResult request errorCode answer) :
    ¬ IsBound ⟨request, answer⟩ := by
  rintro ⟨result, rfl, hbound⟩
  rw [boundResult_eq_ok.mpr ⟨rfl, hbound⟩] at h
  cases h

/-- The later pages are asked for in turn; their products are added up unless one is not bound. -/
theorem extendProducts_spec (pages : List ℕ) (products : List ReportScopeProduct) :
    (extendProducts distName target pages products).wp fun l result =>
      (∀ collected, result = .ok collected → l.map (·.1) = pageRequests distName target pages ∧
        (∀ x ∈ l, IsBound x) ∧ collected = products ++ deliveredProducts l) ∧
      (∀ e, result = .error e → ¬ ∀ x ∈ l, IsBound x) := by
  induction pages generalizing products with
  | nil =>
    refine ⟨?_, fun _ h => (by cases h)⟩
    rintro _ ⟨⟩
    exact ⟨rfl, List.forall_mem_nil _, (List.append_nil products).symm⟩
  | cons page pages ih =>
    rw [extendProducts]
    refine wp_seq (boundReport_spec _ _ _) ?_ ?_
    · rintro _ e ⟨answer, rfl, he⟩
      exact ⟨fun _ h => (by cases h), fun _ _ hall =>
        not_isBound_of_error he (hall _ List.mem_cons_self)⟩
    · rintro _ result ⟨answer, rfl, hresult⟩
      obtain ⟨rfl, hbound⟩ := boundResult_eq_ok.mp hresult.symm
      refine wp_mono (ih (products ++ result.products)) ?_
      rintro l ended ⟨hok, herror⟩
      refine ⟨fun collected hcollected => ?_, fun e he hall => ?_⟩
      · obtain ⟨hrequests, hall, rfl⟩ := hok collected hcollected
        refine ⟨congrArg (_ :: ·) hrequests, ?_, ?_⟩
        · exact List.forall_mem_cons.mpr ⟨isBound_some.mpr hbound, hall⟩
        · rw [List.singleton_append, deliveredProducts_cons_some, List.append_assoc]
      · exact herror e he fun x hx => hall x (List.mem_cons_of_mem _ hx)

/-- The products of all pages are collected from answers that list products. -/
theorem collectProducts_spec : (collectProducts distName target).wp fun l result =>
    (∀ first products totalCount, result = .ok (first, products, totalCount) →
      ListsProducts l first totalCount ∧ products = deliveredProducts l ∧
        l.map (·.1) = pageRequests distName target (1 :: laterPages totalCount)) ∧
    (∀ e, result = .error e → ∀ first totalCount, ¬ ListsProducts l first totalCount) := by
  rw [collectProducts]
  refine wp_seq (boundReport_spec _ _ _) ?_ ?_
  · rintro _ e ⟨answer, rfl, he⟩
    exact ⟨fun _ _ _ h => (by cases h), fun _ _ first totalCount h =>
      not_isBound_of_error he (h.bound _ List.mem_cons_self)⟩
  · rintro _ result ⟨answer, rfl, hresult⟩
    obtain ⟨rfl, hbound⟩ := boundResult_eq_ok.mp hresult.symm
    -- the first answer decides whether there is a list
    have hhead : ∀ {l first totalCount},
        ListsProducts (⟨reportRequest distName target .listProducts (some 1), some result⟩ :: l)
          first
          totalCount → result.status = .resolved ∧ result.productTotalCount = some totalCount := by
      intro l first totalCount h
      obtain rfl : result = first := Option.some.inj h.head
      exact ⟨h.resolved, h.total⟩
    split
    · next totalCount hstatus htotal =>
      refine wp_seq (extendProducts_spec _ _) ?_ ?_
      · rintro l e ⟨_, herror⟩
        exact ⟨fun _ _ _ h => (by cases h), fun _ _ first totalCount h =>
          herror e rfl fun x hx => h.bound x (List.mem_cons_of_mem _ hx)⟩
      · rintro l products ⟨hok, _⟩
        obtain ⟨hrequests, hall, rfl⟩ := hok products rfl
        refine ⟨?_, fun _ h => (by cases h)⟩
        rintro _ _ _ ⟨⟩
        rw [List.append_nil, List.singleton_append]
        exact ⟨⟨List.forall_mem_cons.mpr ⟨isBound_some.mpr hbound, hall⟩, rfl, hstatus, htotal⟩,
          (deliveredProducts_cons_some _ _ _).symm, congrArg (_ :: ·) hrequests⟩
    · next hno =>
      refine ⟨fun _ _ _ h => (by cases h), fun _ _ first totalCount h => ?_⟩
      exact hno totalCount (hhead h).1 (hhead h).2

/-! ## The pages of a list -/

theorem mem_deliveredResults {result : AdapterReportScopeResult} :
    result ∈ deliveredResults l ↔
      ∃ request, (⟨request, some result⟩ : ReportScopeExchange) ∈ l := by
  simp only [deliveredResults, List.mem_filterMap]
  constructor
  · rintro ⟨⟨request, answer⟩, hmem, rfl⟩
    exact ⟨request, hmem⟩
  · rintro ⟨request, hmem⟩
    exact ⟨_, hmem, rfl⟩

theorem length_deliveredProducts_le : (deliveredProducts l).length ≤ l.length * 50 := by
  induction l with
  | nil => exact le_rfl
  | cons x l ih =>
    obtain ⟨request, _ | result⟩ := x
    · exact ih.trans (Nat.mul_le_mul_right 50 (Nat.le_succ _))
    · rw [deliveredProducts_cons_some, List.length_append, List.length_cons]
      have := result.products_bound
      omega

/-- What the check of an answer to a request for a page says. -/
theorem of_isBound {page : ℕ} {result : AdapterReportScopeResult}
    (h : IsBound ⟨reportRequest distName target .listProducts (some page), some result⟩) :
    result.materialType = target.materialType ∧ result.distName = distName ∧
      ∀ period ∈ target.period, result.period = period := by
  rw [isBound_some, reportScopeBindingError] at h
  split_ifs at h with hmaterial hdist hperiod
  refine ⟨not_not.mp hmaterial, not_not.mp hdist, fun period hmem => ?_⟩
  simpa [reportRequest, Option.mem_def.mp hmem] using hperiod

namespace ListsProducts

variable {first : AdapterReportScopeResult} {totalCount : ℕ}

theorem unique (h : ListsProducts l first totalCount) {first' : AdapterReportScopeResult}
    {totalCount' : ℕ} (h' : ListsProducts l first' totalCount') :
    first = first' ∧ totalCount = totalCount' := by
  obtain rfl := Option.some.inj (h.head.symm.trans h'.head)
  exact ⟨rfl, Option.some.inj (h.total.symm.trans h'.total)⟩

theorem first_mem (h : ListsProducts l first totalCount) : first ∈ deliveredResults l :=
  List.mem_of_head? h.head

variable (h : ListsProducts l first totalCount)
  (requests : l.map (·.1) = pageRequests distName target (1 :: laterPages totalCount))

include requests in
theorem length_le : l.length ≤ 4 := by
  have hlen := congrArg List.length requests
  simp only [pageRequests, List.length_map, List.length_cons, laterPages,
    List.length_range'] at hlen
  omega

include requests in
/-- The pages are asked for in order. -/
theorem requested : l.map (·.1) = pageRequests distName target (List.range' 1 l.length) := by
  have hlen := congrArg List.length requests
  simp only [pageRequests, List.length_map, List.length_cons, laterPages,
    List.length_range'] at hlen
  rw [requests, hlen, List.range'_succ]
  rfl

include h requests in
theorem bound_result {result : AdapterReportScopeResult} (hmem : result ∈ deliveredResults l) :
    result.materialType = target.materialType ∧ result.distName = distName ∧
      ∀ period ∈ target.period, result.period = period := by
  obtain ⟨request, hmem⟩ := mem_deliveredResults.mp hmem
  have hrequest : request ∈ l.map (·.1) := List.mem_map_of_mem hmem
  rw [requests] at hrequest
  obtain ⟨page, _, rfl⟩ := List.mem_map.mp hrequest
  exact of_isBound (h.bound _ hmem)

include h requests in
/-- A list that has the announced number of products is complete when its pages continue it. -/
theorem completeList_iff : CompleteList distName target l
      (productsPayload first (deliveredProducts l) totalCount) ∧
        totalCount ≤ (deliveredProducts l).length ↔
    PagesContinue target l first totalCount ∧ totalCount ≤ (deliveredProducts l).length := by
  refine and_congr_left fun hfull => ⟨fun complete => ?_, fun pages => ?_⟩
  · obtain ⟨first', hfirst', htotal, hsame⟩ := complete.same
    obtain rfl : first = first' := Option.some.inj (h.head.symm.trans hfirst')
    have hexact : (deliveredProducts l).length = totalCount := by
      simpa [productsPayload] using complete.exact
    exact {
      numbered := complete.numbered
      reportDate := fun result hmem => (hsame result hmem).reportDate
      resolved := fun result hmem => (hsame result hmem).resolved
      total := fun result hmem => (hsame result hmem).total.trans h.total
      period := fun _ result hmem => (hsame result hmem).period
      noSurplus := hexact.le }
  · have hsame : ∀ result ∈ deliveredResults l, SameList first result := by
      intro result hmem
      obtain ⟨hmaterial, hdist, hperiod⟩ := h.bound_result requests hmem
      obtain ⟨hmaterial', hdist', hperiod'⟩ := h.bound_result requests h.first_mem
      refine ⟨hmaterial.trans hmaterial'.symm, hdist.trans hdist'.symm, ?_,
        pages.reportDate result hmem, pages.resolved result hmem,
        (pages.total result hmem).trans h.total.symm⟩
      cases htarget : target.period with
      | none => exact pages.period htarget result hmem
      | some period => rw [hperiod period htarget, hperiod' period htarget]
    exact {
      requested := requested requests
      answered := fun x hx => by
        obtain ⟨result, hresult, _⟩ := h.bound x hx
        rw [hresult]
        rfl
      numbered := pages.numbered
      products := rfl
      exact := (List.length_map _).trans (le_antisymm pages.noSurplus hfull)
      same := ⟨first, h.head, h.total, hsame⟩ }

end ListsProducts

/-! ## The facts -/

section Facts

variable {hashes : EvidenceHashes}

theorem artifactType_factScope (result : Option AdapterReportScopeResult) :
    (factScope target result).artifactType = target.resolveType.artifactType := by
  unfold factScope reportFactScope
  split <;> split <;> rfl

/-- A reason is returned unless its target is refused. -/
theorem unavailableFact_cases (hashes : EvidenceHashes) (target : ReportTarget)
    (reasonCode : String) :
    (provenanceAccepted target (factScope target none) = true ∧
      ∃ fact, unavailableFact hashes target reasonCode = .ok fact ∧
        fact.factType = .reportScopeUnavailable) ∨
    (provenanceAccepted target (factScope target none) = false ∧
      unavailableFact hashes target reasonCode = .error .validationError) := by
  rw [unavailableFact]
  cases haccepted : provenanceAccepted target (factScope target none) with
  | false => exact .inr ⟨rfl, rfl⟩
  | true =>
    refine .inl ⟨rfl, ?_⟩
    simp [buildCanonicalEvidenceFactV1, reportProvenance, artifactType_factScope, Except.mapError]

theorem bounds_of_provenanceAccepted {result : AdapterReportScopeResult}
    (h : provenanceAccepted target (factScope target (some result)) = true) :
    result.period.length ≤ 40 ∧ result.reportDate.all (·.length ≤ 40) = true := by
  have hscope : scopeIdentityAccepted (factScope target (some result)) = true := by
    simp only [provenanceAccepted, Bool.and_eq_true] at h
    exact h.1.1.1
  cases hunit : target.unit.scope <;>
    · simp only [factScope, reportFactScope, hunit, scopeIdentityAccepted, Bool.and_eq_true,
        Option.all_some, decide_eq_true_eq] at hscope
      exact ⟨hscope.1.2, hscope.2⟩

/-- The payload of a list within the bounds is accepted. -/
theorem productsFact_eq_ok_iff {first : AdapterReportScopeResult} {totalCount : ℕ}
    (hbound : (deliveredProducts l).length ≤ 200) {fact : CanonicalEvidenceFactV1} :
    productsFact hashes target first (deliveredProducts l) totalCount = .ok fact ↔
      FieldsFit target l first ∧ fact = buildReportFact hashes target
        (.products (productsPayload first (deliveredProducts l) totalCount)) .listProducts
        (factScope target (some first)) := by
  have haccepted : (reportPayloadAccepted
        (.products (productsPayload first (deliveredProducts l) totalCount)) &&
        provenanceAccepted target (factScope target (some first))) = true ↔
      FieldsFit target l first := by
    constructor
    · intro h
      obtain ⟨hpayload, hprovenance⟩ := Bool.and_eq_true_iff.mp h
      simp only [reportPayloadAccepted, productsPayload, Bool.and_eq_true, List.all_map,
        List.all_eq_true] at hpayload
      exact ⟨of_decide_eq_true hpayload.1.1.1.1.1.1.1.1.1.1, hpayload.1.1.1.1.1.1.1.2, hprovenance⟩
    · rintro ⟨hreason, hproducts, hprovenance⟩
      obtain ⟨hperiod, hdate⟩ := bounds_of_provenanceAccepted hprovenance
      have hall : ((deliveredProducts l).map canonicalProduct).all productAccepted = true := by
        simpa using hproducts
      have hlength : (deliveredProducts l).length =
          ((deliveredProducts l).map canonicalProduct).length := (List.length_map _).symm
      refine Bool.and_eq_true_iff.mpr ⟨?_, hprovenance⟩
      simp only [reportPayloadAccepted, Bool.and_eq_true]
      exact ⟨⟨⟨⟨⟨⟨⟨⟨⟨⟨decide_eq_true hreason, decide_eq_true hperiod⟩, hdate⟩, hall⟩,
        decide_eq_true (hlength.symm.trans_le hbound)⟩, rfl⟩, rfl⟩, rfl⟩, rfl⟩,
        decide_eq_true hlength⟩, decide_eq_true rfl⟩
  rw [productsFact, reportFact]
  by_cases h : FieldsFit target l first
  · rw [if_pos (haccepted.mpr h), Except.ok.injEq, eq_comm]
    exact (and_iff_right h).symm
  · rw [if_neg (mt haccepted.mp h)]
    exact ⟨nofun, fun hfits => absurd hfits.1 h⟩

/-- A list that is said to be complete is, exactly for answers that continue the first one. -/
theorem collectProductsFact_sound_iff {result : Except EvidenceException CanonicalEvidenceFactV1}
    (trace : Trace (collectProductsFact hashes distName target) l result) :
    ProductListSound distName target l result ↔ AnswersContinue target l := by
  refine Trace.wp (Q := fun l result => ProductListSound distName target l result ↔
    AnswersContinue target l) trace (wp_handle.mpr (wp_mono collectProducts_spec ?_))
  rintro l (reasonCode | ⟨first, products, totalCount⟩) ⟨hok, herror⟩
  · have hnone := herror reasonCode rfl
    rw [wp_ofExcept, List.append_nil]
    obtain ⟨haccepted, fact, hfact, htype⟩ | ⟨hrefused, hfact⟩ :=
      unavailableFact_cases hashes target reasonCode
    · refine iff_of_true ⟨fact, hfact, .inl htype⟩ ⟨?_, fun _ => haccepted, ?_⟩
      · exact fun first totalCount h => absurd h (hnone first totalCount)
      · exact fun first totalCount h => absurd h (hnone first totalCount)
    · refine iff_of_false ?_ fun h => ?_
      · rintro ⟨fact, h, _⟩
        rw [hfact] at h
        cases h
      · rw [h.unavailable_fits hnone] at hrefused
        cases hrefused
  · obtain ⟨h, rfl, requests⟩ := hok first products totalCount rfl
    have hbound : (deliveredProducts l).length ≤ 200 := by
      have := length_deliveredProducts_le (l := l)
      have := ListsProducts.length_le requests
      omega
    have hcomplete := h.completeList_iff requests
    rw [wp_ofExcept, List.append_nil]
    constructor
    · rintro ⟨fact, hfact, hsound⟩
      obtain ⟨fits, rfl⟩ := (productsFact_eq_ok_iff hbound).mp hfact
      refine ⟨?_, fun hnone => absurd h (hnone first totalCount), ?_⟩
      · rintro first' totalCount' h'
        obtain ⟨rfl, rfl⟩ := h.unique h'
        exact fits
      · rintro first' totalCount' h' hfull
        obtain ⟨rfl, rfl⟩ := h.unique h'
        obtain htype | ⟨payload, _, hpayload, _, hsound⟩ := hsound
        · cases htype
        · cases hpayload
          exact (hcomplete.mp ⟨hsound (decide_eq_true hfull), hfull⟩).1
    · rintro ⟨fits, _, pages⟩
      refine ⟨_, (productsFact_eq_ok_iff hbound).mpr ⟨fits first totalCount h, rfl⟩, .inr
        ⟨_, rfl, rfl, ?_, fun hfull => ?_⟩⟩
      · exact (List.length_map _).trans_le hbound
      · have hfull := of_decide_eq_true hfull
        exact (hcomplete.mpr ⟨pages first totalCount h hfull, hfull⟩).1

end Facts

/-! ## Samples -/

namespace ProductPages

def weeklyTarget : ReportTarget where
  unit := {
    unitId := "unit-1"
    manifestRef := ⟨.weeklyReportProductList, .v20260718n1⟩
    answerabilityPolicy := .answer
    artifactKind := .weeklyReport
    runtimeCapabilities := []
    answerCapabilities := []
    adapterResolves := []
    actionIntents := []
    scope := .unscoped
    evidenceQuery := some "report_scope_products"
    ambiguitySlots := [] }
  resolveType := .weeklyReport
  materialType := .weekly
  command := .listProducts
  query := none
  period := some "2026W29"
  preflightResult := none

def hashes : EvidenceHashes where
  scopeRef _ := "escope1:0"
  sourceRecordRef _ := "esr1:0"
  valueHash _ := "evh1:0"
  reportHash _ := "evh1:0"
  provenanceHash _ := "eph1:0"
  factId _ := "eid1:0"

def product : ReportScopeProduct :=
  ⟨"IndexPlus A", none, "IndexPlus", .found, .generated, by decide, by decide⟩

/-- A page of a weekly report with fifty-one products. -/
def page (number count : ℕ) (reportDate : String) (hcount : count ≤ 50) (hnumber : 1 ≤ number) :
    AdapterReportScopeResult where
  materialType := .weekly
  distName := "Example Bank"
  period := "2026W29"
  status := .resolved
  reasonCode := "ok"
  reportDate := some reportDate
  products := List.replicate count product
  productPage := some number
  productTotalCount := some 51
  reportSections_bound := by decide
  products_bound := List.length_replicate.trans_le hcount
  productPage_pos := decide_eq_true hnumber

def firstPage : AdapterReportScopeResult := page 1 50 "2026-07-17" (by decide) (by decide)

/-- The second page, of a report of this date. -/
def secondPage (reportDate : String) : AdapterReportScopeResult :=
  page 2 1 reportDate (by decide) (by decide)

/-- An adapter with two pages, the second one of a report of this date. -/
def answer (reportDate : String) (request : AdapterReportScopeRequest) :
    Option AdapterReportScopeResult :=
  if request.page = some 1 then some firstPage else some (secondPage reportDate)

def exchanges (reportDate : String) : List ReportScopeExchange :=
  [⟨reportRequest "Example Bank" weeklyTarget .listProducts (some 1), some firstPage⟩,
    ⟨reportRequest "Example Bank" weeklyTarget .listProducts (some 2),
      some (secondPage reportDate)⟩]

/-- The fact of both pages. -/
def fact (reportDate : String) : CanonicalEvidenceFactV1 :=
  buildReportFact hashes weeklyTarget (.products (productsPayload firstPage
    (firstPage.products ++ (secondPage reportDate).products) 51)) .listProducts
    (factScope weeklyTarget (some firstPage))

theorem trace {reportDate : String} (h : productsFact hashes weeklyTarget firstPage
      (firstPage.products ++ (secondPage reportDate).products) 51 = .ok (fact reportDate)) :
    Trace (collectProductsFact hashes "Example Bank" weeklyTarget) (exchanges reportDate)
      (.ok (fact reportDate)) :=
  h ▸ trace_run (answer reportDate) (collectProductsFact hashes "Example Bank" weeklyTarget)

theorem listsProducts {reportDate : String} {first : AdapterReportScopeResult} {totalCount : ℕ}
    (h : ListsProducts (exchanges reportDate) first totalCount) :
    first = firstPage ∧ totalCount = 51 := by
  obtain rfl := Option.some.inj h.head
  exact ⟨rfl, (Option.some.inj h.total).symm⟩

end ProductPages

open ProductPages in
theorem collectProductsFact_sound_twoPages : ProductListSound "Example Bank" weeklyTarget
    (exchanges "2026-07-17") (.ok (fact "2026-07-17")) := by
  refine (collectProductsFact_sound_iff (trace (by decide +kernel))).mpr ⟨?_, ?_, ?_⟩
  · rintro first totalCount h
    obtain ⟨rfl, rfl⟩ := listsProducts h
    exact ⟨by decide +kernel, by decide +kernel, by decide +kernel⟩
  · intro _
    decide +kernel
  · rintro first totalCount h _
    obtain ⟨rfl, rfl⟩ := listsProducts h
    exact ⟨by simp [exchanges, NamesItsPage, reportRequest, firstPage, secondPage, page],
      by decide +kernel, by decide +kernel, by decide +kernel, by decide +kernel, by decide +kernel⟩

open ProductPages in
/-- The second page is of an earlier report. -/
theorem collectProductsFact_stale : Trace (collectProductsFact hashes "Example Bank" weeklyTarget)
      (exchanges "2026-07-10") (.ok (fact "2026-07-10")) ∧
    ¬ ProductListSound "Example Bank" weeklyTarget (exchanges "2026-07-10")
      (.ok (fact "2026-07-10")) := by
  refine ⟨trace (by decide +kernel), ?_⟩
  rintro ⟨_, ⟨⟩, htype | ⟨payload, _, hpayload, _, hsound⟩⟩
  · cases htype
  · obtain rfl := CanonicalEvidenceReportPayloadV1.products.inj (Option.some.inj hpayload)
    obtain ⟨first, hfirst, _, hsame⟩ := (hsound rfl).same
    obtain rfl := Option.some.inj hfirst
    have hdate := (hsame (secondPage "2026-07-10") (by decide +kernel)).reportDate
    exact absurd hdate (by decide)

end MarketSupport
