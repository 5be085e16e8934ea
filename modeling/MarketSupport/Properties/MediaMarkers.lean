import Mathlib.Data.Bool.AllAny
import MarketSupport.Evidence.KnowledgeGateway
import MarketSupport.Validation.ImageMarkers

/-!
# Markers of static facts

A static fact is admitted when the markers of its text are those of the selected images. The
gateway looks for them with a cursor, and the validator with an expression for the markers; they
find the same markers in an admitted text.

## Main results

* `staticFact_media` — the markers of the text of a fact are those of its bindings.
-/

namespace MarketSupport

open Library

/-- What a static fact says about images: its markers are those of the bindings, with one binding
for each selected image of the entry, and there are none without media. -/
structure MediaMatchesText (word : Char → Bool) (catalog : ApprovedCatalog)
    (context : GatewayStaticContextV1) (mediaAllowed : Bool) (fact : CanonicalEvidenceFactV1)
    (text : String) (bindings : List RegisteredMediaBindingV1) : Prop where
  content : fact.value = .content .textMarkdown text
  markers : ∀ marker, marker ∈ (imageMarkerFilenames word text).map ("%%" ++ · ++ "%%") ↔
    marker ∈ bindings.map (·.marker)
  selected : bindings.map (·.assetId) = context.selectedAssetIds ∧ context.selectedAssetIds.Nodup
  approved : ∃ entry, catalog.entry? context.entryId = some entry ∧ ∀ binding ∈ bindings,
    binding.assetId ∈ entry.imageAssetIds ∧ binding.evidenceId = fact.evidenceId
  withoutMedia : mediaAllowed = false → bindings = [] ∧ hasMarkerDelimiter text = false

variable {word : Char → Bool} {fns : EvidenceFunctions} {catalog : ApprovedCatalog}

/-! ## The two scanners -/

section Scanners

variable {selected observed found : List (List Char)} {before : Option Char} {text : List Char}

theorem scanMarkers_cons {c : Char} {rest : List Char} (h : ¬ ['%', '%'] <+: c :: rest) :
    scanMarkers selected before (c :: rest) observed =
      scanMarkers selected (some c) rest observed := by
  rw [scanMarkers]
  rintro rest' rfl rfl
  exact h ⟨rest', rfl⟩

/-- The cursor passes a selected marker that stands apart from other percent signs. -/
theorem scanMarkers_marker {name rest : List Char} (hname : ∀ c ∈ name, c ∉ ['%', '\r', '\n'])
    (hlength : 1 ≤ name.length ∧ name.length ≤ 160) (hbefore : before ≠ some '%')
    (hafter : rest.head? ≠ some '%') (hselected : markerText name ∈ selected) :
    scanMarkers selected before (markerText name ++ rest) observed =
      scanMarkers selected (some '%') rest (observed ++ [markerText name]) := by
  have htext : markerText name ++ rest = '%' :: '%' :: (name ++ '%' :: '%' :: rest) := by
    simp [markerText]
  have htake : (name ++ '%' :: '%' :: rest).takeWhile (· ∉ ['%', '\r', '\n']) = name := by
    rw [List.takeWhile_append_of_pos (by simpa using hname)]
    simp
  have hdrop : (name ++ '%' :: '%' :: rest).drop
      ((name ++ '%' :: '%' :: rest).takeWhile (· ∉ ['%', '\r', '\n'])).length =
        '%' :: '%' :: rest := by
    rw [htake]
    exact List.drop_left
  rw [htext, scanMarkers]
  simp only [htake]
  split
  · next rest' heq =>
    rw [hdrop] at heq
    cases heq
    rw [if_neg]
    · rfl
    · simp only [not_or, not_lt, not_not]
      exact ⟨hlength.1, hlength.2, hbefore, hafter, hselected⟩
  · next hne => exact absurd hdrop (hne rest)

/-- The cursor stops at the markers that the expression matches. -/
theorem scanMarkers_eq_some
    (hselected : ∀ marker ∈ selected, ∃ name, IsMarkerName word name ∧ markerText name = marker)
    (h : scanMarkers selected before text observed = some found) :
    found = observed ++ (markersFrom word 0 text).map markerText ∧
      ∀ name ∈ markersFrom word 0 text, markerText name ∈ selected := by
  fun_induction scanMarkers selected before text observed with
  | case1 => cases h
  | case2 before observed rest name rest' hrest marker hcond ih =>
    simp only [not_or, not_not] at hcond
    obtain ⟨hfound, hmem⟩ := ih h
    obtain ⟨name', hname', hmarker⟩ := hselected marker hcond.2.2.2.2
    obtain rfl : name' = name := markerText_injective hmarker
    -- the cursor goes on where the match ends
    have htext : '%' :: '%' :: rest = markerText name ++ rest' := by
      have hsplit : rest = name ++ rest.drop name.length :=
        (List.prefix_iff_eq_append.mp (List.takeWhile_prefix _)).symm
      rw [hsplit, hrest]
      simp [markerText]
    rw [htext, markersFrom_append hname', List.map_cons, hfound, List.forall_mem_cons, hmarker,
      ← List.append_cons]
    exact ⟨rfl, hcond.2.2.2.2, hmem⟩
  | case3 => cases h
  | case4 before observed c rest hne ih =>
    have hbegins : ¬ ['%', '%'] <+: c :: rest := by
      rintro ⟨t, ht⟩
      obtain ⟨rfl, rfl⟩ := List.cons.inj ht
      exact hne t rfl rfl
    rw [markersFrom_cons hbegins]
    exact ih h
  | case5 before observed =>
    obtain rfl := Option.some.inj h
    simp [markersFrom]

/-- Where no marker is selected, the cursor finds no delimiter. -/
theorem hasMarkerDelimiter_of_scanMarkers (h : scanMarkers [] before text observed = some found) :
    text.tails.any (['%', '%'].isPrefixOf ·) = false := by
  fun_induction scanMarkers [] before text observed with
  | case1 => cases h
  | case2 before observed rest name rest' hrest marker hcond ih => simp at hcond
  | case3 => cases h
  | case4 before observed c rest hne ih =>
    have hbegins : ¬ ['%', '%'] <+: c :: rest := by
      rintro ⟨t, ht⟩
      obtain ⟨rfl, rfl⟩ := List.cons.inj ht
      exact hne t rfl rfl
    rw [List.tails_cons, List.any_cons, ih h, Bool.or_false, ← Bool.not_eq_true,
      List.isPrefixOf_iff_prefix]
    exact hbegins
  | case5 => rfl

end Scanners

/-! ## Selected images -/

/-- Every asset of the catalog has a filename that the expression for a marker matches. -/
def ApprovedCatalog.NamesMarkers (word : Char → Bool) (catalog : ApprovedCatalog) : Prop :=
  ∀ asset ∈ catalog.assets, IsMarkerName word asset.markerFilename.toList

theorem ApprovedImageAsset.toList_marker (asset : ApprovedImageAsset) :
    asset.marker.toList = markerText asset.markerFilename.toList := by
  simp [ApprovedImageAsset.marker, markerText]

theorem ApprovedCatalog.mem_of_asset? {assetId : String} {asset : ApprovedImageAsset}
    (h : catalog.asset? assetId = some asset) : asset ∈ catalog.assets :=
    List.mem_of_find?_eq_some h

/-- The markers of an admitted text are those of the selected assets. -/
theorem mem_markers_iff (hcatalog : catalog.NamesMarkers word) {text : String}
    {selectedAssetIds : List String} (h : selectedMarkers catalog text selectedAssetIds = true)
    (marker : String) :
    marker ∈ (imageMarkerFilenames word text).map ("%%" ++ · ++ "%%") ↔
      ∃ assetId ∈ selectedAssetIds, ∃ asset, catalog.asset? assetId = some asset ∧
        asset.marker = marker := by
  unfold selectedMarkers at h
  dsimp only at h
  split at h
  · cases h
  · next observed hscan =>
    have hnames : ∀ marker ∈ selectedAssetIds.filterMap fun assetId =>
        (catalog.asset? assetId).map (·.marker.toList),
        ∃ name, IsMarkerName word name ∧ markerText name = marker := by
      intro marker hmem
      obtain ⟨assetId, _, hasset⟩ := List.mem_filterMap.mp hmem
      obtain ⟨asset, hfind, rfl⟩ := Option.map_eq_some_iff.mp hasset
      exact ⟨_, hcatalog asset (catalog.mem_of_asset? hfind), asset.toList_marker.symm⟩
    obtain ⟨rfl, hmem⟩ := scanMarkers_eq_some hnames hscan
    rw [List.mem_map]
    constructor
    · rintro ⟨filename, hfilename, rfl⟩
      have hin := hmem _ (mem_imageMarkerFilenames.mp hfilename)
      obtain ⟨assetId, hassetId, hasset⟩ := List.mem_filterMap.mp hin
      obtain ⟨asset, hfind, hmarker⟩ := Option.map_eq_some_iff.mp hasset
      refine ⟨assetId, hassetId, asset, hfind, ?_⟩
      rw [asset.toList_marker] at hmarker
      have hname : asset.markerFilename = filename :=
        String.toList_inj.mp (markerText_injective hmarker)
      rw [ApprovedImageAsset.marker, hname]
    · rintro ⟨assetId, hassetId, asset, hfind, rfl⟩
      have hselected : asset.marker.toList ∈ selectedAssetIds.filterMap fun assetId =>
          (catalog.asset? assetId).map (·.marker.toList) :=
        List.mem_filterMap.mpr ⟨assetId, hassetId, by rw [hfind]; rfl⟩
      have hobserved := List.all_eq_true.mp h _ hselected
      simp only [List.nil_append, decide_eq_true_eq, asset.toList_marker] at hobserved
      rw [List.mem_map_of_injective markerText_injective] at hobserved
      exact ⟨asset.markerFilename, mem_imageMarkerFilenames.mpr hobserved, rfl⟩

/-- Without selected assets, an admitted text has no delimiter. -/
theorem hasMarkerDelimiter_of_selectedMarkers {text : String}
    (h : selectedMarkers catalog text [] = true) : hasMarkerDelimiter text = false := by
  unfold selectedMarkers at h
  dsimp only at h
  split at h
  · cases h
  · next observed hscan => exact hasMarkerDelimiter_of_scanMarkers hscan

/-! ## Static facts -/

section StaticFacts

variable {context : GatewayStaticContextV1} {unit : ExecutionPlanUnitV2} {mediaAllowed : Bool}
  {fact : CanonicalEvidenceFactV1} {bindings : List RegisteredMediaBindingV1}

theorem knowledgeFact_value {sourceType : EvidenceSourceType}
    {sourceClass retrievalOperation text : String} {source : EvidenceSourceRecordKeyV1}
    (h : knowledgeFact fns sourceType sourceClass retrievalOperation source text unit = .ok fact) :
    fact.value = .content .textMarkdown text := by
  simp only [knowledgeFact, buildCanonicalEvidenceFactV1] at h
  split_ifs at h
  all_goals cases h
  rfl

/-- What was checked of a context that has a fact. -/
theorem staticFact_eq_ok
    (h : staticFact fns catalog context unit mediaAllowed = .ok (some fact, bindings)) :
    ∃ entry, catalog.entry? context.entryId = some entry ∧
      (mediaAllowed = false → context.selectedAssetIds = []) ∧
      staticAssetsAreSelected catalog context entry.imageAssetIds = true ∧
      selectedMarkers catalog (fns.sanitizeDocumentText context.text) context.selectedAssetIds =
        true ∧
      fact.value = .content .textMarkdown (fns.sanitizeDocumentText context.text) ∧
      bindings = context.selectedAssetIds.filterMap fun assetId =>
        (catalog.asset? assetId).map fun asset => ⟨fact.evidenceId, assetId, asset.marker⟩ := by
  unfold staticFact at h
  split at h
  · cases h
  · next hmedia =>
    split at h
    · cases h
    · next entry hentry =>
      dsimp only at h
      split at h
      · next hchecks =>
        obtain ⟨built, hfact, h⟩ := bind_eq_ok_iff.mp h
        cases h
        simp only [Bool.and_eq_true] at hchecks
        obtain ⟨⟨⟨⟨_, hassets⟩, _⟩, _⟩, hmarkers⟩ := hchecks
        refine ⟨entry, hentry, fun hnone => ?_, hassets, hmarkers, knowledgeFact_value hfact, rfl⟩
        subst hnone
        by_contra hselected
        simp [hselected] at hmedia
      · cases h

/-- With assets that name markers, the markers of the text of a static fact are those of its
bindings. -/
theorem mediaMatchesText_of_namesMarkers (hcatalog : catalog.NamesMarkers word)
    (h : staticFact fns catalog context unit mediaAllowed = .ok (some fact, bindings)) :
    ∃ text, MediaMatchesText word catalog context mediaAllowed fact text bindings := by
  obtain ⟨entry, hentry, hmedia, hassets, hmarkers, hvalue, rfl⟩ := staticFact_eq_ok h
  simp only [staticAssetsAreSelected, decide_eq_true_eq] at hassets
  obtain ⟨hnodup, hofEntry, hknown⟩ := hassets
  refine ⟨_, hvalue, fun marker => ?_, ⟨?_, hnodup⟩, ⟨entry, hentry, fun binding hbinding => ?_⟩,
    fun hnone => ?_⟩
  · rw [mem_markers_iff hcatalog hmarkers, List.mem_map]
    constructor
    · rintro ⟨assetId, hassetId, asset, hfind, rfl⟩
      exact ⟨_, List.mem_filterMap.mpr ⟨assetId, hassetId, by rw [hfind]; rfl⟩, rfl⟩
    · rintro ⟨binding, hbinding, rfl⟩
      obtain ⟨assetId, hassetId, hasset⟩ := List.mem_filterMap.mp hbinding
      obtain ⟨asset, hfind, rfl⟩ := Option.map_eq_some_iff.mp hasset
      exact ⟨assetId, hassetId, asset, hfind, rfl⟩
  · rw [List.map_filterMap]
    refine (List.filterMap_congr fun assetId hassetId => ?_).trans List.filterMap_some
    obtain ⟨asset, hfind⟩ := Option.isSome_iff_exists.mp (hknown assetId hassetId)
    rw [hfind]
    rfl
  · obtain ⟨assetId, hassetId, hasset⟩ := List.mem_filterMap.mp hbinding
    obtain ⟨asset, _, rfl⟩ := Option.map_eq_some_iff.mp hasset
    exact ⟨hofEntry assetId hassetId, rfl⟩
  · rw [hmedia hnone] at hmarkers ⊢
    exact ⟨rfl, hasMarkerDelimiter_of_selectedMarkers hmarkers⟩

theorem approvedImageAssets_namesMarkers (entries : List ApprovedKnowledgeEntry) :
    ApprovedCatalog.NamesMarkers word ⟨entries, approvedImageAssets⟩ := by
  intro asset hasset
  have hascii : ∀ asset ∈ approvedImageAssets, asset.markerFilename.toList.all (fun c =>
      c.toNat < 128 ∧ (c.isAlphanum || (c ∈ ['_', '.', '-'] : Bool)) = true) = true := by
    decide +kernel
  have hshape : ∀ asset ∈ approvedImageAssets, ".png".toList <:+ asset.markerFilename.toList ∧
      4 < asset.markerFilename.toList.length := by decide +kernel
  refine ⟨fun c hc => ?_, (hshape asset hasset).1, (hshape asset hasset).2⟩
  obtain ⟨hlow, hmarker⟩ := List.all_iff_forall_prop.mp (hascii asset hasset) c hc
  rw [isMarkerChar, if_pos hlow, hmarker]

/-- The markers that the validator finds in the text of a static fact are those of the bindings
that came with it. -/
theorem staticFact_media {entries : List ApprovedKnowledgeEntry}
    (h : staticFact fns ⟨entries, approvedImageAssets⟩ context unit mediaAllowed =
      .ok (some fact, bindings)) :
    ∃ text, MediaMatchesText word ⟨entries, approvedImageAssets⟩ context mediaAllowed fact text
      bindings :=
  mediaMatchesText_of_namesMarkers (approvedImageAssets_namesMarkers entries) h

end StaticFacts

/-! ## A sample -/

namespace PublicAccount

def functions : EvidenceFunctions where
  scopeRef _ := "escope1:0"
  sourceRecordRef _ := "esr1:0"
  valueHash _ := "evh1:0"
  reportHash _ := "report:0"
  provenanceHash _ := "eph1:0"
  factId _ := "ev1:0"
  sanitizeDocumentText text := text

def entry : ApprovedKnowledgeEntry where
  entryId := "company_public_account"
  manifestRef := approvedStaticManifestRef
  title := "公众号二维码"
  approvedAnswer := "%%comp_wx_qr_code.png%%"
  imageAssetIds := ["company_public_account_qr"]

def context : GatewayStaticContextV1 where
  entryId := "company_public_account"
  manifestRef := approvedStaticManifestRef
  text := "A：%%comp_wx_qr_code.png%%"
  selectedAssetIds := ["company_public_account_qr"]

def unit : ExecutionPlanUnitV2 where
  unitId := "unit-1"
  manifestRef := approvedStaticManifestRef
  answerabilityPolicy := .answer
  artifactKind := .knowledgeAnswer
  runtimeCapabilities := []
  answerCapabilities := [.documentContext]
  adapterResolves := []
  actionIntents := []
  scope := .unscoped
  evidenceQuery := some "public account"
  ambiguitySlots := []

theorem scanMarkers_text (selected : List (List Char))
    (h : markerText "comp_wx_qr_code.png".toList ∈ selected) :
    scanMarkers selected none context.text.toList [] =
      some [markerText "comp_wx_qr_code.png".toList] := by
  have htext : context.text.toList =
      'A' :: '：' :: (markerText "comp_wx_qr_code.png".toList ++ []) := by decide +kernel
  rw [htext, scanMarkers_cons (by simp), scanMarkers_cons (by simp),
    scanMarkers_marker (List.all_iff_forall_prop.mp (by decide +kernel)) (by decide +kernel)
      (by simp) (by simp) h, scanMarkers]
  rfl

theorem selectedMarkers_text : selectedMarkers ⟨[entry], approvedImageAssets⟩ context.text
    context.selectedAssetIds = true := by
  rw [selectedMarkers, scanMarkers_text _ (by decide +kernel)]
  decide +kernel

theorem staticFact_text : ∃ fact bindings,
    staticFact functions ⟨[entry], approvedImageAssets⟩ context unit true =
      .ok (some fact, bindings) ∧ bindings.map (·.marker) = ["%%comp_wx_qr_code.png%%"] := by
  have hentry : ApprovedCatalog.entry? ⟨[entry], approvedImageAssets⟩ context.entryId =
    some entry := by decide +kernel
  have hchecks : (staticManifestIsAdmitted context entry unit &&
      staticAssetsAreSelected ⟨[entry], approvedImageAssets⟩ context entry.imageAssetIds &&
      selectedMarkers ⟨[entry], approvedImageAssets⟩ context.text context.selectedAssetIds &&
      functions.sanitizeDocumentText context.text ≠ "" &&
      selectedMarkers ⟨[entry], approvedImageAssets⟩ (functions.sanitizeDocumentText context.text)
        context.selectedAssetIds) = true := by
    rw [show functions.sanitizeDocumentText context.text = context.text from rfl,
      selectedMarkers_text]
    decide +kernel
  unfold staticFact
  rw [hentry]
  simp only [Bool.not_true, Bool.false_and, Bool.false_eq_true, if_false, hchecks, if_true]
  exact ⟨_, _, rfl, rfl⟩

end PublicAccount

open PublicAccount in
theorem staticFact_media_publicAccount : ∃ fact bindings text,
    bindings.map (·.marker) = ["%%comp_wx_qr_code.png%%"] ∧
      MediaMatchesText (fun _ => false) ⟨[entry], approvedImageAssets⟩ context true fact text
        bindings := by
  obtain ⟨fact, bindings, h, hmarkers⟩ := staticFact_text
  have hmatch : ∃ text, MediaMatchesText (fun _ => false) ⟨[entry], approvedImageAssets⟩ context
    true fact text bindings := staticFact_media h
  obtain ⟨text, hmatch⟩ := hmatch
  exact ⟨fact, bindings, text, hmarkers, hmatch⟩

end MarketSupport
