import MarketSupport.Rendering.Composer

/-!
# The authority of the composer

The output of the composer is accepted when it has no authority of its own: what it refers to is
the evidence of one unit of the plan.

## Main results

* `composeV2Reply_authority` — what an accepted output has, and that all others are rejected.
-/

namespace MarketSupport

open Library

variable (env : ComposerEnvironment)

/-- The evidence is behind a marker with the filename: a registered binding of the approved image,
to evidence that some unit is grounded on. -/
def Behind (source : ComposerInvocationV1) (filename evidenceId : String) : Prop :=
  ∃ binding ∈ source.mediaBindings, markerFilenameOf binding.marker = filename ∧
    binding.evidenceId = evidenceId ∧ bindsApprovedImage env binding = true ∧
    ∃ grounding ∈ source.groundings, evidenceId ∈ grounding.allowedEvidenceIds

/-- The grounding admits all evidence that the output refers to. -/
structure AdmitsReferences (source : ComposerInvocationV1) (output : ComposerReplyOutput)
    (grounding : ExecutionUnitGroundingV1) : Prop where
  cited : ∀ evidenceId ∈ output.evidenceIds,
    evidenceId ∈ grounding.allowedEvidence.map (·.evidenceId)
  behind : ∀ filename ∈ imageMarkerFilenames env.word output.reply.text, ∀ evidenceId,
    Behind env source filename evidenceId →
      evidenceId ∈ grounding.allowedEvidence.map (·.evidenceId)

/-- An output without authority of its own. -/
structure WithoutAuthority (source : ComposerInvocationV1) (output : ComposerReplyOutput) :
    Prop where
  responseId : output.responseId = ""
  actions : output.actions = []
  mentions : output.reply.mentions = []
  backed : ∀ filename ∈ imageMarkerFilenames env.word output.reply.text,
    ∃ evidenceId, Behind env source filename evidenceId
  oneUnit : output.evidenceIds = [] ∧ imageMarkerFilenames env.word output.reply.text = [] ∨
    ∃ unit grounding, (unit, grounding) ∈ source.plan.units.zip source.groundings ∧
      groundingBound unit grounding = true ∧ AdmitsReferences env source output grounding

variable {env} {source : ComposerInvocationV1} {output : ComposerReplyOutput}
  {input : ComposerPromptInputV1}

/-! ## The groundings of an input -/

/-- A grounding is shown to the composer as that of its unit. -/
theorem bound_of_projectGrounding {unit : ExecutionPlanUnitV2}
    {grounding : ExecutionUnitGroundingV1} {view : UnitGroundingViewV1}
    (h : projectGrounding unit grounding = .ok view) :
    groundingBound unit grounding = true ∧
      grounding.allowedEvidenceIds = grounding.allowedEvidence.map (·.evidenceId) ∧
      view.allowedEvidenceIds = grounding.allowedEvidenceIds := by
  obtain ⟨_, hchecks, h⟩ := bind_eq_ok_iff.mp h
  obtain rfl := Except.ok.inj h
  have hall := firstFailure_eq_ok_iff.mp hchecks
  simp only [List.forall_mem_cons, decide_eq_true_eq, List.not_mem_nil, false_implies,
    implies_true, and_true] at hall
  obtain ⟨hunit, hmanifest, hscope, hquery, hintents, hanswerability, hids, _⟩ := hall
  exact ⟨by simp [groundingBound, hunit, hmanifest, hscope, hquery, hintents, hanswerability],
    hids, rfl⟩

/-- The groundings of the source are those of the units of its plan. -/
def BoundGroundings (source : ComposerInvocationV1) : Prop :=
  source.plan.units.length = source.groundings.length ∧
    ∀ p ∈ source.plan.units.zip source.groundings, groundingBound p.1 p.2 = true ∧
      p.2.allowedEvidenceIds = p.2.allowedEvidence.map (·.evidenceId)

/-- The evidence that an input allows is that of the groundings, or none. -/
theorem groundingEvidenceSets_of_build (h : buildComposerPromptInputV1 env source = .ok input) :
    groundingEvidenceSets input = [[]] ∧ selectsCompanyKnowledge input = false ∨
      groundingEvidenceSets input = source.groundings.map (·.allowedEvidenceIds) ∧
        BoundGroundings source := by
  obtain ⟨_, _, h⟩ := bind_eq_ok_iff.mp h
  split at h
  · right
    obtain ⟨refs, _, h⟩ := bind_eq_ok_iff.mp h
    obtain ⟨views, hviews, h⟩ := bind_eq_ok_iff.mp h
    split_ifs at h
    obtain ⟨_, _, h⟩ := bind_eq_ok_iff.mp h
    obtain rfl := Except.ok.inj h
    unfold projectUnitGroundingViewsV1 at hviews
    split_ifs at hviews with hlength
    have hall := mapM_eq_ok_iff.mp hviews
    refine ⟨?_, not_not.mp hlength, fun p hp => ?_⟩
    · calc views.map (·.allowedEvidenceIds)
          = (source.plan.units.zip source.groundings).map (·.2.allowedEvidenceIds) :=
            map_of_mapM hviews fun p view hview => (bound_of_projectGrounding hview).2.2
        _ = ((source.plan.units.zip source.groundings).map Prod.snd).map
              (·.allowedEvidenceIds) := by rw [List.map_map]; rfl
        _ = source.groundings.map (·.allowedEvidenceIds) := by
            rw [List.map_snd_zip (not_not.mp hlength).ge]
    · obtain ⟨view, _, hview⟩ := exists_mem_zip hall hp
      exact ⟨(bound_of_projectGrounding hview).1, (bound_of_projectGrounding hview).2.1⟩
  · left
    obtain ⟨refs, _, h⟩ := bind_eq_ok_iff.mp h
    obtain ⟨_, _, h⟩ := bind_eq_ok_iff.mp h
    obtain rfl := Except.ok.inj h
    exact ⟨rfl, rfl⟩
  · cases h

/-- The groundings that are sets of allowed evidence are paired with their units. -/
theorem BoundGroundings.exists_unit (h : BoundGroundings source)
    {grounding : ExecutionUnitGroundingV1} (hmem : grounding ∈ source.groundings) :
    ∃ unit, (unit, grounding) ∈ source.plan.units.zip source.groundings := by
  obtain ⟨i, hi, rfl⟩ := List.mem_iff_getElem.mp hmem
  have hunit : i < source.plan.units.length := h.1 ▸ hi
  refine ⟨source.plan.units[i], List.mem_iff_getElem.mpr ⟨i, by simpa using ⟨hunit, hi⟩, ?_⟩⟩
  simp

/-! ## Outputs -/

theorem mem_mediaBindingEvidenceIds {filename evidenceId : String} :
    (filename, evidenceId) ∈ mediaBindingEvidenceIds env input source ↔
      mediaAllowed input source = true ∧ ∃ binding ∈ source.mediaBindings,
        markerFilenameOf binding.marker = filename ∧ binding.evidenceId = evidenceId ∧
        bindsApprovedImage env binding = true ∧
        evidenceId ∈ (groundingEvidenceSets input).flatten := by
  unfold mediaBindingEvidenceIds
  split_ifs with hallowed
  · simp only [List.mem_map, List.mem_filter, Bool.and_eq_true, decide_eq_true_eq, Prod.mk.injEq,
      hallowed, true_and]
    constructor
    · rintro ⟨binding, ⟨hmem, hin, happroved⟩, hname, rfl⟩
      exact ⟨binding, hmem, hname, rfl, happroved, hin⟩
    · rintro ⟨binding, hmem, hname, rfl, happroved, hin⟩
      exact ⟨binding, ⟨hmem, hin, happroved⟩, hname, rfl⟩
  · simp [hallowed]

/-- What the check of an output accepts. -/
theorem validate_ok_iff : validateV2ComposerOutput env output input source = .ok () ↔
    output.responseId = "" ∧ output.actions = [] ∧ output.reply.mentions = [] ∧
    output.reply.kind ∈ input.outputCeilings.allowedReplyKinds ∧
    output.reply.text.length ≤ input.outputCeilings.maxReplyChars ∧
    (∀ evidenceId ∈ output.evidenceIds, evidenceId ∈ (groundingEvidenceSets input).flatten) ∧
    (∀ marker ∈ imageMarkerFilenames env.word output.reply.text,
      marker ∈ (mediaBindingEvidenceIds env input source).map (·.1)) ∧
    (referencedIds env output input source = [] ∨ ∃ allowed ∈ groundingEvidenceSets input,
      ∀ evidenceId ∈ referencedIds env output input source, evidenceId ∈ allowed) := by
  unfold validateV2ComposerOutput
  rw [firstFailure_eq_ok_iff]
  simp only [List.forall_mem_cons, decide_eq_true_eq, List.not_mem_nil, false_implies,
    implies_true, and_true]

theorem mem_referencedIds {evidenceId : String} :
    evidenceId ∈ referencedIds env output input source ↔ evidenceId ∈ output.evidenceIds ∨
      ∃ filename ∈ imageMarkerFilenames env.word output.reply.text,
        (filename, evidenceId) ∈ mediaBindingEvidenceIds env input source := by
  simp only [referencedIds, List.mem_append, List.mem_map, List.mem_filter, decide_eq_true_eq]
  refine or_congr_right ⟨?_, ?_⟩
  · rintro ⟨p, ⟨hmem, hname⟩, rfl⟩
    exact ⟨p.1, hname, hmem⟩
  · rintro ⟨filename, hname, hmem⟩
    exact ⟨(filename, evidenceId), ⟨hmem, hname⟩, rfl⟩

/-- An accepted output has no authority of its own. -/
theorem withoutAuthority_of_validate (hbuild : buildComposerPromptInputV1 env source = .ok input)
    (h : validateV2ComposerOutput env output input source = .ok ()) :
    WithoutAuthority env source output := by
  obtain ⟨hid, hactions, hmentions, -, -, hcited, hmarkers, hone⟩ := validate_ok_iff.mp h
  have hbehind : ∀ filename ∈ imageMarkerFilenames env.word output.reply.text,
      ∃ evidenceId, (filename, evidenceId) ∈ mediaBindingEvidenceIds env input source := by
    intro filename hmem
    obtain ⟨p, hp, rfl⟩ := List.mem_map.mp (hmarkers filename hmem)
    exact ⟨p.2, hp⟩
  obtain ⟨hsets, hselect⟩ | ⟨hsets, hbound⟩ := groundingEvidenceSets_of_build hbuild
  -- smalltalk has no evidence and no media
  · have hnone : imageMarkerFilenames env.word output.reply.text = [] := by
      refine List.eq_nil_iff_forall_not_mem.mpr fun filename hmem => ?_
      obtain ⟨evidenceId, hpair⟩ := hbehind filename hmem
      have hallowed := (mem_mediaBindingEvidenceIds.mp hpair).1
      simp [mediaAllowed, hselect] at hallowed
    have hempty : output.evidenceIds = [] := by
      refine List.eq_nil_iff_forall_not_mem.mpr fun evidenceId hmem => ?_
      simpa [hsets] using hcited evidenceId hmem
    exact ⟨hid, hactions, hmentions, by simp [hnone], .inl ⟨hempty, hnone⟩⟩
  · have hbacked : ∀ filename evidenceId,
        (filename, evidenceId) ∈ mediaBindingEvidenceIds env input source →
        Behind env source filename evidenceId := by
      intro filename evidenceId hpair
      obtain ⟨-, binding, hmem, hname, heid, happroved, hin⟩ :=
        mem_mediaBindingEvidenceIds.mp hpair
      rw [hsets] at hin
      obtain ⟨ids, hids, hmemids⟩ := List.mem_flatten.mp hin
      obtain ⟨grounding, hgrounding, rfl⟩ := List.mem_map.mp hids
      exact ⟨binding, hmem, hname, heid, happroved, grounding, hgrounding, hmemids⟩
    refine ⟨hid, hactions, hmentions, fun filename hmem => ?_, ?_⟩
    · obtain ⟨evidenceId, hpair⟩ := hbehind filename hmem
      exact ⟨evidenceId, hbacked filename evidenceId hpair⟩
    · obtain hnone | ⟨allowed, hallowed, hall⟩ := hone
      · left
        have hno : ∀ evidenceId, evidenceId ∉ referencedIds env output input source := by
          simp [hnone]
        refine ⟨List.eq_nil_iff_forall_not_mem.mpr fun evidenceId hmem =>
          hno evidenceId (mem_referencedIds.mpr (.inl hmem)),
          List.eq_nil_iff_forall_not_mem.mpr fun filename hmem => ?_⟩
        obtain ⟨evidenceId, hpair⟩ := hbehind filename hmem
        exact hno evidenceId (mem_referencedIds.mpr (.inr ⟨filename, hmem, hpair⟩))
      · right
        rw [hsets] at hallowed
        obtain ⟨grounding, hgrounding, rfl⟩ := List.mem_map.mp hallowed
        obtain ⟨unit, hpair⟩ := hbound.exists_unit hgrounding
        obtain ⟨hunit, hids⟩ := hbound.2 _ hpair
        refine ⟨unit, grounding, hpair, hunit, fun evidenceId hmem => ?_,
          fun filename hname evidenceId hbehindId => ?_⟩
        · exact hids ▸ hall evidenceId (mem_referencedIds.mpr (.inl hmem))
        · obtain ⟨binding, hmem, hfile, heid, happroved, grounding', hgrounding', hin⟩ := hbehindId
          obtain ⟨other, hother⟩ := hbehind filename hname
          have hmedia := (mem_mediaBindingEvidenceIds.mp hother).1
          have hflat : evidenceId ∈ (groundingEvidenceSets input).flatten := by
            rw [hsets]
            exact List.mem_flatten.mpr ⟨_, List.mem_map_of_mem hgrounding', hin⟩
          have hreferenced : evidenceId ∈ referencedIds env output input source :=
            mem_referencedIds.mpr (.inr ⟨filename, hname, mem_mediaBindingEvidenceIds.mpr
              ⟨hmedia, binding, hmem, hfile, heid, happroved, hflat⟩⟩)
          exact hids ▸ hall evidenceId hreferenced

theorem withoutAuthority_of_ok
    {compose : ComposerPromptInputV1 → Except ComposerException ComposerReplyOutput}
    (h : composeV2Reply env (some compose) source = .ok output) :
    WithoutAuthority env source output := by
  obtain ⟨input, hbuild, h⟩ := bind_eq_ok_iff.mp h
  obtain ⟨output', _, h⟩ := bind_eq_ok_iff.mp h
  obtain ⟨_, hvalid, h⟩ := bind_eq_ok_iff.mp h
  obtain rfl := Except.ok.inj h
  exact withoutAuthority_of_validate hbuild hvalid

/-- The reply that an accepted output becomes. -/
theorem toReplyResponse_of_ok
    {compose : ComposerPromptInputV1 → Except ComposerException ComposerReplyOutput}
    (h : composeV2Reply env (some compose) source = .ok output) :
    output.toReplyResponse = ⟨"", ⟨output.reply.kind, output.reply.text, []⟩, []⟩ := by
  have hauthority := withoutAuthority_of_ok h
  have hid := hauthority.responseId
  have hmentions := hauthority.mentions
  obtain ⟨responseId, evidenceIds, ⟨kind, text, mentions⟩, actions⟩ := output
  simp only at hid hmentions
  simp [ComposerReplyOutput.toReplyResponse, hid, hmentions]

/-- The reply that an accepted output becomes has no authority of its own, and an output with any
is rejected. -/
theorem composeV2Reply_authority
    (compose : ComposerPromptInputV1 → Except ComposerException ComposerReplyOutput)
    (source : ComposerInvocationV1) :
    (∀ output, composeV2Reply env (some compose) source = .ok output →
      WithoutAuthority env source output ∧
        output.toReplyResponse = ⟨"", ⟨output.reply.kind, output.reply.text, []⟩, []⟩) ∧
    ∀ input output, buildComposerPromptInputV1 env source = .ok input →
      compose input = .ok output → ¬ WithoutAuthority env source output →
      ∃ code, composeV2Reply env (some compose) source =
        .error (.v2ComposerOutputRejected code) := by
  constructor
  · exact fun output h => ⟨withoutAuthority_of_ok h, toReplyResponse_of_ok h⟩
  · intro input output hbuild hout hauthority
    have hrejected : validateV2ComposerOutput env output input source = .ok () ∨
        ∃ code, validateV2ComposerOutput env output input source =
          .error (.v2ComposerOutputRejected code) := firstFailure_eq_ok_or
    obtain hvalid | ⟨code, hcode⟩ := hrejected
    · exact absurd (withoutAuthority_of_validate hbuild hvalid) hauthority
    · refine ⟨code, ?_⟩
      simp only [composeV2Reply, hbuild, hout, hcode, bind, Except.bind]

namespace ComposedAnswer

def environment : ComposerEnvironment where
  word := fun _ => false
  catalog := ⟨[], [⟨"chart", "a.png"⟩]⟩
  views := fun _ => .ok ()

/-- A policy for company knowledge in a group. -/
def policy : PolicyManifestV2 where
  policyId := "policy"
  scene := .group
  allowedReplyModes := [.knowledgeAnswer]
  eligibleCapabilities := [approvedStaticManifestRef]
  allowedReadCapabilities := [.queryInternalCompanyInfo]
  allowedOutboundActions := []
  allowedMentionTypes := []
  allowedAdapterResolves := []
  internalCompanyKnowledgeEnabled := true
  actionsAllowed := false
  mentionsAllowed := false
  materialPackOptions := []
  businessScopeHash := "hash"

def unit : ExecutionPlanUnitV2 where
  unitId := "u1"
  manifestRef := approvedStaticManifestRef
  answerabilityPolicy := .answer
  artifactKind := .knowledgeAnswer
  runtimeCapabilities := [.documentContext]
  answerCapabilities := [.documentContext]
  adapterResolves := []
  actionIntents := []
  scope := .unscoped
  evidenceQuery := some "chart"
  ambiguitySlots := []

def plan : ExecutionPlanV2 where
  executionPlanId := "plan"
  origin := .deterministic
  userNeed := "chart"
  responseMode := .knowledgeAnswer
  complianceReasonCode := "compliant"
  units := [unit]
  selectedManifestRefs := [approvedStaticManifestRef]
  adapterResolves := []
  actionIntents := []
  hasPlanSpec := false

/-- A fact from the static catalog. -/
def fact : CanonicalEvidenceFactV1 where
  evidenceId := "eid1:00"
  factType := .documentContext
  sourceType := .approvedStaticKnowledge
  artifactType := .documentContext
  resolveType := none
  value := .content .textMarkdown "%%a.png%%"
  scope := .unscoped .documentContext none none none
  provenance := ⟨"approved_static", "record", "gateway", "static", "scope", none, []⟩
  observedAtEpochSeconds := none
  publicUrls := []
  reportPayload := none
  recentExecutedAction := none

/-- The question is answered from one fact, and the images are bound to it. -/
def invocation (mediaBindings : List RegisteredMediaBindingV1) : ComposerInvocationV1 where
  request := ⟨"chart", .group, .unscoped, ⟨[], [], []⟩⟩
  policy
  scopeAuthority := ⟨.unscoped, "hash", "ref"⟩
  plan
  groundings := ((groundExecutionPlanV2 plan policy [fact] [] none).toOption).getD []
  mediaBindings

def answer (text : String) : ComposerReplyOutput :=
  ⟨"", [fact.evidenceId], ⟨.answer, text, []⟩, []⟩

def uuid : UuidHex := ⟨"00000000000000000000000000000000", UuidHex.zeros⟩

/-! ### Two questions -/

/-- A second question, about the scope of a bank. -/
def bankUnit : ExecutionPlanUnitV2 :=
  { unit with
    unitId := "u2"
    scope := .distribution ⟨"bsr:0", .bank, none, [], none⟩
    evidenceQuery := some "terms" }

/-- A fact that only the second question may use. -/
def bankFact : CanonicalEvidenceFactV1 :=
  { fact with
    evidenceId := "eid1:01"
    value := .content .textMarkdown "terms"
    scope := .distribution "bsr:0" .bank [] .documentContext none none none }

/-- Both questions are answered from the two facts. -/
def twoQuestions (mediaBindings : List RegisteredMediaBindingV1) : ComposerInvocationV1 :=
  let plan := { plan with units := [unit, bankUnit] }
  { invocation mediaBindings with
    plan
    groundings :=
      ((groundExecutionPlanV2 plan policy [fact, bankFact] [] none).toOption).getD [] }

end ComposedAnswer

open ComposedAnswer in
/-- To two questions, an answer with the image of the evidence of one of them is accepted. With no
image bound it is rejected, and so is an answer from the evidence of both. -/
theorem composeV2Reply_authority_image :
    (composeV2Reply environment (some fun _ => .ok (answer "%%a.png%%"))
        (twoQuestions [⟨fact.evidenceId, "chart", "%%a.png%%"⟩]) = .ok (answer "%%a.png%%") ∧
      WithoutAuthority environment (twoQuestions [⟨fact.evidenceId, "chart", "%%a.png%%"⟩])
        (answer "%%a.png%%")) ∧
    composeV2Reply environment (some fun _ => .ok (answer "%%a.png%%")) (twoQuestions []) =
      .error (.v2ComposerOutputRejected "v2_composer_media_forbidden") ∧
    composeV2Reply environment (some fun _ => .ok
        { answer "terms" with evidenceIds := [fact.evidenceId, bankFact.evidenceId] })
        (twoQuestions []) =
      .error (.v2ComposerOutputRejected "v2_composer_cross_unit_authority_forbidden") := by
  have haccepted : composeV2Reply environment (some fun _ => .ok (answer "%%a.png%%"))
      (twoQuestions [⟨fact.evidenceId, "chart", "%%a.png%%"⟩]) = .ok (answer "%%a.png%%") := by
    decide +kernel
  exact ⟨⟨haccepted, ((composeV2Reply_authority _ _).1 _ haccepted).1⟩, by decide +kernel,
    by decide +kernel⟩

end MarketSupport
