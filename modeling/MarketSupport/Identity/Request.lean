import MarketSupport.Policy.Manifest

/-!
# Requests

The parts of a verified request that policies and plans are made from.
-/

namespace MarketSupport

/-! ## Business scopes -/

inductive AvailableArtifactType where
  | materialPack
  | weeklyReport
  | monthlyReport
  deriving DecidableEq, Repr

structure AvailableArtifactV2 where
  type : AvailableArtifactType
  options : List String
  deriving DecidableEq, Repr

structure DistributionScopeV1 where
  distChannelName : String
  channelType : ChannelType
  availableArtifacts : List AvailableArtifactV2
  deriving DecidableEq, Repr

inductive BusinessScopeV1 where
  | distribution (scope : DistributionScopeV1)
  | unscoped
  deriving DecidableEq, Repr

structure BusinessScopeAuthorityV1 where
  scope : BusinessScopeV1
  businessScopeHash : String
  businessScopeRef : String
  deriving DecidableEq, Repr

/-! ## Requests -/

structure ExplicitPrincipalGrantsV1 where
  readCapabilities : List ReadCapability
  outboundActions : List OutboundActionType
  mentionTypes : List ReplyMentionType
  deriving DecidableEq, Repr

/-- The fields of `KernelReplyRequestV1` that policies and plans read; `scene` is that of its
identity. -/
structure KernelReplyRequestV1 where
  message : String
  scene : Scene
  businessScope : BusinessScopeV1
  grants : ExplicitPrincipalGrantsV1
  deriving DecidableEq, Repr

def kernelAvailableArtifacts (request : KernelReplyRequestV1) : List AvailableArtifactV2 :=
  match request.businessScope with
  | .distribution scope => scope.availableArtifacts
  | .unscoped => []

end MarketSupport
