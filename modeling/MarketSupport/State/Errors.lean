import Mathlib.Data.Int.Order.Basic

/-!
# Coordinator errors and configuration
-/

namespace MarketSupport

/-- What an operation of the coordinator can raise. A `CoordinatorError` carries its code,
a failed record constructor its reason; the fault hook raises what it likes. -/
inductive CoordinatorException where
  | coordinatorError (code : String)
  | valueError (reason : String)
  | hookRuntimeError
  | hookOtherError
  deriving DecidableEq, Repr

structure CoordinatorConfigV1 where
  issuedResponseCapacity : ℕ
  conversationMaxSessions : ℕ
  feedbackReceiptCapacity : ℕ
  conversationTtlMs : ℤ
  conversationMaxMessages : ℕ
  issuedTtlNs : ℤ
  issuedPendingTtlNs : ℤ
  stateRevisionCapacity : ℕ
  deriving DecidableEq, Repr

/-- The arguments of `build_coordinator_config`. -/
structure CoordinatorSettings where
  issuedResponseCapacity : ℤ := 5000
  conversationMaxSessions : ℤ := 5000
  feedbackReceiptCapacity : ℤ := 20000
  conversationTtlSeconds : ℤ := 86400
  conversationMaxMessages : ℤ := 12
  issuedResponseTtlSeconds : ℤ := 86400
  issuedResponsePendingTtlSeconds : ℤ := 180

/-- `build_coordinator_config`: the reason of a `CoordinatorConfigError`, or the config. -/
def buildCoordinatorConfig (s : CoordinatorSettings) : Except String CoordinatorConfigV1 :=
  if s.issuedResponseCapacity < 1 then .error "issued_response_capacity must be positive"
  else if s.conversationMaxSessions < 1 then .error "conversation_max_sessions must be positive"
  else if s.feedbackReceiptCapacity < s.issuedResponseCapacity then
    .error "feedback_receipt_capacity must cover issued_response_capacity"
  else if s.conversationTtlSeconds < 1 ∨ s.conversationMaxMessages < 1 then
    .error "conversation retention must be positive"
  else if s.issuedResponseTtlSeconds < 60 ∨ s.issuedResponsePendingTtlSeconds < 5 then
    .error "issued response retention is below the contract minimum"
  else if s.issuedResponseTtlSeconds < s.issuedResponsePendingTtlSeconds then
    .error "issued pending retention cannot exceed complete retention"
  else .ok {
    issuedResponseCapacity := s.issuedResponseCapacity.toNat
    conversationMaxSessions := s.conversationMaxSessions.toNat
    feedbackReceiptCapacity := s.feedbackReceiptCapacity.toNat
    conversationTtlMs := s.conversationTtlSeconds * 1000
    conversationMaxMessages := s.conversationMaxMessages.toNat
    issuedTtlNs := s.issuedResponseTtlSeconds * 1000000000
    issuedPendingTtlNs := s.issuedResponsePendingTtlSeconds * 1000000000
    stateRevisionCapacity :=
      (s.conversationMaxSessions + s.issuedResponseCapacity + 5000 + 1).toNat }

/-- What every accepted configuration satisfies. -/
structure CoordinatorConfigV1.Accepted (config : CoordinatorConfigV1) : Prop where
  issued_pos : 1 ≤ config.issuedResponseCapacity
  sessions_pos : 1 ≤ config.conversationMaxSessions
  receipts : config.issuedResponseCapacity ≤ config.feedbackReceiptCapacity
  conversation_ttl : 0 < config.conversationTtlMs
  messages_pos : 1 ≤ config.conversationMaxMessages
  pending_ttl : 0 < config.issuedPendingTtlNs
  pending_le : config.issuedPendingTtlNs ≤ config.issuedTtlNs
  revisions : config.stateRevisionCapacity =
    config.conversationMaxSessions + config.issuedResponseCapacity + 5000 + 1

theorem buildCoordinatorConfig_accepted {s : CoordinatorSettings} {config : CoordinatorConfigV1}
    (h : buildCoordinatorConfig s = .ok config) : config.Accepted := by
  unfold buildCoordinatorConfig at h
  split_ifs at h
  obtain rfl := (Except.ok.inj h).symm
  constructor <;> simp only <;> omega

end MarketSupport
