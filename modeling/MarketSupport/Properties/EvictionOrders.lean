import MarketSupport.Identity.KeyBytes
import MarketSupport.Library.EvictionOrder
import MarketSupport.State.RootInvariant

/-!
# Evictions and the published orders

Capacity removes sessions, audit records, ledger rows and issued responses. Each victim is found
by a minimum of its own, and is the head of the published order when both break ties alike: the
minimum over the issued responses compares request ids where the order compares the bytes of the
keys. Within one conversation that is the same, since UTF-8 keeps the order of texts.

## Main results

* `issuedOrdersAgree_iff` — the two ways to break a tie agree, or not, on the conversations that
  share the earliest completion time.
* `capacity_evicts_in_order` — the removals of a reachable root are at the head of an order when
  the earliest complete records are of one conversation, and otherwise exactly when one of them is
  before those of the other conversations in both ways.
-/

namespace MarketSupport

open Library

/-! ## The head of an order -/

/-- A record, as it stands in the order of a timestamp. -/
def recordRow {V : Type} (timestamp : V → ℤ) (e : RecordKey × V) : RootOrderEntry RecordKey :=
  (timestamp e.2, keyBytes e.1.stateKey e.1.ident, e.1)

/-- The first record by timestamp and key bytes is the head of the order. -/
theorem head?_recordOrder {V : Type} (m : FrozenMap RecordKey V) (timestamp : V → ℤ) :
    (recordOrder m timestamp).head? =
      (m.entries.argmin fun e => toLex (timestamp e.2, keyBytes e.1.stateKey e.1.ident)).map
        (recordRow timestamp) := by
  have hrefines : (m.entries.argmin fun e =>
      toLex (timestamp e.2, keyBytes e.1.stateKey e.1.ident)) =
        m.entries.argmin fun e => toLex (timestamp e.2,
          toLex (keyBytes e.1.stateKey e.1.ident, [e.1.ident])) := by
    refine argmin_eq_of_refines (fun a _ b _ h => ?_) (m.sorted.imp fun {a b} hkeys heq => ?_)
    · rw [Prod.Lex.toLex_lt_toLex] at h ⊢
      refine h.imp_right fun ⟨ht, hbytes⟩ => ⟨ht, Prod.Lex.toLex_lt_toLex.mpr (.inl hbytes)⟩
    · obtain ⟨hstate, hident⟩ := keyBytes_inj.mp (Prod.ext_iff.mp (toLex.injective heq)).2
      have hsame : a.1 = b.1 := RecordKey.orderKey_injective (by simp [RecordKey.orderKey, *])
      exact absurd hsame hkeys.ne
  rw [hrefines, recordOrder, sortEntries, head?_insertionSort, argmin_map]
  rfl

/-- A row of the ledger, as it stands in the order of a timestamp. -/
def ledgerRow (timestamp : ActionLedgerRecordV2 → ℤ) (e : ActionKey × ActionLedgerRecordV2) :
    RootOrderEntry ActionKey :=
  (timestamp e.2, keyBytes e.1.stateKey e.1.actionId, e.1)

/-- The first row by timestamp and key bytes is the head of the order: rows with the same bytes
differ by the response id, and both take the least. -/
theorem head?_ledgerOrder (m : ActionLedgerRecords) (timestamp : ActionLedgerRecordV2 → ℤ) :
    (ledgerOrder m timestamp).head? =
      (m.entries.argmin fun e => toLex (timestamp e.2, keyBytes e.1.stateKey e.1.actionId)).map
        (ledgerRow timestamp) := by
  have hrefines : (m.entries.argmin fun e =>
      toLex (timestamp e.2, keyBytes e.1.stateKey e.1.actionId)) =
        m.entries.argmin fun e => toLex (timestamp e.2,
          toLex (keyBytes e.1.stateKey e.1.actionId, [e.1.responseId, e.1.actionId])) := by
    refine argmin_eq_of_refines (fun a _ b _ h => ?_) (m.sorted.imp fun {a b} hkeys heq => ?_)
    · rw [Prod.Lex.toLex_lt_toLex] at h ⊢
      exact h.imp_right fun ⟨ht, hbytes⟩ => ⟨ht, Prod.Lex.toLex_lt_toLex.mpr (.inl hbytes)⟩
    · obtain ⟨htime, hbytes⟩ := Prod.ext_iff.mp (toLex.injective heq)
      obtain ⟨hstate, haction⟩ := keyBytes_inj.mp hbytes
      have hresponse : a.1.responseId < b.1.responseId := by
        have hless : ActionKey.orderKey a.1 < ActionKey.orderKey b.1 := hkeys
        simpa [ActionKey.orderKey, Prod.Lex.toLex_lt_toLex, hstate, haction] using hless
      refine le_of_lt (Prod.Lex.toLex_lt_toLex.mpr (.inr ⟨htime, ?_⟩))
      exact Prod.Lex.toLex_lt_toLex.mpr (.inr ⟨hbytes, List.Lex.rel hresponse⟩)
  rw [hrefines, ledgerOrder, sortEntries, head?_insertionSort, argmin_map]
  rfl

/-! ## Audit records -/

/-- At capacity, the head of the order leaves. -/
theorem auditRecordsWithRoom_cases (capacity : ℕ) (audits : FrozenMap RecordKey AuditRecordV1) :
    auditRecordsWithRoom capacity audits = audits ∨
      ∃ row, (recordOrder audits (·.createdAtEpochMs)).head? = some row ∧
        auditRecordsWithRoom capacity audits = audits.withoutKeys [row.2.2] := by
  unfold auditRecordsWithRoom
  split_ifs with hroom
  · exact .inl rfl
  · split
    · exact .inl rfl
    · next victim record hvictim =>
      refine .inr ⟨recordRow (·.createdAtEpochMs) (victim, record), ?_, rfl⟩
      rw [head?_recordOrder, hvictim]
      rfl

/-! ## The ledger -/

/-- A root with the rows of a ledger. -/
def withLedger (root : CoordinatorStateRootV1) (ledger : ActionLedgerRecords) :
    CoordinatorStateRootV1 := { root with actionLedgerRecords := ledger }

def withoutLedgerRow (row : RootOrderEntry ActionKey) (root : CoordinatorStateRootV1) :
    CoordinatorStateRootV1 := withLedger root (root.actionLedgerRecords.withoutKeys [row.2.2])

theorem trimLedger_evicts (root : CoordinatorStateRootV1) (capacity fuel : ℕ)
    (ledger : ActionLedgerRecords) :
    Evicts (fun root => (rootOrders root).actionLedgerEvictionOrder) withoutLedgerRow
      (withLedger root ledger) (withLedger root (trimLedger capacity fuel ledger)) := by
  induction fuel generalizing ledger with
  | zero => exact .refl _
  | succ fuel ih =>
    rw [trimLedger]
    split_ifs
    · exact .refl _
    · split
      · exact .refl _
      · next victim row hvictim =>
        refine .head (k := ledgerRow (·.receivedAtEpochMs) (victim, row)) ?_ (ih _)
        change (ledgerOrder ledger _).head? = _
        rw [head?_ledgerOrder, hvictim]
        rfl

/-! ## Sessions -/

def withoutSession (row : RootOrderEntry ConversationStateKey) (root : CoordinatorStateRootV1) :
    CoordinatorStateRootV1 := withoutSessions root [row.2.2]

theorem evictSessions_evicts {root : CoordinatorStateRootV1}
    {pending : FrozenMap ConversationStateKey RecordKey} {capacity fuel : ℕ}
    {turns turns' : ConversationTurns} {clarifications clarifications' : ClarificationRecords}
    (h : evictSessions pending capacity fuel turns clarifications = .ok (turns', clarifications')) :
    Evicts (fun root => (rootOrders root).stateSessionEvictionOrder) withoutSession
      { root with conversationTurns := turns, clarificationRecords := clarifications }
      { root with conversationTurns := turns', clarificationRecords := clarifications' } := by
  induction fuel generalizing turns clarifications with
  | zero =>
    cases h
    exact .refl _
  | succ fuel ih =>
    unfold evictSessions at h
    split at h
    · cases h
      exact .refl _
    · next time bytes victim rest horder =>
      split_ifs at h
      · cases h
        exact .refl _
      · refine .head (k := (time, bytes, victim)) ?_ (ih h)
        exact congrArg List.head? horder

theorem enforceSessionCapacity_evicts {root candidate : CoordinatorStateRootV1} {capacity : ℕ}
    (h : enforceSessionCapacity root capacity = .ok candidate) :
    ∃ kept, Evicts (fun root => (rootOrders root).stateSessionEvictionOrder) withoutSession root
      kept ∧ candidate = withoutUnpinnedRevisions kept := by
  unfold enforceSessionCapacity at h
  split at h
  · cases h
  · next turns clarifications hevict =>
    exact ⟨_, evictSessions_evicts hevict, (Except.ok.inj h).symm⟩

/-! ## Issued responses -/

section Issued

variable {setup : CoordinatorSetup} {root candidate : CoordinatorStateRootV1}
  {m : FrozenMap RecordKey CompleteIssuedResponseRecordV1}
  {a b : RecordKey × CompleteIssuedResponseRecordV1}

/-- Completion time, then request id, then the place in the map. -/
def requestOrderKey (e : RecordKey × CompleteIssuedResponseRecordV1) : ℤ ×ₗ String ×ₗ RecordKey :=
  toLex (e.2.completedAtMonotonicNs, toLex (e.1.ident, e.1))

/-- Completion time, then the bytes of the key. -/
def bytesOrderKey (e : RecordKey × CompleteIssuedResponseRecordV1) : ℤ ×ₗ Bytes :=
  toLex (e.2.completedAtMonotonicNs, keyBytes e.1.stateKey e.1.ident)

/-- The complete record that comes first by completion time and request id also comes first by
completion time and key bytes. -/
def IssuedOrdersAgree (root : CoordinatorStateRootV1) : Prop :=
  ∀ first ∈ (completeRecords root.issuedRecords).entries,
    (∀ e ∈ (completeRecords root.issuedRecords).entries,
      requestOrderKey first ≤ requestOrderKey e) →
    ∀ e ∈ (completeRecords root.issuedRecords).entries, bytesOrderKey first ≤ bytesOrderKey e

/-- The complete records that share the earliest completion time. -/
def earliestRecords (root : CoordinatorStateRootV1) :
    List (RecordKey × CompleteIssuedResponseRecordV1) :=
  (completeRecords root.issuedRecords).entries.filter fun e =>
    ∀ f ∈ (completeRecords root.issuedRecords).entries,
      e.2.completedAtMonotonicNs ≤ f.2.completedAtMonotonicNs

/-- The earliest records are of one conversation. -/
def EarliestOfOneConversation (root : CoordinatorStateRootV1) : Prop :=
  ∀ a ∈ earliestRecords root, ∀ b ∈ earliestRecords root, a.1.stateKey = b.1.stateKey

/-- One of the earliest records is before those of the other conversations, by the bytes of the
conversations and by request id; records with the same request id are compared by their keys. -/
def EarliestInBothOrders (root : CoordinatorStateRootV1) : Prop :=
  earliestRecords root ≠ [] → ∃ first ∈ earliestRecords root, ∀ e ∈ earliestRecords root,
    e.1.stateKey ≠ first.1.stateKey →
      keyBytes first.1.stateKey "" < keyBytes e.1.stateKey "" ∧
        toLex (first.1.ident, first.1) < toLex (e.1.ident, e.1)

instance (root : CoordinatorStateRootV1) : Decidable (EarliestOfOneConversation root) :=
  inferInstanceAs (Decidable (∀ a ∈ earliestRecords root, ∀ b ∈ earliestRecords root, _ = _))

instance (root : CoordinatorStateRootV1) : Decidable (EarliestInBothOrders root) :=
  inferInstanceAs (Decidable (_ → ∃ first ∈ earliestRecords root, ∀ e ∈ earliestRecords root, _))

theorem mem_earliestRecords : a ∈ earliestRecords root ↔
    a ∈ (completeRecords root.issuedRecords).entries ∧
      ∀ f ∈ (completeRecords root.issuedRecords).entries,
        a.2.completedAtMonotonicNs ≤ f.2.completedAtMonotonicNs := by
  rw [earliestRecords, List.mem_filter, decide_eq_true_eq]

theorem eq_of_key_eq (ha : a ∈ m.entries) (hb : b ∈ m.entries) (h : a.1 = b.1) : a = b :=
  List.inj_on_of_nodup_map m.keys_nodup ha hb h

theorem eq_of_bytesOrderKey (ha : a ∈ m.entries) (hb : b ∈ m.entries)
    (h : bytesOrderKey a = bytesOrderKey b) : a = b := by
  obtain ⟨hstate, hident⟩ := keyBytes_inj.mp (Prod.ext_iff.mp (toLex.injective h)).2
  exact eq_of_key_eq ha hb (RecordKey.orderKey_injective (by simp [RecordKey.orderKey, *]))

theorem issuedEvictionVictim_eq (root : CoordinatorStateRootV1) : issuedEvictionVictim root =
    (completeRecords root.issuedRecords).entries.argmin requestOrderKey := by
  refine argmin_eq_of_refines (fun a _ b _ h => ?_)
    ((completeRecords root.issuedRecords).sorted.imp fun {a b} hkeys heq => ?_)
  · rw [Prod.Lex.toLex_lt_toLex] at h
    exact Prod.Lex.toLex_lt_toLex.mpr (h.imp_right fun ⟨ht, hident⟩ =>
      ⟨ht, Prod.Lex.toLex_lt_toLex.mpr (.inl hident)⟩)
  · obtain ⟨htime, hident⟩ := Prod.ext_iff.mp (toLex.injective heq)
    exact le_of_lt (Prod.Lex.toLex_lt_toLex.mpr (.inr ⟨htime,
      Prod.Lex.toLex_lt_toLex.mpr (.inr ⟨hident, hkeys⟩)⟩))

theorem head?_issuedOrder (root : CoordinatorStateRootV1) :
    (rootOrders root).issuedCompleteEvictionOrder.head? =
      ((completeRecords root.issuedRecords).entries.argmin bytesOrderKey).map
        (recordRow (·.completedAtMonotonicNs)) :=
  head?_recordOrder ..

/-- The victim is the head of the order exactly when it comes first in both. -/
theorem victim_head_iff {victim : RecordKey × CompleteIssuedResponseRecordV1}
    (hvictim : issuedEvictionVictim root = some victim) :
    (∃ row, (rootOrders root).issuedCompleteEvictionOrder.head? = some row ∧
        row.2.2 = victim.1) ↔ IssuedOrdersAgree root := by
  rw [issuedEvictionVictim_eq] at hvictim
  have hmem := List.argmin_mem hvictim
  rw [head?_issuedOrder]
  constructor
  · rintro ⟨row, hrow, hkey⟩ first hfirst hleast e he
    obtain ⟨head, hhead, rfl⟩ := Option.map_eq_some_iff.mp hrow
    obtain rfl : head = victim := eq_of_key_eq (List.argmin_mem hhead) hmem hkey
    have hsame : requestOrderKey first = requestOrderKey head :=
      le_antisymm (hleast head hmem) (List.le_of_mem_argmin hfirst hvictim)
    have hkeys : first.1 = head.1 := by
      simp only [requestOrderKey, toLex_inj, Prod.mk.injEq] at hsame
      exact hsame.2.2
    rw [eq_of_key_eq hfirst hmem hkeys]
    exact List.le_of_mem_argmin he hhead
  · intro hagree
    have hleast := hagree victim hmem fun e he => List.le_of_mem_argmin he hvictim
    cases hhead : (completeRecords root.issuedRecords).entries.argmin bytesOrderKey with
    | none =>
      rw [List.argmin_eq_none.mp hhead] at hmem
      cases hmem
    | some head =>
      have hin := List.argmin_mem hhead
      obtain rfl : head = victim := eq_of_bytesOrderKey hin hmem
        (le_antisymm (List.le_of_mem_argmin hmem hhead) (hleast head hin))
      exact ⟨_, rfl, rfl⟩

/-! ### Ties -/

theorem earliest_time_eq (ha : a ∈ earliestRecords root) (hb : b ∈ earliestRecords root) :
    a.2.completedAtMonotonicNs = b.2.completedAtMonotonicNs :=
  le_antisymm ((mem_earliestRecords.mp ha).2 b (mem_earliestRecords.mp hb).1)
    ((mem_earliestRecords.mp hb).2 a (mem_earliestRecords.mp ha).1)

/-- A record that is not later than the earliest ones is one of them. -/
theorem mem_earliestRecords_of_le (ha : a ∈ earliestRecords root)
    (hb : b ∈ (completeRecords root.issuedRecords).entries)
    (h : b.2.completedAtMonotonicNs ≤ a.2.completedAtMonotonicNs) : b ∈ earliestRecords root :=
  mem_earliestRecords.mpr ⟨hb, fun f hf => h.trans ((mem_earliestRecords.mp ha).2 f hf)⟩

theorem mem_earliestRecords_of_least (ha : a ∈ (completeRecords root.issuedRecords).entries)
    (h : ∀ e ∈ (completeRecords root.issuedRecords).entries,
      requestOrderKey a ≤ requestOrderKey e) : a ∈ earliestRecords root := by
  refine mem_earliestRecords.mpr ⟨ha, fun f hf => ?_⟩
  exact (Prod.Lex.toLex_le_toLex.mp (h f hf)).elim le_of_lt fun hsame => hsame.1.le

/-- With the same time, the request ids and keys decide the one order. -/
theorem requestOrderKey_le_iff (h : a.2.completedAtMonotonicNs = b.2.completedAtMonotonicNs) :
    requestOrderKey a ≤ requestOrderKey b ↔ toLex (a.1.ident, a.1) ≤ toLex (b.1.ident, b.1) := by
  simp [requestOrderKey, Prod.Lex.toLex_le_toLex, h]

/-- With the same time, the bytes decide the other. -/
theorem bytesOrderKey_le_iff (h : a.2.completedAtMonotonicNs = b.2.completedAtMonotonicNs) :
    bytesOrderKey a ≤ bytesOrderKey b ↔
      keyBytes a.1.stateKey a.1.ident ≤ keyBytes b.1.stateKey b.1.ident := by
  simp [bytesOrderKey, Prod.Lex.toLex_le_toLex, h]

/-- Within one conversation both ways to break a tie agree. -/
theorem keyBytes_le_of_request_le (hstate : a.1.stateKey = b.1.stateKey)
    (h : toLex (a.1.ident, a.1) ≤ toLex (b.1.ident, b.1)) :
    keyBytes a.1.stateKey a.1.ident ≤ keyBytes b.1.stateKey b.1.ident := by
  rw [hstate]
  exact (keyBytes_strictMono _).monotone ((Prod.Lex.toLex_le_toLex.mp h).elim le_of_lt (·.1.le))

/-- The orders agree on the first record exactly when they agree on the conversations that share
the earliest time. -/
theorem issuedOrdersAgree_iff : IssuedOrdersAgree root ↔ EarliestInBothOrders root := by
  constructor
  · intro hagree hsome
    obtain ⟨e₀, he₀⟩ := List.exists_mem_of_ne_nil _ hsome
    obtain ⟨first, hargmin⟩ : ∃ first,
        (completeRecords root.issuedRecords).entries.argmin requestOrderKey = some first :=
      Option.ne_none_iff_exists'.mp fun hnone =>
        List.ne_nil_of_mem (mem_earliestRecords.mp he₀).1 (List.argmin_eq_none.mp hnone)
    have hmem := List.argmin_mem hargmin
    have hleast : ∀ e ∈ (completeRecords root.issuedRecords).entries,
        requestOrderKey first ≤ requestOrderKey e :=
      fun e he => List.le_of_mem_argmin he hargmin
    have hfirst := mem_earliestRecords_of_least hmem hleast
    refine ⟨first, hfirst, fun e he hother => ?_⟩
    have hin := (mem_earliestRecords.mp he).1
    have htime := earliest_time_eq hfirst he
    have hbytes := (bytesOrderKey_le_iff htime).mp (hagree first hmem hleast e hin)
    have hrequest := (requestOrderKey_le_iff htime).mp (hleast e hin)
    constructor
    · refine keyBytes_lt_of_ne hother.symm (lt_of_le_of_ne hbytes fun heq => ?_) _ _
      exact hother (keyBytes_inj.mp heq).1.symm
    · refine lt_of_le_of_ne hrequest fun heq => ?_
      exact hother (congrArg RecordKey.stateKey (Prod.ext_iff.mp (toLex.injective heq)).2.symm)
  · intro hboth least hmem hleast e he
    have hearliest := mem_earliestRecords_of_least hmem hleast
    obtain ⟨first, hfirst, hbefore⟩ := hboth (List.ne_nil_of_mem hearliest)
    have hstate : least.1.stateKey = first.1.stateKey := by
      by_contra hother
      have hlt := (hbefore least hearliest hother).2
      exact hlt.not_ge ((requestOrderKey_le_iff (earliest_time_eq hearliest hfirst)).mp
        (hleast first (mem_earliestRecords.mp hfirst).1))
    obtain hlater | hsame := ((mem_earliestRecords.mp hearliest).2 e he).lt_or_eq
    · exact le_of_lt (Prod.Lex.toLex_lt_toLex.mpr (.inl hlater))
    · rw [bytesOrderKey_le_iff hsame]
      by_cases hconversation : e.1.stateKey = first.1.stateKey
      · exact keyBytes_le_of_request_le (hstate.trans hconversation.symm)
          ((requestOrderKey_le_iff hsame).mp (hleast e he))
      · have hlt := (hbefore e (mem_earliestRecords_of_le hearliest he hsame.ge) hconversation).1
        rw [← hstate] at hlt
        exact (keyBytes_lt_of_ne (hstate ▸ Ne.symm hconversation) hlt _ _).le

/-- Records of one conversation are never in the way of each other. -/
theorem EarliestOfOneConversation.inBothOrders (h : EarliestOfOneConversation root) :
    EarliestInBothOrders root := by
  intro hsome
  obtain ⟨first, hfirst⟩ := List.exists_mem_of_ne_nil _ hsome
  exact ⟨first, hfirst, fun e he hother => absurd (h e he first hfirst) hother⟩

/-- What an eviction removes from the issued records is at the head of their order. -/
def EvictsIssuedHead (setup : CoordinatorSetup) (root : CoordinatorStateRootV1) : Prop :=
  ∀ candidate, issuedCapacityEvictionCandidate root setup.config.issuedResponseCapacity =
      .ok (some candidate) →
    ∃ row, root.orders.issuedCompleteEvictionOrder.head? = some row ∧
      candidate.issuedRecords = root.issuedRecords.withoutKeys [row.2.2]

theorem evictsIssuedHead_iff (horders : root.orders = rootOrders root) :
    EvictsIssuedHead setup root ↔
      (setup.config.issuedResponseCapacity ≤ root.issuedRecords.size → IssuedOrdersAgree root) := by
  unfold EvictsIssuedHead
  rw [horders]
  constructor
  · intro hevicts hfull
    cases hvictim : issuedEvictionVictim root with
    | none =>
      rw [issuedEvictionVictim_eq, List.argmin_eq_none] at hvictim
      intro first hfirst
      rw [hvictim] at hfirst
      cases hfirst
    | some victim =>
      obtain ⟨key, record⟩ := victim
      obtain ⟨row, hrow, hremoved⟩ := hevicts (withoutIssuedRecord root key record) (by
        simp [issuedCapacityEvictionCandidate, not_lt.mpr hfull, hvictim])
      refine (victim_head_iff hvictim).mp ⟨row, hrow, ?_⟩
      by_contra hne
      have hkept : (root.issuedRecords.withoutKeys [row.2.2]).get key = some (.complete record) :=
        FrozenMap.get_withoutKeys_eq_some.mpr
          ⟨issuedEvictionVictim_get hvictim, by simpa using Ne.symm hne⟩
      rw [← hremoved, withoutIssuedRecord, FrozenMap.get_withoutKeys_singleton_self] at hkept
      cases hkept
  · intro hagree candidate hcandidate
    unfold issuedCapacityEvictionCandidate at hcandidate
    split_ifs at hcandidate with hroom
    · cases hcandidate
    · split at hcandidate
      · cases hcandidate
      · next key record hvictim =>
        cases hcandidate
        obtain ⟨row, hrow, hkey⟩ := (victim_head_iff hvictim).mpr (hagree (not_lt.mp hroom))
        exact ⟨row, hrow, by rw [hkey]; rfl⟩

end Issued

/-! ## Reachable roots -/

/-- What capacity removes, it removes at the head of an order of the root it is removed from. The
orders of a candidate, which loses its entries before it is published, are those that it would
be published with. -/
structure EvictsInOrder (setup : CoordinatorSetup) (root : CoordinatorStateRootV1) : Prop where
  issued : EvictsIssuedHead setup root
  audits : auditRecordsWithRoom setup.config.conversationMaxSessions root.auditRecords =
      root.auditRecords ∨
    ∃ row, root.orders.auditEvictionOrder.head? = some row ∧
      auditRecordsWithRoom setup.config.conversationMaxSessions root.auditRecords =
        root.auditRecords.withoutKeys [row.2.2]
  sessions : ∀ proposal readings candidate response,
    commitReplyCandidate setup.config setup.sha256 root proposal readings =
        .ok (candidate, response) →
      ∃ revision audit kept,
        Evicts (fun root => (rootOrders root).stateSessionEvictionOrder) withoutSession
          (withCommittedReply setup.config setup.sha256 root proposal revision response audit
            readings.monotonicNs readings.epochMs) kept ∧
          candidate = withoutUnpinnedRevisions kept
  ledger : ∀ candidate published,
    prepareRootForPublication candidate setup.config.stateRevisionCapacity = .ok published →
      Evicts (fun root => (rootOrders root).actionLedgerEvictionOrder) withoutLedgerRow candidate
        (withLedger candidate published.actionLedgerRecords)

section Reachable

variable {setup : CoordinatorSetup} {root candidate : CoordinatorStateRootV1}
  {adm : List CoordinatorEvent → CoordinatorEvent → Prop} {es : List CoordinatorEvent}
  {c : Coordinator}

/-- A reachable root has the orders that its maps give. -/
theorem orders_of_run (run : CoordinatorRun setup adm es c) :
    c.root.orders = rootOrders c.root := by
  refine run.invariant (P := fun _ c => c.root.orders = rootOrders c.root) (by decide +kernel)
    fun es c input _ _ h => ?_
  refine Follows.invariant (P := fun root => root.orders = rootOrders root)
    (runOperation_follows setup input.1 input.2 c) h fun r r' change _ _ step => ?_
  cases step <;> rfl

theorem commitReplyCandidate_sessions {proposal : ReplyCommitProposalV1} {readings : CommitReadings}
    {response : ReplyResponse} (h : commitReplyCandidate setup.config setup.sha256 root proposal
      readings = .ok (candidate, response)) :
    ∃ revision audit, enforceSessionCapacity (withCommittedReply setup.config setup.sha256 root
      proposal revision response audit readings.monotonicNs readings.epochMs)
        setup.config.conversationMaxSessions = .ok candidate := by
  unfold commitReplyCandidate at h
  split at h
  · cases h
  · next revision _ =>
    simp only at h
    split_ifs at h
    split at h
    · cases h
    · next audit _ =>
      split at h
      · cases h
      · next root' hsessions =>
        cases h
        exact ⟨revision, audit, hsessions⟩

/-- Capacity removes the heads of the orders of a reachable root when the earliest complete
records are of one conversation. When they are of several, it does exactly when one of them is
before those of the other conversations by both ways to break the tie. -/
theorem capacity_evicts_in_order (run : CoordinatorRun setup adm es c) :
    ((setup.config.issuedResponseCapacity ≤ c.root.issuedRecords.size →
        EarliestOfOneConversation c.root) → EvictsInOrder setup c.root) ∧
      (EvictsInOrder setup c.root ↔
        (setup.config.issuedResponseCapacity ≤ c.root.issuedRecords.size →
          EarliestInBothOrders c.root)) := by
  have horders := orders_of_run run
  have hiff : EvictsInOrder setup c.root ↔
      (setup.config.issuedResponseCapacity ≤ c.root.issuedRecords.size →
        EarliestInBothOrders c.root) := by
    rw [← issuedOrdersAgree_iff, ← evictsIssuedHead_iff horders]
    refine ⟨(·.issued), fun hissued => ⟨hissued, ?_, ?_, ?_⟩⟩
    · rw [horders]
      exact auditRecordsWithRoom_cases ..
    · intro proposal readings candidate response hcommit
      obtain ⟨revision, audit, hsessions⟩ := commitReplyCandidate_sessions hcommit
      obtain ⟨kept, hevicts, hkept⟩ := enforceSessionCapacity_evicts hsessions
      exact ⟨revision, audit, kept, hevicts, hkept⟩
    · intro candidate root' hprepare
      obtain ⟨rfl, -⟩ := prepareRootForPublication_ok hprepare
      exact trimLedger_evicts candidate ..
  exact ⟨fun h => hiff.mpr fun hfull => (h hfull).inBothOrders, hiff⟩

end Reachable

/-! ## Samples -/

namespace EqualTimes

/-- Room for two issued responses. -/
def setup : CoordinatorSetup where
  settings := { issuedResponseCapacity := 2 }
  config := ⟨2, 5000, 20000, 86400000, 12, 86400000000000, 180000000000, 10003⟩
  built := by decide +kernel
  sha256 := fun _ => "0"

def key (adapterNamespace : String) : ConversationStateKey := { sampleKey with adapterNamespace }

/-- The draws of the `n`-th operation at time `t`; its response is the one of `digit`. -/
def draws (n : ℕ) (t : ℤ) (digit : ℕ) : OperationDraws :=
  { sampleDraws n t with
    responseUuid := ⟨String.ofList (List.replicate 31 '0' ++ [hexDigit digit]),
      digits_replicate_hexDigit digit⟩ }

def proposal (n : ℕ) (adapterNamespace requestId : String) : ReplyCommitProposalV1 :=
  { sampleProposal n requestId sampleResponse with
    stateKey := key adapterNamespace
    audit_scene := rfl }

/-- Two conversations, whose replies are committed at one time. -/
def inputs : List CoordinatorInput :=
  [(.reserveReply (key "a") "r" "h" true, draws 1 1 1),
    (.reserveReply (key "b") "q" "h" true, draws 2 1 2),
    (.commitReply (proposal 1 "a" "r"), draws 3 2 1),
    (.commitReply (proposal 2 "b" "q"), draws 4 2 2)]

/-- The second reply to a conversation, for the reservation of the third operation. -/
def nextProposal : ReplyCommitProposalV1 :=
  { proposal 3 "a" "q" with
    expectedRevisionEpoch := List.replicate 1 0
    expectedStateRevision := 1 }

/-- One conversation, whose replies are committed at one time. -/
def oneConversation : List CoordinatorInput :=
  [(.reserveReply (key "a") "r" "h" true, draws 1 1 1),
    (.commitReply (proposal 1 "a" "r"), draws 2 2 1),
    (.reserveReply (key "a") "q" "h" true, draws 3 2 2),
    (.commitReply nextProposal, draws 4 2 2)]

def inOrderChecked : CheckedTrace setup Admissible oneConversation fun t =>
    decide (EarliestOfOneConversation t.2.root ∧ (earliestRecords t.2.root).length = 2 ∧
      setup.config.issuedResponseCapacity ≤ t.2.root.issuedRecords.size) :=
  ⟨by decide +kernel⟩

def outOfOrderChecked : CheckedTrace setup
    (fun es e => Admissible es e ∧ MonotonicClock es e ∧ WallClock es e) inputs fun t =>
    decide (t.2.root.orders = rootOrders t.2.root ∧
      t.2.root.orders.issuedCompleteEvictionOrder.head?.map (·.2.2) = some ⟨key "a", "r"⟩ ∧
      (issuedEvictionVictim t.2.root).map (·.1) = some ⟨key "b", "q"⟩ ∧
      setup.config.issuedResponseCapacity ≤ t.2.root.issuedRecords.size ∧
      ¬EarliestInBothOrders t.2.root) :=
  ⟨by decide +kernel⟩

end EqualTimes

open EqualTimes in
/-- A full store whose two responses were completed at one time. -/
theorem capacity_evicts_in_order_two :
    ∃ es c, CoordinatorRun setup Admissible es c ∧
      setup.config.issuedResponseCapacity ≤ c.root.issuedRecords.size ∧
      (earliestRecords c.root).length = 2 ∧ EvictsInOrder setup c.root := by
  obtain ⟨run, hcheck⟩ := inOrderChecked.run
  obtain ⟨hshared, htwo, hfull⟩ := of_decide_eq_true hcheck
  exact ⟨_, _, run, hfull, htwo, (capacity_evicts_in_order run).1 fun _ => hshared⟩

open EqualTimes in
/-- The reply with the lesser request id leaves, though the other one is the head of the order. -/
theorem eviction_out_of_order : ∃ es c, CoordinatorRun setup
    (fun es e => Admissible es e ∧ MonotonicClock es e ∧ WallClock es e) es c ∧
      c.root.orders.issuedCompleteEvictionOrder.head?.map (·.2.2) = some ⟨key "a", "r"⟩ ∧
      (issuedEvictionVictim c.root).map (·.1) = some ⟨key "b", "q"⟩ ∧
      ¬EvictsInOrder setup c.root := by
  obtain ⟨run, hcheck⟩ := outOfOrderChecked.run
  obtain ⟨horders, hhead, hvictim, hfull, hdiffer⟩ := of_decide_eq_true hcheck
  exact ⟨_, _, run, hhead, hvictim, fun hevicts =>
    hdiffer (issuedOrdersAgree_iff.mp ((evictsIssuedHead_iff horders).mp hevicts.issued hfull))⟩

end MarketSupport
