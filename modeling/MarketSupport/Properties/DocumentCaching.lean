import Mathlib.Tactic.NormNum
import MarketSupport.Integrations.DocumentCache

/-!
# Transparency of the document cache

The store may change, but not until what was fetched from it has expired. Then a cached list is
what an earlier call under the same authority fetched, for the same ids, but perhaps in another
order.

## Main results

* `reflects_of_run` — the cache holds what the calls wrote, until its time is over.
* `cachedCalls_iff` — in every run, the calls return what they return without a cache exactly
  when their keys can be built and what answers them was fetched in the order of their ids.
-/

namespace MarketSupport

open Library

variable {Document : Type} (client : DocumentMcpClient Document) (hashes : CacheKeyHashes)

/-- At every time the store has one document, or none, for every id, and answers with it. -/
def DocumentMcpClient.Serves (store : ℚ → String → Option Document) : Prop :=
  ∀ time ids, ∀ id ∈ ids, id ≠ "" → client.resolved (client.answer time ids) id = store time id

/-- The call without a cache. -/
def GetDocumentsCall.uncached (call : GetDocumentsCall) : GetDocumentsCall :=
  { call with cacheAuthority := none }

/-- The command of a call as it is hashed. -/
def GetDocumentsCall.canonicalCommand (call : GetDocumentsCall)
    (authority : DocumentMcpCacheAuthorityV1) : DocumentQueryEvidenceCommandV1 :=
  let command := authority.command call.query call.orderedIds call.maxResults
  { command with documentIds := command.documentIds.insertionSort (· ≤ ·) }

/-- The hashes tell the commands and the keys of the calls apart. -/
structure HashesSeparate (calls : List GetDocumentsCall) : Prop where
  command : ∀ a ∈ calls, ∀ b ∈ calls, ∀ A ∈ a.cacheAuthority, ∀ B ∈ b.cacheAuthority,
    hashes.commandHash (a.canonicalCommand A) = hashes.commandHash (b.canonicalCommand B) →
      a.canonicalCommand A = b.canonicalCommand B
  key : ∀ a ∈ calls, ∀ b ∈ calls, ∀ A ∈ a.cacheAuthority, ∀ B ∈ b.cacheAuthority,
    hashes.cacheKeyHash (A.cacheKey (hashes.commandHash (a.canonicalCommand A))) =
        hashes.cacheKeyHash (B.cacheKey (hashes.commandHash (b.canonicalCommand B))) →
      A.cacheKey (hashes.commandHash (a.canonicalCommand A)) =
        B.cacheKey (hashes.commandHash (b.canonicalCommand B))

/-- The key of a call that has ids, when caching is enabled and the key can be built. -/
def DocumentMcpClient.cachedUnder (call : GetDocumentsCall) : Option String :=
  if call.orderedIds = [] then none else (client.cacheKeyRef hashes call).toOption.join

/-- What a call wrote answers a later one: it wrote documents under the key of the later one, and
their time is not over. -/
def WriteAnswers (writer call : GetDocumentsCall) : Prop :=
  (∃ key ∈ client.cachedUnder hashes writer, key ∈ client.cachedUnder hashes call) ∧
    call.askedAt < writer.writtenAt + client.cacheTtlSeconds ∧ client.fetch writer ≠ []

instance {writer call : GetDocumentsCall} : Decidable (WriteAnswers client hashes writer call) :=
  inferInstanceAs (Decidable (_ ∧ _ ∧ _))

/-- The calls that write to the cache: they have a key, and nothing that was written answers
them. -/
def writers (calls : List GetDocumentsCall) : List GetDocumentsCall :=
  calls.foldl (fun written call =>
    if (client.cachedUnder hashes call).isSome ∧
      ¬∃ w ∈ written, WriteAnswers client hashes w call then
      written ++ [call]
    else written) []

/-- The store does not change until what was fetched from it has expired. -/
def DocumentMcpClient.Steady (store : ℚ → String → Option Document)
    (calls : List GetDocumentsCall) : Prop :=
  ∀ w ∈ writers client hashes calls, ∀ time, w.askedAt ≤ time →
    time < w.writtenAt + client.cacheTtlSeconds → store time = store w.askedAt

/-- After the earlier calls, the key of a call can be built if it needs one, and what answers it
was fetched in the order of its ids. -/
def CacheApplies (earlier : List GetDocumentsCall) (call : GetDocumentsCall) : Prop :=
  (call.orderedIds = [] ∨ (client.cacheKeyRef hashes call).isOk = true) ∧
    ∀ w ∈ writers client hashes earlier, WriteAnswers client hashes w call →
      ((client.fetch w).map client.idText).Sublist call.orderedIds

instance {earlier : List GetDocumentsCall} {call : GetDocumentsCall} :
    Decidable (CacheApplies client hashes earlier call) :=
  inferInstanceAs (Decidable (_ ∧ ∀ w ∈ writers client hashes earlier, _ → _))

/-- The cache applies to each of the calls. -/
def CacheAppliesThroughout (calls : List GetDocumentsCall) : Prop :=
  ∀ n (h : n < calls.length), CacheApplies client hashes (calls.take n) calls[n]

instance {calls : List GetDocumentsCall} : Decidable (CacheAppliesThroughout client hashes calls) :=
  inferInstanceAs (Decidable (∀ n (_ : n < calls.length), _))

/-- The clock does not go back, within a call and from one call to the next. -/
def ClockAdvances (es : List (Event (DocumentCache Document) GetDocumentsCall
      (Except String (List Document))))
    (e : Event (DocumentCache Document) GetDocumentsCall (Except String (List Document))) : Prop :=
  e.input.askedAt ≤ e.input.writtenAt ∧ ∀ e' ∈ es, e'.input.writtenAt ≤ e.input.askedAt

instance (es : List (Event (DocumentCache Document) GetDocumentsCall
      (Except String (List Document))))
    (e : Event (DocumentCache Document) GetDocumentsCall (Except String (List Document))) :
    Decidable (ClockAdvances es e) :=
  inferInstanceAs (Decidable (_ ∧ ∀ e' ∈ es, _))

/-- What the calls wrote. -/
def writes (calls : List GetDocumentsCall) : List (String × TtlEntry ℚ (List Document)) :=
  (writers client hashes calls).filterMap fun w =>
    (client.cachedUnder hashes w).map fun key =>
      (key, ⟨w.writtenAt + client.cacheTtlSeconds, client.fetch w⟩)

/-- Once the calls are over, the cache holds what they wrote until its time is over. -/
def ReflectsCalls (calls : List GetDocumentsCall) (cache : DocumentCache Document) : Prop :=
  ∀ now, (∀ call ∈ calls, call.writtenAt ≤ now) →
    Reflects (· ≠ []) (writes client hashes calls) now cache

variable {client hashes} {store : ℚ → String → Option Document} {cache : DocumentCache Document}
  {calls : List GetDocumentsCall} {call w : GetDocumentsCall}
  {authority : DocumentMcpCacheAuthorityV1} {key : String}

/-! ## Keys -/

theorem keyForDocumentQuery_eq_ok
    (h : authority.keyForDocumentQuery hashes call.query call.orderedIds call.maxResults =
      .ok key) :
    key = hashes.cacheKeyHash
      (authority.cacheKey (hashes.commandHash (call.canonicalCommand authority))) := by
  obtain ⟨command, hcommand, h⟩ := bind_eq_ok_iff.mp h
  obtain ⟨cacheKey, hkey, h⟩ := bind_eq_ok_iff.mp h
  unfold documentQueryEvidenceCommandV1 at hcommand
  split_ifs at hcommand
  obtain rfl := Except.ok.inj hcommand
  unfold evidenceCommandCacheKeyV1 at hkey
  split_ifs at hkey
  obtain rfl := Except.ok.inj hkey
  exact (Except.ok.inj h).symm

/-- Calls with the same key have the same authority, and the same ids in some order. -/
theorem eq_of_same_key (separate : HashesSeparate hashes calls)
    {a b : GetDocumentsCall} (ha : a ∈ calls) (hb : b ∈ calls)
    {A B : DocumentMcpCacheAuthorityV1} (hA : A ∈ a.cacheAuthority) (hB : B ∈ b.cacheAuthority)
    (hkeyA : A.keyForDocumentQuery hashes a.query a.orderedIds a.maxResults = .ok key)
    (hkeyB : B.keyForDocumentQuery hashes b.query b.orderedIds b.maxResults = .ok key) :
    A = B ∧ a.orderedIds.Perm b.orderedIds := by
  have hsame := separate.key a ha b hb A hA B hB
    ((keyForDocumentQuery_eq_ok hkeyA).symm.trans (keyForDocumentQuery_eq_ok hkeyB))
  simp only [DocumentMcpCacheAuthorityV1.cacheKey, EvidenceCommandCacheKeyV1.mk.injEq] at hsame
  obtain ⟨hstate, hpolicy, hmanifest, hscope, hhash, hconfig⟩ := hsame
  have hcommand := separate.command a ha b hb A hA B hB hhash
  have hsorted : a.orderedIds.insertionSort (· ≤ ·) = b.orderedIds.insertionSort (· ≤ ·) :=
    congrArg DocumentQueryEvidenceCommandV1.documentIds hcommand
  refine ⟨?_, ?_⟩
  · cases A
    cases B
    simp_all
  · exact ((List.perm_insertionSort _ _).symm.trans (.of_eq hsorted)).trans
      (List.perm_insertionSort _ _)

/-! ## Fetched documents -/

theorem ne_empty_of_mem_orderedIds {id : String} (h : id ∈ call.orderedIds) : id ≠ "" := by
  simpa using (List.mem_filter.mp h).2

theorem fetch_eq (serves : client.Serves store) :
    client.fetch call = call.orderedIds.filterMap (store call.askedAt) :=
  List.filterMap_congr fun id hid => serves _ _ id hid (ne_empty_of_mem_orderedIds hid)

theorem idText_of_store (serves : client.Serves store) {time : ℚ} {id : String} (hid : id ≠ "")
    {document : Document} (h : store time id = some document) : client.idText document = id := by
  rw [← serves time [id] id (List.mem_singleton_self _) hid] at h
  exact idText_of_resolved h

/-- The ids of what is fetched are the ids that the store has. -/
theorem map_idText_fetch (serves : client.Serves store) {time : ℚ} {ids : List String}
    (hids : ∀ id ∈ ids, id ≠ "") : (ids.filterMap (store time)).map client.idText =
      ids.filter fun id => (store time id).isSome := by
  induction ids with
  | nil => rfl
  | cons id ids ih =>
    have hrest := ih fun other hother => hids other (List.mem_cons_of_mem _ hother)
    cases hstore : store time id with
    | none => simpa [hstore] using hrest
    | some document =>
      have hid := idText_of_store serves (hids id List.mem_cons_self) hstore
      simpa [hstore, hid] using hrest

theorem filterMap_eq_of_filter_eq {held : String → Option Document} {a b : List String}
    (h : (a.filter fun id => (held id).isSome) = b.filter fun id => (held id).isSome) :
    a.filterMap held = b.filterMap held := by
  have hkeep : ∀ l : List String,
      (l.filter fun id => (held id).isSome).filterMap held = l.filterMap held := by
    intro l
    rw [List.filterMap_filter]
    refine List.filterMap_congr fun id _ => ?_
    cases held id <;> rfl
  rw [← hkeep a, h, hkeep b]

/-- Documents fetched for the same ids are the same exactly when they are in order. -/
theorem fetched_eq_iff (serves : client.Serves store) {time : ℚ} {a b : List String}
    (ha : ∀ id ∈ a, id ≠ "") (hperm : a.Perm b) :
    a.filterMap (store time) = b.filterMap (store time) ↔
      ((a.filterMap (store time)).map client.idText).Sublist b := by
  rw [map_idText_fetch serves ha]
  constructor
  · intro h
    have hids := congrArg (List.map client.idText) h
    rw [map_idText_fetch serves ha, map_idText_fetch serves fun id hid =>
      ha id (hperm.mem_iff.mpr hid)] at hids
    rw [hids]
    exact List.filter_sublist
  · intro hsub
    have hfilter : (a.filter fun id => (store time id).isSome).Sublist
        (b.filter fun id => (store time id).isSome) := by
      have hkept := hsub.filter fun id => (store time id).isSome
      rwa [List.filter_filter, funext fun id => Bool.and_self ((store time id).isSome)] at hkept
    exact filterMap_eq_of_filter_eq (hfilter.eq_of_length (hperm.filter _).length_eq)

/-! ## One call -/

/-- The key of a call is that of its authority, when caching is enabled. -/
theorem cachedUnder_eq_some (h : client.cachedUnder hashes call = some key) :
    call.orderedIds ≠ [] ∧ client.cacheKeyRef hashes call = .ok (some key) := by
  unfold DocumentMcpClient.cachedUnder at h
  split_ifs at h with hids
  refine ⟨hids, ?_⟩
  cases hkey : client.cacheKeyRef hashes call with
  | error e => simp [hkey, Except.toOption] at h
  | ok found => simpa [hkey, Except.toOption] using h

theorem exists_authority_of_cachedUnder (h : client.cachedUnder hashes call = some key) :
    ∃ authority ∈ call.cacheAuthority, 0 < client.cacheTtlSeconds ∧
      authority.keyForDocumentQuery hashes call.query call.orderedIds call.maxResults =
        .ok key := by
  obtain ⟨_, hkey⟩ := cachedUnder_eq_some h
  unfold DocumentMcpClient.cacheKeyRef at hkey
  split at hkey
  · cases hkey
  · next authority hauthority =>
    split_ifs at hkey with hpositive
    · refine ⟨authority, hauthority, hpositive, ?_⟩
      cases hfor : authority.keyForDocumentQuery hashes call.query call.orderedIds
          call.maxResults with
      | error e => rw [hfor] at hkey; cases hkey
      | ok key' => rw [hfor] at hkey; cases hkey; rfl
    · cases hkey

theorem getDocuments_uncached :
    (client.getDocuments hashes cache call.uncached).1 = .ok (client.fetch call) := by
  have hids : call.uncached.orderedIds = call.orderedIds := rfl
  unfold DocumentMcpClient.getDocuments
  split_ifs with hempty
  · rw [hids] at hempty
    simp only [DocumentMcpClient.fetch, hempty, List.filterMap_nil]
  · rfl

/-- A call without a key leaves the cache alone, and fails when it needs one. -/
theorem getDocuments_of_none (h : client.cachedUnder hashes call = none) :
    (client.getDocuments hashes cache call).2 = cache ∧
      ((client.getDocuments hashes cache call).1 = .ok (client.fetch call) ↔
        call.orderedIds = [] ∨ (client.cacheKeyRef hashes call).isOk = true) := by
  unfold DocumentMcpClient.cachedUnder at h
  unfold DocumentMcpClient.getDocuments
  by_cases hempty : call.orderedIds = []
  · simp [hempty, DocumentMcpClient.fetch]
  · rw [if_neg hempty] at h ⊢
    cases hkey : client.cacheKeyRef hashes call with
    | error e => simp [hempty, Except.isOk, Except.toBool]
    | ok found =>
      obtain rfl : found = none := by simpa [hkey, Except.toOption] using h
      simp [Except.isOk, Except.toBool]

theorem getDocuments_of_found {documents : List Document}
    (hkey : client.cachedUnder hashes call = some key)
    (hfound : (cache.get call.askedAt key).1 = some documents) (hsome : documents ≠ []) :
    client.getDocuments hashes cache call = (.ok documents, (cache.get call.askedAt key).2) := by
  obtain ⟨hids, href⟩ := cachedUnder_eq_some hkey
  obtain ⟨document, rest, rfl⟩ := List.exists_cons_of_ne_nil hsome
  rw [DocumentMcpClient.getDocuments, if_neg hids, href]
  dsimp only
  cases hread : cache.get call.askedAt key with
  | mk found kept =>
    obtain rfl : found = some (document :: rest) := by rw [hread] at hfound; exact hfound
    rfl

theorem getDocuments_of_missed (hkey : client.cachedUnder hashes call = some key)
    (hmissed : ∀ documents, (cache.get call.askedAt key).1 = some documents → documents = []) :
    client.getDocuments hashes cache call =
      (.ok (client.fetch call), (cache.get call.askedAt key).2.set call.writtenAt
        client.cacheTtlSeconds key (client.fetch call)) := by
  obtain ⟨hids, href⟩ := cachedUnder_eq_some hkey
  rw [DocumentMcpClient.getDocuments, if_neg hids, href]
  dsimp only
  cases hread : cache.get call.askedAt key with
  | mk found kept =>
    rw [hread] at hmissed
    match found, hmissed with
    | none, _ => rfl
    | some [], _ => rfl
    | some (document :: rest), hmissed => exact absurd (hmissed _ rfl) (List.cons_ne_nil _ _)

/-! ## What was written -/

theorem writers_append : writers client hashes (calls ++ [call]) =
    if (client.cachedUnder hashes call).isSome ∧
        ¬∃ w ∈ writers client hashes calls, WriteAnswers client hashes w call then
      writers client hashes calls ++ [call]
    else writers client hashes calls := by
  rw [writers, List.foldl_append]
  rfl

theorem mem_of_mem_writers (h : w ∈ writers client hashes calls) : w ∈ calls := by
  induction calls using List.reverseRecOn with
  | nil => exact h
  | append_singleton calls call ih =>
    rw [writers_append] at h
    split_ifs at h
    · exact (List.mem_append.mp h).elim (fun hold => List.mem_append_left _ (ih hold))
        (List.mem_append_right _)
    · exact List.mem_append_left _ (ih h)

/-- What some of the calls wrote is written after more of them. -/
theorem writers_mono {later : List GetDocumentsCall} (h : w ∈ writers client hashes calls) :
    w ∈ writers client hashes (calls ++ later) := by
  induction later using List.reverseRecOn with
  | nil => rwa [List.append_nil]
  | append_singleton later call ih =>
    rw [← List.append_assoc, writers_append]
    split_ifs
    · exact List.mem_append_left _ ih
    · exact ih

theorem mem_writes {entry : TtlEntry ℚ (List Document)} :
    (key, entry) ∈ writes client hashes calls ↔ ∃ w ∈ writers client hashes calls,
      client.cachedUnder hashes w = some key ∧
        entry = ⟨w.writtenAt + client.cacheTtlSeconds, client.fetch w⟩ := by
  simp only [writes, List.mem_filterMap, Option.map_eq_some_iff, Prod.mk.injEq]
  constructor
  · rintro ⟨w, hw, _, hkey, rfl, rfl⟩
    exact ⟨w, hw, hkey, rfl⟩
  · rintro ⟨w, hw, hkey, rfl⟩
    exact ⟨w, hw, key, hkey, rfl, rfl⟩

/-- A call finds documents exactly when what an earlier one wrote answers it. -/
theorem get_eq_some_iff (h : Reflects (· ≠ []) (writes client hashes calls) call.askedAt cache)
    (hkey : client.cachedUnder hashes call = some key) {documents : List Document}
    (hsome : documents ≠ []) : (cache.get call.askedAt key).1 = some documents ↔
      ∃ w ∈ writers client hashes calls, WriteAnswers client hashes w call ∧
        client.fetch w = documents := by
  rw [h.get_eq_some_iff hsome]
  constructor
  · rintro ⟨entry, hmem, hlive, hvalue⟩
    obtain ⟨w, hw, hkey', rfl⟩ := mem_writes.mp hmem
    obtain rfl : client.fetch w = documents := hvalue
    exact ⟨w, hw, ⟨⟨key, hkey', hkey⟩, hlive, hsome⟩, rfl⟩
  · rintro ⟨w, hw, ⟨⟨key', hkeyW, hkeyC⟩, hlive, _⟩, hvalue⟩
    obtain rfl : key' = key := Option.some.inj (hkeyC.symm.trans hkey)
    exact ⟨_, mem_writes.mpr ⟨w, hw, hkeyW, rfl⟩, hlive, hvalue⟩

/-- A call keeps the cache in step with what the calls wrote. -/
theorem reflectsCalls_getDocuments (h : ReflectsCalls client hashes calls cache)
    (hbefore : ∀ earlier ∈ calls, earlier.writtenAt ≤ call.askedAt)
    (hclock : call.askedAt ≤ call.writtenAt) :
    ReflectsCalls client hashes (calls ++ [call]) (client.getDocuments hashes cache call).2 := by
  intro now hnow
  have hwritten : call.writtenAt ≤ now := hnow call (List.mem_append_right _ List.mem_cons_self)
  have hasked := h call.askedAt hbefore
  cases hkey : client.cachedUnder hashes call with
  | none =>
    rw [(getDocuments_of_none hkey).1, writes, writers_append, if_neg (by simp [hkey])]
    exact h now fun earlier hmem => hnow earlier (List.mem_append_left _ hmem)
  | some key =>
    by_cases hanswer : ∃ w ∈ writers client hashes calls, WriteAnswers client hashes w call
    · obtain ⟨w, hw, hanswers⟩ := hanswer
      have hfound := (get_eq_some_iff hasked hkey hanswers.2.2).mpr ⟨w, hw, hanswers, rfl⟩
      rw [getDocuments_of_found hkey hfound hanswers.2.2, writes, writers_append,
        if_neg fun hnew => hnew.2 ⟨w, hw, hanswers⟩]
      exact hasked.get.mono (hclock.trans hwritten)
    · obtain ⟨_, _, hpositive, _⟩ := exists_authority_of_cachedUnder hkey
      have hmissed : ∀ documents, (cache.get call.askedAt key).1 = some documents →
          documents = [] := by
        intro documents hread
        by_contra hsome
        obtain ⟨w, hw, hanswers, _⟩ := (get_eq_some_iff hasked hkey hsome).mp hread
        exact hanswer ⟨w, hw, hanswers⟩
      have hover : ∀ entry, (key, entry) ∈ writes client hashes calls → entry.value ≠ [] →
          entry.expiresAt ≤ call.askedAt := by
        intro entry hmem hsome
        obtain ⟨w, hw, hkeyW, rfl⟩ := mem_writes.mp hmem
        by_contra hlive
        exact hanswer ⟨w, hw, ⟨key, hkeyW, hkey⟩, not_le.mp hlive, hsome⟩
      rw [getDocuments_of_missed hkey hmissed, writes, writers_append,
        if_pos ⟨by simp [hkey], hanswer⟩, List.filterMap_append]
      simp only [List.filterMap_cons, hkey, Option.map_some, List.filterMap_nil]
      exact (hasked.get.set hclock hpositive hover).mono hwritten

/-! ## One call against the store -/

/-- What answers a call is what it would fetch exactly when it is in the order of its ids. -/
theorem fetch_eq_iff_of_answers (serves : client.Serves store)
    (steady : client.Steady hashes store calls) (separate : HashesSeparate hashes (calls ++ [call]))
    (hclock : ∀ earlier ∈ calls, earlier.askedAt ≤ earlier.writtenAt ∧
      earlier.writtenAt ≤ call.askedAt)
    (hw : w ∈ writers client hashes calls) (hanswers : WriteAnswers client hashes w call) :
    client.fetch w = client.fetch call ↔
      ((client.fetch w).map client.idText).Sublist call.orderedIds := by
  obtain ⟨⟨key, hkeyW, hkeyC⟩, hlive, _⟩ := hanswers
  obtain ⟨A, hA, _, hforA⟩ := exists_authority_of_cachedUnder hkeyW
  obtain ⟨B, hB, _, hforB⟩ := exists_authority_of_cachedUnder hkeyC
  have hmem := mem_of_mem_writers hw
  obtain ⟨_, hperm⟩ := eq_of_same_key separate (List.mem_append_left _ hmem)
    (List.mem_append_right _ (List.mem_singleton_self _)) hA hB hforA hforB
  have hsame : store call.askedAt = store w.askedAt :=
    steady w hw call.askedAt ((hclock w hmem).1.trans (hclock w hmem).2) hlive
  rw [fetch_eq serves, fetch_eq serves, hsame]
  exact fetched_eq_iff serves (fun _ hid => ne_empty_of_mem_orderedIds hid) hperm

/-- A call returns what it returns without a cache exactly when the cache applies to it. -/
theorem getDocuments_eq_uncached_iff (serves : client.Serves store)
    (steady : client.Steady hashes store calls) (separate : HashesSeparate hashes (calls ++ [call]))
    (hclock : ∀ earlier ∈ calls, earlier.askedAt ≤ earlier.writtenAt ∧
      earlier.writtenAt ≤ call.askedAt) (h : ReflectsCalls client hashes calls cache) :
    (client.getDocuments hashes cache call).1 =
        (client.getDocuments hashes cache call.uncached).1 ↔
      CacheApplies client hashes calls call := by
  have hasked := h call.askedAt fun earlier hmem => (hclock earlier hmem).2
  rw [getDocuments_uncached]
  unfold CacheApplies
  cases hkey : client.cachedUnder hashes call with
  | none =>
    rw [(getDocuments_of_none hkey).2]
    refine (and_iff_left fun w _ hanswers => ?_).symm
    obtain ⟨⟨key, _, hnone⟩, _⟩ := hanswers
    rw [hkey] at hnone
    cases hnone
  | some key =>
    have hbuilt : (client.cacheKeyRef hashes call).isOk = true := by
      rw [(cachedUnder_eq_some hkey).2]
      rfl
    rw [and_iff_right (.inr hbuilt)]
    by_cases hanswer : ∃ w ∈ writers client hashes calls, WriteAnswers client hashes w call
    · obtain ⟨w, hw, hanswers⟩ := hanswer
      have hfound := (get_eq_some_iff hasked hkey hanswers.2.2).mpr ⟨w, hw, hanswers, rfl⟩
      rw [getDocuments_of_found hkey hfound hanswers.2.2, Except.ok.injEq,
        fetch_eq_iff_of_answers serves steady separate hclock hw hanswers]
      refine ⟨fun hsub w' hw' hanswers' => ?_, fun hall => hall w hw hanswers⟩
      -- Every call that answers this one wrote what is found.
      have hfound' := (get_eq_some_iff hasked hkey hanswers'.2.2).mpr ⟨w', hw', hanswers', rfl⟩
      rwa [← Option.some.inj (hfound.symm.trans hfound')]
    · have hmissed : ∀ documents, (cache.get call.askedAt key).1 = some documents →
          documents = [] := by
        intro documents hread
        by_contra hsome
        obtain ⟨w, hw, hanswers, _⟩ := (get_eq_some_iff hasked hkey hsome).mp hread
        exact hanswer ⟨w, hw, hanswers⟩
      rw [getDocuments_of_missed hkey hmissed]
      exact iff_of_true rfl fun w hw hanswers => absurd ⟨w, hw, hanswers⟩ hanswer

/-- What is found under the key of a call was fetched by an earlier call under the same authority,
and has not expired. -/
theorem exists_writer_of_get (separate : HashesSeparate hashes (calls ++ [call]))
    (h : Reflects (· ≠ []) (writes client hashes calls) call.askedAt cache)
    (hauthority : authority ∈ call.cacheAuthority)
    (hkey : authority.keyForDocumentQuery hashes call.query call.orderedIds call.maxResults =
      .ok key) {documents : List Document}
    (hread : (cache.get call.askedAt key).1 = some documents) :
    ∃ w ∈ writers client hashes calls, authority ∈ w.cacheAuthority ∧
      call.askedAt < w.writtenAt + client.cacheTtlSeconds ∧ documents = client.fetch w := by
  obtain ⟨entry, hentry, hlive, rfl⟩ := TtlStore.get_fst_eq_some_iff.mp hread
  obtain ⟨w, hw, hkeyW, rfl⟩ := mem_writes.mp (h.written key entry hentry)
  obtain ⟨other, hother, _, hfor⟩ := exists_authority_of_cachedUnder hkeyW
  obtain ⟨rfl, _⟩ := eq_of_same_key separate (List.mem_append_left _ (mem_of_mem_writers hw))
    (List.mem_append_right _ (List.mem_singleton_self _)) hother hauthority hfor hkey
  exact ⟨w, hw, hother, hlive, rfl⟩

/-! ## Runs -/

section Runs

variable {events : List (Event (DocumentCache Document) GetDocumentsCall
  (Except String (List Document)))}

/-- During a run the cache holds what its calls wrote, until its time is over. -/
theorem reflects_of_run
    (run : Run (client.system hashes) ClockAdvances TtlStore.empty events cache) :
    ReflectsCalls client hashes (events.map (·.input)) cache ∧
      ∀ e ∈ events, e.input.askedAt ≤ e.input.writtenAt := by
  induction run with
  | nil => exact ⟨fun _ _ => .empty, nofun⟩
  | snoc _ input hclock ih =>
    rw [List.map_append, List.map_singleton]
    refine ⟨reflectsCalls_getDocuments ih.1 (fun earlier hmem => ?_) hclock.1, fun e he => ?_⟩
    · obtain ⟨e, he, rfl⟩ := List.mem_map.mp hmem
      exact hclock.2 e he
    · obtain he | he := List.mem_append.mp he
      · exact ih.2 e he
      · obtain rfl := List.mem_singleton.mp he
        exact hclock.1

/-- The calls of a part of a run are calls of the run. -/
theorem HashesSeparate.mono {calls' : List GetDocumentsCall}
    (h : HashesSeparate hashes calls) (hsub : ∀ call ∈ calls', call ∈ calls) :
    HashesSeparate hashes calls' where
  command a ha b hb := h.command a (hsub a ha) b (hsub b hb)
  key a ha b hb := h.key a (hsub a ha) b (hsub b hb)

/-- The state in which a call of a run is made, after the calls before it. -/
structure MadeAfter (client : DocumentMcpClient Document) (hashes : CacheKeyHashes)
    (earlier : List GetDocumentsCall)
    (e : Event (DocumentCache Document) GetDocumentsCall (Except String (List Document))) :
    Prop where
  reflects : ReflectsCalls client hashes earlier e.before
  clock : ∀ call ∈ earlier, call.askedAt ≤ call.writtenAt ∧ call.writtenAt ≤ e.input.askedAt
  output : e.output = (client.getDocuments hashes e.before e.input).1

theorem madeAfter_of_run
    (run : Run (client.system hashes) ClockAdvances TtlStore.empty events cache) {n : ℕ}
    (hn : n < events.length) :
    MadeAfter client hashes ((events.map (·.input)).take n) events[n] := by
  rw [← List.take_append_drop n events, List.drop_eq_getElem_cons hn] at run
  obtain ⟨before, hclock, heq, _⟩ := run.split
  obtain ⟨hreflects, hcalls⟩ := reflects_of_run before
  rw [← List.map_take]
  refine ⟨hreflects, fun call hcall => ?_, congrArg Event.output heq⟩
  obtain ⟨e, he, rfl⟩ := List.mem_map.mp hcall
  exact ⟨hcalls e he, hclock.2 e he⟩

/-- The first calls of a list, and the next one, begin the list. -/
theorem take_append_getElem {n : ℕ} (hn : n < calls.length) :
    calls.take n ++ [calls[n]] ++ calls.drop (n + 1) = calls := by
  rw [List.append_assoc, List.singleton_append, ← List.drop_eq_getElem_cons hn,
    List.take_append_drop]

/-- In every run with a clock that does not go back, against a store that does not change until
what was fetched from it has expired, and with hashes that do not collide, the calls return what
they return without a cache exactly when the cache applies to each of them. What is found in the
cache was always fetched by an earlier call of the run under the same authority, and has not
expired. -/
theorem cachedCalls_iff
    (run : Run (client.system hashes) ClockAdvances TtlStore.empty events cache)
    (serves : client.Serves store) (steady : client.Steady hashes store (events.map (·.input)))
    (separate : HashesSeparate hashes (events.map (·.input))) :
    ((∀ e ∈ events, e.output = (client.getDocuments hashes e.before e.input.uncached).1) ↔
      CacheAppliesThroughout client hashes (events.map (·.input))) ∧
    ∀ n (hn : n < events.length), ∀ authority ∈ events[n].input.cacheAuthority, ∀ key,
      authority.keyForDocumentQuery hashes events[n].input.query events[n].input.orderedIds
          events[n].input.maxResults = .ok key →
        ∀ documents, (events[n].before.get events[n].input.askedAt key).1 = some documents →
          ∃ w ∈ (events.map (·.input)).take n, authority ∈ w.cacheAuthority ∧
            events[n].input.askedAt < w.writtenAt + client.cacheTtlSeconds ∧
              documents = client.fetch w := by
  have hseparate : ∀ n (hn : n < events.length), HashesSeparate hashes
      ((events.map (·.input)).take n ++ [events[n].input]) := by
    intro n hn
    refine separate.mono fun call hcall => ?_
    have hmap : n < (events.map (·.input)).length := by rwa [List.length_map]
    rw [← take_append_getElem hmap, List.getElem_map]
    exact List.mem_append_left _ hcall
  constructor
  · rw [List.forall_mem_iff_forall_getElem]
    unfold CacheAppliesThroughout
    simp only [List.length_map, List.getElem_map]
    refine forall₂_congr fun n hn => ?_
    have hmade := madeAfter_of_run run hn
    have hsteady : client.Steady hashes store ((events.map (·.input)).take n) := by
      intro w hw
      refine steady w ?_
      rw [← List.take_append_drop n (events.map (·.input))]
      exact writers_mono hw
    rw [hmade.output]
    exact getDocuments_eq_uncached_iff serves hsteady (hseparate n hn) hmade.clock hmade.reflects
  · intro n hn authority hauthority key hkey documents hread
    have hmade := madeAfter_of_run run hn
    have hreflects := hmade.reflects _ fun call hcall => (hmade.clock call hcall).2
    obtain ⟨w, hw, hfound⟩ :=
      exists_writer_of_get (hseparate n hn) hreflects hauthority hkey hread
    exact ⟨w, mem_of_mem_writers hw, hfound⟩

end Runs

/-! ## Calls for the same documents -/

namespace SameDocuments

def zeros : String := String.ofList (List.replicate 64 '0')

/-- The samples have one command and one key, so constant hashes do not collide. -/
def oneKey : CacheKeyHashes := ⟨fun _ => "ech1:" ++ zeros, fun _ => "ck1:" ++ zeros⟩

/-- The store has a second edition of its documents from this time on. -/
def edition (time : ℚ) : ℕ := if time < 301 then 1 else 2

/-- A store whose documents are their ids and editions. -/
def library : DocumentMcpClient (String × ℕ) :=
  ⟨300, fun time ids => ids.map fun id => (id, edition time), Prod.fst⟩

def owner : DocumentMcpCacheAuthorityV1 where
  stateKeyRef := "csk1:" ++ zeros
  policyId := "pol1:" ++ zeros
  manifestRef := "answer_internal_company_knowledge@2026-07-18.1"
  businessScopeHash := "bsh1:" ++ zeros
  sourceCacheConfig := ⟨"document-mcp-client.v1", "corpus.v1", "osh1:" ++ zeros, "osh1:" ++ zeros,
    10000, 50, 300, 128⟩

def feesCall (ids : List String) (time : ℚ) : GetDocumentsCall :=
  ⟨ids, "fees", 2, some owner, time, time⟩

/-- A call, the same call within its time, and one in another order after it. -/
def refreshed : List GetDocumentsCall :=
  [feesCall ["guide", "fund"] 0, feesCall ["guide", "fund"] 1, feesCall ["fund", "guide"] 302]

/-- A call, and one in another order within its time. -/
def reordered : List GetDocumentsCall :=
  [feesCall ["guide", "fund"] 0, feesCall ["fund", "guide"] 1]

theorem serves : library.Serves fun time id => some (id, edition time) := by
  intro time ids id hid hne
  have hsome : (library.resolved (library.answer time ids) id).isSome :=
    List.find?_isSome.mpr ⟨(id, edition time), List.mem_reverse.mpr (List.mem_map_of_mem hid),
      decide_eq_true ⟨hne, rfl⟩⟩
  obtain ⟨document, hdocument⟩ := Option.isSome_iff_exists.mp hsome
  have hmem : document ∈ ids.map fun id => (id, edition time) :=
    List.mem_reverse.mp (List.mem_of_find?_eq_some hdocument)
  obtain ⟨other, _, rfl⟩ := List.mem_map.mp hmem
  obtain rfl : other = id := idText_of_resolved hdocument
  exact hdocument

theorem separate {calls : List GetDocumentsCall}
    (h : ∀ a ∈ calls, a.cacheAuthority = some owner ∧
      a.canonicalCommand owner = (feesCall ["fund", "guide"] 0).canonicalCommand owner) :
    HashesSeparate oneKey calls := by
  have howner : ∀ a ∈ calls, ∀ A ∈ a.cacheAuthority, A = owner :=
    fun a ha A hA => (Option.some.inj ((h a ha).1.symm.trans hA)).symm
  constructor
  · intro a ha b hb A hA B hB _
    rw [howner a ha A hA, howner b hb B hB, (h a ha).2, (h b hb).2]
  · intro a ha b hb A hA B hB _
    rw [howner a ha A hA, howner b hb B hB]
    rfl

/-- The events of the calls. -/
def events (calls : List GetDocumentsCall) : List (Event (DocumentCache (String × ℕ))
    GetDocumentsCall (Except String (List (String × ℕ)))) :=
  ((library.system oneKey).trace [] TtlStore.empty calls).1

theorem map_input_events (calls : List GetDocumentsCall) :
    (events calls).map (·.input) = calls :=
  (library.system oneKey).trace_inputs [] _ _

theorem run {calls : List GetDocumentsCall} (h : (library.system oneKey).accepts
      (fun es e => decide (ClockAdvances es e)) [] TtlStore.empty calls = true) :
    ∃ cache, Run (library.system oneKey) ClockAdvances TtlStore.empty (events calls) cache :=
  ⟨_, Run.nil.trace (fun _ _ => of_decide_eq_true) h⟩

/-- Both orders of the ids have a key. -/
theorem cachedUnder_feesCall {ids : List String} (h : ids ∈ [["guide", "fund"], ["fund", "guide"]])
    (time : ℚ) : library.cachedUnder oneKey (feesCall ids time) = some ("ck1:" ++ zeros) := by
  change library.cachedUnder oneKey (feesCall ids 0) = _
  simp only [List.mem_cons, List.not_mem_nil, or_false] at h
  obtain rfl | rfl := h <;> decide +kernel

/-- What one of the calls wrote answers another until its time is over. -/
theorem writeAnswers_feesCall_iff {a b : List String} {s t : ℚ}
    (ha : a ∈ [["guide", "fund"], ["fund", "guide"]])
    (hb : b ∈ [["guide", "fund"], ["fund", "guide"]]) :
    WriteAnswers library oneKey (feesCall a s) (feesCall b t) ↔ t < s + 300 := by
  have hkey : ∃ key ∈ library.cachedUnder oneKey (feesCall a s),
      key ∈ library.cachedUnder oneKey (feesCall b t) :=
    ⟨_, cachedUnder_feesCall ha s, cachedUnder_feesCall hb t⟩
  have hsome : library.fetch (feesCall a s) ≠ [] := by
    rw [fetch_eq serves]
    simp only [List.mem_cons, List.not_mem_nil, or_false] at ha
    obtain rfl | rfl := ha <;> exact List.cons_ne_nil _ _
  exact ⟨fun h => h.2.1, fun h => ⟨hkey, h, hsome⟩⟩

theorem writers_first : writers library oneKey [feesCall ["guide", "fund"] 0] =
    [feesCall ["guide", "fund"] 0] := by
  simp [writers, cachedUnder_feesCall]

/-- A call within the time of the first one writes nothing. -/
theorem writers_second {ids : List String} (h : ids ∈ [["guide", "fund"], ["fund", "guide"]]) :
    writers library oneKey [feesCall ["guide", "fund"] 0, feesCall ids 1] =
      [feesCall ["guide", "fund"] 0] := by
  have hanswers := (writeAnswers_feesCall_iff (a := ["guide", "fund"]) (s := 0) (t := 1)
    List.mem_cons_self h).mpr (by norm_num)
  rw [← List.singleton_append, writers_append, writers_first, if_neg]
  exact fun hnew => hnew.2 ⟨_, List.mem_singleton_self _, hanswers⟩

/-- A call after the time of the first one writes again. -/
theorem writers_refreshed : writers library oneKey refreshed =
    [feesCall ["guide", "fund"] 0, feesCall ["fund", "guide"] 302] := by
  have hover : ¬WriteAnswers library oneKey (feesCall ["guide", "fund"] 0)
      (feesCall ["fund", "guide"] 302) := by
    rw [writeAnswers_feesCall_iff (by simp) (by simp)]
    norm_num
  have hsplit : refreshed = [feesCall ["guide", "fund"] 0, feesCall ["guide", "fund"] 1] ++
      [feesCall ["fund", "guide"] 302] := rfl
  rw [hsplit, writers_append, writers_second List.mem_cons_self, if_pos]
  · rfl
  · exact ⟨by simp [cachedUnder_feesCall], by simpa using hover⟩

theorem applies_refreshed : CacheAppliesThroughout library oneKey refreshed := by
  have hbuilt : ∀ {ids : List String} {time : ℚ}, ids ∈ [["guide", "fund"], ["fund", "guide"]] →
      (library.cacheKeyRef oneKey (feesCall ids time)).isOk = true := by
    intro ids time h
    rw [(cachedUnder_eq_some (cachedUnder_feesCall h time)).2]
    rfl
  intro n hn
  match n, hn with
  | 0, _ => exact ⟨.inr (hbuilt List.mem_cons_self), nofun⟩
  | 1, _ =>
    refine ⟨.inr (hbuilt List.mem_cons_self), fun w hw _ => ?_⟩
    obtain rfl := List.mem_singleton.mp (writers_first ▸ hw)
    change ((library.fetch (feesCall ["guide", "fund"] 0)).map library.idText).Sublist
      ["guide", "fund"]
    decide +kernel
  | 2, _ =>
    refine ⟨.inr (hbuilt (by simp)), fun w hw hanswers => ?_⟩
    obtain rfl := List.mem_singleton.mp (writers_second List.mem_cons_self ▸ hw)
    have hlive := (writeAnswers_feesCall_iff (by simp) (by simp)).mp hanswers
    norm_num at hlive
  | n + 3, hn => simp [refreshed] at hn

/-- The store changes after the first list has expired, and not before the second one has. -/
theorem steady_refreshed : library.Steady oneKey (fun time id => some (id, edition time))
    refreshed := by
  rw [DocumentMcpClient.Steady, writers_refreshed]
  simp only [List.forall_mem_cons, List.not_mem_nil, false_imp_iff, implies_true, and_true]
  constructor <;> intro time hfrom huntil <;> funext id
  · have hbefore : time < 301 := huntil.trans_le (by norm_num [feesCall, library])
    rw [edition, if_pos hbefore]
    rfl
  · have hafter : ¬time < 301 := (le_trans (by norm_num : (301 : ℚ) ≤ 302) hfrom).not_gt
    rw [edition, if_neg hafter]
    rfl

/-- The store does not change while the one list is live. -/
theorem steady_reordered : library.Steady oneKey (fun time id => some (id, edition time))
    reordered := by
  intro w hw time _ huntil
  rw [reordered, writers_second (by simp)] at hw
  obtain rfl := List.mem_singleton.mp hw
  have hbefore : time < 301 := huntil.trans_le (by norm_num [feesCall, library])
  have hedition : edition time = 1 := if_pos hbefore
  simp only [hedition]
  rfl

end SameDocuments

open SameDocuments in
/-- The second call gets what the first one fetched, and the third one the new edition. -/
theorem cachedCalls_iff_refreshed :
    (∀ e ∈ events refreshed,
        e.output = (library.getDocuments oneKey e.before e.input.uncached).1) ∧
      CacheAppliesThroughout library oneKey refreshed ∧
      (events refreshed).map (·.output) = [.ok [("guide", 1), ("fund", 1)],
        .ok [("guide", 1), ("fund", 1)], .ok [("fund", 2), ("guide", 2)]] := by
  obtain ⟨cache, hrun⟩ := SameDocuments.run (by decide +kernel : (library.system oneKey).accepts
    (fun es e => decide (ClockAdvances es e)) [] TtlStore.empty refreshed = true)
  have hsame : ∀ e ∈ events refreshed,
      e.output = (library.getDocuments oneKey e.before e.input.uncached).1 := by
    refine (cachedCalls_iff hrun SameDocuments.serves ?_ ?_).1.mpr ?_ <;> rw [map_input_events]
    · exact steady_refreshed
    · exact separate (by decide +kernel)
    · exact applies_refreshed
  refine ⟨hsame, applies_refreshed, ?_⟩
  have houtputs : (events refreshed).map (·.output) =
      ((events refreshed).map (·.input)).map (.ok ∘ library.fetch) := by
    rw [List.map_map]
    exact List.map_congr_left fun e he => (hsame e he).trans getDocuments_uncached
  rw [houtputs, map_input_events]
  decide +kernel

open SameDocuments in
/-- The second call gets the documents in the order of the first one. -/
theorem reorderedCall_differs :
    (∃ cache, Run (library.system oneKey) ClockAdvances TtlStore.empty (events reordered) cache) ∧
      library.Serves (fun time id => some (id, edition time)) ∧
      library.Steady oneKey (fun time id => some (id, edition time))
        ((events reordered).map (·.input)) ∧
      HashesSeparate oneKey ((events reordered).map (·.input)) ∧
      ¬∀ e ∈ events reordered,
        e.output = (library.getDocuments oneKey e.before e.input.uncached).1 := by
  rw [map_input_events]
  refine ⟨SameDocuments.run (by decide +kernel), SameDocuments.serves, steady_reordered,
    separate (by decide +kernel), fun h => ?_⟩
  have hsecond : (events reordered).getLast?.map
      (fun e => (e.output, (library.getDocuments oneKey e.before e.input.uncached).1)) =
      some (.ok [("guide", 1), ("fund", 1)], .ok [("fund", 1), ("guide", 1)]) := by decide +kernel
  obtain ⟨e, he, hpair⟩ := Option.map_eq_some_iff.mp hsecond
  have hsame := h e (List.mem_of_getLast? he)
  simp only [Prod.mk.injEq] at hpair
  rw [hpair.1, hpair.2] at hsame
  exact absurd hsame (by decide)

end MarketSupport
