import FinStream.Domain.System

/-! How often a TMO sync counts the payments it captured, across every stream. -/

namespace FinStream

open Store

variable {platform : Platform}

/-- Whether an event stands for the payment of this identity, on whatever stream. -/
def StreamEvent.IsHistoryOf (identity : PaymentIdentity) (event : StreamEvent) : Prop :=
  event.sourceType = some .tmoHistory ∧ event.sourceId = some (.history identity)

/-- Whether a capture contains the payment of this identity. -/
def Captures (platform : Platform) (capture : TmoSyncCapture) (identity : PaymentIdentity) : Prop :=
  ∃ payment ∈ capture.payments,
    capturedIdentity platform "payment check date" payment = .ok identity

/-- Each captured payment has one history event in all streams, and there are no other ones. -/
structure CountsOnce (platform : Platform) (capture : TmoSyncCapture) (db : Domain) : Prop where
  /-- The payment's row is linked to its event, and no other event stands for the payment. -/
  represented : ∀ payment ∈ capture.payments, ∃ identity paymentId row eventId event,
    capturedIdentity platform "payment check date" payment = .ok identity ∧
    (paymentId, row) ∈ db.integrations.payments ∧
    row.key = some (capture.connectionId, identity) ∧
    (eventId, event) ∈ db.finance.events ∧ event.IsHistoryOf identity ∧
    Linked db.integrations.links paymentId eventId ∧
    ∀ other otherEvent, (other, otherEvent) ∈ db.finance.events →
      otherEvent.IsHistoryOf identity → other = eventId
  /-- Every history event stands for a captured payment. -/
  covered : ∀ eventId event, (eventId, event) ∈ db.finance.events →
    event.sourceType = some .tmoHistory →
    ∃ identity, Captures platform capture identity ∧ event.IsHistoryOf identity

/-- Whether an event is linked from a payment that the connection had and the capture dropped. -/
def IsDropped (platform : Platform) (capture : TmoSyncCapture) (db : Domain) (eventId : ℕ) : Prop :=
  ∃ paymentId row, Linked db.integrations.links paymentId eventId ∧
    (paymentId, row) ∈ db.integrations.payments ∧ row.connectionId = capture.connectionId ∧
    ¬ Captures platform capture row.externalId

/-- Whether every history event outside a stream is one the capture drops. -/
def DropsElsewhere (platform : Platform) (capture : TmoSyncCapture) (streamId : ℕ) (db : Domain) :
    Prop :=
  ∀ eventId event, (eventId, event) ∈ db.finance.events → event.sourceType = some .tmoHistory →
    event.streamId ≠ streamId → IsDropped platform capture db eventId

/-- The identities of the captured payments are those the capture contains. -/
theorem captures_iff {capture : TmoSyncCapture} {entries : List CapturedPayment}
    (same : entries.map Prod.fst = capture.payments)
    (identities : ∀ entry ∈ entries,
      capturedIdentity platform "payment check date" entry.1 = .ok entry.2)
    {identity : PaymentIdentity} :
    Captures platform capture identity ↔ ∃ entry ∈ entries, entry.2 = identity := by
  unfold Captures
  rw [← same]
  constructor
  · rintro ⟨payment, captured, identified⟩
    obtain ⟨entry, member, rfl⟩ := List.mem_map.mp captured
    exact ⟨entry, member, capturedIdentity_unique (identities entry member) identified⟩
  · rintro ⟨entry, member, rfl⟩
    exact ⟨entry.1, List.mem_map_of_mem member, identities entry member⟩

/-- A payment is stale after a sync exactly when the capture does not contain it. -/
theorem isStaleLinked_iff {capture : TmoSyncCapture} {entries : List CapturedPayment}
    (same : entries.map Prod.fst = capture.payments)
    (identities : ∀ entry ∈ entries,
      capturedIdentity platform "payment check date" entry.1 = .ok entry.2)
    {db : Domain} {eventId : ℕ} :
    IsStaleLinked capture entries db eventId ↔ IsDropped platform capture db eventId := by
  unfold IsStaleLinked IsDropped
  refine exists_congr fun paymentId => exists_congr fun row => ?_
  refine and_congr_right fun _ => and_congr_right fun _ => and_congr_right fun connection => ?_
  rw [captures_iff same identities]
  refine not_congr ⟨?_, ?_⟩
  · rintro ⟨entry, member, key⟩
    simp only [TmoImportPayment.key, Option.some.injEq, Prod.mk.injEq] at key
    exact ⟨entry, member, key.2.symm⟩
  · rintro ⟨entry, member, identity⟩
    exact ⟨entry, member, by simp [TmoImportPayment.key, connection, identity]⟩

/-- The event a sync stores for a captured payment is the only one of its stream. -/
theorem Replaced.representative {capture : TmoSyncCapture} {streamId : ℕ}
    {entries : List CapturedPayment} {before after : Domain}
    (replaced : Replaced capture streamId entries before after) {entry : CapturedPayment}
    (member : entry ∈ entries) :
    ∃ paymentId row eventId event, (paymentId, row) ∈ after.integrations.payments ∧
      row.key = some (capture.connectionId, entry.2) ∧ (eventId, event) ∈ after.finance.events ∧
      event.key = some (streamId, .tmoHistory, .history entry.2) ∧
      Linked after.integrations.links paymentId eventId ∧
      ∀ other otherEvent, (other, otherEvent) ∈ after.finance.events →
        otherEvent.IsHistoryOf entry.2 → otherEvent.streamId = streamId → other = eventId := by
  obtain ⟨checkDate, date, paymentId, row, eventId, event, -, -, payment, isRow, stored, key, -,
    linked⟩ := replaced.stored entry member
  refine ⟨paymentId, row, eventId, event, payment, ?_, stored, key, linked, ?_⟩
  · rw [isRow]
    rfl
  · -- On one stream the UNIQUE key of events tells payments apart.
    rintro other otherEvent there ⟨type, source⟩ stream
    exact replaced.consistent.eventKeys _ _ _ _ _ there stored
      (StreamEvent.key_eq_some.mpr ⟨stream, type, source⟩) key

/-- A sync counts each payment once exactly when it drops every history event elsewhere. -/
theorem Replaced.countsOnce_iff {capture : TmoSyncCapture} {streamId : ℕ}
    {entries : List CapturedPayment} {before after : Domain}
    (replaced : Replaced capture streamId entries before after)
    (same : entries.map Prod.fst = capture.payments)
    (identities : ∀ entry ∈ entries,
      capturedIdentity platform "payment check date" entry.1 = .ok entry.2) :
    CountsOnce platform capture after ↔ DropsElsewhere platform capture streamId before := by
  constructor
  · -- An event the sync keeps elsewhere would be a second one for a captured payment.
    intro counts eventId event stored type elsewhere
    by_contra kept
    rw [← isStaleLinked_iff same identities] at kept
    have there := (replaced.elsewhere eventId event type elsewhere).mpr ⟨stored, kept⟩
    obtain ⟨identity, captured, history⟩ := counts.covered eventId event there type
    obtain ⟨entry, member, rfl⟩ := (captures_iff same identities).mp captured
    obtain ⟨_, _, own, ownEvent, -, -, ownStored, key, -, -⟩ := replaced.representative member
    obtain ⟨stream, ownType, ownSource⟩ := StreamEvent.key_eq_some.mp key
    have payment : entry.1 ∈ capture.payments := same ▸ List.mem_map_of_mem member
    obtain ⟨other, _, _, _, _, identified, -, -, -, -, -, alone⟩ :=
      counts.represented entry.1 payment
    obtain rfl := capturedIdentity_unique identified (identities entry member)
    have sameId : eventId = own :=
      (alone _ _ there history).trans (alone _ _ ownStored ⟨ownType, ownSource⟩).symm
    subst sameId
    obtain rfl := Table.unique there ownStored
    exact elsewhere stream
  · intro drops
    -- After the sync every history event is on the selected stream.
    have home : ∀ eventId event, (eventId, event) ∈ after.finance.events →
        event.sourceType = some .tmoHistory → event.streamId = streamId := by
      intro eventId event there type
      by_contra elsewhere
      obtain ⟨stored, kept⟩ := (replaced.elsewhere eventId event type elsewhere).mp there
      rw [isStaleLinked_iff same identities] at kept
      exact kept (drops eventId event stored type elsewhere)
    constructor
    · intro payment captured
      rw [← same] at captured
      obtain ⟨entry, member, rfl⟩ := List.mem_map.mp captured
      obtain ⟨paymentId, row, eventId, event, stored, rowKey, there, key, linked, alone⟩ :=
        replaced.representative member
      obtain ⟨-, type, source⟩ := StreamEvent.key_eq_some.mp key
      refine ⟨entry.2, paymentId, row, eventId, event, identities entry member, stored, rowKey,
        there, ⟨type, source⟩, linked, fun other otherEvent otherThere history => ?_⟩
      exact alone other otherEvent otherThere history (home _ _ otherThere history.1)
    · intro eventId event there type
      obtain ⟨entry, member, key⟩ :=
        replaced.selected eventId event there type (home eventId event there type)
      obtain ⟨-, type, source⟩ := StreamEvent.key_eq_some.mp key
      exact ⟨entry.2, (captures_iff same identities).mpr ⟨entry, member, rfl⟩, type, source⟩

/-- The runs in which every sync selects the same stream. -/
def steadySystem (platform : Platform) (streamId : ℕ) : System Domain DomainOp :=
  (domainSystem platform).restrict fun db op => ∀ capture, op = .tmoSync capture →
    requireTrustDeedStream db.finance = .ok streamId

/-- In runs that always select one stream, every history event is on that stream. -/
theorem steady_history {streamId : ℕ} {db : Domain}
    (reached : (steadySystem platform streamId).Reachable db) :
    ∀ eventId event, (eventId, event) ∈ db.finance.events →
      event.sourceType = some .tmoHistory → event.streamId = streamId := by
  refine reached.invariant (fun db => ∀ eventId event, (eventId, event) ∈ db.finance.events →
    event.sourceType = some .tmoHistory → event.streamId = streamId) ?_ ?_
  · intro db fresh eventId event stored
    have fresh : Domain.Fresh db := fresh
    rw [fresh.finance] at stored
    exact absurd stored (Table.not_mem_empty _)
  · rintro op before after earlier home ⟨steady, done⟩
    have consistent := reachable_consistent (System.Reachable.of_restrict earlier)
    cases op with
    | tmoSync capture =>
      -- A sync stores events on the stream it selects and nowhere else.
      obtain ⟨result, applied, rfl⟩ := Option.map_eq_some_iff.mp done
      obtain ⟨selected, entries, selects, -, -, -, replaced⟩ :=
        applyTmoSync_replaced consistent (toOption_eq_some.mp applied)
      rw [steady capture rfl, Except.ok.injEq] at selects
      subst selects
      intro eventId event there type
      by_contra elsewhere
      exact elsewhere (home eventId event
        ((replaced.elsewhere eventId event type elsewhere).mp there).1 type)
    | finance op =>
      -- A finance operation creates no history events and moves no event between streams.
      have committed := DomainOp.commit_committed consistent done
      refine committed.events.forall_rows (fun _ event =>
        event.sourceType = some .tmoHistory → event.streamId = streamId) ?_ ?_ home
      · intro id event created type
        cases op with
        | saveStream | refreshStreamScheduleEvents | deleteStream | bootstrapDefaults =>
          obtain ⟨_, _, _, _, _, -, rfl⟩ := created
          cases type
        | createManualEvent =>
          obtain ⟨-, _, rfl⟩ := created
          cases type
        | saveAccount | ensurePrimaryAccount | setStartingBalance | saveView | patchEvent
        | removeEvent | restoreScheduledEvent | reconcileEvent => exact created.elim
      · intro id row now holds changed
        have origin := domainRules_origin (.finance op) _ changed
        simp only [StreamEvent.origin, Prod.mk.injEq] at origin
        rw [origin.1, origin.2.1]
        exact holds
    | tmoError | monarchBalance | monarchError =>
      have committed := DomainOp.commit_committed consistent done
      exact committed.events.forall_rows (fun _ event =>
        event.sourceType = some .tmoHistory → event.streamId = streamId)
        (fun _ _ created => created.elim) (fun _ _ _ _ changed => changed.elim) home

/--
A sync counts each payment once exactly when it drops every history event on other streams.

In particular it does so in every run whose syncs all select the same stream.
-/
theorem sync_counts_once (platform : Platform) :
    (∀ before capture result, (domainSystem platform).Reachable before →
      applyTmoSync platform capture before = .ok result →
      (CountsOnce platform capture result.2 ↔ ∀ streamId,
        requireTrustDeedStream before.finance = .ok streamId →
        DropsElsewhere platform capture streamId before)) ∧
    (∀ streamId before capture result, (steadySystem platform streamId).Reachable before →
      requireTrustDeedStream before.finance = .ok streamId →
      applyTmoSync platform capture before = .ok result →
      CountsOnce platform capture result.2) := by
  have exact_ : ∀ before capture result, (domainSystem platform).Reachable before →
      applyTmoSync platform capture before = .ok result →
      (CountsOnce platform capture result.2 ↔ ∀ streamId,
        requireTrustDeedStream before.finance = .ok streamId →
        DropsElsewhere platform capture streamId before) := by
    intro before capture result reached done
    -- The sync stored all payments on the one stream that it selects.
    obtain ⟨streamId, entries, selects, same, identities, -, replaced⟩ :=
      applyTmoSync_replaced (reachable_consistent reached) done
    rw [replaced.countsOnce_iff same identities, selects]
    constructor
    · rintro drops _ ⟨⟩
      exact drops
    · exact fun drops => drops streamId rfl
  refine ⟨exact_, fun streamId before capture result reached selects done => ?_⟩
  rw [exact_ before capture result reached.of_restrict done]
  -- On a run that always selects one stream, no history is on another.
  intro other otherSelects eventId event stored type elsewhere
  rw [selects, Except.ok.injEq] at otherSelects
  exact absurd (otherSelects ▸ steady_history reached eventId event stored type) elsewhere

/-- A check of 500 for a loan. -/
def loanCheck : TmoPayment :=
  ⟨"1001", "L1", "2026-01-05", .finite 500, .finite 0, .finite 500, .finite 0, .finite 0, .finite 0,
    .finite 0, "Borrower", "Property"⟩

/-- A capture of one check for a loan that has left the portfolio. -/
def onePayment : TmoSyncCapture where
  connectionId := 1
  capturedAt := "2026-01-07T00:00:00Z"
  snapshotDate := "2026-01-07"
  companyId := "company"
  accountNumber := "account"
  user := ⟨"1", "company", "account", "Lender", "lender@example.com"⟩
  overview := ⟨.finite 0, .finite 0, .finite 0, .finite 0, 0, .finite 0, .finite 0, .finite 0⟩
  loans := []
  loanDetails := []
  loanDetailFailures := 0
  payments := [loanCheck]

/-- A draft of a stream that TMO payments are normalised into. -/
def trustDeedsStream : StreamDraft :=
  { allowanceStream none [] with streamType := "mortgage_portfolio", direction := .in_ }

/-- The stream a payment was synced into is deleted, and another one takes its place. -/
def movedOps : List DomainOp := [
  .finance (.saveStream "2026-01-07T00:00:00Z" trustDeedsStream twoWeeks),
  .tmoSync onePayment,
  .finance (.deleteStream "2026-01-07T00:00:00Z" 1),
  .finance (.saveStream "2026-01-07T00:00:00Z" trustDeedsStream twoWeeks)]

/-- The state in which the payment is about to be synced again. -/
def movedDomain : Domain := replay plainPlatform movedOps .registered

/-- The identity of the check. -/
def loanCheckIdentity : PaymentIdentity := ⟨"L1", "2026-01-05", 50000⟩

/-- The payment synced again is stored twice, once on the deleted stream. -/
theorem sync_counts_twice :
    (domainSystem plainPlatform).Reachable movedDomain ∧
      ∃ result, applyTmoSync plainPlatform onePayment movedDomain = .ok result ∧
        ¬ CountsOnce plainPlatform onePayment result.2 := by
  refine ⟨replay_reachable (by decide +kernel), ?_⟩
  -- Both events have the identity of the payment, one on each stream.
  have twice : ((applyTmoSync plainPlatform onePayment movedDomain).toOption.map fun result =>
      [1, 2].map fun id => (result.2.finance.events.get? id).map StreamEvent.origin) =
      some [some (1, some .tmoHistory, some (.history loanCheckIdentity)),
        some (2, some .tmoHistory, some (.history loanCheckIdentity))] := by decide +kernel
  obtain ⟨result, done, events⟩ := Option.map_eq_some_iff.mp twice
  refine ⟨result, toOption_eq_some.mp done, fun counts => ?_⟩
  simp only [List.map_cons, List.map_nil, List.cons.injEq, Option.map_eq_some_iff,
    Table.get?_eq_some, and_true] at events
  obtain ⟨⟨first, firstStored, firstOrigin⟩, second, secondStored, secondOrigin⟩ := events
  simp only [StreamEvent.origin, Prod.mk.injEq] at firstOrigin secondOrigin
  obtain ⟨identity, _, _, _, _, identified, -, -, -, -, -, alone⟩ :=
    counts.represented _ List.mem_cons_self
  have known : capturedIdentity plainPlatform "payment check date" loanCheck =
      .ok loanCheckIdentity := by decide +kernel
  obtain rfl := capturedIdentity_unique identified known
  have same := (alone _ _ firstStored firstOrigin.2).trans
    (alone _ _ secondStored secondOrigin.2).symm
  cases same

end FinStream
