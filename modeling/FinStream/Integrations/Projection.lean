import FinStream.Finance.Operation
import FinStream.Integrations.TmoWrite

/-! What replacing the payment projection does to payments, links and events. -/

namespace FinStream

open Store

/-! ### Links -/

/-- Whether a payment is linked to an event. -/
def Linked (links : List PaymentEventLink) (paymentId eventId : ℕ) : Prop :=
  ∃ link ∈ links, link.tmoPaymentId = paymentId ∧ link.streamEventId = eventId

/-- Linking a payment moves its link and leaves the links of other payments alone. -/
theorem linked_upsertLink {links : List PaymentEventLink} {link : PaymentEventLink}
    {paymentId eventId : ℕ} : Linked (upsertLink link links) paymentId eventId ↔
      if paymentId = link.tmoPaymentId then eventId = link.streamEventId
      else Linked links paymentId eventId := by
  unfold upsertLink Linked
  split
  · -- The payment was linked before, so its link is redirected in place.
    rename_i present
    obtain ⟨old, member, same⟩ := List.any_eq_true.mp present
    simp only [beq_iff_eq] at same
    constructor
    · rintro ⟨_, changed, rfl, rfl⟩
      obtain ⟨other, stored, rfl⟩ := List.mem_map.mp changed
      by_cases at_ : other.tmoPaymentId = link.tmoPaymentId
      · simp [at_]
      · simpa [at_] using ⟨other, stored, rfl, rfl⟩
    · split
      · rename_i at_
        rintro rfl
        exact ⟨_, List.mem_map_of_mem member, by simp [same, at_], by simp [same]⟩
      · rintro ⟨other, stored, rfl, rfl⟩
        rename_i at_
        exact ⟨_, List.mem_map_of_mem stored, by simp [at_], by simp [at_]⟩
  · rename_i absent
    have fresh : ∀ other ∈ links, other.tmoPaymentId ≠ link.tmoPaymentId := fun other stored same =>
      absent (List.any_eq_true.mpr ⟨other, stored, by simp [same]⟩)
    simp only [List.mem_append, List.mem_singleton]
    constructor
    · rintro ⟨other, stored | rfl, rfl, rfl⟩
      · rw [if_neg (fresh other stored)]
        exact ⟨other, stored, rfl, rfl⟩
      · simp
    · split
      · rename_i at_
        rintro rfl
        exact ⟨link, .inr rfl, at_.symm, rfl⟩
      · rintro ⟨other, stored, same, target⟩
        exact ⟨other, .inl stored, same, target⟩

/-- A deletion keeps exactly the links whose payment and event are still stored. -/
theorem linked_cascadeLinks {db : Domain} {paymentId eventId : ℕ} :
    Linked (cascadeLinks db).integrations.links paymentId eventId ↔
      Linked db.integrations.links paymentId eventId ∧
        (∃ row, (paymentId, row) ∈ db.integrations.payments) ∧
        ∃ event, (eventId, event) ∈ db.finance.events := by
  simp only [Linked, cascadeLinks, List.mem_filter, Bool.and_eq_true, Option.isSome_iff_exists,
    Table.get?_eq_some]
  constructor
  · rintro ⟨link, ⟨stored, payment, event⟩, rfl, rfl⟩
    exact ⟨⟨link, stored, rfl, rfl⟩, payment, event⟩
  · rintro ⟨⟨link, stored, rfl, rfl⟩, payment, event⟩
    exact ⟨link, ⟨stored, payment, event⟩, rfl, rfl⟩

/-- A domain after deletions: fewer rows, and the links between the rows that are left. -/
structure Shrunk (before after : Domain) : Prop where
  /-- No payment is new. -/
  payments : ∀ entry ∈ after.integrations.payments, entry ∈ before.integrations.payments
  /-- No event is new. -/
  events : ∀ entry ∈ after.finance.events, entry ∈ before.finance.events
  /-- Exactly the links between stored rows are left. -/
  links : ∀ {paymentId eventId}, Linked after.integrations.links paymentId eventId ↔
    Linked before.integrations.links paymentId eventId ∧
      (∃ row, (paymentId, row) ∈ after.integrations.payments) ∧
      ∃ event, (eventId, event) ∈ after.finance.events

/-- Deletions one after the other delete together. -/
theorem Shrunk.trans {before middle after : Domain} (first : Shrunk before middle)
    (second : Shrunk middle after) : Shrunk before after where
  payments := fun entry stored => first.payments entry (second.payments entry stored)
  events := fun entry stored => first.events entry (second.events entry stored)
  links := by
    intro paymentId eventId
    rw [second.links, first.links]
    constructor
    · rintro ⟨⟨linked, -, -⟩, stored⟩
      exact ⟨linked, stored⟩
    · rintro ⟨linked, ⟨row, payment⟩, event, stored⟩
      exact ⟨⟨linked, ⟨row, second.payments _ payment⟩, event, second.events _ stored⟩,
        ⟨row, payment⟩, event, stored⟩

/-- Deleting events deletes rows and links. -/
theorem deleteEvents_shrunk (condition : ℕ → StreamEvent → Bool) (db : Domain) :
    Shrunk db (deleteEvents condition db) where
  payments := fun _ => id
  events := fun _ stored => (Table.mem_deleteWhere.mp stored).1
  links := linked_cascadeLinks

/-- Deleting payments deletes rows and links. -/
theorem deletePayments_shrunk (condition : ℕ → TmoImportPayment → Bool) (db : Domain) :
    Shrunk db (deletePayments condition db) where
  payments := fun _ stored => (Table.mem_deleteWhere.mp stored).1
  events := fun _ => id
  links := linked_cascadeLinks

/-- An event is linked when some payment that meets the condition is linked to it. -/
theorem isLinked_iff {connectionId : ℕ} {condition : TmoImportPayment → Bool} {db : Integrations}
    {eventId : ℕ} : isLinked connectionId condition db eventId = true ↔
      ∃ paymentId row, Linked db.links paymentId eventId ∧ (paymentId, row) ∈ db.payments ∧
        row.connectionId = connectionId ∧ condition row = true := by
  simp only [isLinked, List.any_eq_true, Bool.and_eq_true, beq_iff_eq, Option.any_eq_true_iff_get,
    Linked]
  constructor
  · rintro ⟨link, stored, rfl, some_, meets⟩
    obtain ⟨row, found⟩ := Option.isSome_iff_exists.mp some_
    simp only [found, Option.get_some] at meets
    exact ⟨link.tmoPaymentId, row, ⟨link, stored, rfl, rfl⟩, Table.get?_eq_some.mp found, meets⟩
  · rintro ⟨_, row, ⟨link, stored, rfl, rfl⟩, found, meets⟩
    have found := Table.get?_eq_some.mpr found
    exact ⟨link, stored, rfl, by simp [found], by simpa [found] using meets⟩

/-- The keys and links a sync relies on and restores. -/
structure Domain.Consistent (db : Domain) : Prop where
  /-- No two events share stream, source type and source id. -/
  eventKeys : UniqueKey StreamEvent.key db.finance.events
  /-- No two payments of a connection share an identity. -/
  paymentKeys : UniqueKey TmoImportPayment.key db.integrations.payments
  /-- A payment is linked to one event at most. -/
  functional : ∀ paymentId left right, Linked db.integrations.links paymentId left →
    Linked db.integrations.links paymentId right → left = right
  /-- A link leads from a stored payment to the history event of that payment. -/
  sound : ∀ paymentId eventId, Linked db.integrations.links paymentId eventId →
    ∃ row event, (paymentId, row) ∈ db.integrations.payments ∧
      (eventId, event) ∈ db.finance.events ∧ event.sourceType = some .tmoHistory ∧
        event.sourceId = some (.history row.externalId)

namespace Domain.Consistent

variable {db : Domain}

/-- Deleting rows and the links that name them keeps a domain consistent. -/
theorem shrunk (consistent : db.Consistent) {smaller : Domain} (deleted : Shrunk db smaller) :
    smaller.Consistent where
  eventKeys := consistent.eventKeys.subset deleted.events
  paymentKeys := consistent.paymentKeys.subset deleted.payments
  functional := fun paymentId left right leftLinked rightLinked =>
    consistent.functional paymentId left right (deleted.links.mp leftLinked).1
      (deleted.links.mp rightLinked).1
  sound := by
    -- The rows a kept link names are the ones it named before the deletion.
    intro paymentId eventId linked
    obtain ⟨linked, ⟨row, payment⟩, event, stored⟩ := deleted.links.mp linked
    obtain ⟨row', event', payment', stored', sourced⟩ := consistent.sound paymentId eventId linked
    obtain rfl := Table.unique payment' (deleted.payments _ payment)
    obtain rfl := Table.unique stored' (deleted.events _ stored)
    exact ⟨row', event', payment, stored, sourced⟩

/-- Staging payments as stale keeps a domain consistent. -/
theorem stagePayments (consistent : db.Consistent) (capture : TmoSyncCapture) :
    (FinStream.stagePayments capture db).Consistent where
  eventKeys := consistent.eventKeys
  paymentKeys := consistent.paymentKeys.updateWhere fun _ _ _ _ => rfl
  functional := consistent.functional
  sound := by
    intro paymentId eventId linked
    obtain ⟨row, event, payment, stored, type, source⟩ := consistent.sound paymentId eventId linked
    refine ⟨_, event, Table.mem_updateWhere.mpr ⟨row, payment, rfl⟩, stored, type, ?_⟩
    split <;> exact source

end Domain.Consistent

/-! ### One payment -/

/-- The key of the event a payment is normalised to. -/
theorem TmoPayment.event_key (capture : TmoSyncCapture) (streamId : ℕ) (identity : PaymentIdentity)
    (date : IsoDate) (payment : TmoPayment) : (payment.event capture streamId identity date).key =
      some (streamId, .tmoHistory, .history identity) := rfl

/-- Storing a payment succeeds with one upsert of its row, one of its event, and one of its link. -/
theorem normalizePayment_eq_ok {platform : Platform} {capture : TmoSyncCapture} {streamId : ℕ}
    {payment : TmoPayment} {db after : Domain}
    (done : normalizePayment platform capture streamId payment db = .ok after) :
    ∃ checkDate identity date,
      requiredDate "payment check date" payment.checkDate = .ok checkDate ∧
      paymentExternalId platform payment checkDate = .ok identity ∧
      checkDateText checkDate = .ok date ∧
      let row := payment.row capture identity checkDate
      let event := payment.event capture streamId identity date
      let stored := db.integrations.payments.upsert (fun old => old.key == row.key) row
        fun old => { row with importedAt := old.importedAt }
      let projected := db.finance.events.upsert (sameSource event) event event.renormalized
      after = {
        finance := { db.finance with events := projected.2 }
        integrations := { db.integrations with
          payments := stored.2
          links := upsertLink ⟨stored.1, projected.1, capture.capturedAt⟩
            db.integrations.links } } := by
  simp only [normalizePayment, bind_eq_ok, pure_eq_ok] at done
  obtain ⟨checkDate, dated, identity, identified, date, checked, _, -, _, -, rfl⟩ := done
  exact ⟨checkDate, identity, date, dated, identified, checked, rfl⟩

/-- A captured payment with its row, its event and the link between them, all up to date. -/
def IsStored (capture : TmoSyncCapture) (streamId : ℕ) (db : Domain) (payment : TmoPayment)
    (identity : PaymentIdentity) : Prop :=
  ∃ checkDate date paymentId row eventId event,
    requiredDate "payment check date" payment.checkDate = .ok checkDate ∧
    checkDateText checkDate = .ok date ∧
    (paymentId, row) ∈ db.integrations.payments ∧
    row = { payment.row capture identity checkDate with importedAt := row.importedAt } ∧
    (eventId, event) ∈ db.finance.events ∧
    event.key = some (streamId, .tmoHistory, .history identity) ∧
    event = (payment.event capture streamId identity date).renormalized event ∧
    Linked db.integrations.links paymentId eventId

/-- A captured payment together with its identity. -/
abbrev CapturedPayment := TmoPayment × PaymentIdentity

/-- Whether a payment row is one the given payments are stored in. -/
def IsPaymentOf (capture : TmoSyncCapture) (entries : List CapturedPayment)
    (row : TmoImportPayment) : Prop :=
  ∃ entry ∈ entries, row.key = some (capture.connectionId, entry.2)

/-- Whether an event is one the given payments are normalised to. -/
def IsEventOf (streamId : ℕ) (entries : List CapturedPayment) (event : StreamEvent) : Prop :=
  ∃ entry ∈ entries, event.key = some (streamId, .tmoHistory, .history entry.2)

/-- What a sync may do to events: everything to history events, and drop obsolete projections. -/
def syncRules : Rules StreamEvent where
  create event := event.sourceType = some .tmoHistory ∧
    ∃ identity, event.sourceId = some (.history identity)
  change _ before after := before.sourceType = some .tmoHistory ∧
    ∃ fresh : StreamEvent, after = fresh.renormalized before
  remove _ event := event.sourceType = some .tmoHistory ∨ event.sourceType = some .schedule

/-- What storing some payments leaves, and what it leaves alone. -/
structure Normalized (capture : TmoSyncCapture) (streamId : ℕ) (entries : List CapturedPayment)
    (before after : Domain) : Prop where
  /-- The domain stays consistent. -/
  consistent : before.Consistent → after.Consistent
  /-- The payments are stored. -/
  stored : ∀ entry ∈ entries, IsStored capture streamId after entry.1 entry.2
  /-- Other payments are untouched. -/
  payments : ∀ paymentId row, ¬ IsPaymentOf capture entries row →
    ((paymentId, row) ∈ after.integrations.payments ↔
      (paymentId, row) ∈ before.integrations.payments)
  /-- Links of other payments are untouched. -/
  links : ∀ paymentId row eventId, (paymentId, row) ∈ before.integrations.payments →
    ¬ IsPaymentOf capture entries row →
    (Linked after.integrations.links paymentId eventId ↔
      Linked before.integrations.links paymentId eventId)
  /-- Other events are untouched. -/
  events : ∀ eventId event, ¬ IsEventOf streamId entries event →
    ((eventId, event) ∈ after.finance.events ↔ (eventId, event) ∈ before.finance.events)
  /-- Events change by the rules of a sync. -/
  evolves : Evolves syncRules before.finance.events after.finance.events
  /-- No finance table but the events changes. -/
  finance : after.finance = { before.finance with events := after.finance.events }
  /-- No integration table but payments and links changes. -/
  integrations : after.integrations = { before.integrations with
    payments := after.integrations.payments
    links := after.integrations.links }

/-- Storing a payment's row conflicts exactly with the row of its identity. -/
theorem paymentUpserted (payments : Table TmoImportPayment) (row : TmoImportPayment) :
    Table.Upserted TmoImportPayment.key row payments
      (payments.upsert (fun old => old.key == row.key) row
        fun old => { row with importedAt := old.importedAt }).1
      (payments.upsert (fun old => old.key == row.key) row
        fun old => { row with importedAt := old.importedAt }).2 := by
  refine Table.upserted rfl (fun old => by simp) fun old same => ?_
  simp only [beq_iff_eq] at same
  exact same.symm

/-- Storing a payment's event conflicts exactly with the event of its key. -/
theorem eventUpserted (events : Table StreamEvent) (event : StreamEvent)
    (keyed : event.key.isSome) :
    Table.Upserted StreamEvent.key event events
      (events.upsert (sameSource event) event event.renormalized).1
      (events.upsert (sameSource event) event event.renormalized).2 := by
  refine Table.upserted keyed (fun old => ?_) fun old same => rfl
  obtain ⟨key, has⟩ := Option.isSome_iff_exists.mp keyed
  rw [sameSource_iff, has]
  constructor
  · rintro ⟨_, same, other⟩
    exact other.trans same.symm
  · exact fun same => ⟨key, rfl, same⟩

/-- Storing a payment, its event and its link keeps a domain consistent. -/
theorem Domain.Consistent.link {db : Domain} (consistent : db.Consistent)
    {row : TmoImportPayment} {event : StreamEvent} {identity : PaymentIdentity} {streamId : ℕ}
    {paymentId eventId : ℕ} {payments : Table TmoImportPayment} {events : Table StreamEvent}
    {at_ : String}
    (stored : Table.Upserted TmoImportPayment.key row db.integrations.payments paymentId payments)
    (projected : Table.Upserted StreamEvent.key event db.finance.events eventId events)
    (rowKey : row.externalId = identity)
    (eventKey : event.key = some (streamId, .tmoHistory, .history identity))
    (rowMember : ∃ row, (paymentId, row) ∈ payments)
    (eventMember : ∃ event, (eventId, event) ∈ events) :
    Domain.Consistent {
      finance := { db.finance with events }
      integrations := { db.integrations with
        payments
        links := upsertLink ⟨paymentId, eventId, at_⟩ db.integrations.links } } where
  eventKeys := projected.unique consistent.eventKeys
  paymentKeys := stored.unique consistent.paymentKeys
  functional := by
    intro other left right leftLinked rightLinked
    rw [linked_upsertLink] at leftLinked rightLinked
    split at leftLinked
    · rename_i same
      rw [if_pos same] at rightLinked
      rw [leftLinked, rightLinked]
    · rename_i different
      rw [if_neg different] at rightLinked
      exact consistent.functional other left right leftLinked rightLinked
  sound := by
    intro other target linked
    obtain ⟨newEvent, newMember⟩ := eventMember
    have newKey := (projected.result newEvent newMember).trans eventKey
    obtain ⟨-, newType, newSource⟩ := StreamEvent.key_eq_some.mp newKey
    rw [linked_upsertLink] at linked
    split at linked
    · -- The new link leads from the payment's row to its event.
      rename_i same
      subst same linked
      obtain ⟨newRow, rowMember⟩ := rowMember
      have same := stored.result newRow rowMember
      simp only [TmoImportPayment.key, Option.some.injEq, Prod.mk.injEq] at same
      exact ⟨newRow, newEvent, rowMember, newMember, newType, by
        rw [same.2, rowKey]; exact newSource⟩
    · -- An old link still leads to its event, which at most got new values.
      rename_i different
      obtain ⟨oldRow, oldEvent, rowStored, eventStored, type, source⟩ :=
        consistent.sound other target linked
      have rowStored := (stored.elsewhere other oldRow different).mpr rowStored
      by_cases at_ : target = eventId
      · subst at_
        have same := StreamEvent.key_eq_some.mp
          ((projected.replaced oldEvent eventStored).trans eventKey)
        exact ⟨oldRow, newEvent, rowStored, newMember, newType, by
          rw [newSource, ← same.2.2]; exact source⟩
      · exact ⟨oldRow, oldEvent, rowStored,
          (projected.elsewhere target oldEvent at_).mpr eventStored, type, source⟩

/-- Every successful step of the loop stores its payment and touches nothing else. -/
theorem normalizePayment_normalized {platform : Platform} {capture : TmoSyncCapture}
    {streamId : ℕ} {payment : TmoPayment} {before after : Domain}
    (done : normalizePayment platform capture streamId payment before = .ok after) :
    ∃ identity, capturedIdentity platform "payment check date" payment = .ok identity ∧
      Normalized capture streamId [(payment, identity)] before after := by
  obtain ⟨checkDate, identity, date, dated, identified, checked, rfl⟩ := normalizePayment_eq_ok done
  refine ⟨identity, by simp only [capturedIdentity, dated]; exact identified, ?_⟩
  obtain ⟨storedRow, rowMember, rowResult⟩ := before.integrations.payments.upsert_stored
    (fun old => old.key == (payment.row capture identity checkDate).key)
    (payment.row capture identity checkDate)
    (fun old => { payment.row capture identity checkDate with importedAt := old.importedAt })
  obtain ⟨storedEvent, eventMember, eventResult⟩ := before.finance.events.upsert_stored
    (sameSource (payment.event capture streamId identity date))
    (payment.event capture streamId identity date)
    (payment.event capture streamId identity date).renormalized
  have stored := paymentUpserted before.integrations.payments
    (payment.row capture identity checkDate)
  have projected := eventUpserted before.finance.events
    (payment.event capture streamId identity date) rfl
  refine ⟨fun consistent => ?_, ?_, ?_, ?_, ?_, ?_, rfl, rfl⟩
  · exact consistent.link stored projected rfl (payment.event_key capture streamId identity date)
      ⟨storedRow, rowMember⟩ ⟨storedEvent, eventMember⟩
  · rintro entry only
    obtain rfl := List.mem_singleton.mp only
    refine ⟨checkDate, date, _, storedRow, _, storedEvent, dated, checked, rowMember, ?_,
      eventMember, projected.result storedEvent eventMember, ?_, ?_⟩
    · -- Inserted or updated, the row differs from the payment's own in nothing but its age.
      generalize payment.row capture identity checkDate = fresh at rowResult ⊢
      rcases rowResult with rfl | ⟨old, -, -, rfl⟩ <;> rfl
    · generalize payment.event capture streamId identity date = fresh at eventResult ⊢
      rcases eventResult with rfl | ⟨old, -, -, rfl⟩ <;> rfl
    · simp only [linked_upsertLink, if_true]
  · intro paymentId other different
    exact stored.others paymentId other fun same =>
      different ⟨_, List.mem_singleton.mpr rfl, same⟩
  · -- A payment of another identity does not have the id of the upserted row.
    intro paymentId other eventId there different
    have elsewhere : paymentId ≠ (before.integrations.payments.upsert
        (fun old => old.key == (payment.row capture identity checkDate).key)
        (payment.row capture identity checkDate)
        fun old => { payment.row capture identity checkDate with
          importedAt := old.importedAt }).1 := by
      rintro rfl
      exact different ⟨_, List.mem_singleton.mpr rfl, stored.replaced other there⟩
    simp only [linked_upsertLink, if_neg elsewhere]
  · intro eventId other different
    exact projected.others eventId other fun same =>
      different ⟨_, List.mem_singleton.mpr rfl, same⟩
  · -- A conflicting event has the payment's key, so it is a history event.
    refine Evolves.upsert ⟨rfl, identity, rfl⟩ fun id old _ same => .single ⟨?_, _, rfl⟩
    obtain ⟨key, fresh, has⟩ := sameSource_iff.mp same
    rw [TmoPayment.event_key, Option.some.injEq] at fresh
    exact (StreamEvent.key_eq_some.mp (fresh ▸ has)).2.1

/-! ### All payments -/

/-- A stored payment stays stored while payments of other identities are. -/
theorem IsStored.normalized {capture : TmoSyncCapture} {streamId : ℕ}
    {entries : List CapturedPayment} {before after : Domain} {payment : TmoPayment}
    {identity : PaymentIdentity} (stored : IsStored capture streamId before payment identity)
    (normalized : Normalized capture streamId entries before after)
    (distinct : identity ∉ entries.map Prod.snd) :
    IsStored capture streamId after payment identity := by
  obtain ⟨checkDate, date, paymentId, row, eventId, event, dated, checked, rowStored, values,
    eventStored, key, projected, linked⟩ := stored
  -- Its row and its event carry its identity, which no later payment has.
  have otherPayment : ¬ IsPaymentOf capture entries row := by
    rintro ⟨entry, member, same⟩
    rw [values] at same
    simp only [TmoImportPayment.key, TmoPayment.row, Option.some.injEq, Prod.mk.injEq,
      true_and] at same
    exact distinct (List.mem_map.mpr ⟨entry, member, same.symm⟩)
  have otherEvent : ¬ IsEventOf streamId entries event := by
    rintro ⟨entry, member, same⟩
    rw [key] at same
    simp only [Option.some.injEq, Prod.mk.injEq, true_and, SourceId.history.injEq] at same
    exact distinct (List.mem_map.mpr ⟨entry, member, same.symm⟩)
  exact ⟨checkDate, date, paymentId, row, eventId, event, dated, checked,
    (normalized.payments paymentId row otherPayment).mpr rowStored, values,
    (normalized.events eventId event otherEvent).mpr eventStored, key, projected,
    (normalized.links paymentId row eventId rowStored otherPayment).mpr linked⟩

/-- Storing payments one after the other stores them all, when their identities differ. -/
theorem Normalized.cons {capture : TmoSyncCapture} {streamId : ℕ} {entry : CapturedPayment}
    {entries : List CapturedPayment} {before middle after : Domain}
    (first : Normalized capture streamId [entry] before middle)
    (rest : Normalized capture streamId entries middle after)
    (distinct : entry.2 ∉ entries.map Prod.snd) :
    Normalized capture streamId (entry :: entries) before after where
  consistent := rest.consistent ∘ first.consistent
  stored := by
    intro other member
    rcases List.mem_cons.mp member with rfl | later
    · exact (first.stored _ (List.mem_singleton.mpr rfl)).normalized rest distinct
    · exact rest.stored other later
  -- What neither part touches is left alone by both.
  payments := by
    intro paymentId row different
    have notFirst : ¬ IsPaymentOf capture [entry] row := fun ⟨other, only, same⟩ =>
      different ⟨other, by simp [List.mem_singleton.mp only], same⟩
    have notRest : ¬ IsPaymentOf capture entries row := fun ⟨other, member, same⟩ =>
      different ⟨other, List.mem_cons_of_mem _ member, same⟩
    rw [rest.payments paymentId row notRest, first.payments paymentId row notFirst]
  links := by
    intro paymentId row eventId stored different
    have notFirst : ¬ IsPaymentOf capture [entry] row := fun ⟨other, only, same⟩ =>
      different ⟨other, by simp [List.mem_singleton.mp only], same⟩
    have notRest : ¬ IsPaymentOf capture entries row := fun ⟨other, member, same⟩ =>
      different ⟨other, List.mem_cons_of_mem _ member, same⟩
    have between := (first.payments paymentId row notFirst).mpr stored
    rw [rest.links paymentId row eventId between notRest,
      first.links paymentId row eventId stored notFirst]
  events := by
    intro eventId event different
    have notFirst : ¬ IsEventOf streamId [entry] event := fun ⟨other, only, same⟩ =>
      different ⟨other, by simp [List.mem_singleton.mp only], same⟩
    have notRest : ¬ IsEventOf streamId entries event := fun ⟨other, member, same⟩ =>
      different ⟨other, List.mem_cons_of_mem _ member, same⟩
    rw [rest.events eventId event notRest, first.events eventId event notFirst]
  evolves := first.evolves.trans rest.evolves
  finance := by rw [rest.finance, first.finance]
  integrations := by rw [rest.integrations, first.integrations]

/-- The loop over the payments stores them all, when their identities differ. -/
theorem normalizePayments_normalized {platform : Platform} {capture : TmoSyncCapture}
    {streamId : ℕ} (pending : List TmoPayment) {before after : Domain}
    (done : normalizePayments platform capture streamId pending before = .ok after) :
    ∃ entries : List CapturedPayment, entries.map Prod.fst = pending ∧
      (∀ entry ∈ entries,
        capturedIdentity platform "payment check date" entry.1 = .ok entry.2) ∧
      ((entries.map Prod.snd).Nodup → Normalized capture streamId entries before after) := by
  -- The payments are stored one after the other, each on what the last one has left.
  induction pending generalizing before with
  | nil =>
    simp only [normalizePayments, pure_eq_ok] at done
    subst done
    exact ⟨[], rfl, by simp, fun _ => ⟨id, by simp, fun _ _ _ => Iff.rfl,
      fun _ _ _ _ _ => Iff.rfl, fun _ _ _ => Iff.rfl, .refl _ _, rfl, rfl⟩⟩
  | cons payment rest ih =>
    simp only [normalizePayments, bind_eq_ok] at done
    obtain ⟨middle, one, others⟩ := done
    obtain ⟨identity, identified, first⟩ := normalizePayment_normalized one
    obtain ⟨entries, same, identities, tail⟩ := ih others
    refine ⟨(payment, identity) :: entries, by simp [same], ?_, ?_⟩
    · intro entry member
      rcases List.mem_cons.mp member with rfl | later
      · exact identified
      · exact identities entry later
    · intro distinct
      rw [List.map_cons, List.nodup_cons] at distinct
      exact first.cons (tail distinct.2) distinct.1

/-! ### Removing what the capture no longer contains -/

/-- Events after a deletion of events. -/
theorem events_deleteEvents {condition : ℕ → StreamEvent → Bool} {db : Domain} {eventId : ℕ}
    {event : StreamEvent} : (eventId, event) ∈ (deleteEvents condition db).finance.events ↔
      (eventId, event) ∈ db.finance.events ∧ condition eventId event = false := by
  simp only [deleteEvents, cascadeLinks, Table.mem_deleteWhere]

/-- Whether an event is linked from a payment of the connection that the capture dropped. -/
def IsStaleLinked (capture : TmoSyncCapture) (entries : List CapturedPayment) (db : Domain)
    (eventId : ℕ) : Prop :=
  ∃ paymentId row, Linked db.integrations.links paymentId eventId ∧
    (paymentId, row) ∈ db.integrations.payments ∧ row.connectionId = capture.connectionId ∧
    ¬ IsPaymentOf capture entries row

/-- The state the removals start from: all captured payments stored, all others staged as stale. -/
structure Staged (capture : TmoSyncCapture) (streamId : ℕ) (entries : List CapturedPayment)
    (before middle : Domain) : Prop where
  /-- The keys and links are in order. -/
  consistent : middle.Consistent
  /-- The captured payments are stored. -/
  stored : ∀ entry ∈ entries, IsStored capture streamId middle entry.1 entry.2
  /-- The connection's stale payments are those the capture dropped. -/
  stale : ∀ paymentId row, (paymentId, row) ∈ middle.integrations.payments →
    row.connectionId = capture.connectionId →
    (row.processingState = .stale ↔ ¬ IsPaymentOf capture entries row)
  /-- The stale payments lead to the events they led to before. -/
  staleLinked : ∀ eventId, isLinked capture.connectionId (·.processingState == .stale)
    middle.integrations eventId = true ↔ IsStaleLinked capture entries before eventId
  /-- Events of other keys are untouched. -/
  events : ∀ eventId event, ¬ IsEventOf streamId entries event →
    ((eventId, event) ∈ middle.finance.events ↔ (eventId, event) ∈ before.finance.events)
  /-- Events change by the rules of a sync. -/
  evolves : Evolves syncRules before.finance.events middle.finance.events
  /-- No finance table but the events changes. -/
  finance : middle.finance = { before.finance with events := middle.finance.events }

/-- Staging every payment and storing the captured ones leaves exactly the dropped ones stale. -/
theorem Normalized.staged {capture : TmoSyncCapture} {streamId : ℕ}
    {entries : List CapturedPayment} {before middle : Domain} (consistent : before.Consistent)
    (normalized : Normalized capture streamId entries (stagePayments capture before) middle) :
    Staged capture streamId entries before middle := by
  have ready := normalized.consistent (consistent.stagePayments capture)
  -- A payment of the connection is either captured, hence normalised, or staged, hence stale.
  have stale : ∀ paymentId row, (paymentId, row) ∈ middle.integrations.payments →
      row.connectionId = capture.connectionId →
      (row.processingState = .stale ↔ ¬ IsPaymentOf capture entries row) := by
    intro paymentId row there owned
    constructor
    · rintro isStale ⟨entry, member, key⟩
      obtain ⟨checkDate, -, otherId, other, -, -, -, -, otherStored, values, -⟩ :=
        normalized.stored entry member
      have otherKey : other.key = some (capture.connectionId, entry.2) := by
        rw [values]
        rfl
      obtain ⟨-, rfl⟩ := ready.paymentKeys.row_eq there otherStored key otherKey
      rw [values] at isStale
      cases isStale
    · intro dropped
      obtain ⟨old, -, changed⟩ := Table.mem_updateWhere.mp
        ((normalized.payments paymentId row dropped).mp there)
      have same : old.connectionId = capture.connectionId := by
        split at changed
        · rw [changed] at owned
          exact owned
        · rw [changed] at owned
          exact owned
      rw [if_pos (by simpa using same)] at changed
      rw [changed]
  refine ⟨ready, normalized.stored, stale, fun eventId => ?_, normalized.events,
    normalized.evolves, normalized.finance⟩
  rw [isLinked_iff]
  constructor
  · rintro ⟨paymentId, row, linked, there, owned, isStale⟩
    have dropped := (stale paymentId row there owned).mp (by simpa using isStale)
    have staged := (normalized.payments paymentId row dropped).mp there
    obtain ⟨old, stored, changed⟩ := Table.mem_updateWhere.mp staged
    have key : row.key = old.key := by
      rw [changed]
      split <;> rfl
    have same := congrArg (Option.map Prod.fst) key
    simp only [TmoImportPayment.key, Option.map_some, Option.some.injEq] at same
    refine ⟨paymentId, old, (normalized.links paymentId row eventId staged dropped).mp linked,
      stored, same.symm.trans owned, fun ⟨entry, member, has⟩ => dropped ⟨entry, member, ?_⟩⟩
    exact key.trans has
  · rintro ⟨paymentId, old, linked, stored, owned, dropped⟩
    have staged : (paymentId, { old with processingState := .stale }) ∈
        (stagePayments capture before).integrations.payments :=
      Table.mem_updateWhere.mpr ⟨old, stored, by simp [owned]⟩
    have stillDropped : ¬ IsPaymentOf capture entries { old with processingState := .stale } :=
      fun ⟨entry, member, has⟩ => dropped ⟨entry, member, has⟩
    exact ⟨paymentId, _, (normalized.links paymentId _ eventId staged stillDropped).mpr linked,
      (normalized.payments paymentId _ stillDropped).mpr staged, owned, by simp⟩

/-- What replacing the payment projection leaves. -/
structure Replaced (capture : TmoSyncCapture) (streamId : ℕ) (entries : List CapturedPayment)
    (before after : Domain) : Prop where
  /-- The keys and links are in order. -/
  consistent : after.Consistent
  /-- The captured payments are stored. -/
  stored : ∀ entry ∈ entries, IsStored capture streamId after entry.1 entry.2
  /-- The connection has no other payments. -/
  payments : ∀ paymentId row, (paymentId, row) ∈ after.integrations.payments →
    row.connectionId = capture.connectionId → IsPaymentOf capture entries row
  /-- The selected stream has no history events but those of the captured payments. -/
  selected : ∀ eventId event, (eventId, event) ∈ after.finance.events →
    event.sourceType = some .tmoHistory → event.streamId = streamId →
    IsEventOf streamId entries event
  /-- Another stream loses exactly the history events that dropped payments led to. -/
  elsewhere : ∀ eventId event, event.sourceType = some .tmoHistory → event.streamId ≠ streamId →
    ((eventId, event) ∈ after.finance.events ↔
      (eventId, event) ∈ before.finance.events ∧ ¬ IsStaleLinked capture entries before eventId)
  /-- Events of other sources are untouched, the obsolete projections apart. -/
  others : ∀ eventId event, event.sourceType ≠ some .tmoHistory →
    ((eventId, event) ∈ after.finance.events ↔ (eventId, event) ∈ before.finance.events ∧
      ¬ (event.status = .projected ∧ event.sourceType = some .schedule))
  /-- Events change by the rules of a sync. -/
  evolves : Evolves syncRules before.finance.events after.finance.events
  /-- No finance table but the events changes. -/
  finance : after.finance = { before.finance with events := after.finance.events }

section Removals

variable {capture : TmoSyncCapture} {streamId : ℕ} {entries : List CapturedPayment}
  {before middle : Domain}

/-- The removals a sync ends with. -/
def removals (capture : TmoSyncCapture) (streamId : ℕ) (db : Domain) : Domain :=
  removeLegacyProjections (removeOrphanedHistory streamId capture.connectionId
    (removeStalePayments capture.connectionId db))

/-- The payments after the removals are those not stale. -/
theorem mem_payments_removals {paymentId : ℕ} {row : TmoImportPayment} :
    (paymentId, row) ∈ (removals capture streamId middle).integrations.payments ↔
      (paymentId, row) ∈ middle.integrations.payments ∧
        ¬ (row.connectionId = capture.connectionId ∧ row.processingState = .stale) := by
  simp only [removals, removeLegacyProjections, removeOrphanedHistory, removeStalePayments,
    deleteEvents, deletePayments, cascadeLinks, Table.mem_deleteWhere]
  simp

/-- An event survives the removals when no condition of the three statements selects it. -/
theorem mem_events_removals {eventId : ℕ} {event : StreamEvent} :
    (eventId, event) ∈ (removals capture streamId middle).finance.events ↔
      (eventId, event) ∈ middle.finance.events ∧
      isLinked capture.connectionId (·.processingState == .stale) middle.integrations eventId
        = false ∧
      ¬ (event.streamId = streamId ∧ event.sourceType = some .tmoHistory ∧
        isLinked capture.connectionId (fun _ => true)
          (removeStalePayments capture.connectionId middle).integrations eventId = false) ∧
      ¬ (event.status = .projected ∧ event.sourceType = some .schedule) := by
  -- Three deletions follow each other: stale payments, orphaned history, older projections.
  simp only [removals, removeLegacyProjections, removeOrphanedHistory, events_deleteEvents]
  simp only [removeStalePayments, deletePayments, cascadeLinks, deleteEvents,
    Table.mem_deleteWhere]
  simp only [Bool.and_eq_false_iff, Bool.not_eq_false', beq_eq_false_iff_ne, not_and,
    Bool.not_eq_false]
  constructor
  · rintro ⟨⟨⟨stored, unlinked⟩, orphan⟩, legacy⟩
    refine ⟨stored, unlinked, fun stream type => ?_, fun status type => ?_⟩
    · rcases orphan with (other | other) | linked
      · exact absurd stream other
      · exact absurd type other
      · exact linked
    · rcases legacy with other | other
      · exact absurd status other
      · exact absurd type other
  · rintro ⟨stored, unlinked, orphan, legacy⟩
    refine ⟨⟨⟨stored, unlinked⟩, ?_⟩, ?_⟩
    · by_cases stream : event.streamId = streamId
      · by_cases type : event.sourceType = some .tmoHistory
        · exact .inr (orphan stream type)
        · exact .inl (.inr type)
      · exact .inl (.inl stream)
    · by_cases status : event.status = .projected
      · exact .inr (legacy status)
      · exact .inl status

/-- The removals delete rows and links. -/
theorem removeStalePayments_shrunk (connectionId : ℕ) (db : Domain) :
    Shrunk db (removeStalePayments connectionId db) :=
  (deleteEvents_shrunk _ _).trans (deletePayments_shrunk _ _)

/-- The removals delete rows and links. -/
theorem removals_shrunk (capture : TmoSyncCapture) (streamId : ℕ) (db : Domain) :
    Shrunk db (removals capture streamId db) :=
  ((removeStalePayments_shrunk _ _).trans (deleteEvents_shrunk _ _)).trans
    (deleteEvents_shrunk _ _)

/-- The event of a captured payment survives the removals. -/
theorem Staged.event_survives (staged : Staged capture streamId entries before middle)
    {paymentId eventId : ℕ} {row : TmoImportPayment} {event : StreamEvent}
    (payment : (paymentId, row) ∈ middle.integrations.payments)
    (owned : row.connectionId = capture.connectionId)
    (captured : IsPaymentOf capture entries row)
    (linked : Linked middle.integrations.links paymentId eventId)
    (stored : (eventId, event) ∈ middle.finance.events) :
    (eventId, event) ∈ (removals capture streamId middle).finance.events := by
  have fresh : row.processingState ≠ .stale := fun stale =>
    (staged.stale paymentId row payment owned).mp stale captured
  obtain ⟨_, _, payment', stored', type, source⟩ := staged.consistent.sound paymentId eventId linked
  obtain rfl := Table.unique payment payment'
  obtain rfl := Table.unique stored stored'
  rw [mem_events_removals]
  -- A stale payment leads to the event of its own identity, which is not this payment's.
  have unlinked : isLinked capture.connectionId (·.processingState == .stale)
      middle.integrations eventId = false := by
    rw [Bool.eq_false_iff]
    intro stale
    obtain ⟨other, otherRow, otherLinked, otherStored, otherOwned, isStale⟩ := isLinked_iff.mp stale
    obtain ⟨_, _, otherStored', stored', -, otherSource⟩ :=
      staged.consistent.sound other eventId otherLinked
    obtain rfl := Table.unique otherStored otherStored'
    obtain rfl := Table.unique stored stored'
    rw [source] at otherSource
    simp only [Option.some.injEq, SourceId.history.injEq] at otherSource
    have key : otherRow.key = row.key := by
      simp only [TmoImportPayment.key, otherOwned, owned, otherSource]
    obtain ⟨-, rfl⟩ := staged.consistent.paymentKeys.row_eq otherStored payment key rfl
    exact fresh (by simpa using isStale)
  refine ⟨stored, unlinked, ?_, by simp [type]⟩
  rintro ⟨-, -, orphaned⟩
  rw [Bool.eq_false_iff] at orphaned
  refine orphaned (isLinked_iff.mpr ⟨paymentId, row, ?_, ?_, owned, rfl⟩)
  · refine (removeStalePayments_shrunk _ _).links.mpr ⟨linked, ⟨row, ?_⟩, event, ?_⟩
    · simp only [removeStalePayments, deletePayments, cascadeLinks, deleteEvents,
        Table.mem_deleteWhere]
      exact ⟨payment, by simp [fresh]⟩
    · simp only [removeStalePayments, deletePayments, cascadeLinks, deleteEvents,
        Table.mem_deleteWhere]
      exact ⟨stored, unlinked⟩
  · simp only [removeStalePayments, deletePayments, cascadeLinks, deleteEvents,
      Table.mem_deleteWhere]
    exact ⟨payment, by simp [fresh]⟩

/-- The removals drop history events and obsolete projections only. -/
theorem removals_evolves (consistent : middle.Consistent) :
    Evolves syncRules middle.finance.events (removals capture streamId middle).finance.events := by
  simp only [removals, removeLegacyProjections, removeOrphanedHistory, removeStalePayments,
    deletePayments, cascadeLinks, deleteEvents]
  refine (Evolves.deleteWhere ?_).trans ((Evolves.deleteWhere ?_).trans (Evolves.deleteWhere ?_))
  · -- Links only lead to history events.
    intro eventId event stored linked
    obtain ⟨paymentId, row, linked, -⟩ := isLinked_iff.mp linked
    obtain ⟨_, _, -, stored', history, -⟩ := consistent.sound paymentId eventId linked
    obtain rfl := Table.unique stored stored'
    exact .inl history
  · intro eventId event _ orphaned
    simp only [Bool.and_eq_true, beq_iff_eq] at orphaned
    exact .inl orphaned.1.2
  · intro eventId event _ legacy
    simp only [Bool.and_eq_true, beq_iff_eq] at legacy
    exact .inr legacy.2

/-- The removals leave the captured payments stored and drop everything else of the connection. -/
theorem Staged.replaced (staged : Staged capture streamId entries before middle) :
    Replaced capture streamId entries before (removals capture streamId middle) where
  consistent := staged.consistent.shrunk (removals_shrunk capture streamId middle)
  stored := by
    intro entry member
    obtain ⟨checkDate, date, paymentId, row, eventId, event, dated, checked, payment, values,
      stored, key, projected, linked⟩ := staged.stored entry member
    have rowKey : row.key = some (capture.connectionId, entry.2) := by
      rw [values]
      rfl
    have owned : row.connectionId = capture.connectionId := by rw [values]; rfl
    have survives := staged.event_survives payment owned ⟨entry, member, rowKey⟩ linked stored
    have kept : (paymentId, row) ∈ (removals capture streamId middle).integrations.payments :=
      mem_payments_removals.mpr ⟨payment, by rw [values]; simp [TmoPayment.row]⟩
    exact ⟨checkDate, date, paymentId, row, eventId, event, dated, checked, kept, values, survives,
      key, projected, (removals_shrunk capture streamId middle).links.mpr
        ⟨linked, ⟨row, kept⟩, event, survives⟩⟩
  payments := by
    intro paymentId row there owned
    obtain ⟨there, notStale⟩ := mem_payments_removals.mp there
    by_contra dropped
    exact notStale ⟨owned, (staged.stale paymentId row there owned).mpr dropped⟩
  selected := by
    intro eventId event there type stream
    obtain ⟨stored, -, orphan, -⟩ := mem_events_removals.mp there
    -- The event was linked after the stale payments were gone, so from a captured payment.
    have linked : isLinked capture.connectionId (fun _ => true)
        (removeStalePayments capture.connectionId middle).integrations eventId = true := by
      rw [← Bool.not_eq_false]
      exact fun unlinked => orphan ⟨stream, type, unlinked⟩
    obtain ⟨paymentId, row, linked, payment, owned, -⟩ := isLinked_iff.mp linked
    have linked := ((removeStalePayments_shrunk _ _).links.mp linked).1
    simp only [removeStalePayments, deletePayments, cascadeLinks, deleteEvents,
      Table.mem_deleteWhere] at payment
    obtain ⟨payment, notStale⟩ := payment
    have captured : IsPaymentOf capture entries row := by
      by_contra dropped
      have := (staged.stale paymentId row payment owned).mpr dropped
      simp [owned, this] at notStale
    obtain ⟨entry, member, key⟩ := captured
    obtain ⟨_, _, payment', stored', -, source⟩ := staged.consistent.sound paymentId eventId linked
    obtain rfl := Table.unique payment payment'
    obtain rfl := Table.unique stored stored'
    simp only [TmoImportPayment.key, Option.some.injEq, Prod.mk.injEq] at key
    exact ⟨entry, member, StreamEvent.key_eq_some.mpr ⟨stream, type, by rw [source, key.2]⟩⟩
  elsewhere := by
    intro eventId event type other
    have otherKey : ¬ IsEventOf streamId entries event := by
      rintro ⟨_, _, key⟩
      exact other (StreamEvent.key_eq_some.mp key).1
    rw [mem_events_removals, staged.events eventId event otherKey, ← staged.staleLinked]
    simp [other, type]
  others := by
    intro eventId event type
    have otherKey : ¬ IsEventOf streamId entries event := by
      rintro ⟨_, _, key⟩
      exact type (StreamEvent.key_eq_some.mp key).2.1
    rw [mem_events_removals, staged.events eventId event otherKey]
    -- Links only lead to history events.
    constructor
    · rintro ⟨stored, -, -, legacy⟩
      exact ⟨stored, legacy⟩
    · rintro ⟨stored, legacy⟩
      refine ⟨stored, ?_, fun orphan => type orphan.2.1, legacy⟩
      rw [Bool.eq_false_iff]
      intro linked
      obtain ⟨paymentId, row, linked, -⟩ := isLinked_iff.mp linked
      obtain ⟨_, _, -, stored', history, -⟩ := staged.consistent.sound paymentId eventId linked
      obtain rfl := Table.unique ((staged.events eventId event otherKey).mpr stored) stored'
      exact type history
  evolves := staged.evolves.trans (removals_evolves staged.consistent)
  finance := by
    have kept : (removals capture streamId middle).finance =
        { middle.finance with events := (removals capture streamId middle).finance.events } := rfl
    rw [kept, staged.finance]

end Removals

end FinStream
