import FinStream.Integrations.LoanSnapshot

/-! A second sync of one capture, which finds everything as the first one has left it. -/

namespace FinStream

open Store

/-! ### The portfolio -/

/-- What a capture makes of its connection. -/
def TmoSyncCapture.recorded (capture : TmoSyncCapture) (connection : IntegrationConnection) :
    IntegrationConnection :=
  { connection with
    metadata := some (.connection capture.companyId capture.accountNumber)
    status := if (detailWarning capture).isSome then "degraded" else "active"
    lastError := detailWarning capture
    lastSyncedAt := some capture.capturedAt
    updatedAt := capture.capturedAt }

/-- The overview row a capture inserts. -/
def TmoSyncCapture.overviewRow (capture : TmoSyncCapture) : TmoImportOverview where
  connectionId := capture.connectionId
  snapshotDate := capture.snapshotDate
  figures := capture.overview.figures
  processingState := .captured
  rawPayload := capture.overview
  createdAt := capture.capturedAt
  updatedAt := capture.capturedAt

/-- What a capture makes of the overview row of its day. -/
def TmoSyncCapture.overviewed (capture : TmoSyncCapture) (row : TmoImportOverview) :
    TmoImportOverview :=
  { row with
    figures := capture.overview.figures
    processingState := .captured
    rawPayload := capture.overview
    updatedAt := capture.capturedAt }

/-- The integration tables once the portfolio of a capture is stored. -/
def writePortfolio (capture : TmoSyncCapture) (rows : List TmoImportLoan)
    (details : List DatedDetail) (db : Integrations) : Integrations :=
  { syncSnapshot capture (syncAccount capture db) with
    connections := db.connections.updateWhere
      (fun id connection => id == capture.connectionId && connection.slug == "tmo") capture.recorded
    overviews := (db.overviews.upsert
      (fun row => row.connectionId == capture.connectionId &&
        row.snapshotDate == capture.snapshotDate) capture.overviewRow capture.overviewed).2
    loans := storedLoans capture rows details db.loans }

/-- A portfolio that was stored once is stored in any tables, and in one way. -/
theorem syncPortfolio_writes {platform : Platform} {capture : TmoSyncCapture} {streamId : ℕ}
    {db after : Integrations} (done : syncPortfolio platform capture streamId db = .ok after)
    (known : ∀ detail ∈ capture.loanDetails,
      detail.loanAccount ∈ capture.loans.map (·.loanAccount))
    (distinct : (capture.loans.map (·.loanAccount)).Nodup) :
    ∃ rows details, SummaryRows capture capture.loans rows ∧ ∀ other : Integrations,
      syncPortfolio platform capture streamId other =
        .ok (writePortfolio capture rows details other) := by
  simp only [syncPortfolio, syncConnection, syncOverview, bind_eq_ok, pure_eq_ok] at done
  obtain ⟨connected, ⟨_, stamped, rfl⟩, viewed, ⟨day, dated, _, figures, rfl⟩, loaned, loans,
    described⟩ := done
  obtain ⟨rows, summary, stores⟩ := syncLoans_stores _ loans
  obtain ⟨details, writes⟩ := syncLoanDetails_writes _ described
  refine ⟨rows, details, summary, fun other => ?_⟩
  -- Each detail finds the row that the summary of its loan has left.
  have present : ∀ detail ∈ capture.loanDetails, ∃ id row,
      (id, row) ∈ summarised capture rows other.loans ∧
        capture.owns detail.loanAccount row = true := by
    intro detail member
    have captured := known detail member
    rw [← summary.accounts, List.mem_map] at captured
    obtain ⟨fresh, stored, same⟩ := captured
    obtain ⟨id, row, found, -⟩ := summary.settled distinct other.loans stored
    obtain ⟨there, owned⟩ := Table.find?_some found
    exact ⟨id, row, there, same ▸ owned⟩
  simp only [syncPortfolio, syncConnection, syncOverview, bind_eq_ok, pure_eq_ok]
  exact ⟨_, ⟨_, stamped, rfl⟩, _, ⟨day, dated, _, figures, rfl⟩, _, stores _, writes _ present⟩

/-- Storing the portfolio of a capture again changes nothing. -/
theorem writePortfolio_again {capture : TmoSyncCapture} {rows : List TmoImportLoan}
    (summary : SummaryRows capture capture.loans rows)
    (distinct : (capture.loans.map (·.loanAccount)).Nodup) (details : List DatedDetail)
    (db : Integrations) :
    writePortfolio capture rows details (writePortfolio capture rows details db) =
      writePortfolio capture rows details db := by
  simp only [writePortfolio, syncSnapshot, syncAccount, Integrations.mk.injEq, and_true]
  refine ⟨?_, ?_, ?_, ?_, ?_⟩
  · exact db.connections.updateWhere_again (fun _ _ holds => holds) fun _ => rfl
  · rfl
  · exact congrArg Prod.snd (db.overviews.upsert_again (by simp [TmoSyncCapture.overviewRow])
      (fun _ => id) rfl fun _ => rfl)
  · exact congrArg Prod.snd (db.snapshots.upsert_again (by simp) (fun _ => id) rfl fun _ => rfl)
  · exact summary.storedLoans_again distinct db.loans details

/-! ### The payments -/

/-- Linking a payment to the event it is linked to changes nothing. -/
theorem upsertLink_eq_self {links : List PaymentEventLink} {link : PaymentEventLink}
    (functional : ∀ paymentId left right, Linked links paymentId left →
      Linked links paymentId right → left = right)
    (linked : Linked links link.tmoPaymentId link.streamEventId) :
    upsertLink link links = links := by
  obtain ⟨old, member, same, -⟩ := id linked
  have present : (links.any fun other => other.tmoPaymentId == link.tmoPaymentId) = true :=
    List.any_eq_true.mpr ⟨old, member, beq_iff_eq.mpr same⟩
  rw [upsertLink, if_pos present]
  refine (List.map_congr_left fun other stored => ?_).trans (List.map_id _)
  split
  · -- A link of the payment leads to its one event.
    rename_i here
    have target : other.streamEventId = link.streamEventId :=
      functional _ _ _ ⟨other, stored, beq_iff_eq.mp here, rfl⟩ linked
    rw [← target]
    rfl
  · rfl

/-- What staging makes of a payment, when it has one of some identities. -/
def TmoSyncCapture.stale (capture : TmoSyncCapture) (identities : List PaymentIdentity)
    (row : TmoImportPayment) : TmoImportPayment :=
  if row.connectionId == capture.connectionId && identities.contains row.externalId then
    { row with processingState := .stale }
  else row

/-- Staging a payment keeps its key. -/
theorem stale_key (capture : TmoSyncCapture) (identities : List PaymentIdentity)
    (row : TmoImportPayment) : (capture.stale identities row).key = row.key := by
  unfold TmoSyncCapture.stale
  split <;> rfl

/-- Staging a payment keeps the time at which it was first imported. -/
theorem stale_importedAt (capture : TmoSyncCapture) (identities : List PaymentIdentity)
    (row : TmoImportPayment) : (capture.stale identities row).importedAt = row.importedAt := by
  unfold TmoSyncCapture.stale
  split <;> rfl

/-- The domain with the connection's payments of some identities staged as stale. -/
def stalePayments (capture : TmoSyncCapture) (identities : List PaymentIdentity) (db : Domain) :
    Domain :=
  { db with
    integrations := { db.integrations with
      payments := db.integrations.payments.map (capture.stale identities) } }

section Payments

variable {platform : Platform} {capture : TmoSyncCapture} {streamId : ℕ} {db : Domain}

/-- Storing a payment again restores its row, which was staged as stale. -/
theorem upsert_stale {payments : Table TmoImportPayment}
    (keys : UniqueKey TmoImportPayment.key payments) {fresh row : TmoImportPayment} {paymentId : ℕ}
    (stored : (paymentId, row) ∈ payments)
    (isRow : row = { fresh with importedAt := row.importedAt })
    (owned : fresh.connectionId = capture.connectionId) {rest : List PaymentIdentity}
    (once : fresh.externalId ∉ rest) :
    (payments.map (capture.stale (fresh.externalId :: rest))).upsert
        (fun old => old.key == fresh.key) fresh
        (fun old => { fresh with importedAt := old.importedAt }) =
      (paymentId, payments.map (capture.stale rest)) := by
  have key : row.key = fresh.key := by
    rw [isRow]
    rfl
  have alone : ∀ id old, (id, old) ∈ payments → old.key = fresh.key → id = paymentId :=
    fun id old there same => keys _ _ _ _ _ there stored same key
  have member : (paymentId, capture.stale (fresh.externalId :: rest) row) ∈
      payments.map (capture.stale (fresh.externalId :: rest)) :=
    Table.mem_map.mpr ⟨row, stored, rfl⟩
  refine (Table.upsert_of_conflict member ?_ fun id middle there conflict => ?_).trans
    (congrArg (Prod.mk paymentId) ?_)
  · rw [stale_key, key, beq_self_eq_true]
  · obtain ⟨old, was, rfl⟩ := Table.mem_map.mp there
    rw [stale_key] at conflict
    exact alone id old was (beq_iff_eq.mp conflict)
  -- Another payment has another identity, so it is stale afterwards exactly if it was before.
  refine Table.ext_of_ids rfl (by simp [Table.updateWhere, Table.map, Function.comp_def]) ?_
  intro id restored there
  obtain ⟨middle, staged, rfl⟩ := Table.mem_updateWhere.mp there
  obtain ⟨old, was, rfl⟩ := Table.mem_map.mp staged
  refine Table.mem_map.mpr ⟨old, was, ?_⟩
  by_cases same : id = paymentId
  · subst same
    obtain rfl := Table.unique was stored
    have kept : capture.stale rest old = old := by
      have same : old.externalId = fresh.externalId := by rw [isRow]
      rw [TmoSyncCapture.stale, same, if_neg (by simp [once])]
    rw [if_pos (beq_self_eq_true id), stale_importedAt, kept]
    exact isRow
  · have other : old.connectionId = capture.connectionId → old.externalId ≠ fresh.externalId :=
      fun connection identity => same (alone id old was (by
        rw [TmoImportPayment.key, TmoImportPayment.key, connection, identity, owned]))
    rw [if_neg (by simpa using same)]
    by_cases connection : old.connectionId = capture.connectionId
    · simp [TmoSyncCapture.stale, other connection]
    · simp [TmoSyncCapture.stale, connection]

/-- A payment is stored by one upsert of its row, one of its event, and one of its link. -/
theorem normalizePayment_ok {payment : TmoPayment} {checkDate : String} {identity : PaymentIdentity}
    {date : IsoDate} {paymentId eventId : ℕ} {payments : Table TmoImportPayment}
    {events : Table StreamEvent}
    (dated : requiredDate "payment check date" payment.checkDate = .ok checkDate)
    (identified : paymentExternalId platform payment checkDate = .ok identity)
    (checked : checkDateText checkDate = .ok date)
    (reals : checkReals ([payment.amount, payment.serviceFee, payment.interest, payment.principal,
      payment.charges, payment.lateCharges, payment.other].map F64.value) = .ok ⟨⟩)
    (stored : db.integrations.payments.upsert
      (fun old => old.key == (payment.row capture identity checkDate).key)
      (payment.row capture identity checkDate)
      (fun old => { payment.row capture identity checkDate with importedAt := old.importedAt }) =
        (paymentId, payments))
    (projected : db.finance.events.upsert
      (sameSource (payment.event capture streamId identity date))
      (payment.event capture streamId identity date)
      (payment.event capture streamId identity date).renormalized = (eventId, events))
    (received : checkReceived eventId events = .ok ⟨⟩) :
    normalizePayment platform capture streamId payment db = .ok {
      finance := { db.finance with events }
      integrations := { db.integrations with
        payments
        links := upsertLink ⟨paymentId, eventId, capture.capturedAt⟩ db.integrations.links } } := by
  simp only [normalizePayment, bind_eq_ok, pure_eq_ok]
  refine ⟨checkDate, dated, identity, identified, date, checked, ⟨⟩, reals, ⟨⟩, ?_⟩
  rw [stored, projected]
  exact ⟨received, rfl⟩

/-- A stored payment that is staged and stored again is restored, and nothing else changes. -/
theorem normalizePayment_again (consistent : db.Consistent) (shown : HistoryShown db.finance.events)
    {payment : TmoPayment} {identity : PaymentIdentity}
    (stored : IsStored capture streamId db payment identity)
    (storable : payment.Storable platform)
    (identified : capturedIdentity platform "payment check date" payment = .ok identity)
    {rest : List PaymentIdentity} (once : identity ∉ rest) :
    normalizePayment platform capture streamId payment
        (stalePayments capture (identity :: rest) db) =
      .ok (stalePayments capture rest db) := by
  obtain ⟨checkDate, date, paymentId, row, eventId, event, dated, checked, payments, isRow, events,
    key, isEvent, linked⟩ := stored
  obtain ⟨_, _, _, dated', identified', checked', reals⟩ := storable
  cases Except.ok.inj (dated.symm.trans dated')
  cases Except.ok.inj (checked.symm.trans checked')
  have known : capturedIdentity platform "payment check date" payment = .ok _ :=
    bind_eq_ok.mpr ⟨checkDate, dated, identified'⟩
  obtain rfl := capturedIdentity_unique identified known
  -- The event is found by its key, and it is the one that the payment would be projected to.
  have projected : db.finance.events.upsert
      (sameSource (payment.event capture streamId identity date))
      (payment.event capture streamId identity date)
      (payment.event capture streamId identity date).renormalized =
        (eventId, db.finance.events) := by
    refine Table.upsert_eq_self (Table.find?_eq_some_of_least events ?_ ?_) isEvent.symm
    · exact sameSource_iff.mpr ⟨_, TmoPayment.event_key capture streamId identity date payment, key⟩
    · intro other otherEvent there conflict
      obtain ⟨_, has, otherKey⟩ := sameSource_iff.mp conflict
      rw [TmoPayment.event_key, Option.some.injEq] at has
      exact Nat.le_of_eq (consistent.eventKeys _ _ _ _ _ events there key (has ▸ otherKey))
  have received := (shown.upsert capture streamId identity date payment).2
  rw [projected] at received
  have links : upsertLink ⟨paymentId, eventId, capture.capturedAt⟩
      (stalePayments capture (identity :: rest) db).integrations.links = db.integrations.links :=
    upsertLink_eq_self consistent.functional linked
  have restored : (stalePayments capture (identity :: rest) db).integrations.payments.upsert
      (fun old => old.key == (payment.row capture identity checkDate).key)
      (payment.row capture identity checkDate)
      (fun old => { payment.row capture identity checkDate with importedAt := old.importedAt }) =
        (paymentId, (stalePayments capture rest db).integrations.payments) :=
    upsert_stale consistent.paymentKeys payments isRow rfl once
  rw [normalizePayment_ok dated identified' checked reals restored projected received, links]
  rfl

/-- Stored payments that are staged and stored again, one after the other, are all restored. -/
theorem normalizePayments_again (consistent : db.Consistent)
    (shown : HistoryShown db.finance.events) (entries : List CapturedPayment)
    (stored : ∀ entry ∈ entries, IsStored capture streamId db entry.1 entry.2)
    (storable : ∀ entry ∈ entries, entry.1.Storable platform)
    (identities : ∀ entry ∈ entries,
      capturedIdentity platform "payment check date" entry.1 = .ok entry.2)
    (distinct : (entries.map Prod.snd).Nodup) :
    normalizePayments platform capture streamId (entries.map Prod.fst)
      (stalePayments capture (entries.map Prod.snd) db) = .ok db := by
  -- The induction is on the payments; those of the rest are the ones that are stale.
  induction entries with
  | nil =>
    have same : db.integrations.payments.map (capture.stale []) = db.integrations.payments :=
      Table.map_eq_self fun _ row _ => by simp [TmoSyncCapture.stale]
    rw [List.map_nil, List.map_nil, normalizePayments, stalePayments, same]
    rfl
  | cons entry rest ih =>
    rw [List.map_cons, List.nodup_cons] at distinct
    have first := normalizePayment_again consistent shown (stored entry List.mem_cons_self)
      (storable entry List.mem_cons_self) (identities entry List.mem_cons_self) distinct.1
    have others := ih (fun other member => stored other (List.mem_cons_of_mem _ member))
      (fun other member => storable other (List.mem_cons_of_mem _ member))
      (fun other member => identities other (List.mem_cons_of_mem _ member)) distinct.2
    exact bind_eq_ok.mpr ⟨_, first, others⟩

/-- Links whose payments and events are all stored are all kept. -/
theorem cascadeLinks_eq_self (consistent : db.Consistent) : cascadeLinks db = db := by
  have kept : (db.integrations.links.filter fun link =>
      (db.integrations.payments.get? link.tmoPaymentId).isSome &&
        (db.finance.events.get? link.streamEventId).isSome) = db.integrations.links := by
    rw [List.filter_eq_self]
    intro link member
    obtain ⟨row, event, payment, stored, -⟩ := consistent.sound _ _ ⟨link, member, rfl, rfl⟩
    rw [Table.get?_eq_some.mpr payment, Table.get?_eq_some.mpr stored]
    rfl
  rw [cascadeLinks, kept]

/-- Deleting no event changes nothing. -/
theorem deleteEvents_eq_self (consistent : db.Consistent) {condition : ℕ → StreamEvent → Bool}
    (none_ : ∀ id event, (id, event) ∈ db.finance.events → condition id event = false) :
    deleteEvents condition db = db := by
  rw [deleteEvents, Table.deleteWhere_eq_self none_]
  exact cascadeLinks_eq_self consistent

/-- Deleting no payment changes nothing. -/
theorem deletePayments_eq_self (consistent : db.Consistent)
    {condition : ℕ → TmoImportPayment → Bool}
    (none_ : ∀ id row, (id, row) ∈ db.integrations.payments → condition id row = false) :
    deletePayments condition db = db := by
  rw [deletePayments, Table.deleteWhere_eq_self none_]
  exact cascadeLinks_eq_self consistent

end Payments

namespace Replaced

variable {platform : Platform} {capture : TmoSyncCapture} {streamId : ℕ}
  {entries : List CapturedPayment} {before db : Domain}
  (replaced : Replaced capture streamId entries before db)

include replaced

/-- A payment row of the connection is the row of a captured payment, linked to its event. -/
theorem of_owned {paymentId : ℕ} {row : TmoImportPayment}
    (there : (paymentId, row) ∈ db.integrations.payments)
    (owned : row.connectionId = capture.connectionId) :
    ∃ entry ∈ entries, ∃ checkDate,
      row = { entry.1.row capture entry.2 checkDate with importedAt := row.importedAt } := by
  obtain ⟨entry, member, key⟩ := replaced.payments paymentId row there owned
  obtain ⟨checkDate, _, _, stored, _, _, -, -, payment, isRow, -⟩ := replaced.stored entry member
  have storedKey : stored.key = some (capture.connectionId, entry.2) := by
    rw [isRow]
    rfl
  obtain ⟨-, rfl⟩ := replaced.consistent.paymentKeys.row_eq there payment key storedKey
  exact ⟨entry, member, checkDate, isRow⟩

/-- No payment of the connection is stale. -/
theorem not_stale {paymentId : ℕ} {row : TmoImportPayment}
    (there : (paymentId, row) ∈ db.integrations.payments)
    (owned : row.connectionId = capture.connectionId) : row.processingState = .normalized := by
  obtain ⟨entry, -, checkDate, isRow⟩ := replaced.of_owned there owned
  rw [isRow]
  rfl

/-- A history event of the selected stream is linked from a payment of the connection. -/
theorem isLinked_selected {eventId : ℕ} {event : StreamEvent}
    (there : (eventId, event) ∈ db.finance.events) (type : event.sourceType = some .tmoHistory)
    (stream : event.streamId = streamId) :
    isLinked capture.connectionId (fun _ => true) db.integrations eventId = true := by
  obtain ⟨entry, member, key⟩ := replaced.selected eventId event there type stream
  obtain ⟨_, _, paymentId, row, own, _, -, -, payment, isRow, stored, ownKey, -, linked⟩ :=
    replaced.stored entry member
  obtain rfl := replaced.consistent.eventKeys _ _ _ _ _ there stored key ownKey
  refine isLinked_iff.mpr ⟨paymentId, row, linked, payment, ?_, rfl⟩
  rw [isRow]
  rfl

/-- No payment is left for the sync to remove, and no event of one. -/
theorem stalePayments_again : removeStalePayments capture.connectionId db = db := by
  have consistent := replaced.consistent
  have unlinked : ∀ eventId, isLinked capture.connectionId (·.processingState == .stale)
      db.integrations eventId = false := by
    intro eventId
    rw [Bool.eq_false_iff]
    intro linked
    obtain ⟨_, row, -, there, owned, stale⟩ := isLinked_iff.mp linked
    rw [replaced.not_stale there owned] at stale
    cases stale
  rw [removeStalePayments, deleteEvents_eq_self consistent fun id _ _ => unlinked id]
  refine deletePayments_eq_self consistent fun id row there => ?_
  rw [Bool.eq_false_iff]
  intro selected
  simp only [Bool.and_eq_true, beq_iff_eq] at selected
  rw [replaced.not_stale there selected.1] at selected
  cases selected.2

/-- No history event of the selected stream is left without a payment of the connection. -/
theorem orphanedHistory_again : removeOrphanedHistory streamId capture.connectionId db = db := by
  refine deleteEvents_eq_self replaced.consistent fun id event there => ?_
  rw [Bool.eq_false_iff]
  intro orphaned
  simp only [Bool.and_eq_true, beq_iff_eq, Bool.not_eq_true'] at orphaned
  rw [replaced.isLinked_selected there orphaned.1.2 orphaned.1.1] at orphaned
  cases orphaned.2

/-- No projection of the earlier design is left. -/
theorem legacyProjections_again : removeLegacyProjections db = db := by
  refine deleteEvents_eq_self replaced.consistent fun id event there => ?_
  rw [Bool.eq_false_iff]
  intro obsolete
  simp only [Bool.and_eq_true, beq_iff_eq] at obsolete
  -- Such an event is no history, and of the others the sync has kept none like it.
  refine ((replaced.others id event ?_).mp there).2 obsolete
  rw [obsolete.2]
  decide

/-- The removals of a sync, made again, remove nothing. -/
theorem removals_again : removals capture streamId db = db := by
  rw [removals, replaced.stalePayments_again, replaced.orphanedHistory_again,
    replaced.legacyProjections_again]

/-- Replacing the payment projection again by that of the same capture changes nothing. -/
theorem projection_again (shown : HistoryShown db.finance.events)
    (same : entries.map Prod.fst = capture.payments)
    (storable : ∀ payment ∈ capture.payments, payment.Storable platform)
    (identities : ∀ entry ∈ entries,
      capturedIdentity platform "payment check date" entry.1 = .ok entry.2)
    (distinct : (entries.map Prod.snd).Nodup) :
    replacePaymentProjection platform capture streamId db = .ok db := by
  -- Staging makes all captured payments stale, which are all payments that the connection has.
  have rows : (stagePayments capture db).integrations.payments =
      db.integrations.payments.map (capture.stale (entries.map Prod.snd)) := by
    refine (db.integrations.payments.updateWhere_eq_map (·.connectionId == capture.connectionId)
      fun row => { row with processingState := .stale }).trans
        (Table.map_congr fun id row there => ?_)
    by_cases owned : row.connectionId = capture.connectionId
    · obtain ⟨entry, member, key⟩ := replaced.payments id row there owned
      simp only [TmoImportPayment.key, Option.some.injEq, Prod.mk.injEq] at key
      have captured : row.externalId ∈ entries.map Prod.snd :=
        key.2 ▸ List.mem_map_of_mem member
      simp [TmoSyncCapture.stale, owned, captured]
    · simp [TmoSyncCapture.stale, owned]
  have staged : stagePayments capture db = stalePayments capture (entries.map Prod.snd) db := by
    rw [stalePayments, ← rows]
    rfl
  have walked := normalizePayments_again replaced.consistent shown entries replaced.stored
    (fun entry member => storable entry.1 (same ▸ List.mem_map_of_mem member)) identities distinct
  rw [same, ← staged] at walked
  exact bind_eq_ok.mpr ⟨db, walked, congrArg Except.ok replaced.removals_again⟩

end Replaced

end FinStream
