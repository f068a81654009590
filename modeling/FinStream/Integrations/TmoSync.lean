import FinStream.Integrations.Projection

/-! What a successful TMO sync leaves, from validation to the last removal. -/

namespace FinStream

open Store

/-- The label of a date only matters when the date is refused. -/
theorem requiredDate_label {label other value date : String}
    (read : requiredDate label value = .ok date) : requiredDate other value = .ok date := by
  simp only [requiredDate, bind_eq_ok, ensure_eq_ok, pure_eq_ok] at read ⊢
  exact read

/-- The identity of a payment does not depend on where it is computed. -/
theorem capturedIdentity_label {platform : Platform} {label other : String} {payment : TmoPayment}
    {identity : PaymentIdentity}
    (identified : capturedIdentity platform label payment = .ok identity) :
    capturedIdentity platform other payment = .ok identity := by
  simp only [capturedIdentity, bind_eq_ok] at identified ⊢
  obtain ⟨date, read, same⟩ := identified
  exact ⟨date, requiredDate_label read, same⟩

/-- A payment has at most one identity. -/
theorem capturedIdentity_unique {platform : Platform} {label other : String} {payment : TmoPayment}
    {left right : PaymentIdentity} (first : capturedIdentity platform label payment = .ok left)
    (second : capturedIdentity platform other payment = .ok right) : left = right := by
  rw [capturedIdentity_label first] at second
  exact Except.ok.inj second

/-- Validated payments have identities that differ from each other and from those seen before. -/
theorem validatePayments_distinct {platform : Platform} {label : String}
    (entries : List CapturedPayment) {seen : List PaymentIdentity}
    (identities : ∀ entry ∈ entries, capturedIdentity platform label entry.1 = .ok entry.2)
    {done : Unit} (valid : validatePayments platform (entries.map Prod.fst) seen = .ok done) :
    (entries.map Prod.snd).Nodup ∧ ∀ identity ∈ entries.map Prod.snd, identity ∉ seen := by
  induction entries generalizing seen with
  | nil => simp
  | cons entry rest ih =>
    simp only [List.map_cons, validatePayments, bind_eq_ok, ensure_eq_ok] at valid
    obtain ⟨_, -, _, -, identity, identified, _, fresh, others⟩ := valid
    obtain rfl := capturedIdentity_unique identified (identities entry List.mem_cons_self)
    obtain ⟨distinct, unseen⟩ :=
      ih (fun other member => identities other (List.mem_cons_of_mem _ member)) others
    rw [List.map_cons, List.nodup_cons]
    refine ⟨⟨fun again => unseen _ again List.mem_cons_self, distinct⟩, fun other member => ?_⟩
    rcases List.mem_cons.mp member with rfl | later
    · simpa using fresh
    · exact fun old => unseen other later (List.mem_cons_of_mem _ old)

/-! ### The portfolio part -/

/-- Storing loans touches no table but the loans. -/
theorem syncLoans_frame {capture : TmoSyncCapture} {streamId : ℕ} (loans : List TmoLoanSummary)
    {db after : Integrations} (done : syncLoans capture streamId loans db = .ok after) :
    after = { db with loans := after.loans } := by
  induction loans generalizing db with
  | nil =>
    simp only [syncLoans, pure_eq_ok] at done
    rw [← done]
  | cons loan rest ih =>
    simp only [syncLoans, syncLoan, bind_eq_ok, pure_eq_ok] at done
    obtain ⟨middle, ⟨dates, -, _, -, rfl⟩, others⟩ := done
    have tail := ih others
    exact tail

/-- Storing loan details touches no table but the loans. -/
theorem syncLoanDetails_frame {capture : TmoSyncCapture} (details : List TmoLoanDetail)
    {db after : Integrations} (done : syncLoanDetails capture details db = .ok after) :
    after = { db with loans := after.loans } := by
  induction details generalizing db with
  | nil =>
    simp only [syncLoanDetails, pure_eq_ok] at done
    rw [← done]
  | cons detail rest ih =>
    simp only [syncLoanDetails, syncLoanDetail, bind_eq_ok, pure_eq_ok] at done
    obtain ⟨middle, ⟨_, -, _, -, _, -, _, -, _, -, _, -, rfl⟩, others⟩ := done
    have tail := ih others
    exact tail

/-- The portfolio part of a sync touches neither payments nor links nor settings. -/
theorem syncPortfolio_frame {platform : Platform} {capture : TmoSyncCapture} {streamId : ℕ}
    {db after : Integrations} (done : syncPortfolio platform capture streamId db = .ok after) :
    after.payments = db.payments ∧ after.links = db.links ∧ after.settings = db.settings ∧
      after.connections.rows.map (fun entry => (entry.1, entry.2.slug)) =
        db.connections.rows.map (fun entry => (entry.1, entry.2.slug)) := by
  simp only [syncPortfolio, syncConnection, syncOverview, bind_eq_ok, pure_eq_ok] at done
  obtain ⟨connected, ⟨_, -, rfl⟩, overviewed, ⟨_, -, _, -, rfl⟩, loaned, loans, details⟩ := done
  rw [syncLoanDetails_frame _ details, syncLoans_frame _ loans]
  refine ⟨rfl, rfl, rfl, ?_⟩
  simp only [stageLoans, syncSnapshot, syncAccount, Table.updateWhere, List.map_map]
  refine List.map_congr_left fun entry _ => ?_
  simp only [Function.comp]
  split <;> rfl

/-- Consistency is about events, payments and links only. -/
theorem Domain.Consistent.congr {db other : Domain} (consistent : db.Consistent)
    (events : other.finance.events = db.finance.events)
    (payments : other.integrations.payments = db.integrations.payments)
    (links : other.integrations.links = db.integrations.links) : other.Consistent where
  eventKeys := by rw [events]; exact consistent.eventKeys
  paymentKeys := by rw [payments]; exact consistent.paymentKeys
  functional := by rw [links]; exact consistent.functional
  sound := by rw [links, payments, events]; exact consistent.sound

/-- A valid capture has no identity twice. -/
theorem validateCapture_distinct {platform : Platform} {capture : TmoSyncCapture} {label : String}
    (valid : validateCapture platform capture = .ok ⟨⟩) {entries : List CapturedPayment}
    (same : entries.map Prod.fst = capture.payments)
    (identities : ∀ entry ∈ entries, capturedIdentity platform label entry.1 = .ok entry.2) :
    (entries.map Prod.snd).Nodup := by
  simp only [validateCapture, bind_eq_ok] at valid
  obtain ⟨_, -, _, -, _, -, _, -, accounts, -, _, -, _, -, valid⟩ := valid
  rw [← same] at valid
  exact (validatePayments_distinct entries identities valid).1

/-- A sync selects a stream, stores the capture's payments there, and removes what it dropped. -/
theorem applyTmoSync_replaced {platform : Platform} {capture : TmoSyncCapture} {before : Domain}
    {result : TmoSyncPersistence × Domain} (consistent : before.Consistent)
    (done : applyTmoSync platform capture before = .ok result) :
    ∃ streamId entries, requireTrustDeedStream before.finance = .ok streamId ∧
      entries.map Prod.fst = capture.payments ∧
      (∀ entry ∈ entries, capturedIdentity platform "payment check date" entry.1 = .ok entry.2) ∧
      (entries.map Prod.snd).Nodup ∧
      Replaced capture streamId entries before result.2 := by
  simp only [applyTmoSync, replacePaymentProjection, bind_eq_ok, pure_eq_ok] at done
  obtain ⟨_, valid, _, -, streamId, selected, integrations, portfolio, _, ⟨middle, walked, rfl⟩,
    rfl⟩ := done
  obtain ⟨payments, links, -, -⟩ := syncPortfolio_frame portfolio
  obtain ⟨entries, same, identities, normalized⟩ := normalizePayments_normalized _ walked
  -- The capture was validated before, and a valid one has no identity twice.
  have distinct := validateCapture_distinct valid same identities
  -- The portfolio writes neither payments nor links.
  have ready : Domain.Consistent { before with integrations } :=
    consistent.congr rfl payments links
  have replaced := ((normalized distinct).staged ready).replaced
  refine ⟨streamId, entries, selected, same, identities, distinct, replaced.consistent,
    replaced.stored, replaced.payments, replaced.selected, ?_, replaced.others, replaced.evolves,
    replaced.finance⟩
  intro eventId event type other
  refine (replaced.elsewhere eventId event type other).trans ?_
  simp only [IsStaleLinked, payments, links]

/-! ### Success -/

/-- What validation asks of one payment. -/
structure TmoPayment.Valid (platform : Platform) (payment : TmoPayment)
    (identity : PaymentIdentity) : Prop where
  /-- The loan is named. -/
  named : isBlank payment.loanAccount = false
  /-- The figures are numbers. -/
  finite : requireFinite "TMO payment" [payment.amount, payment.serviceFee, payment.interest,
    payment.principal, payment.charges, payment.lateCharges, payment.other] = .ok ()
  /-- The date and the amount are readable. -/
  identified : capturedIdentity platform "TMO payment check date" payment = .ok identity

/-- Valid payments with identities of their own pass validation. -/
theorem validatePayments_ok {platform : Platform} (entries : List CapturedPayment)
    {seen : List PaymentIdentity} (valid : ∀ entry ∈ entries, entry.1.Valid platform entry.2)
    (distinct : (entries.map Prod.snd).Nodup)
    (unseen : ∀ identity ∈ entries.map Prod.snd, identity ∉ seen) :
    validatePayments platform (entries.map Prod.fst) seen = .ok () := by
  induction entries generalizing seen with
  | nil => rfl
  | cons entry rest ih =>
    obtain ⟨named, finite, identified⟩ := valid entry List.mem_cons_self
    rw [List.map_cons, List.nodup_cons] at distinct
    have fresh : (!seen.contains entry.2) = true := by
      simpa using unseen entry.2 List.mem_cons_self
    have others := ih
      (fun other member => valid other (List.mem_cons_of_mem _ member)) distinct.2
      (fun identity member again => by
        rcases List.mem_cons.mp again with rfl | old
        · exact distinct.1 member
        · exact unseen identity (List.mem_cons_of_mem _ member) old)
    simp only [List.map_cons, validatePayments, bind_eq_ok, ensure_eq_ok]
    exact ⟨(), by simp [named], (), finite, entry.2, identified, (), fresh, others⟩

/-- Payments are validated apart from the rest of a capture. -/
theorem validateCapture_payments {platform : Platform} {capture : TmoSyncCapture}
    {payments : List TmoPayment} (valid : validateCapture platform capture = .ok ())
    (others : validatePayments platform payments [] = .ok ()) :
    validateCapture platform { capture with payments } = .ok () := by
  simp only [validateCapture, bind_eq_ok] at valid ⊢
  obtain ⟨_, named, _, dated, _, counted, _, overview, accounts, loans, _, details, _, outcomes,
    -⟩ := valid
  exact ⟨_, named, _, dated, _, counted, _, overview, accounts, loans, _, details, _, outcomes,
    others⟩

/-- Whether the schema stores a payment. -/
def TmoPayment.Storable (platform : Platform) (payment : TmoPayment) : Prop :=
  ∃ checkDate identity date, requiredDate "payment check date" payment.checkDate = .ok checkDate ∧
    paymentExternalId platform payment checkDate = .ok identity ∧
    checkDateText checkDate = .ok date ∧
    checkReals ([payment.amount, payment.serviceFee, payment.interest, payment.principal,
      payment.charges, payment.lateCharges, payment.other].map F64.value) = .ok ()

/-- No event of a stored payment is excluded. -/
def HistoryShown (events : Table StreamEvent) : Prop :=
  ∀ id event, (id, event) ∈ events → event.sourceType = some .tmoHistory →
    event.isExcluded = false

/-- Storing a payment's event excludes none, so the schema accepts it. -/
theorem HistoryShown.upsert {events : Table StreamEvent} (shown : HistoryShown events)
    (capture : TmoSyncCapture) (streamId : ℕ) (identity : PaymentIdentity) (date : IsoDate)
    (payment : TmoPayment) :
    let event := payment.event capture streamId identity date
    let projected := events.upsert (sameSource event) event event.renormalized
    HistoryShown projected.2 ∧ checkReceived projected.1 projected.2 = .ok ⟨⟩ := by
  intro event projected
  -- The event is new, or it keeps the exclusion of the event of the same payment.
  have fresh : event.isExcluded = false := rfl
  obtain ⟨stored, member, origin⟩ := events.upsert_stored (sameSource event) event
    event.renormalized
  have visible : stored.isExcluded = false := by
    rcases origin with rfl | ⟨old, there, same, rfl⟩
    · exact fresh
    · obtain ⟨key, has, hasOld⟩ := sameSource_iff.mp same
      rw [TmoPayment.event_key, Option.some.injEq] at has
      exact shown _ old there (StreamEvent.key_eq_some.mp (has ▸ hasOld)).2.1
  constructor
  · intro id other there type
    by_cases here : id = projected.1
    · subst here
      rw [Table.unique there member]
      exact visible
    · exact shown id other ((Table.mem_upsert_of_ne here).mp there) type
  · rw [checkReceived, ensure_eq_ok, Table.get?_eq_some.mpr member, Option.all_some, visible]
    simp

/-- Storing payments excludes none of their events. -/
theorem normalizePayments_shown {platform : Platform} {capture : TmoSyncCapture} {streamId : ℕ}
    (payments : List TmoPayment) {db after : Domain} (shown : HistoryShown db.finance.events)
    (done : normalizePayments platform capture streamId payments db = .ok after) :
    HistoryShown after.finance.events := by
  induction payments generalizing db with
  | nil =>
    simp only [normalizePayments, pure_eq_ok] at done
    exact done ▸ shown
  | cons payment rest ih =>
    simp only [normalizePayments, bind_eq_ok] at done
    obtain ⟨middle, first, others⟩ := done
    obtain ⟨_, identity, date, -, -, -, rfl⟩ := normalizePayment_eq_ok first
    have later := (shown.upsert capture streamId identity date payment).1
    have tail := ih later others
    exact tail

/-- Storing payments succeeds when the schema stores each of them. -/
theorem normalizePayments_ok {platform : Platform} {capture : TmoSyncCapture} {streamId : ℕ}
    (payments : List TmoPayment) (storable : ∀ payment ∈ payments, payment.Storable platform)
    {db : Domain} (shown : HistoryShown db.finance.events) :
    ∃ after, normalizePayments platform capture streamId payments db = .ok after := by
  induction payments generalizing db with
  | nil => exact ⟨db, rfl⟩
  | cons payment rest ih =>
    obtain ⟨checkDate, identity, date, dated, identified, checked, reals⟩ :=
      storable payment List.mem_cons_self
    obtain ⟨later, received⟩ := shown.upsert capture streamId identity date payment
    obtain ⟨middle, stored, events⟩ :
        ∃ middle, normalizePayment platform capture streamId payment db = .ok middle ∧
          HistoryShown middle.finance.events := by
      simp only [normalizePayment, bind_eq_ok]
      exact ⟨_, ⟨checkDate, dated, identity, identified, date, checked, (), reals, (), received,
        rfl⟩, later⟩
    obtain ⟨after, others⟩ :=
      ih (fun other member => storable other (List.mem_cons_of_mem _ member)) events
    simp only [normalizePayments, bind_eq_ok]
    exact ⟨after, middle, stored, others⟩

/-- Payments that are stored one after the other are each stored. -/
theorem normalizePayments_storable {platform : Platform} {capture : TmoSyncCapture} {streamId : ℕ}
    (payments : List TmoPayment) {db after : Domain}
    (done : normalizePayments platform capture streamId payments db = .ok after) :
    ∀ payment ∈ payments, payment.Storable platform := by
  induction payments generalizing db with
  | nil => exact fun _ member => absurd member List.not_mem_nil
  | cons payment rest ih =>
    simp only [normalizePayments, bind_eq_ok] at done
    obtain ⟨middle, first, others⟩ := done
    simp only [normalizePayment, bind_eq_ok] at first
    obtain ⟨checkDate, dated, identity, identified, date, checked, _, reals, -⟩ := first
    rw [List.forall_mem_cons]
    exact ⟨⟨checkDate, identity, date, dated, identified, checked, reals⟩, ih others⟩

/-- A sync succeeds when its checks pass, its portfolio is stored, and its payments can be. -/
theorem applyTmoSync_ok {platform : Platform} {capture : TmoSyncCapture} {db : Domain}
    {streamId : ℕ} {integrations : Integrations}
    (valid : validateCapture platform capture = .ok ())
    (connected : requireTmoConnection db.integrations capture.connectionId = .ok ())
    (selected : requireTrustDeedStream db.finance = .ok streamId)
    (portfolio : syncPortfolio platform capture streamId db.integrations = .ok integrations)
    (storable : ∀ payment ∈ capture.payments, payment.Storable platform)
    (shown : HistoryShown db.finance.events) :
    ∃ result, applyTmoSync platform capture db = .ok result := by
  obtain ⟨middle, stored⟩ : ∃ middle, normalizePayments platform capture streamId capture.payments
      (stagePayments capture { db with integrations }) = .ok middle :=
    normalizePayments_ok capture.payments storable shown
  simp only [applyTmoSync, replacePaymentProjection, bind_eq_ok]
  exact ⟨_, (), valid, (), connected, streamId, selected, integrations, portfolio, _,
    ⟨middle, stored, rfl⟩, rfl⟩

end FinStream
