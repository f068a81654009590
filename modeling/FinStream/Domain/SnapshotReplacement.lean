import FinStream.Domain.DetailCoverage
import FinStream.Integrations.SyncAgain

/-! A TMO sync replaces the imported snapshot by the captured one, as often as it is applied. -/

namespace FinStream

open Store

variable {platform : Platform} {capture : TmoSyncCapture} {before : Domain}
  {result : TmoSyncPersistence × Domain}

/-- The day on which a captured payment is stored. -/
def TmoPayment.day (payment : TmoPayment) : IntegrationResult IsoDate := do
  let checkDate ← requiredDate "payment check date" payment.checkDate
  checkDateText checkDate

/-- A payment that has a check number is received, and otherwise confirmed. -/
def TmoPayment.status (payment : TmoPayment) : EventStatus :=
  if (normalizeCheckNumber payment.checkNumber).isSome then .received else .confirmed

/-- The imported snapshot is exactly the captured one. -/
structure ShowsSnapshot (platform : Platform) (capture : TmoSyncCapture) (db : Domain) : Prop where
  /-- The active loans of the connection are the captured ones. -/
  loans : (db.integrations.loans.select
    (fun row => row.connectionId == capture.connectionId && row.isActive) (·.loanAccount)).Perm
      (capture.loans.map (·.loanAccount))
  /-- The payments of the connection are the captured ones, one row for each identity. -/
  payments : ∃ identities,
    capture.payments.mapM (capturedIdentity platform "payment check date") = .ok identities ∧
      identities.Nodup ∧ (db.integrations.payments.select
        (·.connectionId == capture.connectionId) (·.externalId)).Perm identities
  /-- None of the connection's payments is stale. -/
  normalized : ∀ paymentId row, (paymentId, row) ∈ db.integrations.payments →
    row.connectionId = capture.connectionId → row.processingState = .normalized
  /-- The row of a payment is linked to one event, which has the payment's date, amount, status. -/
  events : ∀ payment ∈ capture.payments, ∃ identity paymentId row eventId event,
    capturedIdentity platform "payment check date" payment = .ok identity ∧
    (paymentId, row) ∈ db.integrations.payments ∧ row.connectionId = capture.connectionId ∧
    row.externalId = identity ∧ row.rawPayload = payment ∧
    (∀ linkedId, Linked db.integrations.links paymentId linkedId ↔ linkedId = eventId) ∧
    (eventId, event) ∈ db.finance.events ∧ payment.day = .ok event.expectedDate ∧
    event.amount = |payment.amount.value| ∧ event.status = payment.status

/-- What a sync that was applied has checked, and what it has written. -/
structure AppliedSync (platform : Platform) (capture : TmoSyncCapture) (streamId : ℕ)
    (rows : List TmoImportLoan) (details : List DatedDetail) (before : Domain)
    (result : TmoSyncPersistence × Domain) : Prop where
  /-- The capture is valid. -/
  valid : validateCapture platform capture = .ok ⟨⟩
  /-- Its connection is the TMO connection. -/
  connected : requireTmoConnection before.integrations capture.connectionId = .ok ⟨⟩
  /-- There is a stream to normalise payments into. -/
  selected : requireTrustDeedStream before.finance = .ok streamId
  /-- Its payments can be stored. -/
  storable : ∀ payment ∈ capture.payments, payment.Storable platform
  /-- Its loans are stored as these rows. -/
  summary : SummaryRows capture capture.loans rows
  /-- Its portfolio is stored the same way in any tables. -/
  portfolio : ∀ db, syncPortfolio platform capture streamId db =
    .ok (writePortfolio capture rows details db)
  /-- Besides the portfolio the sync writes payments and links. -/
  integrations : result.2.integrations =
    { writePortfolio capture rows details before.integrations with
      payments := result.2.integrations.payments
      links := result.2.integrations.links }
  /-- The result counts what was captured. -/
  counts : result.1 = ⟨capture.payments.length, capture.loans.length, 1⟩

/-- A sync that succeeds was applied, check after check and write after write. -/
theorem applyTmoSync_applied (done : applyTmoSync platform capture before = .ok result) :
    ∃ streamId rows details, AppliedSync platform capture streamId rows details before result := by
  simp only [applyTmoSync, replacePaymentProjection, bind_eq_ok, pure_eq_ok] at done
  obtain ⟨_, valid, _, connected, streamId, selected, integrations, portfolio, _,
    ⟨middle, walked, rfl⟩, rfl⟩ := done
  have counts := validateCapture_counted valid
  obtain ⟨rows, details, summary, writes⟩ := syncPortfolio_writes portfolio
    (fun detail member => counts.known _ (List.mem_map_of_mem member)) counts.distinct
  obtain rfl := Except.ok.inj (portfolio.symm.trans (writes _))
  refine ⟨streamId, rows, details, valid, connected, selected, normalizePayments_storable _ walked,
    summary, writes, ?_, rfl⟩
  -- Payments and links are all that the projection and the removals write there.
  obtain ⟨entries, same, identities, normalized⟩ := normalizePayments_normalized _ walked
  have frame := (normalized (validateCapture_distinct valid same identities)).integrations
  have removed : (removals capture streamId middle).integrations = { middle.integrations with
      payments := (removals capture streamId middle).integrations.payments
      links := (removals capture streamId middle).integrations.links } := rfl
  rw [frame] at removed
  exact removed

section Replaced

variable {streamId : ℕ} {entries : List CapturedPayment} {db : Domain}
  (replaced : Replaced capture streamId entries before db)

include replaced

/-- The payments of the connection have the captured identities. -/
theorem Replaced.payments_perm (distinct : (entries.map Prod.snd).Nodup) :
    (db.integrations.payments.select
      (·.connectionId == capture.connectionId) (·.externalId)).Perm (entries.map Prod.snd) := by
  refine Table.select_perm ?_ distinct fun identity => ?_
  -- The key of a payment is its connection with its identity.
  · intro left right leftRow rightRow leftThere rightThere leftOwned rightOwned same
    refine replaced.consistent.paymentKeys _ _ _ _ _ leftThere rightThere rfl ?_
    rw [TmoImportPayment.key, beq_iff_eq.mp rightOwned, ← same, ← beq_iff_eq.mp leftOwned]
  · constructor
    · rintro ⟨id, row, there, owned, rfl⟩
      obtain ⟨entry, member, key⟩ := replaced.payments id row there (beq_iff_eq.mp owned)
      simp only [TmoImportPayment.key, Option.some.injEq, Prod.mk.injEq] at key
      exact key.2 ▸ List.mem_map_of_mem member
    · intro captured
      obtain ⟨entry, member, rfl⟩ := List.mem_map.mp captured
      obtain ⟨_, _, paymentId, row, _, _, -, -, payment, isRow, -⟩ := replaced.stored entry member
      refine ⟨paymentId, row, payment, ?_, ?_⟩
      · rw [isRow]
        exact beq_self_eq_true _
      · rw [isRow]
        rfl

/-- What a replaced projection leaves of the payments is the captured snapshot. -/
theorem Replaced.showsSnapshot (same : entries.map Prod.fst = capture.payments)
    (identities : ∀ entry ∈ entries,
      capturedIdentity platform "payment check date" entry.1 = .ok entry.2)
    (distinct : (entries.map Prod.snd).Nodup)
    (loans : (db.integrations.loans.select
      (fun row => row.connectionId == capture.connectionId && row.isActive) (·.loanAccount)).Perm
      (capture.loans.map (·.loanAccount))) : ShowsSnapshot platform capture db where
  loans := loans
  payments := by
    refine ⟨entries.map Prod.snd, mapM_ok ?_, distinct, replaced.payments_perm distinct⟩
    rw [← same]
    exact List.forall₂_map_left_iff.mpr (List.forall₂_map_right_iff.mpr
      (List.forall₂_same.mpr identities))
  normalized := fun _ _ => replaced.not_stale
  events := by
    intro payment captured
    rw [← same] at captured
    obtain ⟨entry, member, rfl⟩ := List.mem_map.mp captured
    -- The projection stored the payment and its one event, whose day is that of the check.
    obtain ⟨checkDate, date, paymentId, row, eventId, event, dated, checked, stored, isRow, there,
      -, isEvent, linked⟩ := replaced.stored entry member
    have day : event.expectedDate = date := congrArg StreamEvent.expectedDate isEvent
    refine ⟨entry.2, paymentId, row, eventId, event, identities entry member, stored,
      congrArg TmoImportPayment.connectionId isRow, congrArg TmoImportPayment.externalId isRow,
      congrArg TmoImportPayment.rawPayload isRow, fun linkedId => ⟨fun also => ?_, ?_⟩, there, ?_,
      congrArg StreamEvent.amount isEvent, congrArg StreamEvent.status isEvent⟩
    · exact replaced.consistent.functional _ _ _ also linked
    · rintro rfl
      exact linked
    · rw [day]
      exact bind_eq_ok.mpr ⟨checkDate, dated, checked⟩

end Replaced

/-- The connection that a sync has recorded is still the TMO connection. -/
theorem requireTmoConnection_writePortfolio {db : Integrations} (rows : List TmoImportLoan)
    (details : List DatedDetail) (payments : Table TmoImportPayment)
    (links : List PaymentEventLink)
    (connected : requireTmoConnection db capture.connectionId = .ok ⟨⟩) :
    requireTmoConnection { writePortfolio capture rows details db with payments, links }
      capture.connectionId = .ok ⟨⟩ := by
  simp only [requireTmoConnection, ensure_eq_ok, Option.any_eq_true, Table.get?_eq_some]
    at connected ⊢
  obtain ⟨connection, stored, slug⟩ := connected
  refine ⟨_, Table.mem_updateWhere.mpr ⟨connection, stored, rfl⟩, ?_⟩
  split
  · exact slug
  · exact slug

/--
A sync replaces the imported snapshot by the captured one, and does so once.

Applied to what it has left, it succeeds with the same counts and leaves every table as it is.
-/
theorem applyTmoSync_replaces_snapshot (reached : (domainSystem platform).Reachable before)
    (done : applyTmoSync platform capture before = .ok result) :
    ShowsSnapshot platform capture result.2 ∧
      applyTmoSync platform capture result.2 = .ok result := by
  obtain ⟨streamId, rows, details, applied⟩ := applyTmoSync_applied done
  obtain ⟨selected, entries, selects, same, identities, distinct, replaced⟩ :=
    applyTmoSync_replaced (reachable_consistent reached) done
  obtain rfl := Except.ok.inj (applied.selected.symm.trans selects)
  have accounts := (validateCapture_counted applied.valid).distinct
  constructor
  · refine replaced.showsSnapshot same identities distinct ?_
    rw [applied.integrations]
    exact applied.summary.active_perm accounts before.integrations.loans details
  -- No event of a payment is excluded afterwards, since the sync leads to a reachable state.
  have committed : DomainOp.commit platform before (.tmoSync capture) = some result.2 :=
    Option.map_eq_some_iff.mpr ⟨result, toOption_eq_some.mpr done, rfl⟩
  have shown := reachable_shown (reached.step committed)
  have connected : requireTmoConnection result.2.integrations capture.connectionId = .ok ⟨⟩ := by
    rw [applied.integrations]
    exact requireTmoConnection_writePortfolio rows details _ _ applied.connected
  have stream : requireTrustDeedStream result.2.finance = .ok streamId := by
    rw [replaced.finance]
    exact applied.selected
  have portfolio : syncPortfolio platform capture streamId result.2.integrations =
      .ok result.2.integrations := by
    -- The portfolio is what the sync has written, and payments and links are no part of it.
    have again := writePortfolio_again applied.summary accounts details before.integrations
    have kept : writePortfolio capture rows details result.2.integrations =
        { writePortfolio capture rows details
            (writePortfolio capture rows details before.integrations) with
          payments := result.2.integrations.payments
          links := result.2.integrations.links } := by
      rw [applied.integrations]
      rfl
    rw [applied.portfolio, kept, again, ← applied.integrations]
  have projection := replaced.projection_again shown same applied.storable identities distinct
  simp only [applyTmoSync, bind_eq_ok, pure_eq_ok]
  exact ⟨_, applied.valid, _, connected, streamId, stream, _, portfolio, _, projection,
    Prod.ext applied.counts.symm rfl⟩

/-- The tables after a sync of two loans and two checks. -/
def importedDomain : Domain :=
  replay plainPlatform [
    .finance (.saveStream "2026-01-07T00:00:00Z" trustDeedsStream twoWeeks),
    .tmoSync { capturedDetails ["L-1"] with
      payments := [loanCheck, { loanCheck with checkDate := "2026-01-06" }] }] .registered

/-- A later capture, in which one of the loans and one of the checks are gone. -/
def laterSnapshot : TmoSyncCapture :=
  { onePayment with
    capturedAt := "2026-01-09T00:00:00Z"
    overview := { onePayment.overview with portfolioCount := 1 }
    loans := [loanOf "L-2"]
    loanDetails := [detailOf "L-2"]
    payments := [{ loanCheck with checkNumber := "" }] }

/-- The later capture replaces the earlier one, and does so once. -/
theorem applyTmoSync_replaces_earlier : ∃ result,
    applyTmoSync plainPlatform laterSnapshot importedDomain = .ok result ∧
      ShowsSnapshot plainPlatform laterSnapshot result.2 ∧
      applyTmoSync plainPlatform laterSnapshot result.2 = .ok result := by
  have applies :
      (applyTmoSync plainPlatform laterSnapshot importedDomain).toOption.isSome = true := by
    decide +kernel
  obtain ⟨result, done⟩ := Option.isSome_iff_exists.mp applies
  have done := toOption_eq_some.mp done
  exact ⟨result, done, applyTmoSync_replaces_snapshot (replay_reachable (by decide +kernel)) done⟩

end FinStream
