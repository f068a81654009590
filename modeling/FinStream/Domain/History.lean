import FinStream.Domain.PaymentProjection
import FinStream.Integrations.Provider
import Mathlib.Data.Rat.Floor
import Mathlib.Tactic.Linarith

/-! What a sync keeps of the payment history that the provider still has. -/

namespace FinStream

open Store

variable {platform : Platform}

/-- A sync of what a client captures; it fails when the capture or its application does. -/
def captureAndApply (platform : Platform) (client : TmoClient) (connectionId : ℕ)
    (companyId accountNumber capturedAt snapshotDate : String) (db : Domain) :
    Option (TmoSyncPersistence × Domain) :=
  (client.capture connectionId companyId accountNumber capturedAt snapshotDate).toOption.bind
    fun captured => (applyTmoSync platform captured db).toOption

/-- A payment is stored for a connection, together with the event it is linked to. -/
def IsImported (connectionId : ℕ) (identity : PaymentIdentity) (db : Domain) : Prop :=
  ∃ paymentId row eventId event, (paymentId, row) ∈ db.integrations.payments ∧
    row.key = some (connectionId, identity) ∧ (eventId, event) ∈ db.finance.events ∧
    event.IsHistoryOf identity ∧ Linked db.integrations.links paymentId eventId

/-- Syncs of a client keep the whole history: it is fetched completely, and then stored. -/
structure KeepsHistory (platform : Platform) (client : TmoClient) (history : List TmoPayment) :
    Prop where
  /-- The history is fetched as a whole or not at all. -/
  complete : ∀ payments, client.getHistory = .ok payments → payments = history
  /-- Whatever was stored before, every payment of the history is stored after a sync. -/
  imported : ∀ before connectionId companyId accountNumber capturedAt snapshotDate result,
    (domainSystem platform).Reachable before →
    captureAndApply platform client connectionId companyId accountNumber capturedAt snapshotDate
      before = some result →
    ∀ payment ∈ history, ∃ identity,
      capturedIdentity platform "payment check date" payment = .ok identity ∧
        IsImported connectionId identity result.2

/-- A sync succeeds when the capture and its application do. -/
theorem captureAndApply_eq_some {client : TmoClient} {connectionId : ℕ}
    {companyId accountNumber capturedAt snapshotDate : String} {before : Domain}
    {result : TmoSyncPersistence × Domain} :
    captureAndApply platform client connectionId companyId accountNumber capturedAt snapshotDate
      before = some result ↔
      ∃ captured, client.capture connectionId companyId accountNumber capturedAt snapshotDate
        = .ok captured ∧ applyTmoSync platform captured before = .ok result := by
  simp only [captureAndApply, Option.bind_eq_some_iff, toOption_eq_some]

/-- A sync stores every captured payment. -/
theorem applyTmoSync_imported {capture : TmoSyncCapture} {before : Domain}
    {result : TmoSyncPersistence × Domain} (consistent : before.Consistent)
    (done : applyTmoSync platform capture before = .ok result) {payment : TmoPayment}
    (captured : payment ∈ capture.payments) :
    ∃ identity, capturedIdentity platform "payment check date" payment = .ok identity ∧
      IsImported capture.connectionId identity result.2 := by
  obtain ⟨streamId, entries, -, same, identities, -, replaced⟩ :=
    applyTmoSync_replaced consistent done
  rw [← same] at captured
  obtain ⟨entry, member, rfl⟩ := List.mem_map.mp captured
  obtain ⟨paymentId, row, eventId, event, stored, rowKey, there, key, linked, -⟩ :=
    replaced.representative member
  obtain ⟨-, type, source⟩ := StreamEvent.key_eq_some.mp key
  exact ⟨entry.2, identities entry member, paymentId, row, eventId, event, stored, rowKey, there,
    ⟨type, source⟩, linked⟩

/-- Syncs keep the history exactly when fetching it fails or it fits on the one page requested. -/
theorem keepsHistory_iff {client : TmoClient} {history : List TmoPayment}
    (serves : Serves client.historyData history) :
    KeepsHistory platform client history ↔
      (∀ response, client.historyData 1 1000 ≠ .ok response) ∨ history.length ≤ 1000 := by
  have fetched : ∀ payments, client.getHistory = .ok payments ↔
      (∃ response, client.historyData 1 1000 = .ok response) ∧ payments = history.take 1000 :=
    fun _ => TmoClient.getHistory_eq_ok serves
  constructor
  · intro keeps
    by_cases answers : ∃ response, client.historyData 1 1000 = .ok response
    · -- The thousand rows fetched are the whole history, which is then no longer than that.
      right
      have whole := keeps.complete _ ((fetched _).mpr ⟨answers, rfl⟩)
      rw [← whole]
      exact List.length_take_le _ _
    · exact .inl fun response answered => answers ⟨response, answered⟩
  · intro fits
    have complete : ∀ payments, client.getHistory = .ok payments → payments = history := by
      intro payments done
      obtain ⟨⟨response, answered⟩, rfl⟩ := (fetched payments).mp done
      rcases fits with silent | short
      · exact absurd answered (silent response)
      · exact List.take_of_length_le short
    refine ⟨complete, ?_⟩
    intro before connectionId companyId accountNumber capturedAt snapshotDate result reached done
      payment member
    obtain ⟨captured, taken, applied⟩ := captureAndApply_eq_some.mp done
    obtain ⟨fetched, rfl⟩ := TmoClient.capture_payments taken
    rw [← complete _ fetched] at member
    exact applyTmoSync_imported (reachable_consistent reached) applied member

/-- A client whose provider has no loans and the given payment history. -/
def TmoClient.withHistory (history : List TmoPayment) : TmoClient where
  user := ⟨"1", "company", "account", "Lender", "lender@example.com"⟩
  getOverview :=
    .ok ⟨.finite 0, .finite 0, .finite 0, .finite 0, 0, .finite 0, .finite 0, .finite 0⟩
  portfolioData page rowsPerPage := .ok (pageOf [] page rowsPerPage)
  loanDetail _ := .error .missingData
  historyData page rowsPerPage := .ok (pageOf history page rowsPerPage)

/-- The listing of such a client serves its history. -/
theorem TmoClient.withHistory_serves (history : List TmoPayment) :
    Serves (TmoClient.withHistory history).historyData history := by
  rintro page rowsPerPage response ⟨⟩
  rfl

/-- A history of one check is kept. -/
theorem keepsHistory_one_check :
    KeepsHistory plainPlatform (TmoClient.withHistory [loanCheck]) [loanCheck] :=
  (keepsHistory_iff (TmoClient.withHistory_serves [loanCheck])).mpr (.inr (by decide))

/-- A check like the other one, for the given amount. -/
def checkOf (amount : ℕ) : TmoPayment :=
  { loanCheck with amount := .finite amount, interest := .finite amount }

/-- A thousand checks, newer than the one for 500. -/
def recentChecks : List TmoPayment := (List.range 1000).map fun index => checkOf (501 + index)

/-- A client captures the first thousand payments of its history. -/
theorem TmoClient.withHistory_capture (history : List TmoPayment) :
    (TmoClient.withHistory history).capture 1 "company" "account" "2026-01-07T00:00:00Z"
      "2026-01-07" = .ok { onePayment with payments := history.take 1000 } := by
  rfl

/-- The identity of such a check names its amount in cents. -/
theorem checkOf_identity (label : String) {amount : ℕ} (small : amount ≤ 10000) :
    capturedIdentity plainPlatform label (checkOf amount) =
      .ok ⟨"L1", "2026-01-05", 100 * amount⟩ := by
  have dated : requiredDate "check date" "2026-01-05" = .ok "2026-01-05" := by decide +kernel
  have bounded : (amount : ℚ) ≤ 10000 := by exact_mod_cast small
  have rounded : roundHalfAway (100 * (amount : ℚ)) = 100 * amount := by
    rw [roundHalfAway, if_pos (by positivity)]
    have floored : Int.floor (100 * (amount : ℚ) + 1 / 2) = 100 * amount := by
      rw [Int.floor_eq_iff]
      push_cast
      constructor <;> linarith
    exact floored
  simp only [capturedIdentity, paymentExternalId, bind_eq_ok, ensure_eq_ok, pure_eq_ok]
  refine ⟨"2026-01-05", requiredDate_label dated, (), ?_, ?_⟩
  · simp only [plainPlatform, checkOf, F64.isFinite, F64.value, Bool.and_eq_true]
    exact ⟨⟨trivial, decide_eq_true (by linarith)⟩, decide_eq_true (by linarith)⟩
  · simp [plainPlatform, checkOf, F64.value, rounded, loanCheck]
    omega

/-- The schema stores such a check. -/
theorem checkOf_storable {amount : ℕ} (small : amount ≤ 10000) :
    (checkOf amount).Storable plainPlatform := by
  have read : capturedIdentity plainPlatform "payment check date" (checkOf amount) = _ :=
    checkOf_identity _ small
  simp only [capturedIdentity, bind_eq_ok] at read
  obtain ⟨checkDate, dated, identified⟩ := read
  have known : requiredDate "payment check date" "2026-01-05" = .ok "2026-01-05" := by
    decide +kernel
  obtain rfl : checkDate = "2026-01-05" := Except.ok.inj (dated.symm.trans known)
  have bounded : (amount : ℚ) < realBound := by
    have : (amount : ℚ) ≤ 10000 := by exact_mod_cast small
    exact this.trans_lt (by decide +kernel)
  refine ⟨_, _, firstMonday, dated, identified, by decide +kernel, ?_⟩
  simp [checkReals, realFits, checkOf, loanCheck, F64.value, bounded]
  decide +kernel

/-- Such a check passes validation. -/
theorem checkOf_valid {amount : ℕ} (small : amount ≤ 10000) :
    (checkOf amount).Valid plainPlatform ⟨"L1", "2026-01-05", 100 * amount⟩ :=
  have named : isBlank "L1" = false := by decide +kernel
  ⟨named, rfl, checkOf_identity _ small⟩

/-- A provider whose history is one payment longer than the page a sync requests. -/
def longHistory : List TmoPayment := recentChecks ++ [loanCheck]

/-- The check for 500 was the whole history when it was synced. -/
def syncedOps : List DomainOp := [
  .finance (.saveStream "2026-01-07T00:00:00Z" trustDeedsStream twoWeeks),
  .tmoSync onePayment]

/-- The state after that sync. -/
def syncedDomain : Domain := replay plainPlatform syncedOps .registered

/-- The capture of the thousand newer checks. -/
def recentCapture : TmoSyncCapture := { onePayment with payments := recentChecks }

/-- A client of the long history captures the newer checks. -/
theorem longHistory_capture :
    (TmoClient.withHistory longHistory).capture 1 "company" "account" "2026-01-07T00:00:00Z"
      "2026-01-07" = .ok recentCapture := by
  rw [TmoClient.withHistory_capture, longHistory, List.take_left' (by simp [recentChecks])]
  rfl

/-- The newer checks with their identities. -/
def recentEntries : List CapturedPayment :=
  (List.range 1000).map fun index =>
    (checkOf (501 + index), ⟨"L1", "2026-01-05", 100 * (501 + index : ℕ)⟩)

/-- The entries are those of the capture. -/
theorem recentEntries_fst : recentEntries.map Prod.fst = recentChecks := by
  simp [recentEntries, recentChecks]

/-- A sync accepts the newer checks. -/
theorem recentCapture_applies :
    ∃ result, applyTmoSync plainPlatform recentCapture syncedDomain = .ok result := by
  -- A thousand checks are too many to evaluate, so each is shown to be valid by its number.
  have small : ∀ index ∈ List.range 1000, 501 + index ≤ 10000 := by
    intro index member
    have := List.mem_range.mp member
    omega
  have payments : validatePayments plainPlatform recentChecks [] = .ok () := by
    rw [← recentEntries_fst]
    refine validatePayments_ok _ (fun entry member => ?_) ?_ (by simp)
    · obtain ⟨index, below, rfl⟩ := List.mem_map.mp member
      exact checkOf_valid (small index below)
    · simp only [recentEntries, List.map_map]
      refine List.nodup_range.map_on ?_
      intro left _ right _ same
      simp only [Function.comp, PaymentIdentity.mk.injEq] at same
      omega
  -- The rest of the sync is small enough.
  have stored : (syncPortfolio plainPlatform recentCapture 1
      syncedDomain.integrations).toOption.isSome = true := by decide +kernel
  obtain ⟨integrations, portfolio⟩ := Option.isSome_iff_exists.mp stored
  have selected : requireTrustDeedStream syncedDomain.finance = .ok 1 := by decide +kernel
  have shown : HistoryShown syncedDomain.finance.events :=
    reachable_shown (replay_reachable (by decide +kernel))
  refine applyTmoSync_ok ?_ (by decide +kernel) selected (toOption_eq_some.mp portfolio) ?_ shown
  · have valid : validateCapture plainPlatform onePayment = .ok () := by decide +kernel
    exact validateCapture_payments valid payments
  · intro payment member
    simp only [recentCapture] at member
    obtain ⟨index, below, rfl⟩ := List.mem_map.mp member
    exact checkOf_storable (small index below)

/-- The check for 500 is dropped although the provider still has it. -/
theorem history_dropped :
    Serves (TmoClient.withHistory longHistory).historyData longHistory ∧
      loanCheck ∈ longHistory ∧ (domainSystem plainPlatform).Reachable syncedDomain ∧
      IsImported 1 loanCheckIdentity syncedDomain ∧
      (∃ result, captureAndApply plainPlatform (TmoClient.withHistory longHistory) 1 "company"
        "account" "2026-01-07T00:00:00Z" "2026-01-07" syncedDomain = some result ∧
        ¬ IsImported 1 loanCheckIdentity result.2) ∧
      ¬ KeepsHistory plainPlatform (TmoClient.withHistory longHistory) longHistory := by
  have serves := TmoClient.withHistory_serves longHistory
  have reached : (domainSystem plainPlatform).Reachable syncedDomain :=
    replay_reachable (by decide +kernel)
  refine ⟨serves, by simp [longHistory], reached, ?_, ?_, ?_⟩
  · -- The check was imported by the first sync.
    have first : (applyTmoSync plainPlatform onePayment
        (replay plainPlatform [.finance (.saveStream "2026-01-07T00:00:00Z" trustDeedsStream
          twoWeeks)] .registered)).toOption.map Prod.snd = some syncedDomain := by decide +kernel
    obtain ⟨result, done, same⟩ := Option.map_eq_some_iff.mp first
    have captured : loanCheck ∈ onePayment.payments := List.mem_cons_self
    obtain ⟨identity, identified, imported⟩ := applyTmoSync_imported
      (reachable_consistent (replay_reachable (by decide +kernel))) (toOption_eq_some.mp done)
      captured
    have known : capturedIdentity plainPlatform "payment check date" loanCheck =
        .ok loanCheckIdentity := by decide +kernel
    rw [capturedIdentity_unique identified known, same] at imported
    exact imported
  · obtain ⟨result, applied⟩ := recentCapture_applies
    refine ⟨result, captureAndApply_eq_some.mpr ⟨_, longHistory_capture, applied⟩, ?_⟩
    -- The connection has no payments but those captured, and their amounts are all different.
    rintro ⟨paymentId, row, _, _, stored, key, -, -, -⟩
    obtain ⟨streamId, entries, -, same, identities, -, replaced⟩ :=
      applyTmoSync_replaced (reachable_consistent reached) applied
    simp only [TmoImportPayment.key, Option.some.injEq, Prod.mk.injEq] at key
    obtain ⟨entry, member, rowKey⟩ := replaced.payments paymentId row stored key.1
    simp only [TmoImportPayment.key, Option.some.injEq, Prod.mk.injEq] at rowKey
    simp only [recentCapture] at same
    have captured : entry.1 ∈ recentChecks := same ▸ List.mem_map_of_mem member
    obtain ⟨index, below, isCheck⟩ := List.mem_map.mp captured
    have below := List.mem_range.mp below
    have identity := identities entry member
    have amount : 501 + index ≤ 10000 := by omega
    rw [← isCheck, checkOf_identity _ amount, Except.ok.injEq, ← rowKey.2, key.2] at identity
    simp only [loanCheckIdentity, PaymentIdentity.mk.injEq] at identity
    omega
  · intro keeps
    rcases (keepsHistory_iff serves).mp keeps with silent | short
    · exact silent _ rfl
    · simp [longHistory, recentChecks] at short

end FinStream
