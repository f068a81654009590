import FinStream.Finance.Views
import FinStream.Finance.ForecastBalance
import FinStream.Finance.Occurrences
import FinStream.Operations.Decision
import FinStream.Domain.Cadence
import FinStream.Domain.Decisions
import FinStream.Domain.Handlers
import FinStream.Domain.History
import FinStream.Domain.Overrides
import FinStream.Domain.PaymentProjection
import FinStream.Domain.BootstrapAgain
import FinStream.Domain.Editable
import FinStream.Domain.ScheduleRefresh
import FinStream.Domain.ScheduleSet
import FinStream.Domain.StreamUpdate
import FinStream.SyncRuntime.Freeze
import FinStream.Inbox.Attachments
import FinStream.Inbox.Leases
import FinStream.Inbox.Signature
import FinStream.Media.Authorization
import FinStream.Media.Backing
import FinStream.Media.Intent
import FinStream.Session.Revocation
import FinStream.Migration.CashFlow
import FinStream.Migration.CredentialRewrap
import FinStream.Cutover.LookupAgreement
import FinStream.Cutover.PhotoAgreement
import FinStream.Cutover.Resumption
import FinStream.Integrations.Pagination
import FinStream.Integrations.MonarchClient
import FinStream.Scheduler.Slots
import FinStream.Scheduler.Timestamps
import FinStream.Domain.DetailCoverage
import FinStream.Domain.SnapshotReplacement
import FinStream.Domain.Storability
import FinStream.Finance.SlotText
import FinStream.Migration.AttachmentKey
import FinStream.Migration.SlotIdentity
import FinStream.Migration.Stats
import FinStream.Perimeter.Deactivation
import FinStream.Inbox.Unnoticed
import FinStream.Media.Album
import FinStream.Schema.Rollout
import FinStream.Migration.Outcome
