import Atrium.Base.Run
import Atrium.AuditTrail
import Atrium.EquipmentInvariant
import Atrium.SlotRelease
import Atrium.Inbound
import Atrium.Rearm
import Atrium.Forgery
import Atrium.Pricing
import Atrium.Paygate.Contract
import Atrium.Paygate.RefundKeys
import Atrium.Paygate.Sessions
import Atrium.Paygate.Routes
import Atrium.Paygate.LedgerImport
import Atrium.Hold
import Atrium.PeakUsage
import Atrium.RefundPreview
import Atrium.PaygateClient
import Atrium.ReportedExpiry
import Atrium.SelfEdges
import Atrium.MoneyKept
import Atrium.FreeSlots
import Atrium.PaymentStatus
import Atrium.HoldLocks
import Atrium.OneCharge
import Atrium.UsableHours
import Atrium.HoursAgreement
import Atrium.AllFreeSlots
import Atrium.FreeRooms
import Atrium.BookingPages
import Atrium.MoneyRange
import Atrium.SearchPages
import Atrium.WebhookTotal
import Atrium.Apportion
import Atrium.WallClock
import Atrium.LocalMornings
import Atrium.Utilisation
import Atrium.Rollbacks
import Atrium.Confirmation
import Atrium.RefundsAsked
import Atrium.Discrepancies
import Atrium.StrandedRefund
import Atrium.Drain
import Atrium.TenantIsolation
