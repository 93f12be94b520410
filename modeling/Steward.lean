import Steward.Backlog.AdminPause
import Steward.Backlog.BranchClosure
import Steward.Backlog.CommandProgress
import Steward.Backlog.GateProtection
import Steward.Backlog.PlanOrder
import Steward.Backlog.PlanReservations
import Steward.Backlog.PlanningCopy
import Steward.Backlog.ProjectionAgreement
import Steward.Backlog.Rerun
import Steward.Backlog.SinkAgreement
import Steward.Backlog.ThrottleFaults
import Steward.Backlog.TurnOutcomeRuns
import Steward.Domain.FailureClass
import Steward.Domain.SinkIsolation
import Steward.Domain.TaskIdentity
import Steward.Store.CustodyEpochs
import Steward.Store.FinishedAttempts
import Steward.Store.GateRules
import Steward.Store.LeaseFencing
import Steward.Store.NarrowedOffers
import Steward.Store.ReconcileAgreement
import Steward.Store.RecoveryWatchdog
import Steward.Store.SupervisionIsolation
import Steward.Store.TaskWakeDeliveryRuns
import Steward.Watchdog.IgnoredWindows
import Steward.Watchdog.PhaseRules
import Steward.Worker.CoordinatorPauses
