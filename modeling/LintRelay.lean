import LintRelay.Commands
import LintRelay.Editor
import LintRelay.Endpoint
import LintRelay.Main
import LintRelay.Proofs.EngineBoundary
import LintRelay.Proofs.Freshness
import LintRelay.Proofs.ShownDiagnostics
import LintRelay.Proofs.ConfigHistory
import LintRelay.Proofs.Showing
import LintRelay.Proofs.OptionForms
import LintRelay.Proofs.Rerun
import LintRelay.Proofs.QuietChange
import LintRelay.Proofs.NeedlessChange
import LintRelay.Proofs.Surfaces
import LintRelay.Proofs.CleanFiles
import LintRelay.Proofs.WatchedFiles
import LintRelay.Proofs.AnnouncedOptions
import LintRelay.Proofs.InspectionOrder
import LintRelay.Proofs.RefusedRequests
import LintRelay.Proofs.SavedReport
import LintRelay.Proofs.Verdicts
import LintRelay.Proofs.MappedReports
import LintRelay.Proofs.Totals
import LintRelay.Proofs.TextReasons
import LintRelay.Proofs.CollectedFiles
import LintRelay.Proofs.CompletedOptions
import LintRelay.Proofs.FlagReading
import LintRelay.Proofs.Confinement
import LintRelay.Proofs.EmptiedLines
import LintRelay.Proofs.LineEndings
import LintRelay.Proofs.ProviderOrder
import LintRelay.Proofs.ConfigFiles
import LintRelay.Proofs.UnfitProblems
import LintRelay.Proofs.RejectedSettings
