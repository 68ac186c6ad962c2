import BatteryIndicator.Main
import BatteryIndicator.Session
import BatteryIndicator.Proofs.Number.Order
import BatteryIndicator.Proofs.Number.Numeral
import BatteryIndicator.Proofs.Number.Digits
import BatteryIndicator.Proofs.Number.Nearest
import BatteryIndicator.Proofs.Number.Within
import BatteryIndicator.Proofs.Text.Cut
import BatteryIndicator.Proofs.Text.Letter
import BatteryIndicator.Proofs.Step.Chain
import BatteryIndicator.Proofs.Step.Written
import BatteryIndicator.Proofs.Step.Malformed
import BatteryIndicator.Proofs.EvaluationRun
import BatteryIndicator.Proofs.FlashRun
import BatteryIndicator.Proofs.WarningRun
import BatteryIndicator.Proofs.Delivery
import BatteryIndicator.Proofs.MonitorShown
import BatteryIndicator.Proofs.MonitorIdle
import BatteryIndicator.Proofs.Theme.Assignment
import BatteryIndicator.Proofs.Theme.LineForm
import BatteryIndicator.Proofs.Theme.Blocks
import BatteryIndicator.Proofs.Theme.Registered
import BatteryIndicator.Proofs.Theme.Shape
import BatteryIndicator.Proofs.Theme.Zero
import BatteryIndicator.Proofs.Theme.Event
import BatteryIndicator.Proofs.Theme.Append
import BatteryIndicator.Proofs.Theme.Deletion
import BatteryIndicator.Proofs.Theme.StepLine
import BatteryIndicator.Proofs.Theme.BreakOff
import BatteryIndicator.Proofs.Theme.Refusal
import BatteryIndicator.Proofs.Theme.Placed
import BatteryIndicator.Proofs.ScriptRun
import BatteryIndicator.Proofs.LoadPrecedence
import BatteryIndicator.Proofs.WorkbenchFilled
import BatteryIndicator.Proofs.EventAttached
import BatteryIndicator.Proofs.ValidatedLoading
import BatteryIndicator.Proofs.ReferencesFilled
import BatteryIndicator.Proofs.SettingsValidated
import BatteryIndicator.Proofs.Report.Batteries
import BatteryIndicator.Proofs.Report.Answer
import BatteryIndicator.Proofs.Report.Mean
import BatteryIndicator.Proofs.Report.LastLines
import BatteryIndicator.Proofs.Report.Written
import BatteryIndicator.Proofs.CommandFailure
import BatteryIndicator.Proofs.CommandWords
import BatteryIndicator.Proofs.StartUp
import BatteryIndicator.Proofs.StatusShown
import BatteryIndicator.Proofs.ThemesListed
