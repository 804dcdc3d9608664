import ModeChoice.Commute.Report
import ModeChoice.Main
import ModeChoice.Proofs.Agent.Profiles
import ModeChoice.Proofs.Agent.Seeds
import ModeChoice.Proofs.Audit.Accounts
import ModeChoice.Proofs.Audit.LifeCycle
import ModeChoice.Proofs.Oracle.Draws
import ModeChoice.Proofs.Oracle.Personas
import ModeChoice.Proofs.Oracle.Spellings
import ModeChoice.Proofs.Plan.Linkage
import ModeChoice.Proofs.Retry.Agreement
import ModeChoice.Proofs.Retry.Copies
import ModeChoice.Proofs.Text.Times
import ModeChoice.Proofs.Tour.Configured
import ModeChoice.Proofs.Tour.Delays
import ModeChoice.Proofs.Tour.Departures
import ModeChoice.Proofs.Tour.Foresight
import ModeChoice.Proofs.Tour.Policy
import ModeChoice.Proofs.Tour.Repetition
import ModeChoice.Proofs.Tour.Traces
import ModeChoice.Proofs.Tour.Vehicles
import ModeChoice.Proofs.Tour.Windows
import ModeChoice.Rehearsal
