import CmakeDriver.Main
import CmakeDriver.Proofs.Config.Given
import CmakeDriver.Proofs.Execution.Attempt
import CmakeDriver.Proofs.Run.Attempt
import CmakeDriver.Proofs.Run.Outcome
import CmakeDriver.Proofs.Bindings
import CmakeDriver.Proofs.Run.Environment
import CmakeDriver.Proofs.Text.Bytes
import CmakeDriver.Proofs.World.Candidate
import CmakeDriver.Proofs.World.Search
import CmakeDriver.Proofs.Cmake.Resolve
import CmakeDriver.Proofs.Toml.Lines
import CmakeDriver.Proofs.Toml.Sections
import CmakeDriver.Proofs.Config.RoundTrip
import CmakeDriver.Proofs.CommandLine.Occurrence
import CmakeDriver.Proofs.CommandLine.Written
import CmakeDriver.Proofs.CommandLine.Parse
import CmakeDriver.Proofs.World.Lookup
import CmakeDriver.Proofs.Run.SearchPath
import CmakeDriver.Proofs.Run.Doctor
import CmakeDriver.Proofs.Cmake.Recording
import CmakeDriver.Proofs.World.Environment
import CmakeDriver.Proofs.Run.Isolation
import CmakeDriver.Proofs.Config.Absence
import CmakeDriver.Proofs.Toml.Distinct
import CmakeDriver.Proofs.Toml.Forms
import CmakeDriver.Proofs.Config.Acceptance
import CmakeDriver.Proofs.Execution.Checked
import CmakeDriver.Proofs.Run.GivenVariables
import CmakeDriver.Proofs.Config.StandIn
import CmakeDriver.Proofs.Report.Reading
import CmakeDriver.Proofs.Run.Report
import CmakeDriver.Proofs.Cmake.Argv
import CmakeDriver.Proofs.CommandLine.ConfigPath
import CmakeDriver.Proofs.Run.Block
import CmakeDriver.Proofs.Run.Unread
import CmakeDriver.Proofs.Log.Filter
