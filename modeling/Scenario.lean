import Scenario.Host
import Scenario.Main
import Scenario.Proofs.Course
import Scenario.Proofs.FirstRun
import Scenario.Proofs.Balance
import Scenario.Proofs.Journal
import Scenario.Proofs.Calls
import Scenario.Proofs.Delivery
import Scenario.Proofs.Approach
import Scenario.Proofs.Lookup
import Scenario.Proofs.Crossing
import Scenario.Proofs.Conduct
import Scenario.Proofs.Composition
import Scenario.Proofs.Unregistered
import Scenario.Proofs.Persistence
import Scenario.Proofs.Stale
import Scenario.Proofs.Once
import Scenario.Proofs.Failure
import Scenario.Proofs.Effects
import Scenario.Proofs.Moment.Text
import Scenario.Proofs.Condition
import Scenario.Proofs.Clock
import Scenario.Proofs.ResultFile
import Scenario.Proofs.ScenarioFile
import Scenario.Proofs.ExitCode
import Scenario.Proofs.ChangeTimes
import Scenario.Proofs.Actions
import Scenario.Proofs.FileTree.Place
import Scenario.Proofs.FileTree.Moving
import Scenario.Proofs.FileTree.Untimed
import Scenario.Proofs.FileTree.Dated
import Scenario.Proofs.Barred
import Scenario.Proofs.CurrentFile
import Scenario.Proofs.Json.Tokens
import Scenario.Proofs.Json.Ordered
import Scenario.Proofs.Json.RoundTrip
import Scenario.Proofs.Document.Record
import Scenario.Proofs.Document.Text
import Scenario.Proofs.Document.Fresh
import Scenario.Proofs.Replay
import Scenario.Proofs.Traces
import Scenario.Proofs.Document.Refusal
import Scenario.Proofs.FileTree.Missing
import Scenario.Proofs.Passing
import Scenario.Proofs.NotFound
import Scenario.Proofs.Overwriting
import Scenario.Proofs.Completion
import Scenario.Proofs.FileTree.Added
import Scenario.Proofs.Pipeline
import Scenario.Proofs.Needed
import Scenario.Proofs.Moment.Order
import Scenario.Proofs.Moment.Spelling
import Scenario.Proofs.Bounds
import Scenario.Proofs.FileTree.Opening
import Scenario.Proofs.LastDocument
