import StepFlow.Main
import StepFlow.Run.Observer
import StepFlow.Proofs.Run.Attempt
import StepFlow.Proofs.Run.Footprint
import StepFlow.Proofs.Workflow.Accepted
import StepFlow.Proofs.Run.Course
import StepFlow.Proofs.Run.Blocks
import StepFlow.Proofs.Run.History
import StepFlow.Proofs.Run.Numbering
import StepFlow.Proofs.Run.Containment
import StepFlow.Proofs.Run.Validated
import StepFlow.Proofs.RunLog.Writing
import StepFlow.Proofs.Workflow.Contract
import StepFlow.Proofs.Run.Notices
import StepFlow.Proofs.Run.Template
import StepFlow.Proofs.RunLog.Keeping
import StepFlow.Proofs.Run.Insertion
import StepFlow.Proofs.Run.Keys
import StepFlow.Proofs.Command.Outcome
import StepFlow.Proofs.Command.Variables
import StepFlow.Proofs.Workflow.Conformance
import StepFlow.Proofs.Run.Repetition
import StepFlow.Proofs.Run.Linear
import StepFlow.Proofs.Workflow.Entries
import StepFlow.Proofs.Workflow.Names
import StepFlow.Proofs.Run.Shell
import StepFlow.Proofs.Failure.Naming
import StepFlow.Proofs.Agent.Filling
import StepFlow.Proofs.Run.Agent
import StepFlow.Proofs.Settings.Storing
import StepFlow.Proofs.Settings.Shape
import StepFlow.Proofs.Run.Variables
import StepFlow.Proofs.Files.Relocation
import StepFlow.Proofs.Number.Digits
import StepFlow.Proofs.Json.Restoring
import StepFlow.Proofs.Json.Reading
import StepFlow.Proofs.RunLog.Restoring
import StepFlow.Proofs.Command.Listing
import StepFlow.Proofs.Command.Initialising
import StepFlow.Proofs.Run.Composition
import StepFlow.Proofs.Agent.Choice
import StepFlow.Proofs.RunLog.Order
