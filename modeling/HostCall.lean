import HostCall.Session.Step
import HostCall.Proofs.Interface
import HostCall.Proofs.Selection
import HostCall.Proofs.Checks
import HostCall.Proofs.Filter
import HostCall.Proofs.StackDiscipline
import HostCall.Proofs.HeapMap
import HostCall.Proofs.HeapRuns
import HostCall.Proofs.StaleHandles
import HostCall.Proofs.WiderPolicy
import HostCall.Proofs.DirectApplication
import HostCall.Proofs.ReceiverArgument
import HostCall.Proofs.IdleReceivers
import HostCall.Proofs.ReceiverModes
import HostCall.Proofs.Precision
import HostCall.Proofs.SlotRoundTrip
import HostCall.Proofs.FieldAccessors
import HostCall.Proofs.WorldLaws
import HostCall.Proofs.CellsKept
import HostCall.Proofs.SharedCells
import HostCall.Proofs.SharedCellRuns
import HostCall.Proofs.RegistrationOutcome
import HostCall.Proofs.GlobalSlots
import HostCall.Proofs.Moments
import HostCall.Proofs.StackLimit
import HostCall.Proofs.ArgumentView
import HostCall.Proofs.FailedConstruction
import HostCall.Proofs.UntouchedCells
import HostCall.Proofs.Aliases
import HostCall.Proofs.Records
import HostCall.Proofs.OwnedReceivers
import HostCall.Proofs.FirstMatch
import HostCall.Proofs.CountRouting
import HostCall.Proofs.PropertyRouting
import HostCall.Proofs.CallCourse
import HostCall.Proofs.OmittedArguments
import HostCall.Proofs.SurplusArguments
import HostCall.Proofs.ReceiverAccess
import HostCall.Proofs.ResultPushing
import HostCall.Proofs.Answers
import HostCall.Proofs.FieldContents
import HostCall.Proofs.MemberVariables
import HostCall.Proofs.MismatchText
import HostCall.Proofs.TypeRejection
import HostCall.Proofs.LiveObjects
import HostCall.Proofs.Construction
import HostCall.Proofs.RecordNumbers
import HostCall.Proofs.Deferral
import HostCall.Proofs.DirectInstallation
import HostCall.Proofs.CountRanges
import HostCall.Proofs.ParameterReading
import HostCall.Proofs.ParameterCounts
