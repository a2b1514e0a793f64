import RemoteQuery.Connection
import RemoteQuery.Connection.Address
import RemoteQuery.Json.Reader
import RemoteQuery.Json.Writer
import RemoteQuery.Proofs.AcceptedParams
import RemoteQuery.Proofs.AddressRoundTrip
import RemoteQuery.Proofs.CallDiscipline
import RemoteQuery.Proofs.ConnectionLifecycle
import RemoteQuery.Proofs.Conversion
import RemoteQuery.Proofs.DayCount
import RemoteQuery.Proofs.DecimalColumns
import RemoteQuery.Proofs.DeclaredTypes
import RemoteQuery.Proofs.StableTypes
import RemoteQuery.Proofs.ExecutionOutcome
import RemoteQuery.Proofs.FailedFetch
import RemoteQuery.Proofs.FetchSchedule
import RemoteQuery.Proofs.BinaryColumns
import RemoteQuery.Proofs.IntegerColumns
import RemoteQuery.Proofs.LifecycleWords
import RemoteQuery.Proofs.NegativeScale
import RemoteQuery.Proofs.OverlongDurations
import RemoteQuery.Proofs.PollBudget
import RemoteQuery.Proofs.RaceOutcome
import RemoteQuery.Proofs.RequestScope
import RemoteQuery.Proofs.RowStream
import RemoteQuery.Proofs.RowViews
import RemoteQuery.Proofs.RunLabels
import RemoteQuery.Proofs.ValidParams
import RemoteQuery.Proofs.ValidatedAnswers
import RemoteQuery.Proofs.WireFormat
import RemoteQuery.Proofs.WrittenTimestamps
