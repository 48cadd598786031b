import Tekmar482.TpckStream
import Tekmar482.TrpcCodec
import Tekmar482.Constants
import Tekmar482.Library.LastValue
import Tekmar482.Models
import Tekmar482.State
import Tekmar482.StateRegisters
import Tekmar482.Client
import Tekmar482.ClosingSteps
import Tekmar482.FailingCalls
import Tekmar482.SessionClose
import Tekmar482.TruthfulPoll
import Tekmar482.UpdateOrder
import Tekmar482.ConfirmedWrites
import Tekmar482.Controller
import Tekmar482.ControllerContracts
import Tekmar482.IndependentStreams
import Tekmar482.SlotPolling
import Tekmar482.TemperatureWrites
import Tekmar482.TpckGrammar
import Tekmar482.DecodedValues
import Tekmar482.InventoryWalk
import Tekmar482.PacketReader
import Tekmar482.ReportingPause
import Tekmar482.AppliedMessages
import Tekmar482.ControllerInvariant
import Tekmar482.LiveState
import Tekmar482.CorruptedFrames
import Tekmar482.DrainingWriters
import Tekmar482.EchoedWrites
import Tekmar482.RawSetpoints
import Tekmar482.RepeatedMessages
import Tekmar482.ReportDelivery
import Tekmar482.SharedWaiter
import Tekmar482.SparedWriters
import Tekmar482.StrictChecksum
import Tekmar482.WriterCancellation
import Tekmar482.DiscoveryAgreement
import Tekmar482.FailedStart
import Tekmar482.Library.Cancellation
import Tekmar482.ReportTask
import Tekmar482.StopRoutine
import Tekmar482.StoppedController
import Tekmar482.StoppedRuns
import Tekmar482.SuccessfulStart
import Tekmar482.Library.Simulation
import Tekmar482.WithoutListeners
import Tekmar482.DumpedTraces
import Tekmar482.Reconnects
import Tekmar482.WireDelivery
import Tekmar482.ReadBacklogs
import Tekmar482.DeviceHandles
import Tekmar482.RawSnapshots
import Tekmar482.AvailableDump
import Tekmar482.GatewayWrites
import Tekmar482.WiredWrites
import Tekmar482.MonitorOutput
import Tekmar482.SessionDispatch
