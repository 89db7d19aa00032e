import CircuitDispatch.Angle.Basic
import CircuitDispatch.Angle.Layout
import CircuitDispatch.Angle.Stack
import CircuitDispatch.Circuit.Basic
import CircuitDispatch.Circuit.Building
import CircuitDispatch.Circuit.Error
import CircuitDispatch.Circuit.Layout
import CircuitDispatch.Circuit.Operation
import CircuitDispatch.Cloud.Client
import CircuitDispatch.Cloud.Clients
import CircuitDispatch.Cloud.Result
import CircuitDispatch.Config.Basic
import CircuitDispatch.Config.Environment
import CircuitDispatch.Config.File
import CircuitDispatch.Config.Layout
import CircuitDispatch.Decimal.Reading
import CircuitDispatch.Decimal.Shortest
import CircuitDispatch.Decimal.Style
import CircuitDispatch.Device.Basic
import CircuitDispatch.Device.Identifier
import CircuitDispatch.Dispatch.Backend
import CircuitDispatch.Dispatch.Description
import CircuitDispatch.Dispatch.Error
import CircuitDispatch.Dispatch.Gateway
import CircuitDispatch.Dispatch.Session
import CircuitDispatch.Json.Layout
import CircuitDispatch.Json.Parser
import CircuitDispatch.Json.Printer
import CircuitDispatch.Json.Value
import CircuitDispatch.Measurement.Basic
import CircuitDispatch.Measurement.Kind
import CircuitDispatch.Measurement.OnesFraction
import CircuitDispatch.Native.Family
import CircuitDispatch.Native.Gate
import CircuitDispatch.Native.Layout
import CircuitDispatch.Native.Lowering
import CircuitDispatch.Native.PhaseLedger
import CircuitDispatch.OpenQasm.OfBlock
import CircuitDispatch.OpenQasm.OfCircuit
import CircuitDispatch.OpenQasm.Program
import CircuitDispatch.Plan.Assembly
import CircuitDispatch.Plan.Basic
import CircuitDispatch.Plan.Metadata
import CircuitDispatch.Registers.Basic
import CircuitDispatch.Registers.Layout
import CircuitDispatch.Rehearsal.Service
import CircuitDispatch.Run.Circuit
import CircuitDispatch.Run.Polling
import CircuitDispatch.Run.Program
import CircuitDispatch.Run.Snapshot
import CircuitDispatch.Run.Summary
import CircuitDispatch.Scalar
import CircuitDispatch.Service.Basic
import CircuitDispatch.Service.Error
import CircuitDispatch.SortedMap
import CircuitDispatch.Task.Basic
import CircuitDispatch.Task.Samples
import CircuitDispatch.Text.Blank
import CircuitDispatch.Text.LetterCase
import CircuitDispatch.Text.Lowercase
import CircuitDispatch.Text.Printable
import CircuitDispatch.Text.Quoted
import CircuitDispatch.Text.Ranges
import CircuitDispatch.Text.Split
import CircuitDispatch.Unitary.Amplitude
import CircuitDispatch.Unitary.Dense
import CircuitDispatch.Unitary.Equivalence
import CircuitDispatch.Unitary.Gate
import CircuitDispatch.Unitary.InPlace
import CircuitDispatch.Unitary.OfCircuit
import CircuitDispatch.Yaml.Cursor
import CircuitDispatch.Yaml.Node
import CircuitDispatch.Yaml.Scalar
import CircuitDispatch.Yaml.Token
import CircuitDispatch.Yaml.Typed
import CircuitDispatch.Proofs.Scalar.Exact
import CircuitDispatch.Proofs.Unitary.Amplitude
import CircuitDispatch.Proofs.Unitary.Lift
import CircuitDispatch.Proofs.Unitary.Rotation
import CircuitDispatch.Proofs.Angle.Values
import CircuitDispatch.Proofs.Native.PhaseLedger
import CircuitDispatch.Proofs.Sequencing
import CircuitDispatch.Proofs.Native.Lowering
import CircuitDispatch.Proofs.Native.Tracking
import CircuitDispatch.Proofs.Native.Equivalence
import CircuitDispatch.Proofs.Run.History
import CircuitDispatch.Proofs.Registers
import CircuitDispatch.Proofs.Run.CircuitPolling
import CircuitDispatch.Proofs.Run.ProgramPolling
import CircuitDispatch.Proofs.Service.Recording
import CircuitDispatch.Proofs.Json.Numbers
import CircuitDispatch.Proofs.Json.Strings
import CircuitDispatch.Proofs.Json.RoundTrip
import CircuitDispatch.Proofs.SortedMap
import CircuitDispatch.Proofs.Json.Layout
import CircuitDispatch.Proofs.Run.Records
import CircuitDispatch.Proofs.Dispatch.Handover
import CircuitDispatch.Proofs.Dispatch.Submission
import CircuitDispatch.Proofs.Dispatch.Safety
import CircuitDispatch.Proofs.Dispatch.EarlyErrors
import CircuitDispatch.Proofs.Circuit.Layout
import CircuitDispatch.Proofs.Run.Snapshot
import CircuitDispatch.Proofs.Run.ProgramSnapshot
import CircuitDispatch.Proofs.Run.Failures
import CircuitDispatch.Proofs.Angle.Binding
import CircuitDispatch.Proofs.Native.Binding
import CircuitDispatch.Proofs.Circuit.Qubits
import CircuitDispatch.Proofs.Native.Placement
import CircuitDispatch.Proofs.Native.Language
import CircuitDispatch.Proofs.OpenQasm.OfBlock
import CircuitDispatch.Proofs.OpenQasm.MeasurementOrder
import CircuitDispatch.Proofs.Plan.Columns
import CircuitDispatch.Proofs.Run.FirstFailure
import CircuitDispatch.Proofs.Run.Waiting
import CircuitDispatch.Proofs.Run.Schedule
import CircuitDispatch.Proofs.Dispatch.Exchanges
import CircuitDispatch.Proofs.Dispatch.Batches
import CircuitDispatch.Proofs.Dispatch.BlockingAndQueued
import CircuitDispatch.Proofs.Native.Azimuths
import CircuitDispatch.Proofs.Native.WellFormed
import CircuitDispatch.Proofs.Native.Reordering
import CircuitDispatch.Proofs.Native.Concatenation
import CircuitDispatch.Proofs.Native.Angles
import CircuitDispatch.Proofs.OpenQasm.ReadOut
import CircuitDispatch.Proofs.OpenQasm.OfCircuit
import CircuitDispatch.Proofs.OpenQasm.Rendering
import CircuitDispatch.Proofs.OpenQasm.Declarations
import CircuitDispatch.Proofs.OpenQasm.MeasuredBits
import CircuitDispatch.Proofs.OpenQasm.RepeatedMeasurement
import CircuitDispatch.Proofs.Plan.Readout
import CircuitDispatch.Proofs.Angle.NormalForm
import CircuitDispatch.Proofs.Angle.Tolerance
import CircuitDispatch.Proofs.Unitary.InPlace
import CircuitDispatch.Proofs.Unitary.UnitaryGate
import CircuitDispatch.Proofs.Unitary.Unitarity
import CircuitDispatch.Proofs.Unitary.PhaseEquivalence
import CircuitDispatch.Proofs.Plan.Stages
import CircuitDispatch.Proofs.Circuit.BitRegisters
import CircuitDispatch.Proofs.Circuit.Building
import CircuitDispatch.Proofs.Circuit.Binding
import CircuitDispatch.Proofs.Plan.Padding
import CircuitDispatch.Proofs.Plan.DeclaredLength
import CircuitDispatch.Proofs.Json.Order
import CircuitDispatch.Proofs.Circuit.Reading
import CircuitDispatch.Proofs.OpenQasm.StatementOrder
import CircuitDispatch.Proofs.Text.Bytes
import CircuitDispatch.Proofs.Cloud.Counts
import CircuitDispatch.Proofs.Run.BoundedWaiting
import CircuitDispatch.Proofs.Json.Front
import CircuitDispatch.Proofs.Run.KeptTask
import CircuitDispatch.Proofs.Cloud.Routing
import CircuitDispatch.Proofs.Config.Validity
import CircuitDispatch.Proofs.Config.Precedence
import CircuitDispatch.Proofs.Native.Folding
