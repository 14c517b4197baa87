import InertialSensor.Binary32.Angle
import InertialSensor.Binary32.Decimal
import InertialSensor.Axes
import InertialSensor.Chip.Register
import InertialSensor.Chip.Scale
import InertialSensor.Chip.Rate
import InertialSensor.Signal.Backlog
import InertialSensor.Signal.Calibration
import InertialSensor.Signal.DeltaWindow
import InertialSensor.Signal.LowPass
import InertialSensor.Signal.Mounting
import InertialSensor.Signal.RepeatGuard
import InertialSensor.Signal.Report
import InertialSensor.Signal.Sample
import InertialSensor.Failure
import InertialSensor.Chip.Adapter
import InertialSensor.Integrity.Watch
import InertialSensor.Simulation.Sensor
import InertialSensor.Simulation.FaultPlan
import InertialSensor.Driver.State
import InertialSensor.Driver.BringUp
import InertialSensor.Driver.Reading
import InertialSensor.Driver.Adjust
import InertialSensor.Driver.Diagnosis
import InertialSensor.Polling.Installation
import InertialSensor.Polling.Traffic
import InertialSensor.CommandLine.Session
import InertialSensor.CommandLine.Demonstration
import InertialSensor.Main
import InertialSensor.Proofs.Integrity.Faithful
import InertialSensor.Proofs.Recovery.Settling
import InertialSensor.Proofs.Recovery.Trust
import InertialSensor.Proofs.Recovery.Convergence
import InertialSensor.Proofs.Recovery.Holding
import InertialSensor.Proofs.Recovery.FailedReset
import InertialSensor.Proofs.Recovery.Untroubled
import InertialSensor.Proofs.Recovery.Retries
import InertialSensor.Proofs.Recovery.Detection
import InertialSensor.Proofs.Polling.Installation
import InertialSensor.Proofs.Polling.Rates
import InertialSensor.Proofs.Polling.Sections
import InertialSensor.Proofs.Polling.Traffic
import InertialSensor.Proofs.Driver.Counts
import InertialSensor.Proofs.Settings.Cutoffs
import InertialSensor.Proofs.Settings.Quantisation
import InertialSensor.Proofs.Settings.Refused
import InertialSensor.Proofs.Settings.Reset
import InertialSensor.Proofs.Settings.Scaling
import InertialSensor.Proofs.Signal.Streams
import InertialSensor.Proofs.Signal.Fidelity
import InertialSensor.Proofs.Signal.Conservation
import InertialSensor.Proofs.Signal.Lockstep
import InertialSensor.Proofs.Signal.Consumers
import InertialSensor.Proofs.Signal.Rejected
import InertialSensor.Proofs.Signal.Repeats
import InertialSensor.Proofs.Signal.Reads
import InertialSensor.Proofs.Signal.Windows
import InertialSensor.Proofs.Signal.Queueing
import InertialSensor.Proofs.Signal.Memory
import InertialSensor.Proofs.Signal.Orientation
import InertialSensor.Proofs.Signal.Restarts
