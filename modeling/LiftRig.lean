import LiftRig.Main
import LiftRig.Attendant.Service
import LiftRig.Dispatch
import LiftRig.Driver.Double
import LiftRig.Proofs.Sweep
import LiftRig.Proofs.Laps
import LiftRig.Proofs.Estimate
import LiftRig.Proofs.Zones
import LiftRig.Proofs.Outcomes
import LiftRig.Proofs.SimulatedRig
import LiftRig.Proofs.Journey
import LiftRig.Proofs.Operations
import LiftRig.Proofs.Discipline
import LiftRig.Proofs.Sessions
import LiftRig.Proofs.ReadBack
import LiftRig.Proofs.EndStops
import LiftRig.Proofs.OnDemand
import LiftRig.Proofs.Commands
import LiftRig.Proofs.Polling
import LiftRig.Proofs.Deeds
import LiftRig.Proofs.Arrivals
import LiftRig.Proofs.Edges
import LiftRig.Proofs.Retries
import LiftRig.Proofs.OrderLamps
import LiftRig.Proofs.OperatorInputs
import LiftRig.Proofs.Coverage
import LiftRig.Proofs.Counts
import LiftRig.Proofs.Snapshots
import LiftRig.Proofs.Interference
import LiftRig.Proofs.Books
import LiftRig.Proofs.FailedPolls
import LiftRig.Proofs.OneShot
import LiftRig.Proofs.Homing
import LiftRig.Proofs.Notation
import LiftRig.Proofs.SearchTime
import LiftRig.Proofs.MotorLevel
import LiftRig.Proofs.Legs
import LiftRig.Proofs.SensorAgreement
import LiftRig.Proofs.Spelling
import LiftRig.Proofs.Subdivision
import LiftRig.Proofs.LastFloor
import LiftRig.Proofs.Contacts
import LiftRig.Proofs.WordRange
import LiftRig.Proofs.MotorCommands
import LiftRig.Proofs.EstimateWalk
import LiftRig.Proofs.Assignment
import LiftRig.Proofs.ByteOrder
import LiftRig.Proofs.LampWrites
import LiftRig.Proofs.ConfigRecords
import LiftRig.Proofs.Registrations
import LiftRig.Proofs.PortWords
