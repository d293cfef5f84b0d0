import GroundStation.Settings.Parse
import GroundStation.Station
import GroundStation.Proofs.Frame.Session
import GroundStation.Proofs.Frame.Resynchronisation
import GroundStation.Proofs.Frame.Evidence
import GroundStation.Proofs.Line.Polling
import GroundStation.Proofs.Desk.Journal
import GroundStation.Proofs.Reading.Scope
import GroundStation.Proofs.Alert.Replay
import GroundStation.Proofs.Desk.Notices
import GroundStation.Proofs.Desk.Windows
import GroundStation.Proofs.Desk.Isolation
import GroundStation.Proofs.Liveness.Schedule
import GroundStation.Proofs.Frame.Accounting
import GroundStation.Proofs.Frame.BoundedQueue
import GroundStation.Proofs.Station.Outbound
import GroundStation.Proofs.Desk.Footprint
import GroundStation.Proofs.Reading.Points
import GroundStation.Proofs.Desk.Totals
import GroundStation.Proofs.Desk.Samples
import GroundStation.Proofs.Desk.Signals
import GroundStation.Proofs.Desk.Observation
import GroundStation.Proofs.Frame.Residue
import GroundStation.Proofs.Frame.ErrorDetection
import GroundStation.Proofs.Vehicle.Geometry
import GroundStation.Proofs.Desk.Postings
import GroundStation.Proofs.Desk.Pages
import GroundStation.Proofs.Desk.Timings
import GroundStation.Proofs.Desk.Warnings
import GroundStation.Proofs.Frame.Collisions
import GroundStation.Proofs.Text.Trimming
import GroundStation.Proofs.Command.Codec
import GroundStation.Proofs.Command.Grammar
import GroundStation.Proofs.Vehicle.Classification
import GroundStation.Proofs.Vehicle.Overflow
import GroundStation.Proofs.Vehicle.Lookups
import GroundStation.Proofs.Desk.Silence
import GroundStation.Proofs.Vehicle.Roster
import GroundStation.Proofs.Bridge.Closing
import GroundStation.Proofs.Reading.Partition
import GroundStation.Proofs.Vehicle.Flags
