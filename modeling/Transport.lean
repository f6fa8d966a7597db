import Transport.Memory
import Transport.Decimal.Shortest
import Transport.Decimal.Layout
import Transport.Decimal.Parse
import Transport.Text.Ranges
import Transport.Text.Extend
import Transport.Text.Printable
import Transport.Json.Value
import Transport.Json.Scale
import Transport.Json.Write
import Transport.Json.Cursor
import Transport.Json.Token
import Transport.Json.Skip
import Transport.Json.Document
import Transport.Random.ChaCha
import Transport.Random.Stream
import Transport.Numeric
import Transport.Fingerprint
import Transport.Kinematics
import Transport.Arena
import Transport.Describe
import Transport.Particle
import Transport.Geometry
import Transport.Track.State
import Transport.Track.Error
import Transport.Track.Core
import Transport.Track.Sweep
import Transport.Track.Population
import Transport.Physics.Model
import Transport.Physics.Params
import Transport.Physics.Setup
import Transport.Physics.AlongStep
import Transport.Physics.Interactions
import Transport.Physics.Launch
import Transport.Pipeline
import Transport.Engine.Histogram
import Transport.Engine.Diagnostics
import Transport.Engine.Input
import Transport.Engine.Stepper
import Transport.Engine.Run
import Transport.Engine.Settings
import Transport.Engine.FileSystem
import Transport.Host
import Transport.Engine.Files
import Transport.Reference
import Transport.Proofs.Kernels
import Transport.Proofs.Occupancy
import Transport.Proofs.Arena
import Transport.Proofs.Reservations
import Transport.Proofs.Step
import Transport.Proofs.Secondaries
import Transport.Proofs.Bookkeeping
import Transport.Proofs.HostDevice
import Transport.Proofs.Lineage
import Transport.Proofs.LiveTracks
import Transport.Proofs.Latch
import Transport.Proofs.Doubles
import Transport.Proofs.Selection
import Transport.Proofs.Coverage
import Transport.Proofs.Retry
import Transport.Proofs.Buffer
import Transport.Proofs.Pairing
import Transport.Proofs.Exhaustion
import Transport.Proofs.Rounding
import Transport.Proofs.Arithmetic
import Transport.Proofs.StepEnergy
import Transport.Proofs.Validation
import Transport.Proofs.Encoding
import Transport.Proofs.Binning
import Transport.Proofs.Sampling
import Transport.Proofs.Cutoffs
import Transport.Proofs.Slabs
import Transport.Proofs.FailureContext
import Transport.Proofs.EnergyLedger
import Transport.Proofs.LedgerRefinement
import Transport.Proofs.ExactEnergy
