import Vivarium.Folder
import Vivarium.Main
import Vivarium.Proofs.Round.LateBinding
import Vivarium.Proofs.Round.Replay
import Vivarium.Proofs.Run.ErrorContract
import Vivarium.Proofs.Program.Flow
import Vivarium.Proofs.Run.Turns
import Vivarium.Proofs.Run.Progress
import Vivarium.Proofs.World.Tally
import Vivarium.Proofs.Turn.Continuity
import Vivarium.Proofs.Run.Populations
import Vivarium.Proofs.World.Conservation
import Vivarium.Proofs.Turn.Locality
import Vivarium.Proofs.Round.Independence
import Vivarium.Proofs.Run.Chance
import Vivarium.Proofs.Run.Symbols
import Vivarium.Proofs.Assembly.RoundTrip
import Vivarium.Proofs.Program.Check
import Vivarium.Proofs.Scenario.Definitions
import Vivarium.Proofs.Scenario.Acceptance
import Vivarium.Proofs.Run.Identity
import Vivarium.Proofs.Session.Overrides
import Vivarium.Proofs.World.Drawing
import Vivarium.Proofs.Program.Budget
import Vivarium.Proofs.Run.Course
import Vivarium.Proofs.Run.Budget
import Vivarium.Proofs.Run.Pace
import Vivarium.Proofs.Turn.Success
import Vivarium.Proofs.World.Glyphs
import Vivarium.Proofs.Json.RoundTrip
import Vivarium.Proofs.Session.Formats
import Vivarium.Proofs.Turn.Resuming
import Vivarium.Proofs.Turn.Fetching
import Vivarium.Proofs.Turn.Recurrence
import Vivarium.Proofs.Round.Failure
import Vivarium.Proofs.Run.Composition
import Vivarium.Proofs.World.Adjacency
import Vivarium.Proofs.View.Queries
import Vivarium.Proofs.Turn.Outlook
import Vivarium.Proofs.Turn.Loop
import Vivarium.Proofs.Round.Meadow
import Vivarium.Proofs.Run.Trajectory
