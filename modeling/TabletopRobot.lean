import TabletopRobot.Main
import TabletopRobot.Command.Json
import TabletopRobot.Files
import TabletopRobot.Session.Timed
import TabletopRobot.Proofs.Session.Replay
import TabletopRobot.Proofs.Session.Interleaving
import TabletopRobot.Proofs.Pacer.Lifetime
import TabletopRobot.Proofs.Snapshot.RoundTrip
import TabletopRobot.Proofs.Session.Paths
import TabletopRobot.Proofs.Session.Reports
import TabletopRobot.Proofs.Text.Fields
import TabletopRobot.Proofs.Command.Grammar
import TabletopRobot.Proofs.Time.Moment
import TabletopRobot.Proofs.Time.Uuid
import TabletopRobot.Proofs.Json.Yields
import TabletopRobot.Proofs.Snapshot.Canonical
import TabletopRobot.Proofs.Session.Running
import TabletopRobot.Proofs.Pacer.Refinement
import TabletopRobot.Proofs.Pacer.Running
import TabletopRobot.Proofs.Session.Rejections
import TabletopRobot.Proofs.Session.Superseded
import TabletopRobot.Proofs.Command.Placement
import TabletopRobot.Proofs.Command.RoundTrip
import TabletopRobot.Proofs.CommandLine.FrontEnds
import TabletopRobot.Proofs.Command.Malformed
import TabletopRobot.Proofs.Session.FreshPlacement
import TabletopRobot.Proofs.Session.Gate
import TabletopRobot.Proofs.Snapshot.Faults
import TabletopRobot.Proofs.Session.Closing
import TabletopRobot.Proofs.Session.Layout
import TabletopRobot.Proofs.Settings.Layers
import TabletopRobot.Proofs.Json.Progress
import TabletopRobot.Proofs.Command.Object
import TabletopRobot.Proofs.Robot.Course
import TabletopRobot.Proofs.Robot.Rotation
import TabletopRobot.Proofs.Robot.WayBack
import TabletopRobot.Proofs.Robot.Straight
import TabletopRobot.Proofs.Session.NormalForm
