import Standby.Manifest.Spelling
import Standby.Scenario.Run
import Standby.Proofs.Dialogue
import Standby.Proofs.Proxy.Paths
import Standby.Proofs.Proxy.History
import Standby.Proofs.Proxy.Phase
import Standby.Proofs.World.Chronicle
import Standby.Proofs.World.Passage
import Standby.Proofs.World.Coherence
import Standby.Proofs.World.Within
import Standby.Proofs.World.Entries
import Standby.Proofs.World.Frame
import Standby.Proofs.World.Calls
import Standby.Proofs.World.Disguise
import Standby.Proofs.World.Reentry
import Standby.Proofs.World.Roster
import Standby.Proofs.World.Forgoing
import Standby.Proofs.Proxy.Failure
import Standby.Proofs.Discipline
import Standby.Proofs.Availability
import Standby.Proofs.Observables
import Standby.Proofs.Reset
import Standby.Proofs.Sweep
import Standby.Proofs.Initialization
import Standby.Proofs.Release
import Standby.Proofs.Failures
import Standby.Proofs.Atomicity
import Standby.Proofs.Deferral
import Standby.Proofs.Representation
import Standby.Proofs.World.Course
import Standby.Proofs.Nesting
import Standby.Proofs.Guards
import Standby.Proofs.Text.ByteOrder
import Standby.Proofs.Toml.Distinct
import Standby.Proofs.Names
import Standby.Proofs.Schema
import Standby.Proofs.Toml.Written
import Standby.Proofs.Toml.Assembly
import Standby.Proofs.RoundTrip
import Standby.Proofs.Acceptance
import Standby.Proofs.World.Conversation
import Standby.Proofs.World.Distance
import Standby.Proofs.Preparation
import Standby.Proofs.Bootstrap
import Standby.Proofs.World.Unseen
import Standby.Proofs.World.Heedless
import Standby.Proofs.Ambient
import Standby.Proofs.World.Unread
import Standby.Proofs.World.Bound
import Standby.Proofs.Subruns
import Standby.Proofs.Convergence
import Standby.Proofs.Lookup
import Standby.Proofs.Termination
import Standby.Proofs.Application
import Standby.Proofs.Proxy.Likeness
import Standby.Proofs.World.Ledger
import Standby.Proofs.Independence
import Standby.Proofs.Identity
import Standby.Proofs.Causes
import Standby.Proofs.World.Pairing
import Standby.Proofs.World.Companion
import Standby.Proofs.World.Renaming
import Standby.Proofs.Renewal
import Standby.Proofs.Snapshots
