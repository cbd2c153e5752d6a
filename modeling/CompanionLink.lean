import CompanionLink.AccessPoint
import CompanionLink.Beacon.Announcer
import CompanionLink.Beacon.Packet
import CompanionLink.Beacon.Transmitter
import CompanionLink.Bytes
import CompanionLink.CommandLine
import CompanionLink.Config.Load
import CompanionLink.Config.Reader
import CompanionLink.Config.Schema
import CompanionLink.Directory
import CompanionLink.Double.Announcer
import CompanionLink.Double.Channel
import CompanionLink.Double.Manager
import CompanionLink.FileStore
import CompanionLink.Identity
import CompanionLink.Lifecycle.Basic
import CompanionLink.Lifecycle.Command
import CompanionLink.Lifecycle.Run
import CompanionLink.Lifecycle.Stage
import CompanionLink.Lifecycle.Tick
import CompanionLink.Main
import CompanionLink.Manager
import CompanionLink.Net.Address
import CompanionLink.Net.Loopback
import CompanionLink.Net.SendOutcome
import CompanionLink.Pairing.Channel
import CompanionLink.Pairing.Frame
import CompanionLink.Pairing.Preamble
import CompanionLink.Pairing.Receiver
import CompanionLink.Pairing.Registers
import CompanionLink.Pairing.Tcp
import CompanionLink.Proofs.Double.Hold
import CompanionLink.Proofs.Lifecycle.Reach
import CompanionLink.Proofs.Lifecycle.Step
import CompanionLink.Proofs.Technologies
import CompanionLink.Technologies
import CompanionLink.Text.Blank
import CompanionLink.Text.Cut
import CompanionLink.Toml.Document
import CompanionLink.Toml.Lexical
import CompanionLink.Toml.Moment
import CompanionLink.Toml.Number
import CompanionLink.Toml.Quoted
import CompanionLink.Toml.Table
import CompanionLink.Toml.Value
import CompanionLink.Proofs.Lifecycle.Resources
import CompanionLink.Proofs.Lifecycle.Radio
import CompanionLink.Proofs.AccessPoint
import CompanionLink.Proofs.Directory.Identity
import CompanionLink.Proofs.Directory.Batch
import CompanionLink.Proofs.Bytes
import CompanionLink.Proofs.Directory.Replay
import CompanionLink.Proofs.Directory.Quiet
import CompanionLink.Proofs.Directory.Version
import CompanionLink.Proofs.Pairing.Receive
import CompanionLink.Proofs.Pairing.Read
import CompanionLink.Proofs.Pairing.Wire
import CompanionLink.Proofs.Pairing.Align
import CompanionLink.Proofs.Pairing.Conserve
import CompanionLink.Proofs.Pairing.Reassembly
import CompanionLink.Proofs.Pairing.Boundary
import CompanionLink.Proofs.Beacon.RoundTrip
import CompanionLink.Proofs.Lifecycle.Happening
import CompanionLink.Proofs.Lifecycle.Join
import CompanionLink.Proofs.Lifecycle.Course
import CompanionLink.Proofs.Double.Subscription
import CompanionLink.Proofs.Lifecycle.Delivery
import CompanionLink.Proofs.Lifecycle.Retry
import CompanionLink.Proofs.Double.Balance
import CompanionLink.Proofs.Lifecycle.Life
import CompanionLink.Proofs.Lifecycle.Carrier
import CompanionLink.Proofs.Lifecycle.Target
import CompanionLink.Proofs.Lifecycle.Ascent
import CompanionLink.Proofs.Double.Supply
import CompanionLink.Proofs.Lifecycle.Handling
import CompanionLink.Proofs.Lifecycle.Visit
import CompanionLink.Proofs.Pairing.Isolation
import CompanionLink.Proofs.Pairing.Greeting
import CompanionLink.Proofs.Lifecycle.Closing
import CompanionLink.Proofs.Lifecycle.Refusal
import CompanionLink.Proofs.Lifecycle.Bookkeeping
import CompanionLink.Proofs.Pairing.Admission
import CompanionLink.Proofs.Pairing.Guarded
import CompanionLink.Proofs.Pairing.Tapped
import CompanionLink.Proofs.Pairing.Reply
import CompanionLink.Proofs.Technologies.Power
import CompanionLink.Proofs.Directory.Reported
import CompanionLink.Proofs.Pairing.Intake
import CompanionLink.Proofs.Pairing.Shrink
import CompanionLink.Proofs.Beacon.Transmission
import CompanionLink.Proofs.Beacon.Grammar
import CompanionLink.Proofs.Pairing.Coherence
import CompanionLink.Proofs.Lifecycle.Timed
import CompanionLink.Proofs.Double.Searches
import CompanionLink.Proofs.Lifecycle.Searches
import CompanionLink.Proofs.Lifecycle.Answers
