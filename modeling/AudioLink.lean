import AudioLink.Config.Encoding
import AudioLink.Config.Interface
import AudioLink.Config.Peer
import AudioLink.Config.Session
import AudioLink.Config.Store
import AudioLink.Config.Toml
import AudioLink.Data.Form
import AudioLink.Data.Json
import AudioLink.Data.Labelled
import AudioLink.Data.Value
import AudioLink.Endpoint.Basic
import AudioLink.Endpoint.Form
import AudioLink.Endpoint.Protocol
import AudioLink.Endpoint.Uri
import AudioLink.Engine.Basic
import AudioLink.Engine.Code
import AudioLink.Engine.Outcome
import AudioLink.Engine.Recorder
import AudioLink.Error
import AudioLink.Files.Tree
import AudioLink.Frame
import AudioLink.Interface
import AudioLink.Log.Config
import AudioLink.Log.Directive
import AudioLink.Loopback.Engine
import AudioLink.Loopback.Fleet
import AudioLink.Loopback.Linking
import AudioLink.Loopback.Opening
import AudioLink.Loopback.Packet
import AudioLink.Loopback.Packetizer
import AudioLink.Loopback.Playout
import AudioLink.Loopback.State
import AudioLink.Loopback.Transfer
import AudioLink.Net.Ip
import AudioLink.Net.Machine
import AudioLink.Net.Network
import AudioLink.Peer.Basic
import AudioLink.Peer.SlotTable
import AudioLink.Session.Basic
import AudioLink.Table
import AudioLink.Text.Bytes
import AudioLink.Text.Digits
import AudioLink.Text.Percent
import AudioLink.Text.Quoted
import AudioLink.Text.Segments
import AudioLink.Text.Unprintable
import AudioLink.Time.Duration
import AudioLink.Time.Pacer
import AudioLink.Toml.Atom
import AudioLink.Toml.Document
import AudioLink.Toml.Quoting
import AudioLink.Toml.Sheet
import AudioLink.Toml.Statement
import AudioLink.Toml.Tree
import AudioLink.Url.Basic
import AudioLink.Url.Host
import AudioLink.Url.Parser
import AudioLink.Url.Path
import AudioLink.Url.Punycode
import AudioLink.Proofs.Net.Ipv6Text
import AudioLink.Proofs.Url.Canonical
import AudioLink.Proofs.Endpoint.Grammar
import AudioLink.Proofs.Endpoint.RoundTrip
import AudioLink.Proofs.Peer.Ledger
import AudioLink.Proofs.Peer.Operation
import AudioLink.Proofs.Peer.Ending
import AudioLink.Proofs.Peer.Replay
import AudioLink.Proofs.Loopback.Ledger
import AudioLink.Proofs.Loopback.Step
import AudioLink.Proofs.Session.Operation
import AudioLink.Proofs.Loopback.LockStep
import AudioLink.Proofs.Loopback.Datagram
import AudioLink.Proofs.Loopback.Codec
import AudioLink.Proofs.Loopback.Cutting
import AudioLink.Proofs.Loopback.Reception
import AudioLink.Proofs.Loopback.Sizes
import AudioLink.Proofs.Loopback.Fidelity
import AudioLink.Proofs.Loopback.History
import AudioLink.Proofs.Loopback.Alignment
import AudioLink.Proofs.Loopback.Playback
import AudioLink.Proofs.Table
import AudioLink.Proofs.Session.Atomicity
import AudioLink.Proofs.Session.Program
import AudioLink.Proofs.Session.Changes
import AudioLink.Proofs.Session.Accounting
import AudioLink.Proofs.Loopback.Census
import AudioLink.Proofs.Loopback.Journal
import AudioLink.Proofs.Mirrors
import AudioLink.Proofs.Loopback.Balance
import AudioLink.Proofs.Loopback.Accounting
import AudioLink.Proofs.Loopback.Conservation
import AudioLink.Proofs.Session.Callers
import AudioLink.Proofs.Session.Fence
import AudioLink.Proofs.Toml.Words
import AudioLink.Proofs.Toml.Lines
import AudioLink.Proofs.Toml.Keys
import AudioLink.Proofs.Toml.Outline
import AudioLink.Proofs.Toml.Layout
import AudioLink.Proofs.Toml.Locality
import AudioLink.Proofs.Toml.Pages
import AudioLink.Proofs.Toml.Editing
import AudioLink.Proofs.Config.Forms
import AudioLink.Proofs.Config.Toml
import AudioLink.Proofs.Loopback.Restart
import AudioLink.Proofs.Loopback.Handles
import AudioLink.Proofs.Loopback.SlotSteps
import AudioLink.Proofs.Loopback.SlotRules
import AudioLink.Proofs.Peer.Admission
import AudioLink.Proofs.Session.Boundary
import AudioLink.Proofs.Peer.Independence
import AudioLink.Proofs.Loopback.SequenceFilter
import AudioLink.Proofs.Loopback.Resync
import AudioLink.Proofs.Loopback.Writing
import AudioLink.Proofs.Loopback.Splitting
import AudioLink.Proofs.Loopback.Forgetting
import AudioLink.Proofs.Loopback.Opening
import AudioLink.Proofs.Loopback.Senders
import AudioLink.Proofs.Loopback.FanOut
import AudioLink.Proofs.Loopback.Fitting
import AudioLink.Proofs.Data.Json
import AudioLink.Proofs.Config.Json
import AudioLink.Proofs.Config.Spans
import AudioLink.Proofs.Config.Partial
import AudioLink.Proofs.Time.Period
import AudioLink.Proofs.Time.Pacing
import AudioLink.Proofs.Endpoint.Ports
import AudioLink.Proofs.Files.Tree
import AudioLink.Proofs.Config.Store
import AudioLink.Proofs.Loopback.Conversion
