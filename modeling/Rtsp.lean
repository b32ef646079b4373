import Rtsp.Auth.Challenge
import Rtsp.Auth.Entropy
import Rtsp.Auth.Parameter
import Rtsp.Auth.Signer
import Rtsp.Cancellation
import Rtsp.Clock
import Rtsp.CommandLine
import Rtsp.Connection
import Rtsp.Control
import Rtsp.Credentials
import Rtsp.Decoder
import Rtsp.Description.Basic
import Rtsp.Description.Line
import Rtsp.Description.Section
import Rtsp.Dialogue
import Rtsp.Digest.Block
import Rtsp.Digest.Md5
import Rtsp.Digest.Sha256
import Rtsp.Domain.Direction
import Rtsp.Domain.Joiner
import Rtsp.Domain.Mapping
import Rtsp.Domain.Name
import Rtsp.Domain.Punycode
import Rtsp.Duration
import Rtsp.Fault
import Rtsp.Fingerprint
import Rtsp.Halt
import Rtsp.Handshake
import Rtsp.Header
import Rtsp.Instant
import Rtsp.Lifecycle
import Rtsp.Locator
import Rtsp.Main
import Rtsp.Media.Format
import Rtsp.Media.Medium
import Rtsp.Message
import Rtsp.Method
import Rtsp.Packet
import Rtsp.PlayRange
import Rtsp.Proofs.Decoder.Formed
import Rtsp.Proofs.Decoder.Look
import Rtsp.Proofs.Decoder.Reading
import Rtsp.Proofs.Decoder.RoundTrip
import Rtsp.Proofs.Decoder.Segmentation
import Rtsp.Proofs.Decoder.Spelling
import Rtsp.Proofs.Handshake.Agenda
import Rtsp.Proofs.Handshake.Course
import Rtsp.Proofs.Handshake.Round
import Rtsp.Proofs.Message.Head
import Rtsp.Proofs.Message.Written
import Rtsp.Proofs.Pull.Life
import Rtsp.Proofs.Pull.Notices
import Rtsp.Proofs.Text.Line
import Rtsp.Pull.Playing
import Rtsp.Pull.Source
import Rtsp.Relay
import Rtsp.Request
import Rtsp.Response
import Rtsp.Rtp
import Rtsp.Session
import Rtsp.Settings
import Rtsp.Supervisor
import Rtsp.Text.Base64
import Rtsp.Text.Basic
import Rtsp.Text.Blank
import Rtsp.Text.Case
import Rtsp.Text.Composed
import Rtsp.Text.Composite
import Rtsp.Text.Hex
import Rtsp.Text.Lines
import Rtsp.Text.Mark
import Rtsp.Text.Number
import Rtsp.Text.Percent
import Rtsp.Text.Printable
import Rtsp.Text.Quoted
import Rtsp.Text.Table
import Rtsp.Text.Utf8
import Rtsp.Transport
import Rtsp.Url.Host
import Rtsp.Url.Ipv6
import Rtsp.Url.Parser
import Rtsp.Url.Path
import Rtsp.Url.Web
import Rtsp.Proofs.Pull.Run
import Rtsp.Proofs.Relay.Account
import Rtsp.Proofs.Relay.Resting
import Rtsp.Proofs.Pull.Schedule
import Rtsp.Proofs.Pull.Bracket
import Rtsp.Proofs.Pull.Frames
import Rtsp.Proofs.Dialogue.Keeps
import Rtsp.Proofs.Handshake.Rules
import Rtsp.Proofs.Connection.Host
import Rtsp.Proofs.Pull.Attempt
import Rtsp.Proofs.Pull.Fallback
import Rtsp.Proofs.Message.Heard
import Rtsp.Proofs.Url.Address
import Rtsp.Proofs.Url.Userinfo
import Rtsp.Proofs.Auth.Authorization
import Rtsp.Proofs.Description.Control
import Rtsp.Proofs.Handshake.Legible
import Rtsp.Proofs.Connection.Stream
import Rtsp.Proofs.Connection.Units
import Rtsp.Proofs.Handshake.Last
import Rtsp.Proofs.Handshake.Alike
import Rtsp.Proofs.Connection.Bound
import Rtsp.Proofs.Connection.Conveyed
import Rtsp.Proofs.Handshake.Script
import Rtsp.Proofs.Transport.Written
import Rtsp.Proofs.Handshake.Discreet
import Rtsp.Proofs.Handshake.History
import Rtsp.Proofs.Handshake.Tracks
import Rtsp.Proofs.Handshake.Pieces
import Rtsp.Proofs.Session.Routing
import Rtsp.Proofs.Handshake.Channels
import Rtsp.Proofs.Auth.Uses
import Rtsp.Proofs.Handshake.Signing
import Rtsp.Proofs.Handshake.Nonces
import Rtsp.Proofs.Decoder.Account
import Rtsp.Proofs.Decoder.Oversize
import Rtsp.Proofs.Decoder.Framing
import Rtsp.Proofs.Connection.Waiting
import Rtsp.Proofs.Connection.Awaited
import Rtsp.Proofs.Message.Parsed
import Rtsp.Proofs.Auth.Listing
import Rtsp.Proofs.Auth.Announced
import Rtsp.Proofs.Auth.Presented
import Rtsp.Proofs.Connection.Stamps
import Rtsp.Proofs.Auth.Offered
import Rtsp.Proofs.Text.Utf8
import Rtsp.Proofs.Text.Percent
import Rtsp.Proofs.Url.Reading
import Rtsp.Proofs.Text.Hexadecimal
import Rtsp.Proofs.Url.Agreement
import Rtsp.Proofs.Url.Login
import Rtsp.Proofs.Url.Ipv6
import Rtsp.Proofs.Url.Path
import Rtsp.Proofs.Url.Canonical
import Rtsp.Proofs.Result
import Rtsp.Proofs.Text.Case
import Rtsp.Proofs.Text.Trim
import Rtsp.Proofs.Rtp.Layout
import Rtsp.Proofs.Transport.Spelled
import Rtsp.Proofs.Description.Stray
import Rtsp.Proofs.Handshake.Verdict
import Rtsp.Proofs.Handshake.Ending
import Rtsp.Proofs.Description.Written
import Rtsp.Proofs.Media.Mapping
import Rtsp.Proofs.Description.Document
import Rtsp.Proofs.Text.Decimal
import Rtsp.Proofs.Control.Base
import Rtsp.Proofs.Duration.Grammar
import Rtsp.Proofs.PlayRange.Offset
import Rtsp.Proofs.Instant.Calendar
import Rtsp.Proofs.PlayRange.Clock
import Rtsp.Proofs.Message.Reread
import Rtsp.Proofs.Supervisor.Walk
import Rtsp.Proofs.Settings.Pin
import Rtsp.Proofs.Pull.Pause
