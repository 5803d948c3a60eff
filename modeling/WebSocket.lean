import WebSocket.Auth.Algorithm
import WebSocket.Auth.Challenge
import WebSocket.Base64
import WebSocket.Bytes
import WebSocket.Close
import WebSocket.Config
import WebSocket.Connection.Connect
import WebSocket.Connection.Event
import WebSocket.Connection.Exchange
import WebSocket.Connection.Gate
import WebSocket.Connection.Hub
import WebSocket.Connection.Lifecycle
import WebSocket.Connection.Phase
import WebSocket.Connection.Receive
import WebSocket.Connection.Script
import WebSocket.Connection.Timers
import WebSocket.Connection.World
import WebSocket.Digest.Hmac
import WebSocket.Digest.Padding
import WebSocket.Digest.Sha1
import WebSocket.Digest.Sha2
import WebSocket.Error
import WebSocket.Frame.Basic
import WebSocket.Frame.Mask
import WebSocket.Frame.Parse
import WebSocket.Frame.Write
import WebSocket.Handshake.Head
import WebSocket.Handshake.Headers
import WebSocket.Handshake.Outcome
import WebSocket.Handshake.Request
import WebSocket.Handshake.Response
import WebSocket.Limits
import WebSocket.Message
import WebSocket.Metadata
import WebSocket.Opcode
import WebSocket.Proofs.Auth.Answering
import WebSocket.Proofs.Auth.Parameters
import WebSocket.Proofs.Auth.Sendable
import WebSocket.Proofs.Connection.Attempt
import WebSocket.Proofs.Connection.Choices
import WebSocket.Proofs.Connection.CloseContent
import WebSocket.Proofs.Connection.CloseFrame
import WebSocket.Proofs.Connection.CloseOnce
import WebSocket.Proofs.Connection.CloseReturns
import WebSocket.Proofs.Connection.CloseSent
import WebSocket.Proofs.Connection.Common
import WebSocket.Proofs.Connection.Conduct
import WebSocket.Proofs.Connection.Connecting
import WebSocket.Proofs.Connection.Deeds
import WebSocket.Proofs.Connection.Delivered
import WebSocket.Proofs.Connection.Duty
import WebSocket.Proofs.Connection.Exchanging
import WebSocket.Proofs.Connection.Failures
import WebSocket.Proofs.Connection.FatalSend
import WebSocket.Proofs.Connection.Finishing
import WebSocket.Proofs.Connection.Footing
import WebSocket.Proofs.Connection.Ground
import WebSocket.Proofs.Connection.Handover
import WebSocket.Proofs.Connection.History
import WebSocket.Proofs.Connection.Inbound
import WebSocket.Proofs.Connection.LastWord
import WebSocket.Proofs.Connection.Lockstep
import WebSocket.Proofs.Connection.Order
import WebSocket.Proofs.Connection.Outgoing
import WebSocket.Proofs.Connection.Outline
import WebSocket.Proofs.Connection.Pongs
import WebSocket.Proofs.Connection.Release
import WebSocket.Proofs.Connection.Routine
import WebSocket.Proofs.Connection.Runs
import WebSocket.Proofs.Connection.Sending
import WebSocket.Proofs.Connection.Session
import WebSocket.Proofs.Connection.SessionEnd
import WebSocket.Proofs.Connection.Settling
import WebSocket.Proofs.Connection.Stages
import WebSocket.Proofs.Connection.Strides
import WebSocket.Proofs.Connection.Succession
import WebSocket.Proofs.Connection.Teardown
import WebSocket.Proofs.Connection.Underway
import WebSocket.Proofs.Connection.Undisturbed
import WebSocket.Proofs.Connection.Usage
import WebSocket.Proofs.Connection.Yields
import WebSocket.Proofs.Frame.Chunks
import WebSocket.Proofs.Frame.Farewell
import WebSocket.Proofs.Frame.Filling
import WebSocket.Proofs.Frame.Front
import WebSocket.Proofs.Frame.Layout
import WebSocket.Proofs.Frame.Mask
import WebSocket.Proofs.Frame.Proper
import WebSocket.Proofs.Frame.RoundTrip
import WebSocket.Proofs.Frame.Safety
import WebSocket.Proofs.Frame.Shortest
import WebSocket.Proofs.Frame.Verdict
import WebSocket.Proofs.Gate.Accounts
import WebSocket.Proofs.Gate.Calls
import WebSocket.Proofs.Gate.Delivery
import WebSocket.Proofs.Gate.HalfFrames
import WebSocket.Proofs.Gate.Passage
import WebSocket.Proofs.Gate.Shutdown
import WebSocket.Proofs.Gate.Verdicts
import WebSocket.Proofs.Gate.Visits
import WebSocket.Proofs.Handshake.Boundary
import WebSocket.Proofs.Handshake.Fields
import WebSocket.Proofs.Handshake.Opening
import WebSocket.Proofs.Handshake.Reading
import WebSocket.Proofs.Handshake.Refusals
import WebSocket.Proofs.Handshake.Rendering
import WebSocket.Proofs.Handshake.Writing
import WebSocket.Proofs.Message.Assembly
import WebSocket.Proofs.Message.Bounds
import WebSocket.Proofs.Message.Course
import WebSocket.Proofs.Message.Reassembly
import WebSocket.Proofs.Message.Rejection
import WebSocket.Proofs.Text.Boundary
import WebSocket.Proofs.Text.Encoding
import WebSocket.Proofs.Text.Pieces
import WebSocket.Proofs.Timers.Apart
import WebSocket.Proofs.Timers.Ending
import WebSocket.Proofs.Timers.Guard
import WebSocket.Proofs.Timers.Pace
import WebSocket.Proofs.Timers.Rounds
import WebSocket.Proofs.Timers.Schedule
import WebSocket.Proofs.Timers.Stopping
import WebSocket.Proofs.Timers.Ticks
import WebSocket.Proofs.Timers.Turns
import WebSocket.Proofs.Transport.Attempts
import WebSocket.Proofs.Transport.Works
import WebSocket.Proofs.Url.Target
import WebSocket.Scenario.Exchange
import WebSocket.Scenario.Gate
import WebSocket.Scenario.Run
import WebSocket.Scenario.Script
import WebSocket.Text.Assigned
import WebSocket.Text.Blank
import WebSocket.Text.CharClass
import WebSocket.Text.Composed
import WebSocket.Text.Duration
import WebSocket.Text.Hex
import WebSocket.Text.Lossy
import WebSocket.Text.Marks
import WebSocket.Text.Quoted
import WebSocket.Text.Split
import WebSocket.Text.Utf8
import WebSocket.Tls.Credentials
import WebSocket.Tls.Pem
import WebSocket.Transport.Establish
import WebSocket.Transport.Resolve
import WebSocket.Transport.Stream
import WebSocket.Transport.Target
import WebSocket.Url.Basic
import WebSocket.Url.Direction
import WebSocket.Url.Domain
import WebSocket.Url.Ipv4
import WebSocket.Url.Ipv6
import WebSocket.Url.Joiner
import WebSocket.Url.Mapping
import WebSocket.Url.Parse
import WebSocket.Url.Percent
import WebSocket.Url.Punycode
