import SessionEngine.Attributes
import SessionEngine.Buffer
import SessionEngine.Buffer.Wait
import SessionEngine.Bytes
import SessionEngine.Crypto.Aes
import SessionEngine.Crypto.Curve
import SessionEngine.Crypto.Digest
import SessionEngine.Crypto.Edwards
import SessionEngine.Crypto.Hash
import SessionEngine.Crypto.Modular
import SessionEngine.Crypto.Rsa
import SessionEngine.Crypto.Sha256
import SessionEngine.Crypto.Sha512
import SessionEngine.Crypto.Stretch
import SessionEngine.Delivery
import SessionEngine.Demo.CommandLine
import SessionEngine.Demo.Handlers
import SessionEngine.Demo.Program
import SessionEngine.Error
import SessionEngine.Event
import SessionEngine.FileTree
import SessionEngine.Framing.Cut
import SessionEngine.Framing.Length
import SessionEngine.Framing.Line
import SessionEngine.Framing.Silence
import SessionEngine.Framing.Split
import SessionEngine.Handler
import SessionEngine.Heartbeat
import SessionEngine.IoError
import SessionEngine.Listener
import SessionEngine.Main
import SessionEngine.Role
import SessionEngine.Session
import SessionEngine.Session.Dispatch
import SessionEngine.Session.Read
import SessionEngine.SessionGroup
import SessionEngine.Settings
import SessionEngine.Signal
import SessionEngine.Socket
import SessionEngine.Socket.ReadLoop
import SessionEngine.Socket.WriteLoop
import SessionEngine.Splitter
import SessionEngine.Stage
import SessionEngine.Text.Base64
import SessionEngine.Text.Blank
import SessionEngine.Text.Concealed
import SessionEngine.Text.Decimal
import SessionEngine.Text.Hex
import SessionEngine.Text.Lossy
import SessionEngine.Text.Printable
import SessionEngine.Text.Quoted
import SessionEngine.Text.Span
import SessionEngine.Tls.Alert
import SessionEngine.Tls.Certificate
import SessionEngine.Tls.Channel
import SessionEngine.Tls.Der
import SessionEngine.Tls.Der.Cursor
import SessionEngine.Tls.Engine
import SessionEngine.Tls.Engine.Channel
import SessionEngine.Tls.Engine.Client
import SessionEngine.Tls.Engine.Receive
import SessionEngine.Tls.Engine.Server
import SessionEngine.Tls.Engine.State
import SessionEngine.Tls.Extension
import SessionEngine.Tls.Fault
import SessionEngine.Tls.Group
import SessionEngine.Tls.Handshake
import SessionEngine.Tls.Hello
import SessionEngine.Tls.Intake
import SessionEngine.Tls.Key
import SessionEngine.Tls.KeyExchange
import SessionEngine.Tls.LockedKey
import SessionEngine.Tls.Message
import SessionEngine.Tls.ObjectId
import SessionEngine.Tls.Pair
import SessionEngine.Tls.Pem
import SessionEngine.Tls.Policy
import SessionEngine.Tls.Record
import SessionEngine.Tls.Samples
import SessionEngine.Tls.Secret
import SessionEngine.Tls.ServerName
import SessionEngine.Tls.Signature
import SessionEngine.Tls.Suite
import SessionEngine.Tls.Version
import SessionEngine.Tls.Wire
import SessionEngine.Traffic
import SessionEngine.Workers
import SessionEngine.Writer
import SessionEngine.Proofs.Acknowledgement
import SessionEngine.Proofs.BatchReplies
import SessionEngine.Proofs.BoundedQueue
import SessionEngine.Proofs.CloseSignal
import SessionEngine.Proofs.CommandLine
import SessionEngine.Proofs.Conservation
import SessionEngine.Proofs.Course
import SessionEngine.Proofs.Course.Endless
import SessionEngine.Proofs.Course.Frail
import SessionEngine.Proofs.Course.History
import SessionEngine.Proofs.Course.Intake
import SessionEngine.Proofs.Course.Passing
import SessionEngine.Proofs.Course.Quiet
import SessionEngine.Proofs.Course.Reader
import SessionEngine.Proofs.Course.Sieve
import SessionEngine.Proofs.Course.Weight
import SessionEngine.Proofs.Draining
import SessionEngine.Proofs.EchoedLines
import SessionEngine.Proofs.EndOfStream
import SessionEngine.Proofs.Event.Accepted
import SessionEngine.Proofs.EventTrace
import SessionEngine.Proofs.FrameDelivery
import SessionEngine.Proofs.FrameTransparency
import SessionEngine.Proofs.FramedReading
import SessionEngine.Proofs.Framing.Grammar
import SessionEngine.Proofs.Framing.Growing
import SessionEngine.Proofs.Framing.Parts
import SessionEngine.Proofs.HandshakeOutcome
import SessionEngine.Proofs.Heartbeat.Blend
import SessionEngine.Proofs.Heartbeat.Exchange
import SessionEngine.Proofs.Heartbeat.Frames
import SessionEngine.Proofs.Heartbeat.Items
import SessionEngine.Proofs.Heartbeat.Judgement
import SessionEngine.Proofs.Heartbeat.Lines
import SessionEngine.Proofs.Heartbeat.Stripping
import SessionEngine.Proofs.HeartbeatAssessment
import SessionEngine.Proofs.Lifecycle
import SessionEngine.Proofs.Listener.Order
import SessionEngine.Proofs.Listener.Parting
import SessionEngine.Proofs.Listener.Turns
import SessionEngine.Proofs.ListenerClose
import SessionEngine.Proofs.Opening
import SessionEngine.Proofs.Panics
import SessionEngine.Proofs.Pool.Tenants
import SessionEngine.Proofs.PoolOwnership
import SessionEngine.Proofs.Registry
import SessionEngine.Proofs.RejectedRecord
import SessionEngine.Proofs.Segmentation
import SessionEngine.Proofs.Session.Asking
import SessionEngine.Proofs.Session.Attending
import SessionEngine.Proofs.Session.Beating
import SessionEngine.Proofs.Session.Closing
import SessionEngine.Proofs.Session.Cutting
import SessionEngine.Proofs.Session.Decoding
import SessionEngine.Proofs.Session.Deed
import SessionEngine.Proofs.Session.Hearing
import SessionEngine.Proofs.Session.Heeding
import SessionEngine.Proofs.Session.Kept
import SessionEngine.Proofs.Session.Ledger
import SessionEngine.Proofs.Session.Limit
import SessionEngine.Proofs.Session.Listening
import SessionEngine.Proofs.Session.Parcels
import SessionEngine.Proofs.Session.Pausing
import SessionEngine.Proofs.Session.Replying
import SessionEngine.Proofs.Session.Sending
import SessionEngine.Proofs.Session.Stripping
import SessionEngine.Proofs.Settling
import SessionEngine.Proofs.SilenceGrouping
import SessionEngine.Proofs.SilentReading
import SessionEngine.Proofs.Splitting
import SessionEngine.Proofs.Text.LineFeeds
import SessionEngine.Proofs.Timing.Bursts
import SessionEngine.Proofs.Timing.Windows
import SessionEngine.Proofs.Tls.Duplex
import SessionEngine.Proofs.Tls.InOrder
import SessionEngine.Proofs.Tls.Link
import SessionEngine.Proofs.Tls.Records
import SessionEngine.Proofs.Tls.Steps
import SessionEngine.Proofs.Tls.Tagged
import SessionEngine.Proofs.TlsStream
import SessionEngine.Proofs.TokenStripping
import SessionEngine.Proofs.Transparency
import SessionEngine.Proofs.WakeUp
import SessionEngine.Proofs.WindowedReading
