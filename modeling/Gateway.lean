import Gateway.Text.Blank
import Gateway.Text.Split
import Gateway.Text.Ascii
import Gateway.Text.Number
import Gateway.Text.Quoted
import Gateway.Bytes
import Gateway.Fault
import Gateway.Duration
import Gateway.Address
import Gateway.Message.NextHop
import Gateway.Wire.Sink
import Gateway.Wire.Reader
import Gateway.Wire.Relay
import Gateway.Pool.Operation
import Gateway.Pool.Resolution
import Gateway.CommandLine.Basic
import Gateway.Exchange.Event
import Gateway.Exchange.Forward
import Gateway.Files
import Gateway.Server.Startup
import Gateway.Server.Tracker
import Gateway.Probe.Monitor
import Gateway.Admin.Client
import Gateway.Main
import Gateway.Proofs.ChunkedBody
import Gateway.Proofs.Accounting
import Gateway.Proofs.Lines
import Gateway.Proofs.Encoding
import Gateway.Proofs.NextHop
import Gateway.Proofs.Exchanging
import Gateway.Proofs.Choosing
import Gateway.Proofs.Pipelining
import Gateway.Proofs.Conversing
import Gateway.Proofs.Defects
import Gateway.Proofs.Delivering
import Gateway.Proofs.Responses
import Gateway.Proofs.Reusing
import Gateway.Proofs.Blaming
import Gateway.Proofs.Hysteresis
import Gateway.Proofs.Rotation
import Gateway.Proofs.Admission
import Gateway.Proofs.FailingOpen
import Gateway.Proofs.HeadSearch
import Gateway.Proofs.Rereading
import Gateway.Proofs.Consuming
import Gateway.Proofs.Faultless
import Gateway.Proofs.Slots
import Gateway.Proofs.Independence
import Gateway.Proofs.Sessions
import Gateway.Proofs.Reconciling
import Gateway.Proofs.Probing
import Gateway.Proofs.Metering
import Gateway.Proofs.LongLines
import Gateway.Proofs.Refusing
import Gateway.Proofs.Lengths
import Gateway.Proofs.LineFeeds
import Gateway.Proofs.Fate
import Gateway.Proofs.Editing
import Gateway.Proofs.Balancing
import Gateway.Proofs.Announcing
import Gateway.Proofs.Closing
import Gateway.Proofs.Buffering
import Gateway.Proofs.Mirroring
import Gateway.Proofs.Coinciding
import Gateway.Proofs.Configuring
import Gateway.Proofs.Validating
import Gateway.Proofs.Explaining
import Gateway.Proofs.Authorizing
import Gateway.Proofs.Respelling
