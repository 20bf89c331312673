import Framecast.Assembly.Basic
import Framecast.Assembly.Event
import Framecast.Assembly.Frame
import Framecast.Assembly.Settings
import Framecast.Assembly.Storage
import Framecast.Assembly.Words
import Framecast.Bytes
import Framecast.Command.Address
import Framecast.Command.Arguments
import Framecast.Command.Configuration
import Framecast.Command.Outcome
import Framecast.Command.Receive
import Framecast.Command.Send
import Framecast.Datagram.Fragment
import Framecast.Datagram.Header
import Framecast.Datagram.Packet
import Framecast.Decimal.Dyadic
import Framecast.Decimal.Layout
import Framecast.Decimal.Literal
import Framecast.Decimal.Rounding
import Framecast.Decimal.Shortest
import Framecast.Files.Fault
import Framecast.Files.Path
import Framecast.Files.Tree
import Framecast.Image.Encoding
import Framecast.Image.Gradient
import Framecast.Image.Header
import Framecast.Image.Source
import Framecast.Log
import Framecast.Loopback
import Framecast.Main
import Framecast.Observation.Observer
import Framecast.Observation.Trace
import Framecast.Output.FrameFiles
import Framecast.Output.Handoff
import Framecast.Reassembly.Basic
import Framecast.Reassembly.Flight
import Framecast.Reassembly.Loop
import Framecast.Reassembly.Reporting
import Framecast.Reassembly.Worker
import Framecast.Reception.Continuity
import Framecast.Reception.Intake
import Framecast.Reception.Packet
import Framecast.Reception.Queue
import Framecast.Reception.Sharing
import Framecast.Sending.Link
import Framecast.Sending.Plan
import Framecast.Sending.Random
import Framecast.Sending.Sender
import Framecast.Statistics.Report
import Framecast.Statistics.Tally
import Framecast.Text.Digits
import Framecast.Text.Duration
import Framecast.Text.Failure
import Framecast.Text.Json
import Framecast.Toml.Document
import Framecast.Toml.Lexeme
import Framecast.Toml.Scalar
import Framecast.Toml.Statement
import Framecast.Toml.Table
import Framecast.Toml.Value
import Framecast.Proofs.Assembly.Account
import Framecast.Proofs.Reassembly.Flights
import Framecast.Proofs.Reassembly.Departure
import Framecast.Proofs.Reassembly.Isolation
import Framecast.Proofs.Assembly.Completion
import Framecast.Proofs.Reassembly.History
import Framecast.Proofs.Reassembly.Chronicle
import Framecast.Proofs.Datagram.Cutting
import Framecast.Proofs.Datagram.RoundTrip
import Framecast.Proofs.Reassembly.Delivery
import Framecast.Proofs.Assembly.Arrangement
import Framecast.Proofs.Reassembly.Reuse
import Framecast.Proofs.Reassembly.Retirement
import Framecast.Proofs.Reassembly.Room
import Framecast.Proofs.Statistics.Totals
import Framecast.Proofs.Reassembly.Balance
import Framecast.Proofs.Reassembly.Memory
import Framecast.Proofs.Reassembly.Timing
import Framecast.Proofs.Reassembly.Working
import Framecast.Proofs.Reassembly.Postponement
import Framecast.Proofs.Reassembly.Duplicates
import Framecast.Proofs.Reception.Sharing
import Framecast.Proofs.Reassembly.Looping
import Framecast.Proofs.Reassembly.Ending
import Framecast.Proofs.Reassembly.Draining
import Framecast.Proofs.Reassembly.Unrolling
import Framecast.Proofs.Reassembly.Pressure
import Framecast.Proofs.Files.Writing
import Framecast.Proofs.Image.Headers
import Framecast.Proofs.Output.Placing
import Framecast.Proofs.Output.Recovery
import Framecast.Proofs.Datagram.Partition
import Framecast.Proofs.Reassembly.Admission
import Framecast.Proofs.WireForm
import Framecast.Proofs.Assembly.Access
import Framecast.Proofs.Assembly.Places
import Framecast.Proofs.Assembly.Ideal
import Framecast.Proofs.Assembly.Refinement
import Framecast.Proofs.Reception.Screening
import Framecast.Proofs.Reception.Gaps
import Framecast.Proofs.Sending.Planning
import Framecast.Proofs.Sending.Dispatch
import Framecast.Proofs.Observation.Tracing
import Framecast.Proofs.Image.Gradients
import Framecast.Proofs.Reassembly.Muting
import Framecast.Proofs.Observation.Watching
import Framecast.Proofs.Output.Contents
import Framecast.Proofs.Output.Accounting
import Framecast.Proofs.Loopback
