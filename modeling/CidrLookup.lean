import CidrLookup.Link.Recording
import CidrLookup.Message.Decode
import CidrLookup.Message.Encode
import CidrLookup.Record.Buffer
import CidrLookup.Record.Reader
import CidrLookup.Record.Writer
import CidrLookup.Session
import CidrLookup.Channel
import CidrLookup.Client
import CidrLookup.Command
import CidrLookup.Command.Ending
import CidrLookup.Command.Help
import CidrLookup.Command.Lookup
import CidrLookup.Command.Probe
import CidrLookup.Command.Run
import CidrLookup.Link.Attempt
import CidrLookup.Link.Schedule
import CidrLookup.Live
import CidrLookup.Main
import CidrLookup.Simulation
import CidrLookup.Proofs.Session.Run
import CidrLookup.Proofs.Session.Operations
import CidrLookup.Proofs.Session.Outcome
import CidrLookup.Proofs.Session.Flush
import CidrLookup.Proofs.Session.Phase
import CidrLookup.Proofs.Session.Relabel
import CidrLookup.Proofs.Session.Moves
import CidrLookup.Proofs.Session.Reason
import CidrLookup.Proofs.Session.Fate
import CidrLookup.Proofs.Message.Encode
import CidrLookup.Proofs.Message.Decode
import CidrLookup.Proofs.Numeral
import CidrLookup.Proofs.Address
import CidrLookup.Proofs.Record.Form
import CidrLookup.Proofs.Session.Correlation
import CidrLookup.Proofs.Record.Reader
import CidrLookup.Proofs.Record.Writer
import CidrLookup.Proofs.Record.Buffer
import CidrLookup.Proofs.Record.Sending
import CidrLookup.Proofs.Message.Transfer
import CidrLookup.Proofs.Client.Oversize
import CidrLookup.Proofs.Link.Attempt
import CidrLookup.Proofs.Session.Account
import CidrLookup.Proofs.Link.Socket
import CidrLookup.Proofs.Link.Written
import CidrLookup.Proofs.Client.Interleaving
import CidrLookup.Proofs.Client.Stretch
import CidrLookup.Proofs.Client.Moves
import CidrLookup.Proofs.Client.Stale
import CidrLookup.Proofs.Client.Waiting
import CidrLookup.Proofs.Client.Written
import CidrLookup.Proofs.Message.Version
import CidrLookup.Proofs.Session.Halt
import CidrLookup.Proofs.Session.Purge
import CidrLookup.Proofs.Session.Timeline
import CidrLookup.Proofs.Session.Discipline
import CidrLookup.Proofs.Session.Submission
import CidrLookup.Proofs.Session.Parameters
import CidrLookup.Proofs.Session.Token
import CidrLookup.Proofs.Client.Drive
import CidrLookup.Proofs.Text.Table
import CidrLookup.Proofs.Output
import CidrLookup.Proofs.Command.Answers
import CidrLookup.Proofs.Command.Lookup
import CidrLookup.Proofs.Message.Delimited
import CidrLookup.Proofs.Session.Opening
import CidrLookup.Proofs.Session.Idle
import CidrLookup.Proofs.Session.Frames
import CidrLookup.Proofs.Session.Representation
import CidrLookup.Proofs.Cidr.Membership
import CidrLookup.Proofs.Cidr.Text
import CidrLookup.Proofs.Record.Feeding
import CidrLookup.Proofs.Link.Owed
import CidrLookup.Proofs.Link.Operations
import CidrLookup.Proofs.Client.GivenUp
import CidrLookup.Proofs.Wire.Cursor
import CidrLookup.Proofs.Command.Capacity
import CidrLookup.Proofs.Command.Timeout
import CidrLookup.Proofs.Command.Deadline
