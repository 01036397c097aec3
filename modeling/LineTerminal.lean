import LineTerminal.Activation
import LineTerminal.Audit.Reader
import LineTerminal.Audit.Record
import LineTerminal.Cli.Arguments
import LineTerminal.Cli.Help
import LineTerminal.Cli.Parameter
import LineTerminal.Cli.Value
import LineTerminal.Config.Agent
import LineTerminal.Config.Load
import LineTerminal.Daemon.Command
import LineTerminal.Daemon.Server
import LineTerminal.Daemon.Session
import LineTerminal.Decimal.Double
import LineTerminal.Decimal.Shortest
import LineTerminal.Device
import LineTerminal.Driver
import LineTerminal.Driver.Library
import LineTerminal.Driver.Scripted
import LineTerminal.Driver.Vendor
import LineTerminal.DriverError
import LineTerminal.Enable
import LineTerminal.Errno
import LineTerminal.File
import LineTerminal.Json.Reader
import LineTerminal.Json.Source
import LineTerminal.Json.Token
import LineTerminal.Json.Value
import LineTerminal.Json.Writer
import LineTerminal.Log.Entry
import LineTerminal.Log.Filter
import LineTerminal.Log.Line
import LineTerminal.Main
import LineTerminal.Olt
import LineTerminal.Proofs.Audit.Changes
import LineTerminal.Proofs.Audit.Events
import LineTerminal.Proofs.Audit.RoundTrip
import LineTerminal.Proofs.Config.Overlay
import LineTerminal.Proofs.Config.Precedence
import LineTerminal.Proofs.Daemon.Bookkeeping
import LineTerminal.Proofs.Daemon.Bystanders
import LineTerminal.Proofs.Daemon.Chronicle
import LineTerminal.Proofs.Daemon.Contexts
import LineTerminal.Proofs.Daemon.Departures
import LineTerminal.Proofs.Daemon.Records
import LineTerminal.Proofs.Daemon.Replies
import LineTerminal.Proofs.Daemon.Serial
import LineTerminal.Proofs.Daemon.Stopping
import LineTerminal.Proofs.Device.Grounds
import LineTerminal.Proofs.Device.Replay
import LineTerminal.Proofs.Device.Transitions
import LineTerminal.Proofs.Driver.Classes
import LineTerminal.Proofs.Driver.Confined
import LineTerminal.Proofs.Driver.Double
import LineTerminal.Proofs.Driver.Range
import LineTerminal.Proofs.Driver.Screening
import LineTerminal.Proofs.Driver.Scripted
import LineTerminal.Proofs.Driver.Simulation
import LineTerminal.Proofs.Driver.StatusNumbers
import LineTerminal.Proofs.Enable.Accounts
import LineTerminal.Proofs.Enable.Course
import LineTerminal.Proofs.Enable.Traffic
import LineTerminal.Proofs.Enable.Trail
import LineTerminal.Proofs.Enable.Verdict
import LineTerminal.Proofs.Json.RoundTrip
import LineTerminal.Proofs.Json.Tokens
import LineTerminal.Proofs.Schema.Records
import LineTerminal.Proofs.Service.Course
import LineTerminal.Proofs.Service.Outcome
import LineTerminal.Proofs.Service.Serving
import LineTerminal.Proofs.Service.Stream
import LineTerminal.Proofs.Time.RoundTrip
import LineTerminal.Proofs.Yaml.Blank
import LineTerminal.Proofs.Yaml.Meaning
import LineTerminal.Schema
import LineTerminal.Service
import LineTerminal.Text
import LineTerminal.Text.Quoted
import LineTerminal.Time.Reader
import LineTerminal.Time.Timestamp
import LineTerminal.Yaml.Cursor
import LineTerminal.Yaml.Document
import LineTerminal.Yaml.Node
import LineTerminal.Yaml.Scalar
import LineTerminal.Yaml.ScalarText
import LineTerminal.Yaml.Source
import LineTerminal.Yaml.Token
import LineTerminal.Yaml.Tokens
