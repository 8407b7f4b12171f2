import MemberAddress.Address
import MemberAddress.Binary64
import MemberAddress.Bytes
import MemberAddress.Calendar
import MemberAddress.CommandLine.HostFiles
import MemberAddress.CommandLine.Options
import MemberAddress.CommandLine.Run
import MemberAddress.Config
import MemberAddress.Config.File
import MemberAddress.Fault
import MemberAddress.HostPort
import MemberAddress.Inet.Basic
import MemberAddress.Inet.Network
import MemberAddress.Inet.Printer
import MemberAddress.Inet.Reader
import MemberAddress.Interface
import MemberAddress.Log.Format
import MemberAddress.Log.Record
import MemberAddress.Log.Registry
import MemberAddress.Main
import MemberAddress.MemberList
import MemberAddress.Pattern.Basic
import MemberAddress.Pattern.Reader
import MemberAddress.Picker.Basic
import MemberAddress.Picker.Choice
import MemberAddress.Picker.Pool
import MemberAddress.Picker.Scan
import MemberAddress.Property
import MemberAddress.Resolver
import MemberAddress.Settings
import MemberAddress.Socket.PortSearch
import MemberAddress.Socket.PortTable
import MemberAddress.Socket.System
import MemberAddress.Text.Basic
import MemberAddress.Text.Blank
import MemberAddress.Text.Digit
import MemberAddress.Text.Notation
import MemberAddress.Text.Printable
import MemberAddress.Text.Quoted
import MemberAddress.Text.Surrogate
import MemberAddress.Text.UpperCase
import MemberAddress.Text.Word
import MemberAddress.Value
import MemberAddress.Yaml.Cursor
import MemberAddress.Yaml.Document
import MemberAddress.Yaml.Error
import MemberAddress.Yaml.Heading
import MemberAddress.Yaml.Node
import MemberAddress.Yaml.Number
import MemberAddress.Yaml.Scalar
import MemberAddress.Yaml.Shape
import MemberAddress.Yaml.Tag
import MemberAddress.Yaml.Time
import MemberAddress.Yaml.Token
import MemberAddress.Yaml.TokenStream
import MemberAddress.Proofs.Logged
import MemberAddress.Proofs.Scan
import MemberAddress.Proofs.Members
import MemberAddress.Proofs.Pool
import MemberAddress.Proofs.Choice
import MemberAddress.Proofs.Literal
import MemberAddress.Proofs.Picking
import MemberAddress.Proofs.ShownHost
import MemberAddress.Proofs.Restriction
import MemberAddress.Proofs.Lifecycle
import MemberAddress.Proofs.Groups
import MemberAddress.Proofs.Segments
import MemberAddress.Proofs.Gaps
import MemberAddress.Proofs.Hyphens
import MemberAddress.Proofs.PatternForms
import MemberAddress.Proofs.Leaks
import MemberAddress.Proofs.Retry
import MemberAddress.Proofs.Display
import MemberAddress.Proofs.Loopback
import MemberAddress.Proofs.Forced
import MemberAddress.Proofs.Printing
import MemberAddress.Proofs.Zones
import MemberAddress.Proofs.Closing
import MemberAddress.Proofs.HostForms
import MemberAddress.Proofs.ZoneApart
import MemberAddress.Proofs.RuledOut
import MemberAddress.Proofs.Unmatched
import MemberAddress.Proofs.Reordering
import MemberAddress.Proofs.Loading
import MemberAddress.Proofs.Nulls
import MemberAddress.Proofs.Flags
import MemberAddress.Proofs.Assignments
import MemberAddress.Proofs.Preference
import MemberAddress.Proofs.Spellings
import MemberAddress.Proofs.Calls
import MemberAddress.Proofs.Candidates
import MemberAddress.Proofs.ListedZones
import MemberAddress.Proofs.Refusals
import MemberAddress.Proofs.Advertised
import MemberAddress.Proofs.Mentions
import MemberAddress.Proofs.Runs
import MemberAddress.Proofs.Layers
import MemberAddress.Proofs.Files
import MemberAddress.Proofs.Inheritance
import MemberAddress.Proofs.Logging
import MemberAddress.Proofs.NamedPorts
