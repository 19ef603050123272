import RemoteDevice.Bluetooth.Address
import RemoteDevice.Bluetooth.Peripheral
import RemoteDevice.Bytes
import RemoteDevice.Can.Bus
import RemoteDevice.Can.Cache
import RemoteDevice.Can.Filter
import RemoteDevice.Can.Frame
import RemoteDevice.Can.Freshness
import RemoteDevice.Can.Reader
import RemoteDevice.Catalog
import RemoteDevice.Client
import RemoteDevice.CommandLine.Arguments
import RemoteDevice.CommandLine.ClientProgram
import RemoteDevice.CommandLine.Payload
import RemoteDevice.CommandLine.Report
import RemoteDevice.CommandLine.ServerProgram
import RemoteDevice.Files
import RemoteDevice.IoError
import RemoteDevice.Line
import RemoteDevice.Main
import RemoteDevice.Net.Address
import RemoteDevice.Net.Host
import RemoteDevice.Net.HostName
import RemoteDevice.Net.Network
import RemoteDevice.Net.TcpLine
import RemoteDevice.Net.Transcript
import RemoteDevice.Proofs.Can.Bindings
import RemoteDevice.Proofs.Can.Canonical
import RemoteDevice.Proofs.Can.Coverage
import RemoteDevice.Proofs.Can.Denotation
import RemoteDevice.Proofs.Can.Exclusion
import RemoteDevice.Proofs.Can.LastValue
import RemoteDevice.Proofs.Can.Patience
import RemoteDevice.Proofs.Can.Ranges
import RemoteDevice.Proofs.Can.Settings
import RemoteDevice.Proofs.Can.SocketForm
import RemoteDevice.Proofs.Can.Spanning
import RemoteDevice.Proofs.Can.Uniform
import RemoteDevice.Proofs.Can.Width
import RemoteDevice.Proofs.Can.WireForm
import RemoteDevice.Proofs.Client.Answers
import RemoteDevice.Proofs.Client.Conversation
import RemoteDevice.Proofs.Client.Counts
import RemoteDevice.Proofs.Client.Naming
import RemoteDevice.Proofs.Client.Operations
import RemoteDevice.Proofs.Client.Remote
import RemoteDevice.Proofs.CommandLine.Pairs
import RemoteDevice.Proofs.Net.Link
import RemoteDevice.Proofs.Net.Lossless
import RemoteDevice.Proofs.Net.Record
import RemoteDevice.Proofs.Serial.Reading
import RemoteDevice.Proofs.Server.Arbitration
import RemoteDevice.Proofs.Server.Backing
import RemoteDevice.Proofs.Server.Cleanup
import RemoteDevice.Proofs.Server.Elsewhere
import RemoteDevice.Proofs.Server.Failures
import RemoteDevice.Proofs.Server.Holding
import RemoteDevice.Proofs.Server.Interleaving
import RemoteDevice.Proofs.Server.Isolation
import RemoteDevice.Proofs.Server.Ledger
import RemoteDevice.Proofs.Server.OpenCounting
import RemoteDevice.Proofs.Server.Quiescence
import RemoteDevice.Proofs.Server.Registry
import RemoteDevice.Proofs.Server.Simulation
import RemoteDevice.Proofs.Server.Sparing
import RemoteDevice.Proofs.Server.Stakes
import RemoteDevice.Proofs.Server.Standing
import RemoteDevice.Proofs.Server.Stream
import RemoteDevice.Proofs.Server.UnitTable
import RemoteDevice.Proofs.Server.Validation
import RemoteDevice.Proofs.Server.Wiring
import RemoteDevice.Proofs.Text.Conversion
import RemoteDevice.Proofs.Text.Numeral
import RemoteDevice.Proofs.Text.Split
import RemoteDevice.Proofs.Transport.Accounts
import RemoteDevice.Proofs.Transport.Bounds
import RemoteDevice.Proofs.Transport.Endpoint
import RemoteDevice.Proofs.Transport.Filling
import RemoteDevice.Proofs.Transport.Numbers
import RemoteDevice.Proofs.Wire.Agreement
import RemoteDevice.Proofs.Wire.Alignment
import RemoteDevice.Proofs.Wire.Delivery
import RemoteDevice.Proofs.Wire.Framing
import RemoteDevice.Proofs.Wire.Segmentation
import RemoteDevice.Serial.Port
import RemoteDevice.Serial.Settings
import RemoteDevice.Serial.Terminal
import RemoteDevice.Server
import RemoteDevice.Server.Configuration
import RemoteDevice.Server.ConfigurationFile
import RemoteDevice.Server.Connection
import RemoteDevice.Server.Device
import RemoteDevice.Server.Pool
import RemoteDevice.Server.Registry
import RemoteDevice.Server.Session
import RemoteDevice.Simulated.Bench
import RemoteDevice.Simulated.Bridge
import RemoteDevice.Simulated.Holders
import RemoteDevice.Simulated.Peers
import RemoteDevice.Simulated.Scripted
import RemoteDevice.Simulated.Stores
import RemoteDevice.Text.Lowercase
import RemoteDevice.Text.Numeral
import RemoteDevice.Text.Quoted
import RemoteDevice.Text.Ranges
import RemoteDevice.Text.Split
import RemoteDevice.Text.Utf8
import RemoteDevice.Toml.Blank
import RemoteDevice.Toml.Document
import RemoteDevice.Toml.Number
import RemoteDevice.Toml.Quoted
import RemoteDevice.Toml.Tree
import RemoteDevice.Toml.Value
import RemoteDevice.Transport.Basic
import RemoteDevice.Transport.Error
import RemoteDevice.Transport.Options
import RemoteDevice.Wire.Framing
import RemoteDevice.Wire.Message
import RemoteDevice.Wire.Status
import RemoteDevice.Wire.Stream
