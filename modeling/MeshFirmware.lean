import MeshFirmware.Bytes
import MeshFirmware.Calendar.Civil
import MeshFirmware.Calendar.Stamp
import MeshFirmware.Clock
import MeshFirmware.CommandLine.Basic
import MeshFirmware.CommandLine.Programs
import MeshFirmware.Config
import MeshFirmware.Discovery
import MeshFirmware.Discovery.Exchange
import MeshFirmware.Disk
import MeshFirmware.Ed25519
import MeshFirmware.Execution
import MeshFirmware.Hash.Sha2
import MeshFirmware.Hash.Sha256
import MeshFirmware.Hash.Sha512
import MeshFirmware.Http
import MeshFirmware.Interface
import MeshFirmware.Json.Value
import MeshFirmware.Json.Written
import MeshFirmware.LogRetention
import MeshFirmware.Manifest.Lines
import MeshFirmware.Manifest.Record
import MeshFirmware.Neighbour
import MeshFirmware.NodeFiles
import MeshFirmware.Numeral.Binary64
import MeshFirmware.Numeral.Decimal
import MeshFirmware.Octets
import MeshFirmware.OsError
import MeshFirmware.Program
import MeshFirmware.Proofs.Hash.Streaming
import MeshFirmware.Proofs.Manifest.Stream
import MeshFirmware.Proofs.Manifest.Signed
import MeshFirmware.Proofs.Manifest.Body
import MeshFirmware.Proofs.Neighbour.Round
import MeshFirmware.Proofs.Updater.Reading
import MeshFirmware.Proofs.Updater.Download
import MeshFirmware.Proofs.Updater.Course
import MeshFirmware.Proofs.Updater.Visits
import MeshFirmware.Proofs.Updater.Journal
import MeshFirmware.Proofs.Updater.Installation
import MeshFirmware.Proofs.Updater.Authenticity
import MeshFirmware.Proofs.Updater.Failover
import MeshFirmware.Relay.Request
import MeshFirmware.Relay.Serve
import MeshFirmware.Relay.Shuffle
import MeshFirmware.Rollout
import MeshFirmware.RunLock
import MeshFirmware.Settings
import MeshFirmware.Signature
import MeshFirmware.Source
import MeshFirmware.Text.Blank
import MeshFirmware.Text.Table
import MeshFirmware.Text.Utf8
import MeshFirmware.Toml.Document
import MeshFirmware.Toml.Reader
import MeshFirmware.Transfer
import MeshFirmware.Unicode.CombiningClass
import MeshFirmware.Unicode.Composite
import MeshFirmware.Unicode.Direction
import MeshFirmware.Unicode.Joining
import MeshFirmware.Unicode.Mark
import MeshFirmware.Unicode.NormalForm
import MeshFirmware.Unicode.Ranges
import MeshFirmware.Updater.Attempt
import MeshFirmware.Updater.Effect
import MeshFirmware.Updater.Image
import MeshFirmware.Updater.Run
import MeshFirmware.Updater.Scripts
import MeshFirmware.Url.Address
import MeshFirmware.Url.Basic
import MeshFirmware.Url.Domain.Label
import MeshFirmware.Url.Domain.Permitted
import MeshFirmware.Url.Domain.Punycode
import MeshFirmware.Url.Form
import MeshFirmware.Url.Host
import MeshFirmware.Url.Path
import MeshFirmware.Url.Percent
import MeshFirmware.Version
import MeshFirmware.Main
import MeshFirmware.Proofs.Version.Order
import MeshFirmware.Proofs.Updater.Lifetime
import MeshFirmware.Proofs.Updater.Hooks
import MeshFirmware.Proofs.Relay.Response
import MeshFirmware.Proofs.Relay.Tries
import MeshFirmware.Proofs.Relay.Serving
import MeshFirmware.Proofs.Text.Utf8
import MeshFirmware.Proofs.Text.Splitting
import MeshFirmware.Proofs.Numeral.Digits
import MeshFirmware.Proofs.Url.Form
import MeshFirmware.Proofs.Url.Address
import MeshFirmware.Proofs.Source.RelayUrl
import MeshFirmware.Proofs.Relay.Query
import MeshFirmware.Proofs.Relay.Transparency
import MeshFirmware.Proofs.Disk.Opening
import MeshFirmware.Proofs.Execution.Interleaving
import MeshFirmware.Proofs.Execution.Exclusion
import MeshFirmware.Proofs.Execution.FailClosed
import MeshFirmware.Proofs.Signature.Counting
import MeshFirmware.Proofs.Signature.Pairing
import MeshFirmware.Proofs.Manifest.Chunks
import MeshFirmware.Proofs.Discovery.Listening
import MeshFirmware.Proofs.Neighbour.Junk
import MeshFirmware.Proofs.Version.Readings
import MeshFirmware.Proofs.Version.Walk
import MeshFirmware.Proofs.Text.Hex
import MeshFirmware.Proofs.Manifest.Fields
import MeshFirmware.Proofs.Url.Authority
import MeshFirmware.Proofs.Source.MirrorUrl
import MeshFirmware.Proofs.Neighbour.Reference
import MeshFirmware.Proofs.Neighbour.Renaming
import MeshFirmware.Proofs.Signature.Threshold
import MeshFirmware.Proofs.Discovery.Exchange
import MeshFirmware.Proofs.Discovery.Window
import MeshFirmware.Proofs.Calendar.Days
import MeshFirmware.Proofs.Calendar.Spelling
import MeshFirmware.Proofs.Calendar.Meaning
import MeshFirmware.Proofs.Updater.LineEndings
import MeshFirmware.Proofs.Rollout.Exact
import MeshFirmware.Proofs.Rollout.Staged
import MeshFirmware.Proofs.Transfer.Calls
import MeshFirmware.Proofs.Updater.Size
import MeshFirmware.Proofs.Updater.Forced
import MeshFirmware.Proofs.Updater.Inheritance
import MeshFirmware.Proofs.Numeral.Rounding
import MeshFirmware.Proofs.NodeFiles.Uptime
import MeshFirmware.Proofs.LogRetention.Expiry
import MeshFirmware.Proofs.Interface.Numbers
