import BlobStore.Instances
import BlobStore.KeyMap
import BlobStore.Text.Cut
import BlobStore.Text.Numeral
import BlobStore.Text.Blank
import BlobStore.Text.Utf8
import BlobStore.Bytes.Hex
import BlobStore.Bytes.Base64
import BlobStore.Bytes.Fingerprint
import BlobStore.Time.Calendar
import BlobStore.Time.Instant
import BlobStore.Time.Moment
import BlobStore.Time.Reading
import BlobStore.Size
import BlobStore.Url.Percent
import BlobStore.Url.Fault
import BlobStore.Url.Address
import BlobStore.Unicode.Table
import BlobStore.Unicode.CombiningClass
import BlobStore.Unicode.Composition
import BlobStore.Unicode.Direction
import BlobStore.Unicode.Joining
import BlobStore.Unicode.Mark
import BlobStore.Url.Domain.Repertoire
import BlobStore.Url.Punycode
import BlobStore.Url.Domain.Label
import BlobStore.Url.Domain
import BlobStore.Url.Parser
import BlobStore.ExitStatus
import BlobStore.Duration
import BlobStore.Duration.Reading
import BlobStore.Fault
import BlobStore.Error
import BlobStore.Service
import BlobStore.Memory
import BlobStore.Script
import BlobStore.Attributes
import BlobStore.Upload
import BlobStore.Listing
import BlobStore.Writer
import BlobStore.Bucket
import BlobStore.Location
import BlobStore.Registry
import BlobStore.Target
import BlobStore.Toml.Scan
import BlobStore.Toml.Quoted
import BlobStore.Toml.Value
import BlobStore.Toml.Scalar
import BlobStore.Toml.Table
import BlobStore.Toml.Document
import BlobStore.Alias
import BlobStore.Config
import BlobStore.Config.File
import BlobStore.Config.Place
import BlobStore.Json
import BlobStore.Cli.Terminal
import BlobStore.Cli.Grammar
import BlobStore.Cli.Invocation
import BlobStore.Bytes.Chunks
import BlobStore.Files
import BlobStore.Fleet
import BlobStore.Source
import BlobStore.Cli.Host
import BlobStore.Cli.Desk
import BlobStore.Cli.Browse
import BlobStore.Cli.Stat
import BlobStore.Cli.Read
import BlobStore.Cli.Put
import BlobStore.Cli.Remove
import BlobStore.Cli.Sign
import BlobStore.Cli.Aliases
import BlobStore.Cli.Run
import BlobStore.Http.Message
import BlobStore.Xml.Scan
import BlobStore.Xml.Text
import BlobStore.Xml.Token
import BlobStore.Xml.Content
import BlobStore.Http.Uri
import BlobStore.Unicode.Alphanumeric
import BlobStore.Http.Endpoint
import BlobStore.Http.Encode
import BlobStore.Http.Fields
import BlobStore.Http.Decode
import BlobStore.Http.Remote
import BlobStore.Cli.Usage
import BlobStore.Main
import BlobStore.Proofs.KeyMap
import BlobStore.Proofs.Mishap
import BlobStore.Proofs.Upload.Parts
import BlobStore.Proofs.Memory.Pending
import BlobStore.Proofs.Upload.Log
import BlobStore.Proofs.Upload.Atomicity
import BlobStore.Proofs.Upload.Chunking
import BlobStore.Proofs.Upload.Success
import BlobStore.Proofs.Writer.Schedule
import BlobStore.Proofs.Writer.Sequential
import BlobStore.Proofs.Writer.Integrity
import BlobStore.Proofs.Listing.Rows
import BlobStore.Proofs.Text.ByteOrder
import BlobStore.Proofs.Listing.Pages
import BlobStore.Proofs.Listing.Paging
import BlobStore.Proofs.Upload.PartRules
import BlobStore.Proofs.Upload.Ending
import BlobStore.Proofs.Upload.Account
import BlobStore.Proofs.Writer.Cancellation
import BlobStore.Proofs.Writer.Gate
import BlobStore.Proofs.Writer.Withdrawal
import BlobStore.Proofs.Memory.Shared
import BlobStore.Proofs.Writer.Concurrent
import BlobStore.Proofs.Action
import BlobStore.Proofs.Bucket.Ranges
import BlobStore.Proofs.Bucket.Absence
import BlobStore.Proofs.Memory.Tags
import BlobStore.Proofs.Bucket.Refinement
import BlobStore.Proofs.Writer.Ended
import BlobStore.Proofs.Writer.Buffers
import BlobStore.Proofs.Writer.Embedded
import BlobStore.Proofs.Cli.Opening
import BlobStore.Proofs.Cli.Copying
import BlobStore.Proofs.Cli.Put
import BlobStore.Proofs.Toml.Quoted
import BlobStore.Proofs.Toml.Scalar
import BlobStore.Proofs.Toml.Lines
import BlobStore.Proofs.Config.Text
import BlobStore.Proofs.Config.File
import BlobStore.Proofs.Json.Grammar
import BlobStore.Proofs.Config.Aliases
import BlobStore.Proofs.Target.Spelling
import BlobStore.Proofs.Target.Aliases
import BlobStore.Proofs.Listing.Sweep
import BlobStore.Proofs.Cli.Remove.Attempts
import BlobStore.Proofs.Cli.Remove.Below
import BlobStore.Proofs.Cli.Remove.Status
import BlobStore.Proofs.Bucket.Requests
import BlobStore.Proofs.Cli.Kept
import BlobStore.Proofs.Cli.Mute
import BlobStore.Proofs.Cli.Output
import BlobStore.Proofs.Cli.Requests
import BlobStore.Proofs.Url.Authority
import BlobStore.Proofs.Url.Hosts
import BlobStore.Proofs.Target.Buckets
import BlobStore.Proofs.Cli.Summary
import BlobStore.Proofs.Cli.Paging
import BlobStore.Proofs.Listing.Cursor
import BlobStore.Proofs.Listing.Merge
import BlobStore.Proofs.Memory.Signed
import BlobStore.Proofs.Cli.Sign
import BlobStore.Proofs.Cli.Remove.DryRun
import BlobStore.Proofs.Cli.Complaints
import BlobStore.Proofs.Time.Calendar
import BlobStore.Proofs.Time.Instant
import BlobStore.Proofs.Bytes.Hex
import BlobStore.Proofs.Digests
import BlobStore.Proofs.Cli.Times
import BlobStore.Proofs.Cli.Items
import BlobStore.Proofs.Cli.Totals
