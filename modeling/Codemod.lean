import Codemod.Archive.Gzip
import Codemod.Archive.Inflate
import Codemod.Archive.Member
import Codemod.Archive.Source
import Codemod.Archive.Tar
import Codemod.Archive.Unpack
import Codemod.Backup.Archive
import Codemod.Backup.Failure
import Codemod.Backup.Lookup
import Codemod.Backup.Recovery
import Codemod.Config
import Codemod.Config.Environment
import Codemod.Config.Notation
import Codemod.Config.Search
import Codemod.Config.Value
import Codemod.Detection
import Codemod.Discovery
import Codemod.Disk
import Codemod.Disk.Change
import Codemod.Disk.Walk
import Codemod.Dispatch
import Codemod.Dispatch.Stage
import Codemod.Encoding.Charset
import Codemod.Encoding.Chinese
import Codemod.Encoding.Codec
import Codemod.Encoding.Declaration
import Codemod.Encoding.Japanese
import Codemod.Encoding.Machine
import Codemod.Encoding.SingleByte
import Codemod.Encoding.Table.Big5
import Codemod.Encoding.Table.Cells
import Codemod.Encoding.Table.EucKr
import Codemod.Encoding.Table.Gb18030
import Codemod.Encoding.Table.Gb18030Ranges
import Codemod.Encoding.Table.Jis0208
import Codemod.Encoding.Table.Jis0212
import Codemod.Encoding.Table.SingleByte
import Codemod.Encoding.Utf16
import Codemod.Encoding.Utf8
import Codemod.Glob
import Codemod.Glob.Match
import Codemod.Indentation
import Codemod.Indentation.Scanner
import Codemod.Json
import Codemod.Json.Mismatch
import Codemod.Json.Parser
import Codemod.Json.Printer
import Codemod.Linesep
import Codemod.Linesep.Stored
import Codemod.Lock
import Codemod.Log.Event
import Codemod.Log.Failure
import Codemod.Log.Filter
import Codemod.Log.Pattern
import Codemod.Moment
import Codemod.Number.Binary64
import Codemod.Number.Numeral
import Codemod.Path
import Codemod.Pool
import Codemod.Pool.Machine
import Codemod.Pool.Sharing
import Codemod.Proofs.Action
import Codemod.Proofs.Archive.Inside
import Codemod.Proofs.Archive.Twin
import Codemod.Proofs.Archive.Unpack
import Codemod.Proofs.Backup.Again
import Codemod.Proofs.Backup.Archive
import Codemod.Proofs.Backup.Cleanup
import Codemod.Proofs.Backup.Draw
import Codemod.Proofs.Backup.Fail
import Codemod.Proofs.Backup.Gather
import Codemod.Proofs.Backup.Lookup
import Codemod.Proofs.Backup.Member
import Codemod.Proofs.Backup.Reach
import Codemod.Proofs.Backup.Recover
import Codemod.Proofs.Backup.Reject
import Codemod.Proofs.Backup.Repeat
import Codemod.Proofs.Backup.Restore
import Codemod.Proofs.Backup.RoundTrip
import Codemod.Proofs.Backup.Settle
import Codemod.Proofs.Backup.Spare
import Codemod.Proofs.Backup.Turn
import Codemod.Proofs.Backup.Whole
import Codemod.Proofs.Config.Key
import Codemod.Proofs.Config.Layers
import Codemod.Proofs.Config.Literal
import Codemod.Proofs.Config.Load
import Codemod.Proofs.Config.Normal
import Codemod.Proofs.Config.Notation
import Codemod.Proofs.Config.Number
import Codemod.Proofs.Config.Switch
import Codemod.Proofs.Config.Variable
import Codemod.Proofs.Detection
import Codemod.Proofs.Discovery.Base
import Codemod.Proofs.Discovery.Below
import Codemod.Proofs.Discovery.Dedupe
import Codemod.Proofs.Discovery.Descent
import Codemod.Proofs.Discovery.Detect
import Codemod.Proofs.Discovery.Trail
import Codemod.Proofs.Disk.Again
import Codemod.Proofs.Disk.Alike
import Codemod.Proofs.Disk.Change
import Codemod.Proofs.Disk.Entries
import Codemod.Proofs.Disk.Extends
import Codemod.Proofs.Disk.Resolve
import Codemod.Proofs.Disk.Run
import Codemod.Proofs.Disk.SameBut
import Codemod.Proofs.Disk.Slot
import Codemod.Proofs.Disk.Straight
import Codemod.Proofs.Disk.Stuck
import Codemod.Proofs.Disk.Way
import Codemod.Proofs.Disk.WellFormed
import Codemod.Proofs.Dispatch.Order
import Codemod.Proofs.Dispatch.Report
import Codemod.Proofs.Dispatch.Stage
import Codemod.Proofs.Encoding.Cookie
import Codemod.Proofs.Encoding.Declaration
import Codemod.Proofs.Encoding.Decode
import Codemod.Proofs.Encoding.Label
import Codemod.Proofs.Encoding.Latin1
import Codemod.Proofs.Encoding.Mark
import Codemod.Proofs.Encoding.Separator
import Codemod.Proofs.Encoding.Utf8
import Codemod.Proofs.Glob.Anchor
import Codemod.Proofs.Indentation.Block
import Codemod.Proofs.Indentation.Counted
import Codemod.Proofs.Indentation.Detect
import Codemod.Proofs.Indentation.Levels
import Codemod.Proofs.Indentation.Lexer
import Codemod.Proofs.Indentation.Scan
import Codemod.Proofs.Indentation.Separator
import Codemod.Proofs.Indentation.Votes
import Codemod.Proofs.Json.RoundTrip
import Codemod.Proofs.Json.Table
import Codemod.Proofs.Linesep
import Codemod.Proofs.Lock
import Codemod.Proofs.Number.Decimal
import Codemod.Proofs.Number.Numeral
import Codemod.Proofs.Path
import Codemod.Proofs.Pool.Crash
import Codemod.Proofs.Pool.Ledger
import Codemod.Proofs.Pool.Move
import Codemod.Proofs.Pool.Progress
import Codemod.Proofs.Pool.Serial
import Codemod.Proofs.Pool.Sharing
import Codemod.Proofs.Setting.Capacity
import Codemod.Proofs.Setting.Count
import Codemod.Proofs.Setting.Indentation
import Codemod.Proofs.Setting.Switch
import Codemod.Proofs.Stream
import Codemod.Proofs.Text.Blank
import Codemod.Proofs.Text.Cut
import Codemod.Proofs.Text.Quoted
import Codemod.Proofs.TextSource.Alike
import Codemod.Proofs.TextSource.Restore
import Codemod.Proofs.TextSource.Snapshot
import Codemod.Proofs.TextSource.Transparent
import Codemod.Proofs.Toml.Distinct
import Codemod.Proofs.Uuid
import Codemod.Release
import Codemod.Setting
import Codemod.Strategy
import Codemod.Stream
import Codemod.Task
import Codemod.Text.Blank
import Codemod.Text.Line
import Codemod.Text.Literal
import Codemod.Text.Property
import Codemod.Text.Quoted
import Codemod.Text.Split
import Codemod.Text.Table.Alphabetic
import Codemod.Text.Table.Unprintable
import Codemod.Text.Table.Upper
import Codemod.Text.Table.Word
import Codemod.TextSource
import Codemod.TextSource.Operation
import Codemod.Toml.Parser
import Codemod.Toml.Scalar
import Codemod.Toml.Table
import Codemod.Toml.Token
import Codemod.Uuid
