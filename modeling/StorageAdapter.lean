import StorageAdapter.Action
import StorageAdapter.AppKey
import StorageAdapter.Block.Network
import StorageAdapter.Block.Slots
import StorageAdapter.Bytes
import StorageAdapter.Calendar
import StorageAdapter.Catalog
import StorageAdapter.Device.Basic
import StorageAdapter.Device.Dispatch
import StorageAdapter.Device.Lines
import StorageAdapter.Device.Opcodes
import StorageAdapter.Device.Operations
import StorageAdapter.Digest.Algorithm
import StorageAdapter.Digest.Crc8
import StorageAdapter.Digest.Md5
import StorageAdapter.Digest.Padding
import StorageAdapter.Digest.Sha1
import StorageAdapter.Digest.Sha256
import StorageAdapter.Digest.Sha512
import StorageAdapter.DigestSession
import StorageAdapter.Directory.Entry
import StorageAdapter.Directory.Listing
import StorageAdapter.Error
import StorageAdapter.Folder.Adapter
import StorageAdapter.Folder.FileTree
import StorageAdapter.Folder.Storage
import StorageAdapter.Frame
import StorageAdapter.KeySession
import StorageAdapter.Keyword
import StorageAdapter.Line
import StorageAdapter.Machine.Board
import StorageAdapter.Machine.Drives
import StorageAdapter.Machine.Network
import StorageAdapter.Machine.Radio
import StorageAdapter.Machine.Storage
import StorageAdapter.Media
import StorageAdapter.Memory.Adapter
import StorageAdapter.Memory.Card
import StorageAdapter.Memory.Drives
import StorageAdapter.Memory.Hosts
import StorageAdapter.Memory.Storage
import StorageAdapter.Opcode
import StorageAdapter.Rack.Basic
import StorageAdapter.Rack.Configured
import StorageAdapter.Rack.Directory
import StorageAdapter.Settings
import StorageAdapter.Status
import StorageAdapter.Text.Blank
import StorageAdapter.Text.Clip
import StorageAdapter.Text.Numeral
import StorageAdapter.Text.Pattern
import StorageAdapter.Text.Percent
import StorageAdapter.Text.Split
import StorageAdapter.Text.Utf8
import StorageAdapter.Toml.Document
import StorageAdapter.Toml.Moment
import StorageAdapter.Toml.Node
import StorageAdapter.Toml.Number
import StorageAdapter.Toml.Quoted
import StorageAdapter.Toml.Reader
import StorageAdapter.Toml.SettingsFile
import StorageAdapter.Toml.Value
import StorageAdapter.Proofs.Action
import StorageAdapter.Proofs.Answers
import StorageAdapter.Proofs.Operation
import StorageAdapter.Proofs.Text
import StorageAdapter.Proofs.Rack
import StorageAdapter.Proofs.Upheld
import StorageAdapter.Proofs.Frames
import StorageAdapter.Proofs.Run
import StorageAdapter.Proofs.Notes
import StorageAdapter.Proofs.Framing
import StorageAdapter.Proofs.Drives
import StorageAdapter.Proofs.Memory
import StorageAdapter.Proofs.KeptSettings
import StorageAdapter.Proofs.Restart
import StorageAdapter.Proofs.Cursor
import StorageAdapter.Proofs.RackRun
import StorageAdapter.Proofs.Refill
import StorageAdapter.Proofs.Filename
import StorageAdapter.Proofs.Utf8
import StorageAdapter.Proofs.Numeral
import StorageAdapter.Proofs.Line
import StorageAdapter.Proofs.FrontEnds
import StorageAdapter.Proofs.OpenDirectory
import StorageAdapter.Proofs.SharedCommands
import StorageAdapter.Proofs.Separator
import StorageAdapter.Proofs.KeySession
import StorageAdapter.Proofs.KeyFiles
import StorageAdapter.Proofs.KeyWrites
import StorageAdapter.Proofs.KeyMap
import StorageAdapter.Proofs.OneListing
import StorageAdapter.Proofs.MountCount
import StorageAdapter.Proofs.Reading
import StorageAdapter.Proofs.ListingReplies
import StorageAdapter.Proofs.CompleteListing
import StorageAdapter.Proofs.Bookmarks
import StorageAdapter.Proofs.SlotTables
import StorageAdapter.Proofs.Verdict
import StorageAdapter.Proofs.LastStatus
import StorageAdapter.Proofs.DigestHistory
import StorageAdapter.Proofs.BusReset
import StorageAdapter.Proofs.Switches
import StorageAdapter.Proofs.Escapes
import StorageAdapter.Proofs.Credentials
import StorageAdapter.Proofs.DiskBlock
import StorageAdapter.Proofs.Openings
import StorageAdapter.Proofs.GivenModes
import StorageAdapter.Proofs.WriteAccess
import StorageAdapter.Proofs.WifiRestart
import StorageAdapter.Proofs.StrictText
import StorageAdapter.Proofs.SlotBlocks
import StorageAdapter.Proofs.Reader
import StorageAdapter.Proofs.Quoted
import StorageAdapter.Proofs.Values
import StorageAdapter.Proofs.Document
import StorageAdapter.Proofs.SettingsText
import StorageAdapter.Proofs.FileTree
import StorageAdapter.Proofs.SettingsFile
import StorageAdapter.Proofs.MountImage
import StorageAdapter.Proofs.MountAll
import StorageAdapter.Proofs.FailedOpening
import StorageAdapter.Proofs.Sections
import StorageAdapter.Proofs.PartialSettings
import StorageAdapter.Proofs.ClientPaths
import StorageAdapter.Proofs.ServedHosts
import StorageAdapter.Proofs.DiskWrites
import StorageAdapter.Proofs.HostWrites
import StorageAdapter.Proofs.AdapterBlock
import StorageAdapter.Proofs.Calendar
import StorageAdapter.Proofs.EntryRecord
import StorageAdapter.Proofs.Shorten
import StorageAdapter.Proofs.EntryFormat
import StorageAdapter.Proofs.EndMark
import StorageAdapter.Proofs.Pattern
import StorageAdapter.Proofs.LineViews
import StorageAdapter.Proofs.DriveBanks
import StorageAdapter.Proofs.Cuts
import StorageAdapter.Proofs.Arguments
