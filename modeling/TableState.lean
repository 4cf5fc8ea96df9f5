import TableState.Text.CharClass
import TableState.Text.Quoted
import TableState.Text.Json
import TableState.Key.Value
import TableState.Key.Basic
import TableState.Error
import TableState.Schema
import TableState.Region
import TableState.Partition.Basic
import TableState.Partition.Split
import TableState.Partition.FromSplitPoints
import TableState.Partition.Tree
import TableState.Partition.Validate
import TableState.File.Record
import TableState.File.Validate
import TableState.Item.Basic
import TableState.Item.Table
import TableState.Revision
import TableState.Item.Session
import TableState.Unicode.Table
import TableState.Unicode.NormalizationData
import TableState.Unicode.Normalization
import TableState.Unicode.PropertyData
import TableState.Unicode.Properties
import TableState.Url.IdnaData
import TableState.Url.Punycode
import TableState.Url.Idna
import TableState.Url.Host
import TableState.Url.Basic
import TableState.Url.ObjectStore
import TableState.Store.ItemFormat
import TableState.Store.Columns
import TableState.Store.Items
import TableState.Store.Snapshot
import TableState.Store.SnapshotTable
import TableState.Config.Table
import TableState.Store.Table
import TableState.Store.Provider
import TableState.Store.Session
import TableState.Yaml.Token
import TableState.Yaml.Token.Property
import TableState.Yaml.Token.Scalar
import TableState.Yaml.Token.Lexer
import TableState.Yaml.Node
import TableState.Config.Decode
import TableState.Config.Properties
import TableState.Config.Provider
import TableState.Proofs.Except
import TableState.Proofs.Item.Table
import TableState.Proofs.Item.Scan
import TableState.Proofs.Item.Transact
import TableState.Proofs.Table.Calls
import TableState.Proofs.Session.Reachable
import TableState.Proofs.File.Records
import TableState.Proofs.Snapshot.Records
import TableState.Proofs.Snapshot.Series
import TableState.Proofs.Snapshot.Calls
import TableState.Proofs.Snapshot.Files
import TableState.Proofs.Item.Format
import TableState.Proofs.Item.Store
import TableState.Proofs.Item.Files
import TableState.Proofs.Item.FileReads
import TableState.Proofs.Session.Files
import TableState.Proofs.Text.Json
import TableState.Proofs.Region.Json
import TableState.Proofs.Key.Order
import TableState.Proofs.Partition.Region
import TableState.Proofs.Partition.Tree
import TableState.Proofs.Partition.Cover
import TableState.Proofs.Partition.Splitter
import TableState.Proofs.Partition.SplitPoints
import TableState.Proofs.Partition.Balanced
import TableState.Proofs.Item.Partitions
import TableState.Proofs.Snapshot.Partitions
import TableState.Proofs.Partition.Store
import TableState.Proofs.Url.Join
import TableState.Proofs.Url.Library
import TableState.Proofs.Snapshot.Revisions
import TableState.Proofs.Item.Mirror
import TableState.Proofs.Snapshot.Standing
import TableState.Proofs.Snapshot.Alike
import TableState.Proofs.Partition.SplitOutcome
import TableState.Proofs.Session.Stored
import TableState.Proofs.File.Outcome
import TableState.Proofs.Snapshot.FileChanges
import TableState.Proofs.Item.FileItems
import TableState.Proofs.Item.FileChanges
import TableState.Proofs.Session.FileChanges
import TableState.Proofs.Session.GarbageCollection
import TableState.Proofs.Session.StoresAlike
import TableState.Proofs.Session.StoreCache
import TableState.Proofs.Session.Isolation
import TableState.Proofs.Partition.Descent
import TableState.Proofs.Partition.Links
import TableState.Proofs.Partition.Grown
import TableState.Proofs.Item.RoundTrip
import TableState.Proofs.Text.Utf8Order
import TableState.Proofs.Item.ScanStream
import TableState.Proofs.File.Reordered
import TableState.Proofs.Session.Deletion
import TableState.Proofs.Session.SameState
import TableState.Proofs.Session.Backends
import TableState.Proofs.Revision.Text
import TableState.Proofs.Snapshot.Columns
import TableState.Proofs.Snapshot.Paths
import TableState.Proofs.Snapshot.SingleWriter
import TableState.Proofs.Item.RecordKeys
import TableState.Proofs.File.Batch
