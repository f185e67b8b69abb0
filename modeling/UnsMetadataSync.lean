import UnsMetadataSync.CanaryId
import UnsMetadataSync.PathNormalizer
import UnsMetadataSync.Json
import UnsMetadataSync.JsonScanner
import UnsMetadataSync.Cdc.Checkpoint
import UnsMetadataSync.Cdc.CheckpointFile
import UnsMetadataSync.Cdc.StartPosition
import UnsMetadataSync.Cdc.LogicalReplication
import UnsMetadataSync.Canary.Payload
import UnsMetadataSync.Canary.Client
import UnsMetadataSync.Canary.ClientRuns
import UnsMetadataSync.Canary.RateLimit
import UnsMetadataSync.Canary.Session
import UnsMetadataSync.Db.Connection
import UnsMetadataSync.Db.Repository
import UnsMetadataSync.Db.Migrations
import UnsMetadataSync.Db.Lineage
import UnsMetadataSync.Sparkplug.Subscriber
import UnsMetadataSync.Sparkplug.AliasCache
import UnsMetadataSync.Cdc.Diffing
import UnsMetadataSync.Cdc.Debounce
import UnsMetadataSync.Cdc.DebounceRuns
import UnsMetadataSync.Cdc.DebounceSequence
import UnsMetadataSync.Cdc.Service
import UnsMetadataSync.Cdc.Decoder
import UnsMetadataSync.Cdc.VersionOrder
import UnsMetadataSync.Runtime
