import HomeObject.ChunkSelector
import HomeObject.Core.Bytes
import HomeObject.Core.Types
import HomeObject.Core.UuidText
import HomeObject.Json.Access
import HomeObject.Json.Lexer
import HomeObject.Json.Parse
import HomeObject.Json.RoundTrip
import HomeObject.Json.Utf8
import HomeObject.Json.Value
import HomeObject.PgManager.Codec
import HomeObject.PgManager.Commit
import HomeObject.PgManager.ConcurrentReplace
import HomeObject.PgManager.ConcurrentStats
import HomeObject.PgManager.CreatePg
import HomeObject.PgManager.GroupLog
import HomeObject.PgManager.Interleave
import HomeObject.PgManager.Lifecycle
import HomeObject.PgManager.Message
import HomeObject.PgManager.Queries
import HomeObject.PgManager.Recovery
import HomeObject.PgManager.ReplaceMember
import HomeObject.PgManager.Replay
import HomeObject.PgManager.Restart
import HomeObject.PgManager.Runs
import HomeObject.PgManager.State
import HomeObject.Superblock.Layout
import HomeObject.Superblock.Members
import HomeObject.Superblock.Rebuild
