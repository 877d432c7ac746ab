import DiemJsonRpc.Framework.Json
import DiemJsonRpc.Framework.Float
import DiemJsonRpc.Framework.Interfaces
import DiemJsonRpc.Client.Tracker
import DiemJsonRpc.Client.Retry
import DiemJsonRpc.Client.Execute
import DiemJsonRpc.Client.Wait
import DiemJsonRpc.Client.DomainMap
import DiemJsonRpc.Client.DomainMapSpec
import DiemJsonRpc.Client.Accounts
import DiemJsonRpc.Concurrency.System
import DiemJsonRpc.Concurrency.Invariant
import DiemJsonRpc.Concurrency.Refinement
import DiemJsonRpc.Concurrency.Provenance
import DiemJsonRpc.Concurrency.Progress
