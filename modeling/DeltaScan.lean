import DeltaScan.Basic
import DeltaScan.Path
import DeltaScan.Kernel
import DeltaScan.Snapshot.State
import DeltaScan.Snapshot.Operations
import DeltaScan.Snapshot.Lazy
import DeltaScan.Snapshot.Expansion
import DeltaScan.Snapshot.Failure
import DeltaScan.Snapshot.Pushdown
import DeltaScan.Reader.GlobalState
import DeltaScan.Reader.Mapping
import DeltaScan.Reader.Selection
import DeltaScan.Reader.Chunk
import DeltaScan.Snapshot.Cardinality
import DeltaScan.Builder.ConnectionString
import DeltaScan.Builder.CreateBuilder
import DeltaScan.Reader.Bind
