import RoutedGraph.Path
import RoutedGraph.Script.Run
import RoutedGraph.Store.Op
import RoutedGraph.Proofs.OrderedDict
import RoutedGraph.Proofs.SoundIndex
import RoutedGraph.Proofs.Store.Content
import RoutedGraph.Proofs.Store.Writes
import RoutedGraph.Proofs.Store.Rollback
import RoutedGraph.Proofs.Store.SavedCopy
import RoutedGraph.Proofs.Store.Clones
import RoutedGraph.Proofs.World.Frame
import RoutedGraph.Proofs.World.GraphStep
import RoutedGraph.Proofs.World.CloneRollback
import RoutedGraph.Proofs.Transaction.Body
import RoutedGraph.Proofs.Transaction.Touch
import RoutedGraph.Proofs.Transaction.Atomicity
import RoutedGraph.Proofs.Transaction.Opening
import RoutedGraph.Proofs.Transaction.Nesting
import RoutedGraph.Proofs.Transaction.Liveness
import RoutedGraph.Proofs.Transaction.Restoration
import RoutedGraph.Proofs.Transaction.Programs
import RoutedGraph.Proofs.Transaction.BoundaryCalls
import RoutedGraph.Proofs.Transaction.Outermost
import RoutedGraph.Proofs.Route.BulkJob
import RoutedGraph.Proofs.Store.Copies
import RoutedGraph.Proofs.Route.Copying
import RoutedGraph.Proofs.World.Reached
import RoutedGraph.Proofs.Route.FirstPass
import RoutedGraph.Proofs.Route.SecondPass
import RoutedGraph.Proofs.Route.Subgraph
import RoutedGraph.Proofs.Transaction.Failures
import RoutedGraph.Proofs.Section.Hearing
import RoutedGraph.Proofs.Pipe.Steps
import RoutedGraph.Proofs.Pipe.Transcript
import RoutedGraph.Proofs.Pipe.Stages
import RoutedGraph.Proofs.Section.Relay
import RoutedGraph.Proofs.Section.Opening
import RoutedGraph.Proofs.Section.Conservation
import RoutedGraph.Proofs.Section.Layers
import RoutedGraph.Proofs.Section.SortedSections
import RoutedGraph.Proofs.Section.StackedSorts
import RoutedGraph.Proofs.Pipe.Itemwise
import RoutedGraph.Proofs.Route.Deeds
import RoutedGraph.Proofs.Route.Stacks
import RoutedGraph.Proofs.Store.Embedding
import RoutedGraph.Proofs.World.CloneEmbedding
import RoutedGraph.Proofs.World.FailedSteps
import RoutedGraph.Proofs.World.CreatedEndpoints
import RoutedGraph.Proofs.Pipe.Received
import RoutedGraph.Proofs.Section.Watching
import RoutedGraph.Proofs.Section.Brackets
import RoutedGraph.Proofs.Section.Overtaking
import RoutedGraph.Proofs.Store.Pending
import RoutedGraph.Proofs.Pipe.Sight
import RoutedGraph.Proofs.Transaction.Windows
import RoutedGraph.Proofs.Route.Chores
import RoutedGraph.Proofs.Route.Chunks
import RoutedGraph.Proofs.Transaction.InnerCommits
import RoutedGraph.Proofs.Route.KeptChunks
import RoutedGraph.Proofs.Path.Tree
import RoutedGraph.Proofs.Binary64
import RoutedGraph.Proofs.Value.Order
import RoutedGraph.Proofs.Store.Cascade
import RoutedGraph.Proofs.Section.Protocol
import RoutedGraph.Proofs.Section.Journal
import RoutedGraph.Proofs.Path.Transpose
import RoutedGraph.Proofs.Transaction.Keys
import RoutedGraph.Proofs.Transaction.Tokens
