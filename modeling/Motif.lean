import Motif.Journal
import Motif.Main
import Motif.Table.Store
import Motif.Proofs.Matching.Embeddings
import Motif.Proofs.Triangles.Total
import Motif.Proofs.Matching.Ordered
import Motif.Proofs.Triangles.PerVertex
import Motif.Proofs.Graph.Isomorphism
import Motif.Proofs.Graph.Rearranged
import Motif.Proofs.EdgeList.Entry
import Motif.Proofs.EdgeList.Parse
import Motif.Proofs.Graph.Canonical
import Motif.Proofs.Intersection.Native
import Motif.Proofs.Matching.Renumbered
import Motif.Proofs.Matching.Triangle
import Motif.Proofs.Faultless
import Motif.Proofs.Table.Store
import Motif.Proofs.Matching.Interleaving
import Motif.Proofs.Matching.Parallel
import Motif.Proofs.Matching.Greedy
import Motif.Proofs.Graph.Extension
import Motif.Proofs.Graph.Descending
import Motif.Proofs.Triangles.Calls
import Motif.Proofs.Matching.Isomorphism
import Motif.Proofs.Intersection.Repeated
import Motif.Proofs.Intersection.Course
import Motif.Proofs.Table.InPlace
import Motif.Proofs.Table.Reduction
import Motif.Proofs.Table.Row
import Motif.Proofs.EdgeList.Apart
import Motif.Proofs.EdgeList.Append
import Motif.Proofs.EdgeList.Grammar
import Motif.Proofs.Intersection.Positions
