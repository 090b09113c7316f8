import Motif.EdgeList.Parse
import Motif.Graph.Renumber
import Motif.Matching.Embeddings
import Motif.Triangles

/-!
What the operations on graphs report while they run. A journaled value is the reports in order
and the outcome; an outcome without a value ends the run, and the reports made before it stay.
-/

set_option autoImplicit false

namespace Motif

inductive Level where
  | debug
  | info
deriving DecidableEq

def Level.name : Level → String
  | .debug => "DEBUG"
  | .info => "INFO"

structure Report where
  level : Level
  text : String
deriving DecidableEq

structure Journaled (α : Type) where
  reports : List Report
  outcome : Except Error α

namespace Journaled

variable {α β : Type}

/-- A value reached without a report. -/
def quiet (outcome : Except Error α) : Journaled α := ⟨[], outcome⟩

def bind (x : Journaled α) (f : α → Journaled β) : Journaled β :=
  match x.outcome with
  | .ok a => ⟨x.reports ++ (f a).reports, (f a).outcome⟩
  | .error e => ⟨x.reports, .error e⟩

instance : Monad Journaled where
  pure a := quiet (.ok a)
  bind := bind

end Journaled

namespace Graph

/-- Ids are checked before the first report; nothing after it can fail. -/
def buildReports (inputEdges : Nat) : Except Error Graph → List Report
  | .error _ => []
  | .ok g =>
    [⟨.debug, s!"building csr: {inputEdges} input edges, {g.vertexCount} vertices"⟩,
     ⟨.debug, s!"scattered {2 * inputEdges} endpoints"⟩,
     ⟨.info, s!"built csr graph: {g.vertexCount} vertices, {g.edgeCount} edges"⟩]

def journaledOfEdges (edges : List Edge) : Journaled Graph :=
  let built := ofEdges edges
  ⟨buildReports edges.length built, built⟩

def journaledOfAdjacency (lists : List (List Int)) : Journaled Graph :=
  let built := ofAdjacency lists
  ⟨buildReports (listedEdges lists).length built, built⟩

/-- Reads an edge list and builds its graph. -/
def journaledOfText (text : String) : Journaled Graph := do
  journaledOfEdges (← .quiet (EdgeList.ofString text))

end Graph

namespace Triangles

/-- A graph without vertices has no average degree, and its counting nothing to report. -/
def reports (options : Options) (g : Graph) : List Report :=
  match averageDegree g with
  | .error _ => []
  | .ok average =>
    let path := if options.threshold ≤ average then "dense" else "sparse"
    [⟨.debug, s!"triangle counting: average degree {average}, {path} path"⟩]

def journaledRankWith (options : Options) (g : Graph) (intersect : Intersector) :
    Journaled Ranking :=
  ⟨reports options g, rankWith options g intersect⟩

end Triangles

namespace Matching

def orderReport (order : VisitOrder) : Report :=
  let vertices := ", ".intercalate (order.order.toList.map toString)
  ⟨.debug, s!"visit order: [{vertices}]"⟩

/-- A pattern too large for the target is reported, and nothing else then. -/
def reports (options : Options) (target pattern : Graph) (found : Except Error Embeddings) :
    List Report :=
  match check options target pattern with
  | .error _ => []
  | .ok _ =>
    if target.vertexCount < pattern.vertexCount then
      [⟨.debug,
        s!"pattern has {pattern.vertexCount} vertices, target only {target.vertexCount}"⟩]
    else
      let order :=
        match VisitOrder.ofPattern pattern with
        | .error _ => []
        | .ok order => [orderReport order]
      match found with
      | .error _ => order
      | .ok e => order ++ [⟨.info, s!"found {e.count} matches"⟩]

def journaledEmbeddings (options : Options) (target pattern : Graph)
    (memory : Memory := .unlimited) : Journaled Embeddings :=
  let found := embeddings memory options target pattern
  ⟨reports options target pattern found, found⟩

end Matching

end Motif
