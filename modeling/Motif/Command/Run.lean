import Motif.Command.Arguments
import Motif.Command.Failure
import Motif.Files.Load
import Motif.Graph.Summary
import Motif.Matching.Embeddings
import Motif.Triangles

/-!
The program: reads a command line, loads the graphs it names in turn, reads its number, runs the
operation and renders the result.
-/

set_option autoImplicit false

namespace Motif.Command

open Intersection

def operation {α : Type} (x : Except Error α) : Except Failure α := x.mapError .operation

def number {α : Type} (x : Except NumberError α) : Except Failure α := x.mapError .number

def loadGraph (disk : Files.Disk) (path : String) : Except Failure Graph :=
  operation do
    let edges ← Files.load disk (Files.Path.ofString path)
    Graph.ofEdges edges

def renderLines (lines : List String) : String := "\n".intercalate lines ++ "\n"

def renderRanking : Triangles.Ranking → String
  | .total count => renderLines [toString count]
  | .perVertex counts =>
    renderLines (counts.toList.zipIdx.map fun c => toString c.2 ++ " " ++ toString c.1)

def renderEmbeddings (print : Bool) (found : Matching.Embeddings) : String :=
  let rows := found.table.rows.map fun row => " ".intercalate (row.toList.map toString)
  renderLines ((if print then rows else []) ++ [toString found.count])

/-- Runs a request; the processor decides how lists are intersected, and the memory whether there is
room for the rows of a search. -/
def Request.run (memory : Memory) (p : Processor) (disk : Files.Disk) :
    Request → Except Failure String
  | .info file => do
    let g ← loadGraph disk file
    return renderLines [g.summary]
  | .triangles file perVertex keepIds threshold? => do
    let g ← loadGraph disk file
    let plain : Triangles.Options := {}
    let threshold ← match threshold? with
      | none => pure plain.threshold
      | some text => number (readNat text)
    let task : Triangles.Task := if perVertex then .perVertex else .total
    let ranking ← operation (Triangles.rank p ⟨task, !keepIds, threshold⟩ g)
    return renderRanking ranking
  | .matching target pattern nonInduced print bound? => do
    let target ← loadGraph disk target
    let pattern ← loadGraph disk pattern
    let bound ← match bound? with
      | none => pure 0
      | some text => number (readInt text)
    let kind : Matching.Kind := if nonInduced then .nonInduced else .induced
    let found ← operation (Matching.embeddings memory ⟨kind, false, bound⟩ target pattern)
    return renderEmbeddings print found

/-- Runs a command line to the text it prints. -/
def run (p : Processor) (disk : Files.Disk) (arguments : List String)
    (memory : Memory := .unlimited) : Except Failure String :=
  match Invocation.read? arguments with
  | none => .error .usage
  | some invocation => do
    let _ ← match invocation.threads? with
      | none => pure 0
      | some text => number (readNat text)
    invocation.request.run memory p disk

end Motif.Command
