import Motif.Graph.Basic

/-!
The summary of a graph as a framed text.
-/

set_option autoImplicit false

namespace Motif.Graph

/-- Puts a text into the middle of a line; an odd blank goes to the right. -/
def centered (width : Nat) (text : String) : String :=
  let room := width - text.length
  let blanks (n : Nat) := String.ofList (List.replicate n ' ')
  blanks (room / 2) ++ text ++ blanks (room - room / 2)

def summaryWidth : Nat := 45

/-- Three counts in a frame, on five lines. -/
def summary (g : Graph) : String :=
  let rule := "+" ++ String.ofList (List.replicate summaryWidth '-') ++ "+"
  let line (text : String) := "|" ++ centered summaryWidth text ++ "|"
  "\n".intercalate
    [rule,
     line s!"vertex_count: {g.vertexCount}",
     line s!"edge_count: {g.edgeCount}",
     line s!"max_degree: {g.maxDegree}",
     rule]

end Motif.Graph
