import Motif.Matching.Worker

/-!
All embeddings of a pattern in a target, or as many as a bound allows: one worker for each
target vertex that can be the image of the first visited vertex, in ascending order, sharing one
search and one budget. Room for the rows is asked of a memory, which may be limited; there is always
room for the search itself.
-/

set_option autoImplicit false

namespace Motif.Matching

/-- A bound of zero asks for all embeddings. Vertices carry no labels, so a semantic match is
refused. -/
structure Options where
  kind : Kind := .induced
  semantic : Bool := false
  bound : Int := 0
deriving DecidableEq

/-- A row for each embedding: the entry in column `v` is the image of pattern vertex `v`. -/
structure Embeddings where
  table : Table Nat
  count : Nat
deriving DecidableEq

/-- What has to hold before a search; gives the bound. -/
def check (options : Options) (target pattern : Graph) : Except Error Nat :=
  match options.bound with
  | .negSucc _ => .error (.negativeBound options.bound)
  | .ofNat bound =>
    if options.semantic then .error .semanticMatching
    else if target.isEmpty then .error .emptyTarget
    else if pattern.isEmpty then .error .emptyPattern
    else .ok bound

/-- The target vertices that can be the image of the first visited vertex, by degree. -/
def roots (p : Problem) : Except Error (List Nat) := do
  let degree ← read p.order.degrees 0
  keep (fun v => do return degree ≤ (← p.target.degree v)) p.target.vertices

/-- What the workers that are done leave to those that follow. -/
structure Progress where
  budget : Budget
  search : Search
  table : Table Nat

/-- Lets a worker run from a root and appends its rows. -/
def Progress.visit (memory : Memory) (p : Problem) (columns : Nat) (s : Progress) (root : Nat) :
    Except Error Progress := do
  let (budget, worker) ← Worker.run memory p s.budget (.waiting columns root s.search)
  let (table, _) ← s.table.append memory worker.rows
  return ⟨budget, worker.search, table⟩

/-- The rows of all roots, one root after the other. -/
def collect (memory : Memory) (p : Problem) (columns bound : Nat) : Except Error (Table Nat) := do
  let done ← (← roots p).foldlM (Progress.visit memory p columns)
    ⟨.ofBound bound, .start p.target, .empty columns⟩
  return done.table

/-- The embeddings of a pattern in a target. -/
def embeddings (memory : Memory) (options : Options) (target pattern : Graph) :
    Except Error Embeddings := do
  let bound ← check options target pattern
  if target.vertexCount < pattern.vertexCount then
    return ⟨.empty pattern.vertexCount, 0⟩
  else
    let order ← VisitOrder.ofPattern pattern
    let table ← collect memory ⟨target, order, options.kind⟩ pattern.vertexCount bound
    return ⟨table, table.rowCount⟩

end Motif.Matching
