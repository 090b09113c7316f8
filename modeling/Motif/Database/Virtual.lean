import Motif.Database.Virtual.Boxes
import Motif.Database.Virtual.Documents
import Motif.Database.Virtual.FullText

/-!
Tables whose rows are found in other tables, in a way that a module knows.
-/

set_option autoImplicit false

namespace Motif.Database

open Sql

def Virtual.relation (openQuery : Virtual.Opener) (v : Virtual) : Except Error Relation :=
  match Token.lower v.module with
  | "fts3" => documents openQuery false v
  | "fts4" => documents openQuery true v
  | "fts5" => fullText openQuery v
  | "rtree" => boxes openQuery .real v
  | "rtree_i32" => boxes openQuery .integer v
  | _ => .error (.query (.noSuchModule v.module))

end Motif.Database
