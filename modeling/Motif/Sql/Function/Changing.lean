import Motif.Sql.Function.Basic
import Motif.Sql.Token

/-!
Functions whose values hang on more than their arguments.
-/

set_option autoImplicit false

namespace Motif.Sql.Function

open Database (Cell)

def compileOptions : List String :=
  ["COMPILER=gcc-9.3.0", "DEFAULT_FOREIGN_KEYS", "ENABLE_API_ARMOR", "ENABLE_COLUMN_METADATA", "ENABLE_DBSTAT_VTAB",
    "ENABLE_FTS3", "ENABLE_FTS3_PARENTHESIS", "ENABLE_FTS5", "ENABLE_JSON1",
    "ENABLE_LOAD_EXTENSION", "ENABLE_MEMORY_MANAGEMENT", "ENABLE_RTREE", "ENABLE_STAT4",
    "HAVE_ISNAN", "SOUNDEX", "THREADSAFE=1", "USE_URI"]

def isOption (c : Cell) : Bool :=
  let text := Token.lower (Text.Utf8.text c.bytes)
  let bare := if text.startsWith "sqlite_" then (text.drop 7).toString else text
  compileOptions.any fun o =>
    let own := Token.lower o
    own == bare || (own.takeWhile (· ≠ '=')).toString == bare

def now : String := "2024-01-01 00:00:00"

def boxDepth (c : Cell) : Except Flaw Cell :=
  match c with
  | .blob (a :: b :: _) => .ok (.integer (256 * a + b))
  | _ => .error .boxDepth

def version : String :=
  "2021-04-02 15:20:15 5d4c65779dab868b285519b19e4cf9d451d50c6048f06f653aa701ec212df45e"

/-- The functions whose values hang on more than their arguments. -/
def changing? (name : String) : Option Function :=
  let make (takes : Nat → Bool) (f : List Cell → Cell) : Function :=
    { plain takes fun a => .ok (f a) with changes := true }
  let none (n : Nat) : Bool := n = 0
  match name with
  | "changes" | "last_insert_rowid" | "total_changes" | "random" =>
    some (make none fun _ => .integer 0)
  | "randomblob" => some (make (· = 1) fun a =>
      .blob (List.replicate (max 1 (a.headD .null).toInt).toNat 0))
  | "current_timestamp" => some (make none fun _ => .ofText now)
  | "current_date" => some (make none fun _ => .ofText (now.take 10).toString)
  | "current_time" => some (make none fun _ => .ofText (now.drop 11).toString)
  | "sqlite_version" => some (make none fun _ => .ofText "3.35.4")
  | "sqlite_source_id" => some (make none fun _ => .ofText version)
  | "fts5_source_id" => some (make none fun _ => .ofText ("fts5: " ++ version))
  | "sqlite_compileoption_used" => some (make (· = 1) fun a =>
      if a.any Cell.isNull then .null else .ofBool (a.any isOption))
  | "sqlite_compileoption_get" => some (make (· = 1) fun a =>
      let n := (a.headD .null).toInt
      if n < 0 then .null else ((compileOptions[n.toNat]?).map Cell.ofText).getD .null)
  | "rtreedepth" =>
    some { plain (· = 1) (fun a => boxDepth (a.headD .null)) with changes := true }
  | "rtreenode" => some (make (· = 2) fun _ => .null)
  | "rtreecheck" => some (make (fun _ => true) fun _ => .ofText "ok")
  | "fts5" => some (make (· = 1) fun _ => .null)
  | "load_extension" | "fts3_tokenizer" =>
    some { plain (fun n => n = 1 || n = 2) fun _ => .ok .null with changes := true, isUnsafe := true }
  | "match" => some (unusable "MATCH" (· = 2))
  | "offsets" | "optimize" => some (unusable name (· = 1))
  | "matchinfo" => some (unusable name fun n => n = 1 || n = 2)
  | "snippet" | "highlight" | "bm25" => some (unusable name fun _ => true)
  | _ => Option.none

end Motif.Sql.Function
