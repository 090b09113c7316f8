import Motif.Sql.Expression
import Motif.Sql.Flaw

/-!
The statements that make tables, indexes and views, as they are written.
-/

set_option autoImplicit false

namespace Motif.Sql

/-- A rule that follows the type of a column. It may say what is done about rows that break it. -/
inductive ColumnRule where
  | default (value : Term)
  | notNull
  | primaryKey (descending counts : Bool) (conflict : Option String)
  | unique (conflict : Option String)
  | check (condition : Term)
  | references (table : String) (columns : List String)
  | collate (collation : String)
  | generated (value : Term) (storage : Option String)
  | other

structure ColumnText where
  name : String
  type : String
  rules : List ColumnRule

/-- A rule of a table. -/
inductive TableRule where
  | primaryKey (key : List (Order Term)) (counts : Bool) (conflict : Option String)
  | unique (key : List (Order Term)) (conflict : Option String)
  | check (condition : Term)
  | foreign (columns : List String) (table : String) (others : List String)
  | other

/-- What is said of a table. If the statement goes wrong somewhere, this is what has been said up to
there. -/
structure TableText where
  columns : List ColumnText
  rules : List TableRule
  option : Option String
  flaw : Option Flaw

namespace TableText

def dropLast (t : TableText) : TableText :=
  if !t.rules.isEmpty then { t with rules := t.rules.dropLast }
  else
    match t.columns.getLast? with
    | none => t
    | some c =>
      let rest := t.columns.dropLast
      if c.rules.isEmpty then { t with columns := rest }
      else { t with columns := rest ++ [{ c with rules := c.rules.dropLast }] }

end TableText

/-- When what follows a change is done. -/
inductive Timing where
  | before
  | after
  | instead
deriving DecidableEq

/-- What is done when a table changes. Of what is done it is only kept which databases it speaks of,
or what is wrong with it. -/
structure TriggerText where
  name : String
  written : String
  timing : Timing
  database : Option String
  table : String
  actions : Except Flaw (List String)

/-- What a statement makes. A name is given with the way it is written where this differs. -/
inductive Statement where
  | table (name written : String) (text : TableText)
  | tableOf (name : String)
  | index (isUnique : Bool) (name table : String) (key : List (Order Term))
      (condition : Option Term)
  | view (name written : String) (columns databases : List String) (query : Query)
  | virtual (name written module : String) (arguments : List String)
  | trigger (text : TriggerText)

end Motif.Sql
