/-!
What can be wrong with a table that a module keeps: what its statement asks of the module, or the
tables that its rows are in.
-/

set_option autoImplicit false

namespace Motif.Sql

inductive ModuleFlaw where
  | failed (table : String)
  | logic
  | unreadable (argument : String)
  | reservedTable (name : String)
  | reservedColumn (name : String)
  | columnOption (word : String)
  | option (name : String)
  | severalOptions (name : String)
  | badOption (name : String)
  | manyPrefixes
  | prefixRange
  | tokenizeText
  | noTokenizer (name : String)
  | badTokenizer
  | fileFormat (found : Int)
  | noScan (table : String)
  | parameter (text : String)
  | parameterValue (name value : String)
  | prefixParameter (value : String)
  | unknownTokenizer (name : String)
  | tokenizerArguments
  | missingParameter (name : String)
  | fewColumns
  | manyColumns
  | oddColumns
  | misplacedExtra
  | smallNode (table : String)
deriving DecidableEq

def ModuleFlaw.message : ModuleFlaw → String
  | .failed table => s!"vtable constructor failed: {table}"
  | .logic => "SQL logic error"
  | .unreadable argument => s!"parse error in \"{argument}\""
  | .reservedTable name => s!"reserved fts5 table name: {name}"
  | .reservedColumn name => s!"reserved fts5 column name: {name}"
  | .columnOption word => s!"unrecognized column option: {word}"
  | .option name => s!"unrecognized option: \"{name}\""
  | .severalOptions name => s!"multiple {name}=... directives"
  | .badOption name => s!"malformed {name}=... directive"
  | .manyPrefixes => "too many prefix indexes (max 31)"
  | .prefixRange => "prefix length out of range (max 999)"
  | .tokenizeText => "parse error in tokenize directive"
  | .noTokenizer name => s!"no such tokenizer: {name}"
  | .badTokenizer => "error in tokenizer constructor"
  | .fileFormat found =>
    s!"invalid fts5 file format (found {found}, expected 4) - run 'rebuild'"
  | .noScan table => s!"{table}: table does not support scanning"
  | .parameter text => s!"unrecognized parameter: {text}"
  | .parameterValue name value => s!"unrecognized {name}: {value}"
  | .prefixParameter value => s!"error parsing prefix parameter: {value}"
  | .unknownTokenizer name => s!"unknown tokenizer: {name}"
  | .tokenizerArguments => "unknown tokenizer"
  | .missingParameter name => s!"missing {name} parameter in fts4 constructor"
  | .fewColumns => "Too few columns for an rtree table"
  | .manyColumns => "Too many columns for an rtree table"
  | .oddColumns => "Wrong number of columns for an rtree table"
  | .misplacedExtra => "Auxiliary rtree columns must be last"
  | .smallNode table => s!"undersize RTree blobs in \"{table}_node\""

end Motif.Sql
