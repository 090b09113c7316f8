import Motif.Sql.ModuleFlaw

/-!
What can be wrong with a statement: how it is written, what it says, or what comes up while it is
carried out.
-/

set_option autoImplicit false

namespace Motif.Sql

inductive Flaw where
  | near (token : String)
  | incomplete
  | unrecognized (token : String)
  | rootPage
  | orphanIndex
  | qualifiedName
  | tableExists (name : String)
  | indexExists (name : String)
  | indexNamed (name : String)
  | viewIndexed
  | virtualIndexed
  | duplicateColumn (name : String)
  | changingDefault (column : String)
  | secondPrimaryKey (table : String)
  | misplacedCounter
  | unnumberedCounter
  | noPrimaryKey (table : String)
  | unknownOption (word : String)
  | keyExpression
  | conflictTwice
  | generatedKey
  | generatedDefault
  | badGenerated (column : String)
  | onlyGenerated
  | generatedLoop (column : String)
  | foreignColumn (name : String)
  | foreignCount
  | foreignSingle (column table : String)
  | noSuchTable (name : String)
  | noSuchColumn (name : String)
  | ambiguousColumn (name : String)
  | noSuchModule (name : String)
  | noSuchCollation (name : String)
  | noSuchFunction (name : String)
  | unknownFunction (name : String)
  | argumentCount (function : String)
  | misusedAggregate (function : String)
  | subqueryIn (place : String)
  | changingIn (place : String)
  | dotIn (place : String)
  | circularView (name : String)
  | viewColumns (count : Nat) (view : String) (found : Nat)
  | branchColumns (operator : String)
  | valueColumns
  | subqueryColumns (found expected : Nat)
  | rowMisused
  | noTables
  | joinUnknown (words : String)
  | joinUnsupported
  | joinRequired (word : String)
  | naturalWithMore
  | onWithUsing
  | endingMisplaced (clause operator : String)
  | commonTwice (name : String)
  | circularCommon (name : String)
  | commonDoubled (name : String)
  | commonRepeated (name : String)
  | commonGrouped
  | commonWindowed
  | groupRequired
  | groupedAggregate
  | misusedInOrder (function : String)
  | distinctArguments
  | filterUse (function : String)
  | windowUse (function : String)
  | misusedWindow (function : String)
  | noSuchWindow (name : String)
  | windowOverride (clause window : String)
  | windowDistinct
  | windowFilter
  | frameUnsupported
  | frameOrder
  | frameStart (isRange : Bool)
  | frameEnd (isRange : Bool)
  | windowCount (argument function : String)
  | misusedAlias (kind name : String)
  | likelihoodRange
  | hexSize (digits : String)
  | raiseUse
  | parameterInView
  | parameterIn (place : String)
  | outsideView (view database : String)
  | outsideTrigger (trigger database : String)
  | triggerExists (name : String)
  | triggerOnVirtual
  | triggerOnSystem
  | triggerOnView (timing view : String)
  | triggerInstead (table : String)
  | triggerQualified
  | triggerIndexed (clause : String)
  | triggerReturning
  | noFunctionTable (name : String)
  | argumentsTooMany (table : String) (most : Nat)
  | orderTerm (place : String) (clause : String) (count : Nat)
  | orderColumn (place : String)
  | commonColumn (name : String)
  | commonCount (name : String) (found expected : Nat)
  | noSuchIndex (name : String)
  | noSolution
  | tablesTooMany (most : Nat)
  | onAhead
  | integerOverflow
  | contextUse (function : String)
  | escapeSize
  | patternSize
  | mismatch
  | malformedJson
  | jsonPath (rest : String)
  | jsonBlob
  | jsonLabel
  | jsonPairs
  | jsonOdd (change : String)
  | boxDepth
  | unsafeUse (function : String)
  | timeUse (function : String)
  | module (flaw : ModuleFlaw)
  | tooDeep
deriving DecidableEq

def offsetKind (isRange : Bool) : String := if isRange then "number" else "integer"

def Flaw.message : Flaw → String
  | .near token => s!"near \"{token}\": syntax error"
  | .incomplete => "incomplete input"
  | .unrecognized token => s!"unrecognized token: \"{token}\""
  | .rootPage => "invalid rootpage"
  | .orphanIndex => "orphan index"
  | .qualifiedName => "corrupt database"
  | .tableExists name => s!"table {name} already exists"
  | .indexExists name => s!"index {name} already exists"
  | .indexNamed name => s!"there is already an index named {name}"
  | .viewIndexed => "views may not be indexed"
  | .virtualIndexed => "virtual tables may not be indexed"
  | .duplicateColumn name => s!"duplicate column name: {name}"
  | .changingDefault column => s!"default value of column [{column}] is not constant"
  | .secondPrimaryKey table => s!"table \"{table}\" has more than one primary key"
  | .misplacedCounter => "AUTOINCREMENT is only allowed on an INTEGER PRIMARY KEY"
  | .unnumberedCounter => "AUTOINCREMENT not allowed on WITHOUT ROWID tables"
  | .noPrimaryKey table => s!"PRIMARY KEY missing on table {table}"
  | .unknownOption word => s!"unknown table option: {word}"
  | .keyExpression => "expressions prohibited in PRIMARY KEY and UNIQUE constraints"
  | .conflictTwice => "conflicting ON CONFLICT clauses specified"
  | .generatedKey => "generated columns cannot be part of the PRIMARY KEY"
  | .generatedDefault => "cannot use DEFAULT on a generated column"
  | .badGenerated column => s!"error in generated column \"{column}\""
  | .onlyGenerated => "must have at least one non-generated column"
  | .generatedLoop column => s!"generated column loop on \"{column}\""
  | .foreignColumn name => s!"unknown column \"{name}\" in foreign key definition"
  | .foreignCount =>
    "number of columns in foreign key does not match the number of columns in the referenced table"
  | .foreignSingle column table =>
    s!"foreign key on {column} should reference only one column of table {table}"
  | .noSuchTable name => s!"no such table: {name}"
  | .noSuchColumn name => s!"no such column: {name}"
  | .ambiguousColumn name => s!"ambiguous column name: {name}"
  | .noSuchModule name => s!"no such module: {name}"
  | .noSuchCollation name => s!"no such collation sequence: {name}"
  | .noSuchFunction name => s!"no such function: {name}"
  | .unknownFunction name => s!"unknown function: {name}()"
  | .argumentCount function => s!"wrong number of arguments to function {function}()"
  | .misusedAggregate function => s!"misuse of aggregate function {function}()"
  | .subqueryIn place => s!"subqueries prohibited in {place}"
  | .changingIn place => s!"non-deterministic functions prohibited in {place}"
  | .dotIn place => s!"the \".\" operator prohibited in {place}"
  | .circularView name => s!"view {name} is circularly defined"
  | .viewColumns count view found => s!"expected {count} columns for '{view}' but got {found}"
  | .branchColumns operator =>
    s!"SELECTs to the left and right of {operator} do not have the same number of result columns"
  | .valueColumns => "all VALUES must have the same number of terms"
  | .subqueryColumns found expected => s!"sub-select returns {found} columns - expected {expected}"
  | .rowMisused => "row value misused"
  | .noTables => "no tables specified"
  | .joinUnknown words => s!"unknown or unsupported join type: {words}"
  | .joinUnsupported => "RIGHT and FULL OUTER JOINs are not currently supported"
  | .joinRequired word => s!"a JOIN clause is required before {word}"
  | .naturalWithMore => "a NATURAL join may not have an ON or USING clause"
  | .onWithUsing => "cannot have both ON and USING clauses in the same join"
  | .endingMisplaced clause operator => s!"{clause} clause should come after {operator} not before"
  | .commonTwice name => s!"duplicate WITH table name: {name}"
  | .circularCommon name => s!"circular reference: {name}"
  | .commonDoubled name => s!"multiple recursive references: {name}"
  | .commonRepeated name => s!"multiple references to recursive table: {name}"
  | .commonGrouped => "recursive aggregate queries not supported"
  | .commonWindowed => "cannot use window functions in recursive queries"
  | .groupRequired => "a GROUP BY clause is required before HAVING"
  | .groupedAggregate => "aggregate functions are not allowed in the GROUP BY clause"
  | .misusedInOrder function => s!"misuse of aggregate: {function}()"
  | .distinctArguments => "DISTINCT aggregates must have exactly one argument"
  | .filterUse function => s!"FILTER may not be used with non-aggregate {function}()"
  | .windowUse function => s!"{function}() may not be used as a window function"
  | .misusedWindow function => s!"misuse of window function {function}()"
  | .noSuchWindow name => s!"no such window: {name}"
  | .windowOverride clause window => s!"cannot override {clause} of window: {window}"
  | .windowDistinct => "DISTINCT is not supported for window functions"
  | .windowFilter => "FILTER clause may only be used with aggregate window functions"
  | .frameUnsupported => "unsupported frame specification"
  | .frameOrder => "RANGE with offset PRECEDING/FOLLOWING requires one ORDER BY expression"
  | .frameStart isRange => s!"frame starting offset must be a non-negative {offsetKind isRange}"
  | .frameEnd isRange => s!"frame ending offset must be a non-negative {offsetKind isRange}"
  | .windowCount argument function => s!"{argument} {function} must be a positive integer"
  | .misusedAlias kind name => s!"misuse of aliased {kind} {name}"
  | .likelihoodRange =>
    "second argument to likelihood() must be a constant between 0.0 and 1.0"
  | .hexSize digits => s!"hex literal too big: {digits}"
  | .raiseUse => "RAISE() may only be used within a trigger-program"
  | .parameterInView => "parameters are not allowed in views"
  | .parameterIn place => s!"parameters prohibited in {place}"
  | .outsideView view database => s!"view {view} cannot reference objects in database {database}"
  | .outsideTrigger trigger database =>
    s!"trigger {trigger} cannot reference objects in database {database}"
  | .triggerExists name => s!"trigger {name} already exists"
  | .triggerOnVirtual => "cannot create triggers on virtual tables"
  | .triggerOnSystem => "cannot create trigger on system table"
  | .triggerOnView timing view => s!"cannot create {timing} trigger on view: {view}"
  | .triggerInstead table => s!"cannot create INSTEAD OF trigger on table: {table}"
  | .triggerQualified =>
    "qualified table names are not allowed on INSERT, UPDATE, and DELETE statements within triggers"
  | .triggerIndexed clause =>
    s!"the {clause} clause is not allowed on UPDATE or DELETE statements within triggers"
  | .triggerReturning => "cannot use RETURNING in a trigger"
  | .noFunctionTable name => s!"'{name}' is not a function"
  | .argumentsTooMany table most => s!"too many arguments on {table}() - max {most}"
  | .orderTerm place clause count =>
    s!"{place} {clause} BY term out of range - should be between 1 and {count}"
  | .orderColumn place => s!"{place} ORDER BY term does not match any column in the result set"
  | .commonColumn name =>
    s!"cannot join using column {name} - column not present in both tables"
  | .commonCount name found expected =>
    s!"table {name} has {found} values for {expected} columns"
  | .noSuchIndex name => s!"no such index: {name}"
  | .noSolution => "no query solution"
  | .tablesTooMany most => s!"at most {most} tables in a join"
  | .onAhead => "ON clause references tables to its right"
  | .integerOverflow => "integer overflow"
  | .contextUse function => s!"unable to use function {function} in the requested context"
  | .escapeSize => "ESCAPE expression must be a single character"
  | .patternSize => "LIKE or GLOB pattern too complex"
  | .mismatch => "datatype mismatch"
  | .malformedJson => "malformed JSON"
  | .jsonPath rest => s!"JSON path error near '{rest}'"
  | .jsonBlob => "JSON cannot hold BLOB values"
  | .jsonLabel => "json_object() labels must be TEXT"
  | .jsonPairs => "json_object() requires an even number of arguments"
  | .jsonOdd change => s!"json_{change}() needs an odd number of arguments"
  | .boxDepth => "Invalid argument to rtreedepth()"
  | .unsafeUse function => s!"unsafe use of {function}()"
  | .timeUse function => s!"non-deterministic use of {function}() in a generated column"
  | .module flaw => flaw.message
  | .tooDeep => "parser stack overflow"

end Motif.Sql
