import Motif.Database.Error
import Motif.Files.Error
import Motif.Text.Diagnostic
import Motif.Text.Utf8

/-!
Why a run stops without an answer. Each cause is a constructor; its category and its wording are
functions of it. Faults are kept apart: they are failed accesses and broken preconditions, which
no caller of the graph operations can reach through a well-formed graph.
-/

set_option autoImplicit false

namespace Motif

/-- The largest number an id may be written as. A vertex id stays below it, because the ids of a
graph are `0` up to its vertex count. -/
def largestId : Int := 2147483647

def smallestId : Int := -2147483648

/-- Sizes, positions and counts are numbers of 64 bits, so they stay below this one. -/
def sizeLimit : Nat := 0x10000000000000000

/-- A failed access, or a precondition that was not met. -/
inductive Fault where
  | outOfRange (index : Int) (size : Nat)
  | badSlice (start stop size : Nat)
  | divisionByZero
  | overflow
  | partsDiffer (edgeCount offsets neighbors degrees : Nat)
  | wrongRowLength (expected found : Nat)
  | columnsDiffer (left right : Nat)
  | unevenTable (length columns : Nat)
  | shortBlock (lanes size : Nat)
deriving DecidableEq

inductive Error where
  | emptyEdgeList
  | negativeId
  | idTooLarge
  | tooManyLists
  | sumOverflow
  | negativeBound (bound : Int)
  | semanticMatching
  | emptyTarget
  | emptyPattern
  | tooManyRows (rows : Nat)
  | capacityExceeded
  | roomRefused
  | file (cause : Files.Error)
  | encoding (cause : Text.Utf8.Error)
  | malformed (place : Text.Diagnostic)
  | database (cause : Database.Error)
  | fault (cause : Fault)
deriving DecidableEq

inductive Category where
  | invalidArgument
  | rangeError
  | unsupportedOperation
  | outOfMemory
  | io
  | parse
  | sqlite
deriving DecidableEq

def Category.name : Category → String
  | .invalidArgument => "InvalidArgument"
  | .rangeError => "RangeError"
  | .unsupportedOperation => "UnsupportedOperation"
  | .outOfMemory => "OutOfMemory"
  | .io => "Io"
  | .parse => "Parse"
  | .sqlite => "Sqlite"

def Category.label : Category → String
  | .invalidArgument => "invalid argument"
  | .rangeError => "range error"
  | .unsupportedOperation => "unsupported operation"
  | .outOfMemory => "out of memory"
  | .io => "io error"
  | .parse => "parse error"
  | .sqlite => "sqlite error"

namespace Error

/-- A fault has no category. -/
def category? : Error → Option Category
  | .emptyEdgeList | .negativeId | .negativeBound _ | .emptyTarget | .emptyPattern =>
    some .invalidArgument
  | .idTooLarge | .tooManyLists | .sumOverflow => some .rangeError
  | .semanticMatching => some .unsupportedOperation
  | .tooManyRows _ | .capacityExceeded | .roomRefused => some .outOfMemory
  | .file _ => some .io
  | .encoding _ | .malformed _ => some .parse
  | .database _ => some .sqlite
  | .fault _ => none

/-- The cause in words, without its category. -/
def detail : Error → String
  | .emptyEdgeList => "empty edge list"
  | .negativeId => "negative vertex id"
  | .idTooLarge => s!"vertex id {largestId} leaves no room for the vertex count"
  | .tooManyLists => "too many adjacency lists for the vertex id type"
  | .sumOverflow => "overflow found in sum of two values"
  | .negativeBound bound => s!"max_match_count must be non-negative, got {bound}"
  | .semanticMatching => "semantic matching"
  | .emptyTarget => "empty target graph"
  | .emptyPattern => "empty pattern graph"
  | .tooManyRows rows => s!"{rows} rows do not fit in memory"
  | .capacityExceeded =>
    "memory allocation failed because the computed capacity exceeded the collection's maximum"
  | .roomRefused =>
    "memory allocation failed because the memory allocator returned an error"
  | .file cause => cause.message
  | .encoding cause => cause.message
  | .malformed place => place.message
  | .database cause => cause.message
  | .fault (.outOfRange index size) => s!"index {index} out of range for {size} elements"
  | .fault (.badSlice start stop size) => s!"slice {start} to {stop} of {size} elements"
  | .fault .divisionByZero => "division by zero"
  | .fault .overflow => "result out of range"
  | .fault (.partsDiffer edgeCount offsets neighbors degrees) =>
    s!"{edgeCount} edges, {offsets} offsets, {neighbors} neighbors, {degrees} degrees"
  | .fault (.wrongRowLength expected found) => s!"row of length {found} in {expected} columns"
  | .fault (.columnsDiffer left right) => s!"tables of {left} and {right} columns"
  | .fault (.unevenTable length columns) =>
    s!"table data of length {length} does not fit {columns} columns"
  | .fault (.shortBlock lanes size) => s!"block of {size} elements for {lanes} lanes"

def message (e : Error) : String :=
  match e.category? with
  | some category => s!"{category.label}: {e.detail}"
  | none => e.detail

/-- The text of the cause below an error that wraps one from the system or a database. -/
def source? : Error → Option String
  | .file cause => some cause.message
  | .database cause => some cause.message
  | _ => none

end Error

end Motif
