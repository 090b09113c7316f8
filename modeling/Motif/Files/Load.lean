import Motif.Database.Location
import Motif.Database.Log
import Motif.Database.Edges
import Motif.EdgeList.Parse
import Motif.Files.Directory

/-!
Loading edges from files: text, or a database if the name of the file says so.
-/

set_option autoImplicit false

namespace Motif.Files

/-- The files that can be reached, and how long the path of the working directory is. -/
structure Disk where
  find : Finder
  here : Nat

def loadText (disk : Disk) (path : Path) : Except Motif.Error (List Edge) :=
  if path.zeroPosition?.isSome then .error (.file .zeroInPath)
  else
    match disk.find path with
    | .error cause => .error (.file cause)
    | .ok content => EdgeList.ofBytes content.toBytes

/-- A database is not looked for behind a path that, with that of its directory in front, is
longer than this. -/
def databasePathLimit : Nat := 512

/-- What is added to the path of a database for a file beside it takes this many bytes at most. -/
def companionSize : Nat := 8

def fullLength (disk : Disk) (path : Path) : Nat :=
  path.length + if path.isAbsolute then 0 else disk.here + 1

/-- The path that a database is opened by. -/
def databasePath (disk : Disk) (path : Path) : Except Error Path :=
  match disk.find path with
  | .error .notADirectory => .error .notADirectory
  | .error .nameTooLong => .error .nameTooLong
  | _ =>
    let straight := path.straighten
    if databasePathLimit < fullLength disk path then .error .nameTooLong
    else if databasePathLimit < fullLength disk straight + companionSize then .error .nameTooLong
    else .ok straight

def journalPath (path : Path) : Path := path ++ Path.ofString "-journal"

def logPath (path : Path) : Path := path ++ Path.ofString "-wal"

def holdsSomething (disk : Disk) (path : Path) : Bool :=
  match disk.find path with
  | .ok content => !content.isEmpty
  | .error _ => false

def log? (disk : Disk) (path : Path) : Except Database.Error (Option Database.Log) :=
  match disk.find (logPath path) with
  | .ok content => Database.Log.ofBytes? content.toBytes.toArray
  | .error _ => .ok none

def isDirectory (disk : Disk) (path : Path) : Bool :=
  match disk.find path with
  | .error .noBytes => true
  | _ => false

def isFile (disk : Disk) (path : Path) : Bool :=
  match disk.find path with
  | .ok _ => true
  | .error _ => false

/-- A journal that was not finished begins with a byte that is not zero. -/
def isUnfinished (disk : Disk) (path : Path) : Bool :=
  match disk.find path with
  | .ok (.bytes (b :: _)) => b ≠ 0
  | .ok (.database (_ :: _)) => true
  | _ => false

open Database in
/-- Reads the content of a database, with the files beside it in mind. -/
def readDatabase (disk : Disk) (l : Location) (path : Path) (content : Content) :
    Except Database.Error (List Edge) :=
  let sharesLog := l.immutable || l.locking == .standard || l.locking == .exclusive
  if content.holdsNoPage then readTables []
  else if !l.immutable && l.locking != .lockFile && l.access == .readOnly &&
      isUnfinished disk (journalPath path) then
    .error .unfinishedJournal
  else if !sharesLog && holdsSomething disk (logPath path) then .error (.cannotOpen none)
  else do
    let isFixed := l.immutable || l.access == .readOnly
    match ← (if l.immutable then .ok none else log? disk path), content with
    | some log, content =>
      let bytes := log.writtenOver content.toBytes.toArray
      (← Image.ofBytes sharesLog isFixed (some log.pageCount) bytes).edges
    | none, .database tables => readTables tables
    | none, .bytes bytes => (← Image.ofBytes sharesLog isFixed none bytes.toArray).edges

/-- Opens the database of a location that was given by a name. -/
def openDatabase (disk : Disk) (name : Path) (l : Database.Location) :
    Except Database.Error (List Edge) :=
  if l.isTransient then Database.readTables []
  else
    let failed : Except Database.Error (List Edge) :=
      .error (.cannotOpen (some (Text.Utf8.text name)))
    match databasePath disk l.path with
    | .error _ => failed
    | .ok path =>
      if l.owner?.any fun owner => !isFile disk owner && !isDirectory disk owner then
        .error .readFailed
      else
        match disk.find path with
        | .error .noBytes => .error .readFailed
        | .error .notFound =>
          if l.access = .create ∧ isDirectory disk path.parent then Database.readTables []
          else failed
        | .error _ => failed
        | .ok content => readDatabase disk l path content

def loadDatabase (disk : Disk) (path : Path) : Except Motif.Error (List Edge) :=
  match path.zeroPosition? with
  | some position => .error (.database (.zeroInPath position (Text.Utf8.text path)))
  | none =>
    ((Database.Location.ofName path).bind (openDatabase disk path)).mapError .database

/-- The paths that are looked up to load from a path. -/
def consulted (path : Path) : List Path :=
  if path.isDatabase then
    match Database.Location.ofName path with
    | .error _ => []
    | .ok l =>
      let straight := l.path.straighten
      l.owner?.toList ++
        [l.path, straight, straight.parent, journalPath straight, logPath straight]
  else [path]

/-- Loads a database if the path says so, and an edge list otherwise. -/
def load (disk : Disk) (path : Path) : Except Motif.Error (List Edge) :=
  if path.isDatabase then loadDatabase disk path else loadText disk path

end Motif.Files
