import ApiBindings.CommandLine.Script

/-!
# A directory as a value

The files below a directory, and what becomes of them when a script is carried out. A path is walked name
by name. The directories above the directory are there; of what else lies outside nothing is known, and it is
taken to be empty. Files hold texts, so reading one that is there does not fail.
-/

namespace ApiBindings.CommandLine

/-- A place, name by name: from the directory, from one above it if it begins with `..`, or from the topmost
one if it begins with `/`. -/
abbrev Names := List String

/-- The files below a directory and the directories that are there without any file. What a file holds is a text:
one whose bytes are no UTF-8, or that may not be read or written, is left out. -/
structure Files where
  files : List (Names × String)
  directories : List Names := []
  deriving DecidableEq, Repr

/-- What is at a path. -/
inductive Entry where
  | file (text : String)
  | directory
  | nothing
  deriving DecidableEq, Repr

namespace Files

/-- Whether a place is the directory, one above it or the topmost one. -/
def isAbove (names : Names) : Bool := names.all (· == "..") || names == ["/"]

/-- The place above another one; above the topmost one there is none. -/
def above (names : Names) : Names :=
  if names == ["/"] then names
  else if isAbove names then names ++ [".."]
  else names.dropLast

/-- What is at a place. -/
def entry (fs : Files) (names : Names) : Entry :=
  match fs.files.lookup names with
  | some text => .file text
  | none =>
    if isAbove names || fs.files.any (fun f => names.isPrefixOf f.1) ||
        fs.directories.any (names.isPrefixOf ·) then .directory
    else .nothing

/-! ## Paths -/

/-- The greatest number of bytes in a name. -/
def nameLimit : Nat := 255

/-- The greatest number of bytes in a path. -/
def pathLimit : Nat := 4095

/-- The place that names lead to; every name but the last has to be that of a directory. -/
def walk (fs : Files) : Names → List String → Except FileFault Names
  | place, [] => .ok place
  | place, name :: rest =>
    match fs.entry place with
    | .file _ => .error .notDirectory
    | .nothing => .error .missing
    | .directory =>
      if name = "" ∨ name = "." then walk fs place rest
      else if name = ".." then walk fs (above place) rest
      else if nameLimit < name.utf8ByteSize then .error .nameTooLong
      else walk fs (place ++ [name]) rest

/-- Where a path begins, and the names that lead on from there. -/
def start (path : String) : Except FileFault (Names × List String) :=
  if path.toList.contains '\x00' then .error .nulInName
  else if path = "" then .error .missing
  else if pathLimit < path.utf8ByteSize then .error .nameTooLong
  else match path.splitOn "/" with
    | "" :: names => .ok (["/"], names)
    | names => .ok ([], names)

/-- The place of a path. -/
def locate (fs : Files) (path : String) : Except FileFault Names := do
  let (place, names) ← start path
  fs.walk place names

/-! ## Reading and writing -/

/-- Whether there is anything at a path. -/
def has (fs : Files) (path : String) : Bool :=
  match fs.locate path with
  | .ok place => fs.entry place ≠ .nothing
  | .error _ => false

/-- The text of a file. -/
def read (fs : Files) (path : String) : Except FileFault String := do
  match fs.entry (← fs.locate path) with
  | .file text => .ok text
  | .directory => .error .isDirectory
  | .nothing => .error .missing

/-- The files with the text of one of them set. -/
def setText (fs : Files) (place : Names) (text : String) : Files :=
  { fs with files := (place, text) :: fs.files.filter (·.1 ≠ place) }

/-- A text is written to a file, which is made if it is not there. -/
def write (fs : Files) (path text : String) : Except FileFault Files :=
  match fs.locate path with
  | .ok place =>
    match fs.entry place with
    | .directory => .error .isDirectory
    | _ => .ok (fs.setText place text)
  | .error .missing => .error (if path.endsWith "/" then .isDirectory else .missing)
  | .error f => .error f

/-- The directories along names are made, as far as they are not there. -/
def makeAlong (fs : Files) : Names → List String → Except FileFault Files
  | _, [] => .ok fs
  | place, name :: rest =>
    if name = "" ∨ name = "." then makeAlong fs place rest
    else if name = ".." then makeAlong fs (above place) rest
    else if nameLimit < name.utf8ByteSize then .error .nameTooLong
    else
      let place := place ++ [name]
      match fs.entry place with
      | .directory => makeAlong fs place rest
      | .file _ => .error (if rest.isEmpty then .alreadyThere else .notDirectory)
      | .nothing => makeAlong { fs with directories := place :: fs.directories } place rest

/-- A directory is made with all directories above it. -/
def makeDirectory (fs : Files) (path : String) : Except FileFault Files := do
  let (place, names) ← start path
  fs.makeAlong place names

/-- Whether a place is below the directory. -/
def isBelow (names : Names) : Bool := names.head? ≠ some ".." && names.head? ≠ some "/"

/-- The files below the directory whose text is not the one they had before. -/
def changedSince (fs before : Files) : List (Names × String) :=
  fs.files.filter fun (place, text) => isBelow place && before.files.lookup place ≠ some text

end Files

/-- A script is carried out on the files of a directory. What cannot be done leaves them as they are. -/
def Script.runOn (fs : Files) : Script → Outcome × Files
  | .finish outcome => (outcome, fs)
  | .find path next => (next (fs.has path)).runOn fs
  | .readFile path next => (next (fs.read path)).runOn fs
  | .makeDirectory path next =>
    match fs.makeDirectory path with
    | .ok changed => (next (.ok ())).runOn changed
    | .error f => (next (.error f)).runOn fs
  | .writeFile path text next =>
    match fs.write path text with
    | .ok changed => (next (.ok ())).runOn changed
    | .error f => (next (.error f)).runOn fs

end ApiBindings.CommandLine
