/-!
# Scripts

A run of the program as data: what it asks of the files around it, one question after the other, and what
it prints in the end. The same script can be carried out on the files of a machine or on a directory held
as a value.
-/

namespace ApiBindings.CommandLine

/-- Why something cannot be done with a file. -/
inductive FileFault where
  | missing
  | isDirectory
  | notDirectory
  | alreadyThere
  | nameTooLong
  | nulInName
  | other (text : String)
  deriving DecidableEq, Repr

/-- The wording of a file fault. -/
def FileFault.message : FileFault → String
  | .missing => "No such file or directory (os error 2)"
  | .isDirectory => "Is a directory (os error 21)"
  | .notDirectory => "Not a directory (os error 20)"
  | .alreadyThere => "File exists (os error 17)"
  | .nameTooLong => "File name too long (os error 36)"
  | .nulInName => "file name contained an unexpected NUL byte"
  | .other text => text

/-- What a run prints, and the code it ends with. -/
structure Outcome where
  exitCode : Nat := 0
  stdout : String := ""
  stderr : String := ""
  deriving DecidableEq, Repr

/-- A run, step by step. -/
inductive Script where
  | finish (outcome : Outcome)
  /-- Asks whether there is anything at a path. -/
  | find (path : String) (next : Bool → Script)
  | readFile (path : String) (next : Except FileFault String → Script)
  /-- A directory is made with all directories above it, as far as they are not there. -/
  | makeDirectory (path : String) (next : Except FileFault Unit → Script)
  | writeFile (path text : String) (next : Except FileFault Unit → Script)

/-! ## Problems -/

/-- A text whose further lines are indented. -/
def indented (indent : String) (text : String) : String :=
  ("\n" ++ indent).intercalate (text.splitOn "\n")

/-- A problem and what is behind it, cause by cause. -/
structure Problem where
  message : String
  causes : List String := []
  deriving DecidableEq, Repr

namespace Problem

/-- The lines of causes, each with its number from some number on. -/
def numbered : Nat → List String → String
  | _, [] => ""
  | n, cause :: rest =>
    let number := toString n
    let pad := String.ofList (List.replicate (5 - number.length) ' ')
    "\n" ++ pad ++ number ++ ": " ++ indented "       " cause ++ numbered (n + 1) rest

/-- A problem as it is reported: several causes are numbered. -/
def report (p : Problem) : String :=
  "Error: " ++ p.message ++
    (match p.causes with
      | [] => ""
      | [cause] => "\n\nCaused by:\n    " ++ indented "    " cause
      | causes => "\n\nCaused by:" ++ numbered 0 causes) ++ "\n"

end Problem

/-- A run ends with a problem, after some lines. -/
def Script.fail (p : Problem) (before : String := "") : Script :=
  .finish { exitCode := 1, stderr := before ++ p.report }

end ApiBindings.CommandLine
