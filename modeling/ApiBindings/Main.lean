import ApiBindings.CommandLine.Commands

/-!
# The program

A run is carried out on the files of the machine.
-/

namespace ApiBindings

open CommandLine

/-- A failure of the machine as a file fault. A code may come with its sign turned. -/
def faultOf : IO.Error → FileFault
  | .noFileOrDirectory .. => .missing
  | .alreadyExists .. => .alreadyThere
  | .inappropriateType _ code _ => if code = 20 ∨ code = -20 then .notDirectory else .isDirectory
  | e => .other (toString e)

/-- A step on the files of the machine; what goes wrong is given back. -/
def attempt {α : Type} (step : IO α) : IO (Except FileFault α) := do
  match ← step.toBaseIO with
  | .ok a => return .ok a
  | .error e => return .error (faultOf e)

/-- Whether there is anything at a path, by what comes of reading it. -/
def isFound : Except FileFault String → Bool
  | .error .missing | .error .notDirectory => false
  | _ => true

/-- A script is carried out on the files of the machine. -/
def perform : Script → IO Outcome
  | .finish outcome => return outcome
  | .find path next => do
    let r ← attempt (IO.FS.readFile ⟨path⟩)
    perform (next (isFound r))
  | .readFile path next => do
    let r ← attempt (IO.FS.readFile ⟨path⟩)
    perform (next r)
  | .makeDirectory path next => do
    let r ← attempt (IO.FS.createDirAll ⟨path⟩)
    perform (next r)
  | .writeFile path text next => do
    let r ← attempt (IO.FS.writeFile ⟨path⟩ text)
    perform (next r)

end ApiBindings

/-- The program: what a run prints, and the code it ends with. -/
def main (arguments : List String) : IO UInt32 := do
  let outcome ← ApiBindings.perform (ApiBindings.CommandLine.scriptOf arguments)
  IO.print outcome.stdout
  IO.eprint outcome.stderr
  return outcome.exitCode.toUInt32
