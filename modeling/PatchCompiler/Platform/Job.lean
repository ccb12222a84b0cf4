import PatchCompiler.Banner
import PatchCompiler.Platform.Workbench
import PatchCompiler.Stage

/-!
# Jobs of generators

A generator wraps the code of a program for a platform. It leaves a stage record, also if it fails.
-/

namespace PatchCompiler

/-- How a board is chosen: by its name, or by a file that describes it. -/
inductive BoardChoice where
  | named (name : Value)
  | described (path : Value)

/-- What a generator is asked to do. -/
structure Job where
  source : String
  target : String
  name : Value := .null
  details : Value := .null
  inputs : Value := .int 0
  outputs : Value := .int 0
  externs : Value := .record []
  banner : String := ""
  /-- Finds a board: the code that declares it, and its description. -/
  board : BoardChoice → String × Value := fun _ => ("", .null)
  compiler : Option String := none

namespace Job

def nameOr (job : Job) (fallback : String) : String :=
  if job.name.isTrue then job.name.display else fallback

/-- The name and the details of the program, where details may give another name. -/
def renamed (job : Job) : Except Fault (Value × Record) := do
  if !job.details.isTrue then return (job.name, [])
  match job.details with
  | .record fields => return (Record.getD fields "name" job.name, fields)
  | other => .error (.noMember s!"{other.kindName} has no details")

def banner_ (job : Job) : Value := .text (Banner.block job.banner)

def opened (job : Job) (kind side : String) : Except Fault Value := do
  (← job.externs.need kind).need side

def inputParameters (job : Job) : Except Fault Value := job.opened "parameters" "in"

def outputParameters (job : Job) : Except Fault Value := job.opened "parameters" "out"

def inputEvents (job : Job) : Except Fault Value := job.opened "events" "in"

def outputEvents (job : Job) : Except Fault Value := job.opened "events" "out"

def tables (job : Job) : Except Fault Value := job.externs.need "tables"

def poolSizes (job : Job) : Except Fault Value := job.externs.need "memoryPoolSizesKb"

/-- The stage of a generator whose results are in a directory. The work gives the name of the
main file. -/
def stage (job : Job) (name directory : String) (work : Work String) : Work Stage := do
  let stage : Stage :=
    { name, input := some ⟨"", job.source⟩, output := some (some ⟨"", directory⟩) }
  tryCatch (do
      let file ← work
      return { stage with hasError := some false, output := some (some ⟨file, directory⟩) })
    fun fault => do
      let notice : Notice := { code := some (-1), message := fault.message }
      return { stage with errors := [notice], hasError := some true, exception := some fault }

end Job

end PatchCompiler
