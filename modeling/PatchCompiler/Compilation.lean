import PatchCompiler.Code.Load
import PatchCompiler.Code.Package
import PatchCompiler.Externs
import PatchCompiler.Patch.Arranged
import PatchCompiler.Platform

/-!
# Compilations

From a patch to code for platforms. A patch is read as a graph, the graph is lowered to a program,
code is made of the program, and generators wrap the code. Code that is there already is taken as it
is, with the program beside it.
-/

namespace PatchCompiler

/-- What is to be compiled, and how. -/
structure Task where
  path : String
  target : String
  home : String := "/"
  name : Option String := none
  detailsPath : Option String := none
  search : List String := []
  platforms : List String := []
  verbose : Bool := false
  banner : Value := .null
  year : Nat := 2021
  program : Option Value := none
  board : BoardChoice → String × Value := fun _ => ("", .null)
  compiler : Option String := none

/-- What a compilation has done so far. -/
structure Session where
  bench : Workbench
  printed : List String := []
  stages : List Stage := []
  program : Option Program := none
  externs : Option Value := none

abbrev Compiling := EStateM Fault Session

/-- Code that generators can work on. -/
structure Built where
  source : String
  name : Value
  program : Value
  externs : Value

namespace Compiling

def ofExcept {α : Type} (result : Except Fault α) : Compiling α :=
  match result with
  | .ok value => return value
  | .error fault => throw fault

def printAll (lines : List String) : Compiling Unit :=
  modify fun session => { session with printed := session.printed ++ lines }

def announce (task : Task) (lines : List String) : Compiling Unit :=
  if task.verbose then printAll lines else pure ()

def addStage (stage : Stage) : Compiling Unit :=
  modify fun session => { session with stages := session.stages ++ [stage] }

def write (path : String) (content : Content) : Compiling Unit :=
  modify fun session =>
    let bench := session.bench
    { session with
      bench := { bench with files := bench.files.write (Path.normal path) content } }

def files : Compiling Files := do
  return (← get).bench.files

def ownStage : String := "hvcc"

def complain (message : String) : Compiling Unit :=
  modify fun session =>
    let notice : Notice := { message }
    if session.stages.any fun stage => stage.name == ownStage then
      { session with
        stages := session.stages.map fun stage =>
          if stage.name == ownStage then { stage with errors := stage.errors ++ [notice] }
          else stage }
    else
      let stage : Stage := { name := ownStage, errors := [notice], hasError := some true }
      { session with stages := session.stages ++ [stage] }

def opened (program : Value) : Compiling Value := do
  let externs ← ofExcept (Externs.ofProgram program)
  for message in ← ofExcept externs.conflicts do complain message
  modify fun session => { session with externs := some externs.toValue }
  return externs.toValue

def fileContent (task : Task) (value : Value) : Content :=
  .json (if task.verbose then Arranged.arranged value else value)

def readPatch (task : Task) : Compiling (Option String) := do
  let directory := Path.join task.target "hv"
  let (stage, graph) ← ofExcept
    (readPatchStage (← files) task.path directory task.search false)
  addStage stage
  match stage.output, graph with
  | some (some place), some graph => do
      let path := Path.join directory place.file
      write path (fileContent task graph)
      return some path
  | _, _ => return none

def lower (task : Task) (name graphPath : String) : Compiling (Option (String × Value)) := do
  let path := Path.join (Path.join task.target "ir") (Text.toName name ++ ".heavy.ir.json")
  let (stage, program) ← ofExcept (lowerGraph (← files) graphPath path (some name) task.home)
  addStage stage
  match program with
  | none => return none
  | some program => do
      let value := program.toValue
      write path (fileContent task value)
      announce task program.signalReport
      modify fun session => { session with program := some program }
      return some (path, value)

def makeCode (task : Task) (programPath : String) (externs : Value) : Compiling String := do
  let directory := Path.join task.target "c"
  let program ← match (← files).find? (Path.normal programPath) with
    | some content => ofExcept content.value
    | none => throw (.fileMissing programPath)
  let banner ← ofExcept (Banner.ofValue task.banner task.year)
  let package ← ofExcept (Package.ofProgram program externs banner)
  for (name, content) in package.files do write (directory ++ "/" ++ name) content
  addStage
    { name := "ir2c", hasError := some false, counter := some package.counter.toValue
      input := some (.ofPath programPath), output := some (some ⟨"", directory⟩) }
  return directory

def measure (task : Task) (programPath : String) (program : Value) : Compiling Unit := do
  let load ← ofExcept (Load.ofProgram program)
  printAll load.remarks
  if task.verbose then printAll (← ofExcept (load.report (.int 512) (.int 1000)))
  addStage
    { name := "ir2c_perf", counter := some load.toValue, input := some (.ofPath programPath) }

def buildPatch (task : Task) (name : String) : Compiling (Option Built) := do
  announce task ["--> Generating C"]
  let some graphPath ← readPatch task | return none
  let some (programPath, program) ← lower task name graphPath | return none
  let escaped ← ofExcept (do (← program.need "name").need "escaped")
  let externs ← opened program
  let source ← makeCode task programPath externs
  measure task programPath program
  return some ⟨source, escaped, program, externs⟩

def programBeside (files : Files) (source : String) : Except Fault (Option Value) := do
  let directory := source ++ "/../ir"
  match files.children (Path.normal directory) with
  | [] => throw (.fileMissing directory)
  | first :: _ =>
    match files.find? (Path.normal (directory ++ "/" ++ first)) with
    | some content => return some (← content.value)
    | none => return none

def findCode (task : Task) : Compiling (Option Built) :=
  tryCatch (do
      match ← ofExcept (programBeside (← files) task.path) with
      | none => do
          complain "Cannot find hvir file."
          return none
      | some program => do
          let name ← ofExcept (do (← program.need "name").need "escaped")
          return some ⟨task.path, name, program, ← opened program⟩)
    fun fault => do
      complain s!"ir could not be found or loaded: {fault.message}."
      return none

/-- The code to be wrapped. A program that is given without a patch lacks what it opens. -/
def build (task : Task) (name : String) : Compiling (Option Built) := do
  if Text.endsWith ".pd" task.path then buildPatch task name
  else match task.program with
    | some program => do
        let signal ← ofExcept (program.need "signal")
        let _ ← ofExcept (signal.need "numInputBuffers")
        let _ ← ofExcept (signal.need "numOutputBuffers")
        throw .unsetName
    | none =>
      if !(← files).hasFile task.path && Path.baseName task.path == "c" then findCode task
      else throw (.badType "there is no program")

def readDetails (task : Task) (files : Files) : Except Fault (Option Value) :=
  match task.detailsPath with
  | none | some "" => .ok (some (.record []))
  | some path =>
    match files.find? (Path.normal path) with
    | none => .ok none
    | some content => do return some (← content.value)

def wrap (task : Task) (details : Option Value) (built : Built) : Compiling Unit := do
  let signal ← ofExcept (built.program.need "signal")
  let inputs ← ofExcept (signal.need "numInputBuffers")
  let outputs ← ofExcept (signal.need "numOutputBuffers")
  let some details := details | throw .unsetName
  let banner ← ofExcept (Banner.ofValue task.banner task.year)
  let job : Job :=
    { source := built.source, target := task.target, name := built.name, details, inputs, outputs
      externs := built.externs, banner
      board := task.board, compiler := task.compiler }
  for platform in Platform.all.filter fun platform => task.platforms.contains platform.word do
    announce task [platform.announcement]
    if !platform.takesDetails then
      throw (.badType "the platform takes no details")
    match (platform.generate job).run (← get).bench with
    | .ok stage bench => do
        modify fun session => { session with bench }
        addStage stage
    | .error fault bench => do
        modify fun session => { session with bench }
        throw fault

def isPatchPath (path : String) : Bool :=
  Text.endsWith ".pd" path || Text.endsWith ".maxpat" path

def compile (task : Task) : Compiling Unit := do
  let files ← files
  if !files.has task.path then complain s!"Unknown input path {task.path}"
  else if files.hasFile task.path && !isPatchPath task.path then
    complain "Can only process Pd or Max files."
  else match readDetails task files with
    | .error fault => complain s!"Unable to open json_file: {fault.message}"
    | .ok details =>
      let name := match task.name with
        | none | some "" => "heavy"
        | some name => name
      match ← build task name with
      | none => return
      | some built => wrap task details built

end Compiling

end PatchCompiler
