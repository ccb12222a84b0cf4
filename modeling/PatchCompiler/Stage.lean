import PatchCompiler.Patch.Graph
import PatchCompiler.Patch.Reader
import PatchCompiler.Program

/-!
# Stages

A compilation goes through stages, and every stage leaves a record of what it read and wrote, what
it counted and what it has to say.
-/

namespace PatchCompiler

/-- A file and the directory it is in. -/
structure Location where
  file : String
  directory : String

namespace Location

def ofPath (path : String) : Location :=
  ⟨Path.baseName path, Path.directory path⟩

end Location

structure Stage where
  name : String
  errors : List Notice := []
  warnings : List Notice := []
  hasError : Option Bool := none
  exception : Option Fault := none
  /-- What was counted for each type of objects, if anything was. -/
  counter : Option Value := none
  input : Option Location := none
  output : Option (Option Location) := none

namespace Stage

def toRecord (stage : Stage) (describe : Fault → Value) : Record :=
  let notices : Record :=
    [("errors", .list (stage.errors.map Notice.toValue)),
      ("warnings", .list (stage.warnings.map Notice.toValue))]
  let hasError : Record := stage.hasError.toList.map fun flag => ("has_error", .bool flag)
  let exception : Record := stage.exception.toList.map fun fault => ("exception", describe fault)
  let counter : Record := stage.counter.toList.map fun value => ("obj_counter", value)
  let place := fun (file directory : String) (location : Option Location) =>
    ([(file, ((location.map fun l => Value.text l.file).getD .null)),
      (directory, ((location.map fun l => Value.text l.directory).getD .null))] : Record)
  let input : Record := stage.input.toList.flatMap fun l => place "in_file" "in_dir" (some l)
  let output : Record := stage.output.toList.flatMap (place "out_file" "out_dir")
  [("stage", .text stage.name), ("notifs", .record (notices ++ hasError ++ exception))] ++
    counter ++ input ++ output

end Stage

/-- Reads a patch, looking for others in the given places too, and writes its graph. A patch with
errors has no graph. -/
def readPatchStage (files : Files) (path directory : String) (search : List String)
    (exporting : Bool) : Except Fault (Stage × Option Value) := do
  let reading : Drawing Ref := do
    for place in search do
      let _ ← Drawing.addSearchPath files place
    Drawing.readPatch files path
  match reading.run .empty with
  | .error fault _ => .error fault
  | .ok root patch =>
    let (warnings, errors) ← patch.notices root
    let stage : Stage :=
      { name := "pd2hv", warnings, errors, hasError := some (!errors.isEmpty)
        counter := some patch.counter.toValue, input := some (.ofPath path)
        output := some none }
    if !errors.isEmpty then return (stage, none)
    if !(patch.box root).isCanvas then throw (.badType "only a canvas has arguments to export")
    let graph ← patch.graphOf exporting root
    let file := Path.withoutEnding (Path.baseName path) ++ ".hv.json"
    return ({ stage with output := some (some ⟨file, directory⟩) }, some graph)

def loweringStage (graphPath programPath : String) : Stage :=
  { name := "hv2ir"
    input := some (.ofPath graphPath)
    output := some (some (.ofPath programPath)) }

def Stage.refused (stage : Stage) (reason : String) : Stage :=
  { stage with
    errors := [{ message := reason }]
    hasError := some true
    exception := some (.rejected reason) }

/-- Reads a graph and lowers it to a program. A refusal is recorded in the stage, anything else is
a fault. -/
def lowerGraph (files : Files) (path programPath : String) (name : Option String)
    (home : String := "/") : Except Fault (Stage × Option Program) :=
  let stage := loweringStage path programPath
  match (Build.loadGraph files none [] [] name path home).run .empty with
  | .error (.rejected reason) _ =>
    .ok ({ stage.refused reason with counter := some .null }, none)
  | .error fault _ => .error fault
  | .ok graph net =>
    let counter := some (net.counter graph true).toValue
    match (do Build.prepare graph; Build.program graph : Build Program).run net with
    | .error (.rejected reason) _ =>
      .ok ({ stage.refused reason with counter }, none)
    | .error fault _ => .error fault
    | .ok program net =>
      let notices := net.notices graph
      let plain := List.map fun message => ({ message } : Notice)
      .ok ({ stage with
        counter, errors := plain notices.errors, warnings := plain notices.warnings },
        some program)

end PatchCompiler
