import PatchCompiler.CommandLine.Arguments
import PatchCompiler.Compilation

/-!
# Tools

What can be run from a command line. A tool works on files that are given and gives the files that
result, with what it prints.
-/

namespace PatchCompiler

/-- What a tool finds around it. -/
structure World where
  files : Files
  home : String
  /-- The directory with the files of the installation that code needs. -/
  codeAssets : String := ""
  year : Nat := 2021
  board : BoardChoice → String × Value := fun _ => ("", .null)
  compiler : Option String := none

namespace World

def path (world : World) (path : String) : String :=
  Path.absolute world.home path

def readValue (world : World) (path : String) : Except Fault Value :=
  match world.files.find? (world.path path) with
  | some content => content.value
  | none => .error (.fileMissing path)

end World

/-- What a tool leaves. -/
structure Outcome where
  printed : List String := []
  files : Files
  failed : Option Bool := none
  timed : Option String := none

/-- Why a tool does not run to its end. -/
inductive Refusal where
  /-- The words of the command are not understood. -/
  | usage
  | fault (fault : Fault)

abbrev ToolResult := Except Refusal Outcome

namespace Command

def guarded {α : Type} (result : Except Fault α) : Except Refusal α :=
  match result with
  | .ok value => .ok value
  | .error fault => .error (.fault fault)

def arguments (command : CommandSpec) (words : List String) : Except Refusal Arguments :=
  match command.read words with
  | some arguments => .ok arguments
  | none => .error .usage

def verboseOption : OptionSpec := ⟨"--verbose", some "-v", .nothing⟩

def noticeLines (kind colour : String) (stage : Stage) (notices : List Notice) : List String :=
  notices.zipIdx.map fun (notice, place) =>
    let number := Text.padLeft 3 (toString (place + 1))
    s!"{number}) \x1b[{colour}m{kind}\x1b[0m {stage.name}: {notice.message}"

def stageLines (stage : Stage) : List String :=
  (if stage.hasError == some true then noticeLines "Error" "91" stage stage.errors else []) ++
    noticeLines "Warning" "93" stage stage.warnings

def compilerSpec : CommandSpec :=
  ⟨1, [⟨"--out_dir", some "-o", .one⟩, ⟨"--search_paths", some "-p", .several⟩,
    ⟨"--name", some "-n", .one⟩, ⟨"--meta", some "-m", .one⟩, ⟨"--gen", some "-g", .several⟩,
    ⟨"--results_path", none, .one⟩, verboseOption, ⟨"--copyright", none, .one⟩]⟩

def compile (world : World) (words : List String) : ToolResult := do
  let arguments ← arguments compilerSpec words
  let path := world.path (arguments.place 0)
  let target := match arguments.value? "--out_dir" with
    | none | some "" => Path.directory path
    | some directory => world.path directory
  let task : Task :=
    { path, target, home := world.home, name := some ((arguments.value? "--name").getD "heavy")
      detailsPath := (arguments.value? "--meta").map fun file =>
        if file.isEmpty then file else world.path file
      search := ((arguments.values? "--search_paths").getD []).map world.path
      platforms := (arguments.values? "--gen").getD []
      verbose := arguments.has "--verbose", banner := optionText (arguments.value? "--copyright")
      year := world.year, board := world.board, compiler := world.compiler }
  match (Compiling.compile task).run { bench := { files := world.files } } with
  | .error fault _ => throw (.fault fault)
  | .ok _ session =>
    let failed := session.stages.any fun stage =>
      stage.hasError == some true && !stage.errors.isEmpty
    let results := Value.record (session.stages.map fun stage =>
      (stage.name, .record (stage.toRecord fun _ => .list [])))
    let files := match arguments.value? "--results_path" with
      | some file =>
        if file.isEmpty then session.bench.files
        else session.bench.files.write (world.path file) (.json results)
      | none => session.bench.files
    return {
      printed := session.printed ++ session.stages.flatMap stageLines
      files, failed := some failed
      timed := if task.verbose then some "Total compile time" else none }

def readerSpec : CommandSpec :=
  ⟨2, [⟨"--export", none, .nothing⟩, verboseOption]⟩

def read (world : World) (words : List String) : ToolResult := do
  let arguments ← arguments readerSpec words
  let directory := world.path (arguments.place 1)
  let verbose := arguments.has "--verbose"
  let (stage, graph) ← guarded (readPatchStage world.files (world.path (arguments.place 0))
    directory [] (arguments.has "--export"))
  if !(stage.errors ++ stage.warnings).isEmpty then
    throw (.fault (.badValue "Unknown format code 'd' for object of type 'str'"))
  let file := (stage.output.bind id).map fun place => Path.join directory place.file
  let files := match file, graph with
    | some path, some graph =>
      world.files.write path (.json (if verbose then Arranged.arranged graph else graph))
    | _, _ => world.files
  if verbose then
    return { files, printed := file.toList.map ("Heavy file written to " ++ ·)
             timed := some "Total pd2hv compile time" }
  else return { files }

def lowererSpec : CommandSpec :=
  ⟨1, [⟨"--hv_ir_path", none, .one⟩, ⟨"--name", none, .one⟩, verboseOption]⟩

def lower (world : World) (words : List String) : ToolResult := do
  let arguments ← arguments lowererSpec words
  let path := world.path ((arguments.value? "--hv_ir_path").getD "./heavy.hv.ir.json")
  let verbose := arguments.has "--verbose"
  let (_, program) ← guarded (lowerGraph world.files (world.path (arguments.place 0)) path
    (some ((arguments.value? "--name").getD "heavy")) world.home)
  let files := match program with
    | some program => world.files.write path
        (.json (if verbose then Arranged.arranged program.toValue else program.toValue))
    | none => world.files
  if verbose then
    return { files, printed := (program.map Program.signalReport).getD []
             timed := some "Total hv2ir time" }
  else return { files }

def coderSpec : CommandSpec :=
  ⟨1, [⟨"--static_dir", none, .one⟩, ⟨"--output_dir", none, .one⟩, ⟨"--copyright", none, .one⟩,
    verboseOption]⟩

/-- A file of a package, where files of the installation are taken from a directory. -/
def codeFile (world : World) (assets : String) (content : Content) : Except Fault Content :=
  match content with
  | .asset name =>
    if world.path assets == world.codeAssets then .ok content
    else
      let path := Path.join assets name
      match world.files.find? (world.path path) with
      | some content => .ok content
      | none => .error (.fileMissing path)
  | _ => .ok content

def code (world : World) (words : List String) : ToolResult := do
  let arguments ← arguments coderSpec words
  let externs := Value.record
    [("parameters", .record [("in", .record []), ("out", .record [])]), ("events", .record [])]
  let program ← guarded (world.readValue (arguments.place 0))
  let package ← guarded (Package.ofProgram program externs
    (Banner.textOr (arguments.value? "--copyright") world.year))
  let assets := (arguments.value? "--static_dir").getD "./static"
  let directory := world.path ((arguments.value? "--output_dir").getD "./out")
  let made ← guarded (package.files.mapM fun (name, content) => do
    return (Path.join directory name, ← codeFile world assets content))
  return {
    files := made.foldl (fun files file => files.write file.1 file.2) world.files
    timed := if arguments.has "--verbose" then some "Total ir2c time" else none }

def meterSpec : CommandSpec :=
  ⟨1, [⟨"--mhz", none, .one⟩, ⟨"--blocksize", none, .one⟩, verboseOption]⟩

def numberOption (arguments : Arguments) (name : String) (fallback : Int)
    (read : Value → Except Fault Value) : Except Refusal Value :=
  match arguments.value? name with
  | none => .ok (.int fallback)
  | some word =>
    match read (.text word) with
    | .ok value => .ok value
    | .error _ => .error .usage

def measure (world : World) (words : List String) : ToolResult := do
  let arguments ← arguments meterSpec words
  let clock ← numberOption arguments "--mhz" 1000 fun word => do return .real (← word.toDouble)
  let block ← numberOption arguments "--blocksize" 64 fun word => do return .int (← word.toInteger)
  let load ← guarded (do Load.ofProgram (← world.readValue (arguments.place 0)))
  let report ← if arguments.has "--verbose" then guarded (load.report block clock) else pure []
  return { files := world.files, printed := load.remarks ++ report }

def supportedTypes : List String :=
  let library := (Library.patches.map (·.1)).mergeSort fun a b => !(b ++ ".pd" < a ++ ".pd")
  library ++ specialTypes ++ operators.map (·.1)

def inspect (world : World) (words : List String) : ToolResult := do
  match words with
  | "hvhash" :: rest => do
      let arguments ← arguments ⟨1, []⟩ rest
      let hash ← guarded (Hash.ofText (arguments.place 0))
      return { files := world.files, printed := [Hash.literal hash] }
  | ["pdobjects"] =>
    let shown := supportedTypes.map fun type => "    " ++ Json.write .compact (.text type)
    return { files := world.files, printed := ["[", Text.join ",\n" shown, "]"] }
  | _ => throw .usage

end Command

inductive Tool where
  | compiler
  | reader
  | lowerer
  | coder
  | meter
  | inspector
  deriving DecidableEq, Repr

def Tool.run (tool : Tool) (world : World) (words : List String) : ToolResult :=
  match tool with
  | .compiler => Command.compile world words
  | .reader => Command.read world words
  | .lowerer => Command.lower world words
  | .coder => Command.code world words
  | .meter => Command.measure world words
  | .inspector => Command.inspect world words

end PatchCompiler
