import PatchCompiler.Platform.Job
import PatchCompiler.Sheet.Page

/-!
# Web pages

The code compiled for browsers, once for a page and once for its audio thread, with a page that
plays it.
-/

namespace PatchCompiler.Generator

/-- The functions that pages may call, besides those that are named after the program. -/
def webFunctions : List String :=
  ["_hv_delete", "_hv_processInline", "_hv_getNumInputChannels", "_hv_getNumOutputChannels",
    "_hv_samplesToMilliseconds", "_hv_setPrintHook", "_hv_setSendHook",
    "_hv_sendFloatToReceiver", "_hv_sendBangToReceiver", "_hv_sendSymbolToReceiver",
    "_hv_stringToHash", "_hv_msg_getByteSize", "_hv_msg_init", "_hv_msg_hasFormat",
    "_hv_msg_setFloat", "_hv_msg_getFloat", "_hv_msg_getTimestamp", "_hv_table_getLength",
    "_hv_table_setLength", "_hv_table_getBuffer", "_hv_sendMessageToReceiverV", "_malloc"]

/-- What a compilation for browsers makes. -/
structure WebBuild where
  output : String
  isModule : Bool
  environment : String
  after : String
  before : Option String := none
  isAsync : Bool

namespace WebBuild

def setting (flag : Bool) : String := if flag then "1" else "0"

def linking (build : WebBuild) (name : String) : List String :=
  let functions := s!"_hv_{name}_new" :: s!"_hv_{name}_new_with_options" :: webFunctions
  let exported := Text.join ", " (functions.map fun function => "\"" ++ function ++ "\"")
  ["-O3", "--memory-init-file", "0", "-s", "RESERVED_FUNCTION_POINTERS=2", "-s",
    "DEFAULT_LIBRARY_FUNCS_TO_INCLUDE=$addFunction", "-s", s!"EXPORTED_FUNCTIONS=[{exported}]",
    "-s", "MODULARIZE=" ++ setting build.isModule, "-s", "ASSERTIONS=1", "-s",
    "ENVIRONMENT=" ++ build.environment, "-s", "SINGLE_FILE=1", "-s", "ALLOW_TABLE_GROWTH=1",
    "-s", "BINARYEN_ASYNC_COMPILATION=" ++ setting build.isAsync, "--post-js", build.after] ++
    (match build.before with
      | some script => ["--pre-js", script]
      | none => [])

def compileFile (compiler source : String) (extra : List String) (file : String) :
    Work String := do
  let path := source ++ "/" ++ file
  let made := Path.withoutEnding path ++ ".o"
  Work.execute ([compiler, "-I " ++ source, "-DHV_SIMD_NONE", "-ffast-math", "-DNDEBUG", "-Wall"] ++
    extra ++ ["-c", "-o", made, path]) made
  return made

def run (build : WebBuild) (job : Job) (directory name : String) : Work String := do
  let compiler ← match job.compiler with
    | some compiler => pure compiler
    | none => throw (.rejected "emcc is not in the PATH")
  let files ← Work.children job.source
  let plain ← (files.filter (Text.endsWith ".c")).mapM (compileFile compiler job.source [])
  let classes ← (files.filter (Text.endsWith ".cpp")).mapM
    (compileFile compiler job.source ["-std=c++11"])
  let objects := plain ++ classes
  let result := directory ++ "/" ++ build.output ++ ".js"
  Work.execute ([compiler] ++ objects ++ build.linking name ++
    ["-s", "WASM=1", "-s", s!"EXPORT_NAME='{build.output}_Module'", "-o", result]) result
  for object in objects do Work.remove object
  return result

end WebBuild

def web (job : Job) : Work Stage := do
  let parameters ← Work.ofExcept job.inputParameters
  let events ← Work.ofExcept job.inputEvents
  let directory := job.target ++ "/js"
  let name := job.nameOr "heavy"
  let script : Except Fault Record := do
    return [("name", .text name), ("copyright", job.banner_), ("externs", job.externs),
      ("pool_sizes_kb", ← job.poolSizes)]
  job.stage "c2js" directory do
    let wrapper := directory ++ "/hv_wrapper.js"
    Work.fill wrapper ⟨"hv_wrapper.js", none⟩ script
    let page : WebBuild :=
      { output := name, isModule := true, environment := "web", after := wrapper, isAsync := true }
    let result := Path.baseName (← page.run job directory name)
    Work.remove wrapper
    Work.fill (directory ++ "/index.html") ⟨"index.html", some Sheet.page⟩ (.ok
      [("name", .text name), ("includes", .ofTexts ["./" ++ result]), ("parameters", parameters),
        ("events", events), ("copyright", .text (Banner.markup job.banner))])
    let worklet := directory ++ "/hv_worklet.js"
    Work.fill worklet ⟨"hv_worklet.js", none⟩ script
    let start := directory ++ "/hv_worklet_start.js"
    Work.fill start ⟨"hv_worklet_start.js", none⟩ script
    let thread : WebBuild :=
      { output := name ++ "_AudioLibWorklet", isModule := false, environment := "worker"
        after := worklet, before := some start, isAsync := false }
    let _ ← thread.run job directory name
    Work.remove worklet
    Work.remove start
    return result

end PatchCompiler.Generator
