import PatchCompiler.Board.Glue
import PatchCompiler.Platform.BuildPlan
import PatchCompiler.Platform.Job
import PatchCompiler.Sheet.Daisy

/-!
# Boards

The code with what makes it the firmware of a board. Details of the patch choose the board and say
how the firmware is linked.
-/

namespace PatchCompiler.Generator

def namesOf (pairs : Value) : Except Fault (List String) := do
  (← pairs.needItems).mapM fun pair => do
    let (name, _) ← pair.needPair
    name.needText "lower"

/-- The names for the main file: the glue between the program and a board. -/
def boardNames (job : Job) (name board : Value) : Except Fault Record := do
  let parameters ← job.externs.need "parameters"
  let components ← (← board.need "components").needItems
  let aliases ← board.need "aliases"
  let (glue, _) ← Glue.ofParameters (← namesOf (← parameters.need "in"))
    (← namesOf (← parameters.need "out")) (components.map Component.ofValue) aliases "hardware"
  return glue.toRecord ++
    [("class_name", ← board.need "name"), ("patch_name", name),
      ("header", .text s!"HeavyDaisy_{name.display}.hpp"),
      ("max_channels", ← board.need "channels"), ("num_output_channels", job.outputs),
      ("copyright", job.banner_)]

def stepsUp (depth : Value) : Except Fault String :=
  match depth.int? with
  | some n => .ok (String.join (List.replicate n.toNat "../"))
  | none => .error (.badType
      s!"can't multiply sequence by non-int of type '{depth.kindName}'")

def daisy (job : Job) : Work Stage := do
  let directory := job.target ++ "/daisy"
  let (name, details) ← Work.ofExcept job.renamed
  let detail ← match if job.details.isTrue then details.getD "daisy" .null else .record [] with
    | .record fields => pure fun field fallback => Record.getD fields field fallback
    | other => throw (.noMember s!"{other.kindName} has no details")
  let code := directory ++ "/source"
  let file := "HeavyDaisy_" ++ name.display
  job.stage "c2daisy" directory do
    Work.clear directory
    Work.addAssets directory ["README.md"]
    Work.copyTree job.source code
    let described := detail "board_file" .null
    let choice := if described.isTrue then BoardChoice.described described
      else .named (detail "board" (.text "seed"))
    let (header, board) := job.board choice
    let names ← Work.ofExcept (boardNames job name board)
    Work.write (code ++ "/" ++ file ++ ".hpp") (.text header)
    let main ← Work.filled ⟨"HeavyDaisy.cpp", some Sheet.daisyMain⟩ names
    Work.write (code ++ "/" ++ file ++ ".cpp") main
    let script := detail "linker_script" (.text "")
    let script := if script.equals (.text "") then script else .text ("../" ++ script.display)
    let steps ← Work.ofExcept (stepsUp (detail "libdaisy_depth" (.int 2)))
    let makefile ← Work.filled ⟨"Makefile", some Sheet.daisyMakefile⟩
      [("name", name), ("linker_script", script), ("libdaisy_path", .text (steps ++ "libdaisy")),
        ("bootloader", detail "bootloader" (.bool false))]
    Work.write (code ++ "/Makefile") makefile
    Work.writePlan directory (.ofTexts [(.linux, ["-j"])])
    return file ++ ".hpp"

end PatchCompiler.Generator
