import PatchCompiler.Platform.BuildPlan
import PatchCompiler.Platform.Job
import PatchCompiler.Sheet.PluginSource

/-!
# Plugins

The code with what makes it a plugin for audio hosts. Details of the patch tell more about the
plugin, and may ask for a project around it.
-/

namespace PatchCompiler.Generator

def plugin (job : Job) : Work Stage := do
  let receivers ← Work.ofExcept job.inputParameters
  let (name, details) ← Work.ofExcept job.renamed
  let details := details.getD "dpf" (.record [])
  let detail ← match details with
    | .record fields => pure fun field fallback => Record.getD fields field fallback
    | other => throw (.noMember s!"{other.kindName} has no details")
  let inProject := (detail "project" .null).isTrue
  let path := detail "dpf_path" (.text "")
  let directory := job.target ++ "/plugin"
  let code := directory ++ "/source"
  let className := "HeavyDPF_" ++ name.display
  let common : Record :=
    [("name", name), ("meta", details), ("class_name", .text className),
      ("num_input_channels", job.inputs), ("num_output_channels", job.outputs),
      ("receivers", receivers), ("copyright", job.banner_)]
  let withSizes : Except Fault Record := do
    return common ++ [("pool_sizes_kb", ← job.poolSizes)]
  let forMake : Record := [("name", name), ("meta", details), ("dpf_path", path)]
  job.stage "c2dpf" directory do
    Work.clear directory
    Work.addAssets directory ["README.md"]
    if inProject then Work.addAssets job.target ["README.md"]
    Work.copyTree job.source code
    Work.fill (code ++ "/" ++ className ++ ".hpp") ⟨"HeavyDPF.hpp", some Sheet.pluginHeader⟩
      (.ok common)
    Work.fill (code ++ "/" ++ className ++ ".cpp") ⟨"HeavyDPF.cpp", some Sheet.pluginSource⟩
      withSizes
    Work.fill (code ++ "/DistrhoPluginInfo.h") ⟨"DistrhoPluginInfo.h", some Sheet.pluginInfo⟩
      withSizes
    Work.fill (code ++ "/Makefile") ⟨"Makefile", some Sheet.pluginMakefile⟩ (.ok forMake)
    if inProject then
      Work.fill (job.target ++ "/Makefile") ⟨"Makefile.project", some Sheet.projectMakefile⟩
        (.ok forMake)
    Work.writePlan directory (.ofTexts [(.linux, ["-j"])])
    return "DistrhoPluginInfo.h"

end PatchCompiler.Generator
