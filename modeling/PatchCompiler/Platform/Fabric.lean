import PatchCompiler.Platform.BuildPlan
import PatchCompiler.Platform.Job
import PatchCompiler.Sheet.Makefiles

/-!
# Components of games

The code with what makes it a sound component of a game.
-/

namespace PatchCompiler.Generator

def namePlace : String := "\x7b\x7bname\x7d\x7d"

def fabricSheets : List Sheet :=
  [⟨"android/jni/Android.mk", none⟩, ⟨"android/jni/Application.mk", none⟩,
    ⟨"linux/Makefile", some Sheet.fabricMakefile⟩,
    ⟨"source/fabric/Hv_\x7b\x7bname\x7d\x7d_FabricDSP.cs", none⟩,
    ⟨"source/fabric/Hv_\x7b\x7bname\x7d\x7d_FabricDSPEditor.cs", none⟩,
    ⟨"vs2015/Hv_\x7b\x7bname\x7d\x7d_Fabric.sln", none⟩, ⟨"vs2015/lib\x7b\x7bname\x7d\x7d.vcxproj", none⟩,
    ⟨"xcode/Hv_\x7b\x7bname\x7d\x7d_Fabric.xcodeproj/project.pbxproj", none⟩]

def fabric (job : Job) : Work Stage := do
  let inputs ← Work.ofExcept job.inputParameters
  let outputs ← Work.ofExcept job.outputParameters
  let inputEvents ← Work.ofExcept job.inputEvents
  let outputEvents ← Work.ofExcept job.outputEvents
  let directory := job.target ++ "/fabric"
  let name := job.nameOr "heavy"
  let code := directory ++ "/source/heavy"
  job.stage "c2fabric" directory do
    Work.clear directory
    Work.copyTree job.source code
    for sheet in fabricSheets do
      let path := Text.replaceText namePlace name (directory ++ "/" ++ sheet.name)
      Work.fill path sheet (.ok
        [("patch_name", .text name), ("project_name", .text s!"Hv_{name}_Fabric"),
          ("lib_name", .text name), ("num_input_channels", job.inputs),
          ("num_output_channels", job.outputs), ("in_parameters", inputs),
          ("out_parameters", outputs), ("in_events", inputEvents), ("out_events", outputEvents),
          ("compile_files", .ofTexts (← Work.children code)),
          ("copy_files", .ofTexts [s!"Hv_{name}_FabricDSP.cs", s!"Hv_{name}_FabricDSPEditor.cs"]),
          ("copyright", job.banner_)])
    Work.writePlan directory (.standard s!"Hv_{name}_Fabric")
    return ""

end PatchCompiler.Generator
