import PatchCompiler.Platform.Job
import PatchCompiler.Sheet.External

/-!
# Externals

The code with what makes it an object for patches.
-/

namespace PatchCompiler.Generator

def isProjectFile (name : String) : Bool :=
  [".h", ".hpp", ".c", ".cpp"].any fun ending => Text.endsWith ending name

def external (job : Job) : Work Stage := do
  let directory := job.target ++ "/pdext"
  let receivers ← Work.ofExcept job.inputParameters
  let name := job.nameOr "heavy"
  let structName := name ++ "_tilde"
  let displayName := Value.text (name ++ "~")
  let file := structName ++ ".c"
  Work.clear directory
  Work.copyTree job.source directory
  Work.addAssets directory ["m_pd.h"]
  let stage ← job.stage "c2pdext" directory do
    Work.fill (directory ++ "/" ++ file) ⟨"pd_external.c", some Sheet.externalSource⟩ (.ok
      [("name", .text name), ("struct_name", .text structName), ("display_name", displayName),
        ("num_input_channels", job.inputs), ("num_output_channels", job.outputs),
        ("receivers", receivers), ("copyright", job.banner_)])
    let project := directory ++ "/" ++ structName ++ ".xcodeproj"
    Work.refuseExisting project
    let files := (← Work.children directory).filter isProjectFile
    Work.fill (project ++ "/project.pbxproj") ⟨"project.pbxproj", none⟩
      (.ok [("name", displayName), ("files", .ofTexts files)])
    return file
  return { stage with output := some (some ⟨file, directory⟩) }

end PatchCompiler.Generator
