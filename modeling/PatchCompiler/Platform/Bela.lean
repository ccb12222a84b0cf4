import PatchCompiler.Platform.BuildPlan
import PatchCompiler.Platform.Job
import PatchCompiler.Sheet.Makefiles

/-!
# Small audio computers

The code with a makefile that turns it into objects for an embedded audio computer.
-/

namespace PatchCompiler.Generator

def bela (job : Job) : Work Stage := do
  let directory := job.target ++ "/bela"
  job.stage "c2bela" directory do
    Work.clear directory
    Work.copyTree job.source (directory ++ "/source")
    Work.fill (directory ++ "/linux/Makefile") ⟨"linux/Makefile", some Sheet.belaMakefile⟩
      (.ok [("name", .text (job.nameOr "heavy"))])
    Work.writePlan directory (.ofTexts [(.linuxArm, ["-j"])])
    return ""

end PatchCompiler.Generator
