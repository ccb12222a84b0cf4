import PatchCompiler.Platform.Fabric

/-!
# Plugins of game engines

The code with what makes it an audio plugin of a game engine.
-/

namespace PatchCompiler.Generator

def unityAssets : List String :=
  ["source/unity/AudioPluginInterface.h", "source/unity/AudioPluginUtil.cpp",
    "source/unity/AudioPluginUtil.h", "xcode/Info.plist"]

def unitySheets : List Sheet :=
  [⟨"android/jni/Android.mk", none⟩, ⟨"android/jni/Application.mk", none⟩,
    ⟨"linux/Makefile", some Sheet.unityMakefile⟩,
    ⟨"source/unity/Hv_\x7b\x7bname\x7d\x7d_AudioLib.cs", none⟩,
    ⟨"source/unity/Hv_\x7b\x7bname\x7d\x7d_AudioPlugin.cpp", none⟩, ⟨"source/unity/PluginList.h", none⟩,
    ⟨"vs2015/AudioPlugin_Hv_\x7b\x7bname\x7d\x7d.vcxproj", none⟩,
    ⟨"vs2015/Hv_\x7b\x7bname\x7d\x7d_AudioLib.vcxproj", none⟩, ⟨"vs2015/Hv_\x7b\x7bname\x7d\x7d_Unity.sln", none⟩,
    ⟨"xcode/Hv_\x7b\x7bname\x7d\x7d_Unity.xcodeproj/project.pbxproj", none⟩]

def unity (job : Job) : Work Stage := do
  let parameters ← Work.ofExcept job.inputParameters
  let events ← Work.ofExcept job.inputEvents
  let tables ← Work.ofExcept job.tables
  let directory := job.target ++ "/unity"
  let name := job.nameOr "heavy"
  let code := directory ++ "/source/heavy"
  job.stage "c2unity" directory do
    Work.clear directory
    Work.addAssets directory unityAssets
    Work.copyTree job.source code
    for sheet in unitySheets do
      let path := Text.replaceText namePlace name (directory ++ "/" ++ sheet.name)
      let files := Value.ofTexts (← Work.children code)
      Work.fill path sheet (do
        let sizes ← job.poolSizes
        return [("patch_name", .text name), ("files", files), ("num_input_channels", job.inputs),
          ("num_output_channels", job.outputs), ("parameters", parameters), ("events", events),
          ("tables", tables), ("pool_sizes_kb", sizes), ("compile_files", files),
          ("copyright", job.banner_)])
    Work.writePlan directory (.standard s!"Hv_{name}_Unity")
    return ""

end PatchCompiler.Generator
