import PatchCompiler.Platform.Fabric

/-!
# Plugins of sound engines

The code with what makes it a plugin of a sound engine. A program with inputs is an effect, one
without is a source.
-/

namespace PatchCompiler.Generator

def typePlace : String := "\x7b\x7btype\x7d\x7d"

/-- Files of a directory, with the name and the type of the plugin left open. -/
def wwiseFiles (directory : String) (endings : List String) : List String :=
  endings.map (s!"{directory}/Hv_" ++ namePlace ++ "_Wwise" ++ ·)

def wwiseSources : List String :=
  wwiseFiles "resources" [typePlace ++ "AuthPlugin.xml"] ++
    wwiseFiles "source/authoring" ["AuthoringPlugin.cpp", "AuthoringPlugin.def",
      "AuthoringPlugin.h", "AuthoringPlugin.rc", "AuthoringPluginApp.cpp", "AuthoringPluginApp.h",
      "Resource.h"] ++
    wwiseFiles "source/engine" ["PluginEngineParams.cpp", "PluginEngineParams.h",
      typePlace ++ "PluginEngine.cpp", typePlace ++ "PluginEngine.h"] ++
    wwiseFiles "source/include" ["PluginIDs.h", typePlace ++ "PluginFactory.h"] ++
    ["AudioDecoder", "Common", "Dither", "IMA4Util", "ModplugDecoder", "PostProcess", "RiffUtils",
      "WavDecoder", "WavEncoder"].map (fun file => s!"source/include/libnyquist/{file}.h") ++
    ["source/include/stdafx.h"] ++
    ["AudioDecoder", "Common", "RiffUtils", "WavDecoder", "WavEncoder"].map
      (fun file => s!"source/libnyquist/{file}.cpp") ++
    wwiseFiles "source/runtime" ["PluginRegister.cpp"] ++ ["xcode/Info.plist"]

def wwiseAssets : List String :=
  ["source/include/stdafx.h", "xcode/Info.plist"]

def wwiseProjects : List String :=
  wwiseFiles "vs2015" (["AuthPlugin.vcxproj", "Engine.vcxproj", "Plugin.sln",
      "RuntimePlugin.vcxproj"].map (typePlace ++ ·)) ++
    ["xcode/Plugin.xcodeproj/project.pbxproj", "xcode/wwise.xcconfig"]

def wwisePath (name type sheet : String) : String :=
  if Text.endsWith "pbxproj" sheet then
    s!"xcode/Hv_ {name}_Wwise {type} Plugin .xcodeproj/project.pbxproj"
  else Text.replaceText typePlace type (Text.replaceText namePlace name sheet)

def checkEffect (job : Job) : Except Fault Unit := do
  if ← Operation.isGreater job.inputs (.int 2) then
    throw (.failed
      "Wwise FX plugins support a maximum of 2 channels (i.e. [adc~ 1] or [adc~ 1 2]).")
  if !job.inputs.equals job.outputs then
    throw (.failed ("Wwise FX plugins require the same input/output channel" ++
      "configuration (i.e. [adc~ 1] -> [dac~ 1])."))

def wwisePlan (project : String) : BuildPlan :=
  let solution := fun (platform : String) =>
    ["/property:Configuration=Release", "/property:Platform=" ++ platform, "/t:Rebuild", "/m",
      project ++ ".sln"]
  .ofTexts
    [(.iosArm, ["-arch", "armv7s", "-target", project ++ "_iOS", "-project",
        project ++ ".xcodeproj"]),
      (.linux, ["-j"]),
      (.mac, ["-arch", "x86_64", "-target", project, "-project", project ++ ".xcodeproj"]),
      (.windows, solution "x64"), (.windowsOld, solution "x86")]

def wwise (job : Job) : Work Stage := do
  let inputs ← Work.ofExcept job.inputParameters
  let outputs ← Work.ofExcept job.outputParameters
  let events ← Work.ofExcept job.inputEvents
  let tables ← Work.ofExcept job.tables
  let directory := job.target ++ "/wwise"
  let name := job.nameOr "heavy"
  let code := directory ++ "/source/heavy"
  let version := Value.text "2017.2.2.6553"
  let type := if job.inputs.equals (.int 0) then "Source" else "FX"
  let kind : Record := [("plugin_type", .text type), ("plugin_id", .int (Digest.number name))]
  let opened : Record :=
    [("name", .text name), ("parameters", inputs), ("sends", outputs), ("events", events),
      ("tables", tables)]
  job.stage "c2wwise" directory do
    if type == "FX" then Work.ofExcept (checkEffect job)
    Work.clear code
    Work.copyTree job.source code
    for sheet in wwiseSources do
      let path := directory ++ "/" ++ wwisePath name type sheet
      if wwiseAssets.contains sheet then Work.write path (.asset sheet)
      else
        let banner := if Text.endsWith ".xml" sheet then .text (Banner.markup job.banner)
          else job.banner_
        Work.fill path ⟨sheet, none⟩ (do
          return opened ++ kind ++ [("pool_sizes_kb", ← job.poolSizes), ("copyright", banner)])
    let files := Value.ofTexts (← Work.children code)
    for sheet in wwiseProjects do
      Work.fill (directory ++ "/" ++ wwisePath name type sheet) ⟨sheet, none⟩ (.ok
        (opened ++ kind ++ [("wwise_version", version), ("msbuild_version", .text "140"),
          ("files", files)]))
    Work.fill (directory ++ "/linux/Makefile") ⟨"linux/Makefile", some Sheet.wwiseMakefile⟩ (.ok
      ([("name", .text name)] ++ kind ++ [("files", files), ("wwise_version", version)]))
    Work.writePlan directory (wwisePlan s!"Hv_{name}_Wwise{type}Plugin")
    return ""

end PatchCompiler.Generator
