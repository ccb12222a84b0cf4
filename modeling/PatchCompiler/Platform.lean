import PatchCompiler.Platform.Bela
import PatchCompiler.Platform.Daisy
import PatchCompiler.Platform.External
import PatchCompiler.Platform.Owl
import PatchCompiler.Platform.Plugin
import PatchCompiler.Platform.Unity
import PatchCompiler.Platform.Web
import PatchCompiler.Platform.Wwise

/-!
# Platforms

The platforms that code is generated for.
-/

namespace PatchCompiler

inductive Platform where
  | bela
  | fabric
  | web
  | daisy
  | plugin
  | owl
  | external
  | unity
  | wwise
  deriving DecidableEq, Repr

namespace Platform

def all : List Platform :=
  [.bela, .fabric, .web, .daisy, .plugin, .owl, .external, .unity, .wwise]

def word : Platform → String
  | .bela => "bela"
  | .fabric => "fabric"
  | .web => "js"
  | .daisy => "daisy"
  | .plugin => "dpf"
  | .owl => "owl"
  | .external => "pdext"
  | .unity => "unity"
  | .wwise => "wwise"

def ofWord? (word : String) : Option Platform :=
  all.find? fun platform => platform.word == word

def announcement : Platform → String
  | .bela => "--> Generating Bela plugin"
  | .fabric => "--> Generating Fabric plugin"
  | .web => "--> Generating Javascript"
  | .daisy => "--> Generating Daisy module"
  | .plugin => "--> Generating DPF plugin"
  | .owl => "--> Generating OWL plugin"
  | .external => "--> Generating Pd external"
  | .unity => "--> Generating Unity plugin"
  | .wwise => "--> Generating Wwise plugin"

def takesDetails (platform : Platform) : Bool :=
  platform = .daisy || platform = .plugin

def generate (platform : Platform) (job : Job) : Work Stage :=
  match platform with
  | .bela => Generator.bela job
  | .fabric => Generator.fabric job
  | .web => Generator.web job
  | .daisy => Generator.daisy job
  | .plugin => Generator.plugin job
  | .owl => Generator.owl job
  | .external => Generator.external job
  | .unity => Generator.unity job
  | .wwise => Generator.wwise job

end Platform

end PatchCompiler
