import PatchCompiler.Platform.Workbench

/-!
# Build plans

How a generated project is built on each system: the arguments, and where the project and the
results are.
-/

namespace PatchCompiler

/-- A system and a processor to build for. -/
inductive BuildTarget where
  | androidArm
  | iosArm
  | linuxArm
  | linux
  | mac
  | windows
  | windowsOld
  deriving DecidableEq, Repr

namespace BuildTarget

def all : List BuildTarget :=
  [.androidArm, .iosArm, .linuxArm, .linux, .mac, .windows, .windowsOld]

def system : BuildTarget → String
  | .androidArm => "android"
  | .iosArm => "ios"
  | .linuxArm | .linux => "linux"
  | .mac => "macos"
  | .windows | .windowsOld => "win"

def processor : BuildTarget → String
  | .androidArm | .iosArm | .linuxArm => "armv7a"
  | .linux | .mac | .windows => "x64"
  | .windowsOld => "x86"

def project : BuildTarget → List String
  | .androidArm => ["android", "jni"]
  | .iosArm | .mac => ["xcode"]
  | .linuxArm | .linux => ["linux"]
  | .windows | .windowsOld => ["vs2015"]

def results : BuildTarget → List String
  | .androidArm => ["android", "libs", "armeabi-v7a"]
  | .iosArm => ["build", "ios", "armv7s", "Release"]
  | .linuxArm => ["build", "linux", "armv7a", "release"]
  | .linux => ["build", "linux", "x64", "release"]
  | .mac => ["build", "macos", "x86_64", "Release"]
  | .windows => ["build", "win", "x64", "Release"]
  | .windowsOld => ["build", "win", "x86", "Release"]

end BuildTarget

/-- The arguments for each target that is built for. -/
abbrev BuildPlan := List (BuildTarget × Value)

namespace BuildPlan

def entry (target : BuildTarget) (arguments : Value) : Value :=
  .record [("args", .list [arguments]), ("projectDir", .ofTexts target.project),
    ("binaryDir", .ofTexts target.results)]

def addEntry (systems : Record) (target : BuildTarget) (arguments : Value) : Record :=
  let processors : Record := ((systems.get? target.system).bind Value.fields?).getD []
  systems.set target.system (.record (processors.set target.processor (entry target arguments)))

/-- The plan by system and processor, in the order of all targets. Targets without arguments are
left out. -/
def toValue (plan : BuildPlan) : Value :=
  .record (BuildTarget.all.foldl (fun systems target =>
    match plan.lookup target with
    | some arguments => if arguments.isTrue then addEntry systems target arguments else systems
    | none => systems) [])

def ofTexts (plan : List (BuildTarget × List String)) : BuildPlan :=
  plan.map fun (target, arguments) => (target, .ofTexts arguments)

/-- The arguments of projects that are built by makefiles, project files and solutions, named
`project`. -/
def standard (project : String) : BuildPlan :=
  let solution := fun (platform : String) =>
    ["/property:Configuration=Release", "/property:Platform=" ++ platform, "/t:Rebuild",
      project ++ ".sln", "/m"]
  ofTexts
    [(.androidArm, ["APP_ABI=armeabi-v7a", "-j"]), (.linux, ["-j"]),
      (.mac, ["-project", project ++ ".xcodeproj", "-arch", "x86_64", "-alltargets"]),
      (.windows, solution "x64"), (.windowsOld, solution "x86")]

end BuildPlan

def Work.writePlan (directory : String) (plan : BuildPlan) : Work Unit :=
  write (directory ++ "/build.json") (.json plan.toValue)

end PatchCompiler
