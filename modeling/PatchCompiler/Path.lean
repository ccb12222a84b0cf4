import PatchCompiler.Text.Basic

/-!
# Paths

Paths of files as texts with slashes.
-/

namespace PatchCompiler.Path

def baseName (path : String) : String :=
  ((Text.splitText "/" path).getLast?).getD path

/-- The part before the last slash, without slashes at its end unless it has nothing else. -/
def directory (path : String) : String :=
  let head := String.ofList ((path.toList.reverse.dropWhile (· != '/')).reverse)
  let bare := String.ofList ((head.toList.reverse.dropWhile (· == '/')).reverse)
  if bare.isEmpty then head else bare

/-- A path below a directory; an absolute path stands for itself. -/
def join (directory path : String) : String :=
  if Text.startsWith "/" path then path
  else if directory.isEmpty || Text.endsWith "/" directory then directory ++ path
  else directory ++ "/" ++ path

def addStep (absolute : Bool) (steps : List String) (step : String) : List String :=
  if step.isEmpty || step == "." then steps
  else if step != ".." then step :: steps
  else
    match steps with
    | [] => if absolute then [] else [".."]
    | last :: rest => if last == ".." then step :: steps else rest

/-- The path without empty steps, without steps to the directory itself and without steps that go
up and can be taken back. -/
def normal (path : String) : String :=
  let absolute := Text.startsWith "/" path
  let steps := ((Text.splitText "/" path).foldl (addStep absolute) []).reverse
  let slashes :=
    if !absolute then "" else if Text.startsWith "//" path && !Text.startsWith "///" path then "//"
    else "/"
  let text := slashes ++ Text.join "/" steps
  if text.isEmpty then "." else text

/-- The path as seen from the root, for a path seen from the directory `home`. -/
def absolute (home path : String) : String :=
  normal (join home path)

/-- A name without its last ending, if it has one that is not at its start. -/
def withoutEnding (path : String) : String :=
  let name := baseName path
  let body := name.toList.dropWhile (· == '.')
  if body.contains '.' then
    let ending := body.reverse.takeWhile (· != '.')
    String.ofList (path.toList.take (path.length - ending.length - 1))
  else path

end PatchCompiler.Path
