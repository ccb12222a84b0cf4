import PatchCompiler.CommandLine.Tool

/-!
# The program

Reads the files around what a command names, runs a tool on them, and writes what has changed.
-/

namespace PatchCompiler.Terminal

partial def readTree (directory : String) : IO (List (String × Content)) := do
  let here ← IO.currentDir
  let mut files := []
  for entry in ← (here / directory).readDir do
    let path := entry.path.toString
    if ← entry.path.isDir then files := files ++ (← readTree path)
    else
      try
        files := files ++ [(path, .text (← IO.FS.readFile path))]
      catch _ => pure ()
  return files

def filesAround (path : String) : IO (List (String × Content)) := do
  let here ← IO.currentDir
  let place := here / path
  if !(← place.pathExists) then return []
  else if (← place.isDir) && Path.baseName path != "c" then readTree path
  else readTree (Path.directory path)

def assetText (name : String) : IO String := do
  match ← IO.getEnv "PATCH_COMPILER_ASSETS" with
  | none => return ""
  | some directory =>
    try IO.FS.readFile (directory ++ "/" ++ name)
    catch _ => return ""

def writeFile (path : String) (content : Content) : IO Unit := do
  IO.FS.createDirAll (Path.directory path)
  match content with
  | .asset name => IO.FS.writeFile path (← assetText name)
  | other => IO.FS.writeFile path other.toText

def writeChanges (before after : Files) : IO Unit := do
  for (path, content) in after.entries do
    let isSame := match before.find? path, content with
      | some _, .asset _ => false
      | some old, new => old.toText == new.toText
      | none, _ => false
    if !isSame then writeFile path content
  for (path, _) in before.entries do
    if (after.find? path).isNone then IO.FS.removeFile path

def toolNamed (word : String) : Option Tool :=
  [("compile", Tool.compiler), ("read", .reader), ("lower", .lowerer), ("code", .coder),
    ("measure", .meter), ("inspect", .inspector)].lookup word

def milliseconds (nanoseconds : Nat) : String :=
  let hundredths := nanoseconds / 10000
  let places := Text.join "" (List.replicate (2 - (toString (hundredths % 100)).length) "0")
  s!"{hundredths / 100}.{places}{hundredths % 100}"

def runTool (tool : Tool) (words : List String) : IO UInt32 := do
  let start ← IO.monoNanosNow
  let home := (← IO.currentDir).toString
  let paths := words.filter fun word => !CommandSpec.isOption word
  let mut files := Files.empty
  for path in paths do
    for (path, content) in ← filesAround (Path.absolute home path) do
      files := files.write (Path.normal path) content
  match tool.run { files, home } words with
  | .error .usage => do
      IO.eprintln "the words of the command are not understood"
      return 2
  | .error (.fault fault) => do
      IO.eprintln fault.message
      return 1
  | .ok outcome => do
      writeChanges files outcome.files
      for line in outcome.printed do IO.println line
      if let some title := outcome.timed then
        let time := milliseconds ((← IO.monoNanosNow) - start)
        IO.println s!"{title}: {time}ms"
      return if outcome.failed == some true then 1 else 0

end PatchCompiler.Terminal

def main (words : List String) : IO UInt32 := do
  match words with
  | word :: rest =>
    match PatchCompiler.Terminal.toolNamed word with
    | some tool => PatchCompiler.Terminal.runTool tool rest
    | none => PatchCompiler.Terminal.runTool .compiler words
  | [] => do
      IO.eprintln "there is nothing to compile"
      return 2
