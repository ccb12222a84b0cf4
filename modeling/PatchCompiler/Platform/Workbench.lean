import PatchCompiler.Files
import PatchCompiler.Template.Render

/-!
# The workbench

What generators work on: the files, the record of templates that were filled, and the record of
commands that were run. What was done before a failure stays.
-/

namespace PatchCompiler

/-- A template by name. The text of some templates is kept by the installation. -/
structure Sheet where
  name : String
  template : Option Template := none

structure Workbench where
  files : Files
  fillings : List (String × Record) := []
  commands : List (List String) := []

abbrev Work := EStateM Fault Workbench

namespace Work

def ofExcept {α : Type} (result : Except Fault α) : Work α :=
  match result with
  | .ok value => return value
  | .error fault => throw fault

def change (f : Files → Files) : Work Unit :=
  modify fun bench => { bench with files := f bench.files }

def write (path : String) (content : Content) : Work Unit :=
  change fun files => files.write (Path.normal path) content

def clear (directory : String) : Work Unit :=
  change fun files => files.eraseBelow (Path.normal directory)

def remove (path : String) : Work Unit := do
  if !(← get).files.hasFile path then throw (.fileMissing path)
  change fun files => files.erase (Path.normal path)

def copyTree (source target : String) : Work Unit := do
  let entries := (← get).files.below (Path.normal source)
  if entries.isEmpty then throw (.fileMissing source)
  for (path, content) in entries do write (target ++ "/" ++ path) content

def addAssets (directory : String) (names : List String) : Work Unit := do
  for name in names do write (directory ++ "/" ++ name) (.asset name)

def children (directory : String) : Work (List String) := do
  let names := (← get).files.children (Path.normal directory)
  if names.isEmpty then throw (.fileMissing directory)
  return names

def refuseExisting (directory : String) : Work Unit := do
  if (← get).files.has directory then throw (.fileExists directory)

def filled (sheet : Sheet) (names : Record) : Work Content := do
  modify fun bench => { bench with fillings := bench.fillings ++ [(sheet.name, names)] }
  match sheet.template with
  | some template => return .text (← ofExcept (template.render names))
  | none => return .asset sheet.name

/-- Fills a template into a file. The file is there, and empty, if that fails. -/
def fill (path : String) (sheet : Sheet) (names : Except Fault Record) : Work Unit := do
  write path (.text "")
  write path (← filled sheet (← ofExcept names))

def execute (command : List String) (made : String) : Work Unit := do
  modify fun bench => { bench with commands := bench.commands ++ [command] }
  write made (.text "")

end Work

end PatchCompiler
