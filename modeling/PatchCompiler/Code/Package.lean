import PatchCompiler.Banner
import PatchCompiler.Code.Layout
import PatchCompiler.Code.Messages
import PatchCompiler.Code.Process
import PatchCompiler.Files
import PatchCompiler.Sheet.Header
import PatchCompiler.Sheet.Source
import PatchCompiler.Template.Render

/-!
# Packages of code

The code of a program: a class that holds its objects, an interface to the class, and the files of
the installation that its objects need.
-/

namespace PatchCompiler

def baseFiles : List String :=
  ["HeavyContextInterface.hpp", "HeavyContext.hpp", "HeavyContext.cpp", "HvHeavy.h",
    "HvHeavyInternal.h", "HvHeavy.cpp", "HvUtils.h", "HvUtils.c", "HvMath.h", "HvMessageQueue.h",
    "HvMessageQueue.c", "HvMessagePool.h", "HvMessagePool.c", "HvTable.h", "HvTable.c",
    "HvMessage.h", "HvMessage.c", "HvLightPipe.h", "HvLightPipe.c"]

structure CodeObject where
  id : String
  type : String
  family : Family
  value : Value

namespace CodeObject

def ofValue (id : String) (value : Value) : Except Fault CodeObject := do
  let type := (← value.need "type").display
  return ⟨id, type, ← Family.ofType type, value⟩

def find (program id : Value) : Except Fault CodeObject := do
  ofValue id.display (← (← program.need "objects").needEntry id)

def arguments (object : CodeObject) : Except Fault Value :=
  object.value.need "args"

end CodeObject

/-- Lines of code by where they belong. -/
structure Sections where
  setup : List String
  definitions : List String
  release : List String
  bodies : List String
  declarations : List String
  tableData : List String
  process : List String

namespace Sections

def ofInitial (program id : Value) : Except Fault (List String × List String × List String) := do
  let object ← CodeObject.find program id
  let ⟨id, type, family, _⟩ := object
  let setup ← family.setup type id (← object.arguments)
  return (setup, ← family.definition type id, ← family.release type id)

/-- The function that sends the messages of an object, and its declaration. -/
def ofSender (program sender : Value) : Except Fault (String × List String) := do
  let object ← CodeObject.find program (← sender.need "id")
  let ⟨id, type, family, _⟩ := object
  let body ← family.body type id (← sender.need "onMessage") (← program.need "objects")
  let declaration ← family.declaration type id
  let _ ← object.arguments
  return (Layout.function body, declaration)

def ofTable (program table : Value) : Except Fault (List String) := do
  let object ← CodeObject.find program (← table.need "id")
  object.family.tableData object.id (← object.arguments)

def ofCall (program call : Value) : Except Fault (List String) := do
  let object ← CodeObject.find program (← call.need "id")
  match ← object.family.process object.type call (← object.arguments) with
  | some lines => return lines
  | none => throw (.badType "the object has no call")

def ofProgram (program : Value) : Except Fault Sections := do
  let initial ← (← (← (← program.need "init").need "order").needItems).mapM (ofInitial program)
  let senders ← (← (← (← program.need "control").need "sendMessage").needItems).mapM
    (ofSender program)
  let tables ← (← (← program.need "tables").needFields).mapM fun table => ofTable program table.2
  let calls ← (← (← (← program.need "signal").need "processOrder").needItems).mapM
    (ofCall program)
  return {
    setup := initial.flatMap (·.1)
    definitions := initial.flatMap (·.2.1)
    release := initial.flatMap (·.2.2)
    bodies := senders.map (·.1)
    declarations := senders.flatMap (·.2)
    tableData := tables.flatten
    process := calls.flatten }

end Sections

structure Package where
  files : List (String × Content)
  counter : Counter

namespace Package

def sortedSet (texts : List String) : List String :=
  texts.eraseDups.mergeSort fun a b => !(b < a)

/-- The package of a program. What the program opens to the outside, and the banner of files, are
given. -/
def ofProgram (program externs : Value) (banner : String) : Except Fault Package := do
  let objects ← (← (← program.need "objects").needFields).mapM fun entry =>
    CodeObject.ofValue entry.1 entry.2
  let headers := sortedSet (objects.flatMap (·.family.headers))
  let assets := sortedSet (objects.flatMap (·.family.sources) ++ baseFiles)
  let sections ← Sections.ofProgram program
  let name ← (← program.need "name").need "escaped"
  let receivers ← (← (← program.need "control").need "receivers").needFields
  let receivers := receivers.mergeSort fun a b => !(b.1 < a.1)
  let signal ← program.need "signal"
  let banner := Value.text (Banner.block banner)
  let classHeader ← Sheet.classHeader.render
    [("name", name), ("include_set", .ofTexts headers),
      ("decl_list", .ofTexts sections.declarations), ("def_list", .ofTexts sections.definitions),
      ("signal", signal), ("copyright", banner), ("externs", externs)]
  let source ← Sheet.source.render
    [("name", name), ("signal", signal), ("init_list", .ofTexts sections.setup),
      ("free_list", .ofTexts sections.release), ("impl_list", .ofTexts sections.bodies),
      ("send_receive", .record receivers), ("send_table", ← program.need "tables"),
      ("process_list", .ofTexts sections.process),
      ("table_data_list", .ofTexts sections.tableData), ("copyright", banner)]
  let header ← Sheet.header.render
    [("name", name), ("copyright", banner), ("externs", externs)]
  let stem := "Heavy_" ++ name.display
  return {
    files := [(stem ++ ".hpp", .text classHeader), (stem ++ ".cpp", .text source),
      (stem ++ ".h", .text header)] ++ assets.map fun file => (file, .asset file)
    counter := objects.foldl (fun counter object => counter.bump object.type 1) [] }

end Package

end PatchCompiler
