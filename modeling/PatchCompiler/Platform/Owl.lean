import PatchCompiler.Platform.BuildPlan
import PatchCompiler.Platform.Job
import PatchCompiler.Sheet.Owl

/-!
# Effect pedals

The code with what makes it a patch of an effect pedal. The pedal has channels, and a table says
which receivers and senders of the program are connected to them.
-/

namespace PatchCompiler

/-- Whether a channel takes values from the pedal or gives values to it. -/
inductive ChannelSide where
  | receiver
  | sender
  deriving DecidableEq, Repr

/-- A connection of a name of the program to a channel of the pedal. -/
structure Channel where
  channel : Value
  name : String
  side : ChannelSide
  hash : String
  least : Value
  greatest : Value
  standard : Value

namespace Channel

def buttons : List String :=
  ["Push", "B1", "B2", "B3", "B4", "B5", "B6", "B7", "B8"]

def isButton (channel : Channel) : Bool :=
  buttons.any fun name => channel.channel.equals (.text name)

def opening : String := "Channel-"

/-- The connection of a name with attributes, if there is one: the attributes name a channel, or
the name itself does. -/
def find (side : ChannelSide) (name attributes : Value) : Except Fault (Option Channel) := do
  let raw ← attributes.fieldOr "raw" .null
  if raw.isTrue then
    let hash := Hash.literal (← Hash.ofValue name)
    return some ⟨raw, name.display, side, hash, ← attributes.need "min", ← attributes.need "max",
      ← attributes.need "default"⟩
  else
    let s ← name.needText "startswith"
    if Text.startsWith opening s then
      let hash := Hash.literal (← Hash.ofText s)
      let channel := String.ofList (s.toList.drop opening.length)
      return some ⟨.text channel, s, side, hash, .int 0, .int 1, .null⟩
    else return none

/-- The channels of the receivers of a program. Receivers of the system are left out. -/
def ofReceivers (program : Value) : Except Fault (List Channel) := do
  let receivers ← (← (← program.need "control").need "receivers").needFields
  let found ← receivers.mapM fun (name, receiver) => do
    if Text.startsWith "__" name then return none
    else find .receiver (.text name) (← receiver.need "attributes")
  return found.filterMap id

def ofSender (object : Value) : Except Fault (Option Channel) := do
  if !(← object.need "type").equals (.text "__send") then return none
  let arguments ← object.need "args"
  find .sender (← arguments.need "name") (← arguments.need "attributes")

/-- The channels of the senders of a program. Senders that are not understood have none. -/
def ofSenders (program : Value) : Except Fault (List Channel) := do
  let objects ← (← program.need "objects").needFields
  return objects.filterMap fun (_, object) =>
    match ofSender object with
    | .ok channel => channel
    | .error _ => none

def ofProgram (program : Value) : Except Fault (List Channel) := do
  return (← ofReceivers program) ++ (← ofSenders program)

def toValue (channel : Channel) : Value :=
  let (name, side) := match channel.side with
    | .receiver => (channel.name, "RECV")
    | .sender => (channel.name ++ ">", "SEND")
  .list [channel.channel, .text name, .text side, .text channel.hash, channel.least,
    channel.greatest, channel.standard, .bool channel.isButton]

end Channel

namespace Generator

def owl (job : Job) : Work Stage := do
  let directory := job.target ++ "/Source"
  let name := job.nameOr "heavy"
  job.stage "c2owl" directory do
    Work.clear directory
    Work.copyTree job.source directory
    Work.addAssets directory ["HvMessage.c", "HvUtils.h"]
    let path := job.source ++ "/../ir/" ++ name ++ ".heavy.ir.json"
    let program ← match (← get).files.find? (Path.normal path) with
      | some content => Work.ofExcept content.value
      | none => throw (.fileMissing path)
    let channels ← Work.ofExcept (Channel.ofProgram program)
    let rows := Value.list (channels.map Channel.toValue)
    Work.fill (directory ++ "/HeavyOWL_" ++ name ++ ".hpp") ⟨"HeavyOwl.hpp", some Sheet.owlPatch⟩
      (.ok [("jdata", rows), ("name", .text name), ("copyright", job.banner_)])
    Work.fill (directory ++ "/HeavyOwlConstants.h")
      ⟨"HeavyOwlConstants.h", some Sheet.owlConstants⟩
      (.ok [("jdata", rows), ("copyright", job.banner_)])
    Work.writePlan directory (.ofTexts [(.linux, ["-j"])])
    return "HeavyOwlConstants.h"

end Generator

end PatchCompiler
