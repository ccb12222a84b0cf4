import PatchCompiler.Patch.Dollar
import PatchCompiler.Patch.Linking
import PatchCompiler.Patch.Raw

/-!
# Making boxes

Every kind of box reads its own arguments when it is made, and complains about those it cannot use.
-/

namespace PatchCompiler

/-- Operators of the patch language with the objects that stand for them. -/
def operators : List (String × String) :=
  [("+", "+"), ("+~", "+"), ("-", "-"), ("-~", "-"), ("*", "*"), ("*~", "*"), ("/", "/"),
    ("/~", "/"), ("mod", "mod"), ("%", "%"), ("max", "max"), ("max~", "max"), ("min", "min"),
    ("min~", "min"), ("&", "&"), ("&&", "&&"), ("|", "|"), ("||", "||"), ("==", "=="),
    ("!=", "!="), ("<", "<"), ("<=", "<="), (">", ">"), (">=", ">="), ("pow", "pow"),
    ("pow~", "pow"), (">>", ">>"), ("<<", "<<")]

def specialTypes : List String :=
  ["adc~", "dac~", "inlet", "inlet~", "outlet", "outlet~", "pack", "route", "sel", "select", "t",
    "trigger", "table", "unpack", "s", "send", "s~", "send~", "throw~", "r", "receive", "r~",
    "receive~", "catch~"]

def isSpecial (type : String) : Bool :=
  specialTypes.contains type || (operators.lookup type).isSome

def numberOrWord : Value → Value
  | value =>
    match value.toDouble with
    | .ok x => .real x
    | .error _ => value

def note (code : NoticeCode) (message : String) : Notice :=
  { code := some code.number, message }

/-- The arguments of an object of the catalogue by name, and what is wrong with those given. An
argument that is not given is left out. -/
def directArguments (type : String) (specs : List Catalogue.ArgumentSpec) (given : List Value) :
    Record × List Notice :=
  let step := fun (state : Record × List Notice) (entry : Catalogue.ArgumentSpec × Nat) =>
    let (spec, place) := entry
    match (given[place]?).getD .null with
    | .null =>
      if spec.required then
        (state.1, state.2 ++ [note .error (s!"Required argument \"{spec.name}\" to object " ++
          s!"{type} not present: {(Value.list given).display}")])
      else state
    | value =>
      match convertArgument .patch spec.type value with
      | .ok converted => (state.1.set spec.name converted, state.2)
      | .error fault =>
        (state.1, state.2 ++ [note .error (s!"Heavy {type} cannot convert argument " ++
          s!"\"{spec.name}\" with value \"{value.display}\" to type {spec.type.name}: " ++
          fault.message)])
  specs.zipIdx.foldl step ([], [])

def directSpecs (type : String) : Except Fault (List Catalogue.ArgumentSpec) :=
  match Catalogue.languageSpec? type, Catalogue.irSpec? type with
  | some spec, _ => .ok spec.arguments
  | none, some spec =>
    match spec.arguments with
    | some arguments => .ok arguments
    | none => .error (.missingField "args")
  | none, none => .error (.assertion s!"{type} is not a Heavy Lang or IR object.")

/-- The words that occur most often, the first of them, and how often. -/
def mostFrequent (words : List String) : String × Nat :=
  words.foldl (fun best word => if best.2 < words.count word then (word, words.count word) else best)
    ("", 0)

def caseErrors (name : String) (words : List String) : List Notice :=
  (if words.isEmpty then [note .error "At least one argument is required."] else []) ++
  (if ¬words.Nodup then
    let (word, count) := mostFrequent words
    [note .repeatedArguments (s!"All arguments to [{name}] must be unique. Argument \"{word}\" " ++
      s!"is repeated {count} times.")]
  else [])

structure ParameterRange where
  min : Binary64 := .zero
  max : Binary64 := .ofRatio false 1 1
  default : Binary64 := .ofRatio false 1 2
  type : String := "float"

namespace ParameterRange

/-- Reads least, greatest and default value and the type, as far as they are given. The truth value
says whether a word was not a number. -/
def ofWords (range : ParameterRange) : List String → ParameterRange × Bool
  | [] => (range, false)
  | low :: rest =>
    match readDouble? low with
    | none => (range, true)
    | some min => ofGreatest { range with min } rest
where
  ofGreatest (range : ParameterRange) : List String → ParameterRange × Bool
    | [] => (range, false)
    | high :: rest =>
      match readDouble? high with
      | none => (range, true)
      | some max => ofDefault { range with max } rest
  ofDefault (range : ParameterRange) : List String → ParameterRange × Bool
    | [] => (range, false)
    | value :: rest =>
      match readDouble? value with
      | none => (range, true)
      | some default => ({ range with default, type := rest.head?.getD range.type }, false)

def toRecord (range : ParameterRange) : Record :=
  [("min", .real range.min), ("max", .real range.max), ("default", .real range.default),
    ("type", .text range.type)]

def errors (range : ParameterRange) : List Notice :=
  let atMost := fun (x y : Binary64) => x.compare y == some .lt || x.compare y == some .eq
  let shown := fun (x : Binary64) => x.significantText 6
  (if atMost range.min range.default then [] else
    [note .error ("Default parameter value is less than the minimum. " ++
      s!"Receiver will not be exported: {shown range.default} < {shown range.min}")]) ++
  (if atMost range.default range.max then [] else
    [note .error ("Default parameter value is greater than the maximum. " ++
      s!"Receiver will not be exported: {shown range.default} > {shown range.max}")])

end ParameterRange

def isRaw (words : List String) : Bool :=
  words.contains "@raw" || words.contains "@owl"

def exportWord (words : List String) : Option String :=
  match words[1]? with
  | some "@hv_param" => some "param"
  | some "@hv_event" => some "event"
  | _ => none

/-- A box with what is said of it when it is made. -/
structure Made where
  role : Role
  arguments : BoxArguments
  warnings : List Notice := []
  errors : List Notice := []

namespace Made

def plain (role : Role) (words : List String) : Made :=
  { role, arguments := .list (words.map .text) }

def pack (words : List String) : Made :=
  let values := if words.isEmpty then [Value.real .zero, .real .zero] else
    words.filterMap fun word =>
      match readDouble? word with
      | some x => some (.real x)
      | none => if ["f", "float"].contains word then some (.real .zero) else none
  let refused := words.filter fun word =>
    (readDouble? word).isNone && !(["f", "float"].contains word)
  { plain (.pack values) words with
    errors := refused.map fun word =>
      note .packArguments s!"\"{word}\" argument to [pack] object not supported." }

def cases (role : Role) (name : String) (words : List String) : Made :=
  { role
    arguments := .list (words.map fun word => numberOrWord (.text word))
    errors := caseErrors name words }

def trigger (words : List String) : Made :=
  let casts := words.map fun word => if (readDouble? word).isSome then "f" else word
  if casts.isEmpty then
    { plain .trigger ["b", "b"] with
      warnings := [note .warning "A trigger with no arguments defualts to [t b b]."] }
  else
    { plain .trigger casts with
      errors :=
        if casts.all ["a", "f", "s", "b"].contains then []
        else [note .castArguments "Heavy only supports arguments 'a', 'f', 's', and 'b'."] }

def table (words : List String) : Made :=
  let size := (words[1]?).bind readInt?
  let tabling : Tabling :=
    { name := words.head?.getD ""
      size := size.getD 0
      exported := size.isSome && words[2]? == some "@hv_table" }
  { plain (.table tabling) words with
    errors :=
      if words.isEmpty then [note .missingArgument "Missing \"name\" argument for table"]
      else [] }

def unpack (words : List String) : Made :=
  { plain .unpack words with
    errors :=
      if words.isEmpty then [note .error "Unpack requires at least one argument."] else []
    warnings :=
      if words.all ["f", "s"].contains then []
      else [note .warning "Heavy only supports arguments 'f' and 's' to unpack."] }

def send (type : String) (words : List String) : Made :=
  let exported := if ["s", "send"].contains type then exportWord words else none
  let sending : Sending := { name := words.head?.getD "", exported }
  if isRaw words then
    match RawParameter.ofWords words with
    | .ok raw =>
      plain (.send { sending with exported := some "param", attributes := raw.toRecord }) words
    | .error fault =>
      { plain (.send sending) words with errors := [note .error fault.message] }
  else plain (.send sending) words

def receive (number : Nat) (type : String) (words : List String) : Made :=
  let control := ["r", "receive"].contains type
  let name := words.head?.getD ""
  let exported := if control then exportWord words else none
  let priority :=
    if control && exported.isNone then
      ((words[1]?).bind readInt?).bind fun n => if n = 0 then none else some n
    else none
  let (range, isBad) := ParameterRange.ofWords {} (words.drop 2)
  let isParameter := exported == some "param"
  let rangeErrors := if isParameter then range.errors else []
  let receiving : Receiving :=
    { name, number, priority
      exported := if rangeErrors.isEmpty then exported else none
      attributes := if isParameter then range.toRecord else [] }
  let warnings :=
    if isParameter && isBad then
      [note .warning (s!"Minimum, maximum, and default values for Parameter {name}  " ++
        "must be numbers.")]
    else []
  if isRaw words then
    match RawParameter.ofWords words with
    | .ok raw =>
      { plain (.receive { receiving with
          exported := some "param"
          attributes := receiving.attributes.update raw.toRecord }) words with
        warnings, errors := rangeErrors }
    | .error fault =>
      { plain (.receive receiving) words with
        warnings, errors := rangeErrors ++ [note .error fault.message] }
  else { plain (.receive receiving) words with warnings, errors := rangeErrors }

def remoteMessage (s : String) : Except Fault Value :=
  match Text.wordTexts s with
  | [] => .error .outOfRange
  | receiver :: rest =>
    .ok (.record [("receiver", .text receiver), ("message", Value.ofTexts rest)])

def isMixedReference (word : String) : Bool :=
  match references word.toList with
  | digits :: _ => digits.length + 1 < word.length
  | [] => false

/-- A message box. Commas separate messages, and what follows a semicolon is sent elsewhere. -/
def message (text : String) : Except Fault Made := do
  let parts := (Text.splitText "\\;" (Text.replaceText "\\$" "$" text)).filter (· != "")
  let messages := ((parts.head?.map (Text.splitText "\\,")).getD []).map Text.wordTexts
  let messages := messages.filter fun words => !words.isEmpty
  let remote ← (parts.drop 1).mapM remoteMessage
  let mixed := messages.flatten.filter isMixedReference
  return {
    role := .message
    arguments := .named [("local", .list (messages.map Value.ofTexts)), ("remote", .list remote)]
    warnings :=
      (if parts.isEmpty then
        [note .emptyMessage "Message object is empty. Can it be removed?"] else []) ++
      (if remote.isEmpty then [] else
        [note .warning ("Message boxes don't yet support remote messages. " ++
          "These messages will be ignored.")])
    errors := mixed.map fun word =>
      note .error ("Heavy does not yet support message concatenation. " ++
        "Dollar arguments must be alone: " ++ word) }

end Made

namespace Drawing

def insertMade (type : String) (made : Made) (x y : Int) : Drawing Ref :=
  insert { type, x, y, role := made.role, arguments := made.arguments,
           warnings := made.warnings, errors := made.errors }

def makeDirect (type : String) (given : List Value) (x y : Int) : Drawing Ref := do
  let (fields, errors) := directArguments type (← ofExcept (directSpecs type)) given
  insertMade type { role := .direct, arguments := .named fields, errors } x y

def makePlain (type : String) (given : List Value) (x y : Int) : Drawing Ref :=
  insertMade type { role := .plain, arguments := .list given } x y

def makeGate (type : String) (given : List Value) (x y : Int) : Drawing Ref := do
  if !(["inlet", "inlet~", "outlet", "outlet~"].contains type) then throw (.assertion "")
  insertMade type { role := .gate, arguments := .list given } x y

def makeComment (text : String) (x y : Int) : Drawing Ref :=
  makeDirect "comment" [.text text] x y

def makeSwitchcase (given : List Value) (x y : Int) : Drawing Ref :=
  insertMade "__switchcase"
    { role := .switchcase, arguments := .list (given.map numberOrWord) } x y

def makeMessage (text : String) (x y : Int) : Drawing Ref := do
  insertMade "msg" (← ofExcept (Made.message text)) x y

def makeReceive (type : String) (words : List String) (x y : Int) : Drawing Ref := do
  let patch ← get
  set { patch with receivers := patch.receivers + 1 }
  insertMade type (Made.receive (patch.receivers + 1) type words) x y

def makeSpecial (type : String) (words : List String) (x y : Int) : Drawing Ref :=
  match type with
  | "adc~" | "dac~" => insertMade type (.plain .audio words) x y
  | "inlet" | "inlet~" | "outlet" | "outlet~" => makeGate type (words.map .text) x y
  | "pack" => insertMade type (.pack words) x y
  | "route" => insertMade type (.cases .route "route" words) x y
  | "sel" | "select" => insertMade type (.cases .select "select" words) x y
  | "t" | "trigger" => insertMade "trigger" (.trigger words) x y
  | "table" => insertMade type (.table words) x y
  | "unpack" => insertMade type (.unpack words) x y
  | "s" | "send" | "s~" | "send~" | "throw~" => insertMade type (.send type words) x y
  | "r" | "receive" | "r~" | "receive~" | "catch~" => makeReceive type words x y
  | _ => insertMade type (.plain .operator words) x y

def makeCanvas (role : Role) (arguments : List Value) (path : String) (x y : Int) :
    Drawing Ref := do
  if arguments.isEmpty then
    throw (.assertion "PdGraph arguments must contain at least dollar zero.")
  insert { type := "graph", role, arguments := .list arguments, x, y, canvas := { path } }

def declare (canvas : Ref) (index : Int) (declaration : Declaration) : Drawing Unit := do
  let declared := (← box canvas).canvas.declared
  let wanted := (index + 1).toNat
  let declared := declared ++ List.replicate (wanted - declared.length) none
  match place? declared.length index with
  | none => throw .assignedOutOfRange
  | some place =>
    changeCanvas canvas fun c => { c with declared := declared.set place (some declaration) }

end Drawing

end PatchCompiler
