import PatchCompiler.Files
import PatchCompiler.Net.Creation
import PatchCompiler.Value.Access

/-!
# Reading graphs

A file holds a graph with its declared arguments, its objects and its wires. An object is a graph
written in place, a graph in a file of its own that is found by the object's type, or an object of
the catalogue. A file that is being read is not read again inside itself. Paths that are not absolute
are seen from the directory `home`.
-/

namespace PatchCompiler

theorem sizeOf_lookup_lt {fields : Record} {name : String} {value : Value}
    (h : fields.lookup name = some value) : sizeOf value < sizeOf fields := by
  induction fields with
  | nil => simp at h
  | cons field rest ih =>
    rw [List.lookup_cons] at h
    obtain ⟨n, v⟩ := field
    split at h
    · simp only [Option.some.injEq] at h
      subst h
      simp only [List.cons.sizeOf_spec, Prod.mk.sizeOf_spec]
      omega
    · have := ih h
      simp only [List.cons.sizeOf_spec]
      omega

theorem sizeOf_field?_lt {value inner : Value} {name : String}
    (h : value.field? name = some inner) : sizeOf inner < sizeOf value := by
  cases value <;> simp [Value.field?, Value.fields?, Record.get?] at h
  case record fields =>
    have := sizeOf_lookup_lt h
    simp only [Value.record.sizeOf_spec]
    omega

/-- Puts the arguments of a graph into a text, one after the other. A text that is just a reference
becomes the argument itself. -/
def resolveText : Record → String → Value
  | [], s => .text s
  | (name, value) :: rest, s =>
    let reference := "$" ++ name
    if Text.hasText reference s then
      if s == reference then value
      else resolveText rest (Text.replaceText reference value.display s)
    else resolveText rest s

def isUnresolved : Value → Bool
  | .text s => Text.hasText "$" s
  | _ => false

namespace Build

def fieldOf (value : Value) (name : String) : Build Value :=
  match value with
  | .record fields =>
    match Record.get? fields name with
    | some field => return field
    | none => throw (.missingField name)
  | other => throw (.badType s!"{other.kindName} has no fields")

def resolveArguments (graph : Ref) (arguments : Record) : Build Record := do
  let env := (← node graph).arguments
  let mut resolved := arguments
  for (name, value) in arguments do
    match value with
    | .text s =>
      if Text.hasText "$" s then
        let new := resolveText env s
        if isUnresolved new then
          warn graph s!"Variable \"{name}\":\"{new.display}\" could not be resolved."
          throw .changedWhileReading
        resolved := resolved.set name new
    | _ => pure ()
  return resolved

def declareArguments (env : Record) (declared : List Value) : Build Record := do
  let mut env := env
  for declaration in declared do
    let name := (← fieldOf declaration "name").display
    match env.get? name with
    | none =>
      if (← fieldOf declaration "required").isTrue then
        throw (.rejected s!"Required argument \"{name}\" not present.")
      else env := env.set name (← fieldOf declaration "default")
    | some value =>
      let type := ArgumentType.ofName (← fieldOf declaration "value_type").display
      env := env.set name (← ofExcept (convertArgument .graph type value))
  return env

def findAbstraction (files : Files) (graph : Ref) (type home : String) :
    Build (Option String) := do
  let net ← get
  let places := (net.enclosing graph).flatMap fun g => (net.node g).body.imports
  return (places.map fun place => Path.join place (type ++ ".hv.json")).find? fun path =>
    files.has (Path.absolute home path)

def listField (value : Value) (name : String) : Build (List Value) := do
  ofExcept (← fieldOf value name).needItems

def recordOf : Value → Except Fault Record
  | .record fields => .ok fields
  | value => do
      let pairs ← (← value.needItems).mapM fun item => do
        let (name, argument) ← item.needPair
        match name with
        | .list _ | .record _ => throw (.badType "a name is no text")
        | name => return (name.display, argument)
      return Record.update [] pairs

def annotationsOf (value : Value) : Record :=
  ((value.field? "annotations").bind Value.fields?).getD []

def graphName (value : Value) (given : Option String) : Except Fault (Option String) := do
  let annotations := (value.field? "annotations").getD (.record [])
  match ← annotations.fieldOr "name" ((given.map Value.text).getD .null) with
  | .null => return none
  | name => return some name.display

def importsOf (value : Value) (home : String) : Except Fault (List String) := do
  (← ((value.field? "imports").getD (.list [])).needItems).mapM fun
    | .text path => return Path.absolute home path
    | other => throw (.badType s!"expected str, bytes or os.PathLike object, not {other.kindName}")

def readWire (graph : Ref) (value : Value) : Build Unit := do
  let objectAt (id : Value) : Build Ref := do
    match id with
    | .text name =>
      match (← node graph).body.objects.lookup (.given name) with
      | some object => return object
      | none => throw (.missingField name)
    | .list _ | .record _ => throw (.badType s!"unhashable type: '{id.kindName}'")
    | other => throw (.missingField other.display)
  let start ← fieldOf value "from"
  let source ← objectAt (← fieldOf start "id")
  let outlet ← fieldOf start "outlet"
  let finish ← fieldOf value "to"
  let target ← objectAt (← fieldOf finish "id")
  let inlet ← fieldOf finish "inlet"
  let type := WireType.ofName (← fieldOf value "type").display
  for part in [outlet, inlet] do
    match part with
    | .list _ | .record _ => throw (.badType s!"unhashable type: '{part.kindName}'")
    | _ => pure ()
  match outlet.int?, inlet.int? with
  | some outlet, some inlet => connect ⟨source, outlet, target, inlet, type⟩
  | _, _ =>
    throw (.rejected (s!"Connection [{← display source}:{outlet.display}] {type.name} " ++
        s!"[{← display target}:{inlet.display}] connects to out-of-range let."))

def repeatedFile (path : String) (stack : List String) : Fault :=
  let shown := Text.join ", " ((stack.mergeSort fun a b => !(b < a)).map Text.quoted)
  .rejected (s!"Abstraction recursion detected. Rereading {path} on stack \x7b" ++ shown ++
    "\x7d.")

mutual

/-- Reads the graph of a file. `stack` are the files that are being read. -/
def loadGraph (files : Files) (parent : Option Ref) (env : Record) (stack : List String)
    (name : Option String) (path : String) (home : String := "/") : Build Ref := do
  let file := Path.absolute home path
  if _fresh : stack.contains file then throw (repeatedFile file stack)
  else
    match _found : files.find? file with
    | none => throw (.fileMissing file)
    | some content =>
      let value ← ofExcept content.value
      readGraph files parent env (file :: stack) name file value home
termination_by (files.unread stack, 0)
decreasing_by exact Prod.Lex.left _ _ (Files.unread_cons_lt _found (by simpa using _fresh))

def readGraph (files : Files) (parent : Option Ref) (env : Record) (stack : List String)
    (name : Option String) (file : String) (value : Value) (home : String) : Build Ref := do
  let env ← declareArguments env (← listField value "args")
  let graph ← makeGraph parent env file (← ofExcept (graphName value name))
  let imports ← ofExcept (importsOf value home)
  changeBody graph fun body =>
    { body with imports := "./" :: imports ++ [Path.directory file] }
  match _objects : value.field? "objects" with
  | none => throw (.missingField "objects")
  | some (.record entries) => readObjects files graph stack name file entries home
  | some _ => throw (.noMember "objects have no names")
  (← listField value "connections").forM (readWire graph)
  return graph
termination_by (files.unread stack, sizeOf value + 1)
decreasing_by
  apply Prod.Lex.right
  have := sizeOf_field?_lt _objects
  simp only [Value.record.sizeOf_spec] at this
  omega

def readObjects (files : Files) (graph : Ref) (stack : List String) (name : Option String)
    (file : String) (entries : Record) (home : String) : Build Unit := do
  match entries with
  | [] => return
  | (key, value) :: rest =>
    match ← fieldOf value "type" with
    | .text "comment" => pure ()
    | .text "graph" =>
      let env := (← node graph).arguments
      let inner ← readGraph files (some graph) env stack name file value home
      if !env.isEmpty then
        let shared := (← node inner).arguments
        change graph fun node => { node with arguments := shared }
      addNamed graph inner key
    | given =>
      let type := given.display
      let arguments ← resolveArguments graph (← ofExcept (recordOf (← fieldOf value "args")))
      let annotations := annotationsOf value
      match (← findAbstraction files graph type home).filter fun path => !stack.contains path with
      | some path =>
        let inner ← loadGraph files (some graph) arguments stack none path home
        addNamed graph inner key
      | none =>
        if given matches .list _ ∨ given matches .record _ then
          throw (.badType s!"unhashable type: '{given.kindName}'")
        match kindOf? type with
        | some kind =>
          addNamed graph (← makeKind type kind arguments annotations (some graph)) key
        | none =>
          if Catalogue.isIr type then
            addNamed graph (← makeLow type .plain arguments annotations (some graph)) key
          else reject graph s!"Object type \"{type}\" cannot be found."
    readObjects files graph stack name file rest home
termination_by (files.unread stack, sizeOf entries)
decreasing_by all_goals first
  | (apply Prod.Lex.right; simp only [List.cons.sizeOf_spec, Prod.mk.sizeOf_spec]; omega)

end

end Build

end PatchCompiler
