import PatchCompiler.Hash
import PatchCompiler.Net.Membership
import PatchCompiler.Text.Word

/-!
# Making objects

An object is made from its type and arguments. Arguments that its description declares are
converted to their types, and those that are missing get their defaults.
-/

namespace PatchCompiler

/-- Settles the declared arguments of an object one after the other. `lenient` leaves an argument
without a default as it is. Whatever was settled before a failure stays settled. -/
def settleArguments (type : String) (lenient : Bool) :
    List Catalogue.ArgumentSpec → Record → Except Fault Unit × Record
  | [], arguments => (.ok (), arguments)
  | spec :: rest, arguments =>
    match arguments.get? spec.name with
    | none =>
      if spec.required then
        (.error (.rejected (s!"Required argument \"{spec.name}\" not present for object " ++
            s!"{Node.describe type arguments}.")), arguments)
      else settleArguments type lenient rest (arguments.set spec.name spec.default)
    | some value =>
      match lenient, spec.default with
      | true, .null => settleArguments type lenient rest arguments
      | _, _ =>
        match convertArgument .graph spec.type value with
        | .ok converted =>
          settleArguments type lenient rest (arguments.set spec.name converted)
        | .error fault => (.error fault, arguments)

def countOf : Value → Except Fault Nat
  | .text s => .ok s.length
  | .list items => .ok items.length
  | .record fields => .ok fields.length
  | value => .error (.badType s!"{value.kindName} has no length")

def countArgument (arguments : Record) (name : String) : Except Fault Nat :=
  match arguments.get? name with
  | some value => countOf value
  | none => .error (.missingField name)

/-- The low-level objects an operator of two operands may become: on messages, on messages with a
constant, on signals of floats and of integers. -/
def binaryForms : List (String × List String) :=
  [("+", ["__add", "__add_k", "__add~f", "__add~i"]),
    ("-", ["__sub", "__sub_k", "__sub~f", "__sub~i"]),
    ("*", ["__mul", "__mul_k", "__mul~f", "__mul~i"]),
    ("/", ["__div", "__div_k", "__div~f", "__div~i"]),
    ("max", ["__max", "__max_k", "__max~f", "__max~i"]),
    ("min", ["__min", "__min_k", "__min~f", "__min~i"]),
    (">", ["__gt", "__gt_k", "__gt~f", "__gt~i"]),
    (">=", ["__gte", "__gte_k", "__gte~f", "__gte~i"]),
    ("==", ["__eq", "__eq_k", "__eq~f", "__eq~i"]),
    ("!=", ["__neq", "__neq_k", "__neq~f", "__neq~i"]),
    ("<", ["__lt", "__lt_k", "__lt~f", "__lt~i"]),
    ("<=", ["__lte", "__lte_k", "__lte~f", "__lte~i"]),
    ("&", ["__and", "__and_k", "__and~f", "__and~i"]),
    ("&&", ["__logand", "__logand_k"]),
    ("&!", ["__andnot", "__andnot~f", "__andnot~i"]),
    ("|", ["__or", "__or_k", "__or~f", "__or~i"]),
    ("||", ["__logor", "__logor_k"]),
    ("pow", ["__pow", "__pow_k", "__pow~f", "__pow~i"]),
    ("atan2", ["__atan2", "__atan2_k", "__atan2~f"]),
    ("mod", ["__unimod", "__unimod_k"]),
    ("%", ["__bimod", "__bimod_k"]),
    (">>", ["__shiftright", "__shiftright_k"]),
    ("<<", ["__shiftleft", "__shiftleft_k"])]

def unaryForms : List (String × List String) :=
  [("log", ["__log"]),
    ("log10", ["__log10"]),
    ("log2", ["__log2", "__log2~f"]),
    ("cos", ["__cos", "__cos~f"]),
    ("acos", ["__acos", "__acos~f"]),
    ("cosh", ["__cosh", "__cosh~f"]),
    ("acosh", ["__acosh", "__acosh~f"]),
    ("sin", ["__sin", "__sin~f"]),
    ("asin", ["__asin", "__asin~f"]),
    ("sinh", ["__sinh", "__sinh~f"]),
    ("asinh", ["__asinh", "__asin~f"]),
    ("tan", ["__tan", "__tan~f"]),
    ("atan", ["__atan", "__atan~f"]),
    ("tanh", ["__tanh", "__tanh~f"]),
    ("atanh", ["__atanh", "__atanh~f"]),
    ("exp", ["__exp", "__exp~f"]),
    ("sqrt", ["__sqrt", "__sqrt~f"]),
    ("abs", ["__abs", "__abs~f", "__abs~i"]),
    ("floor", ["__floor", "__floor~f"]),
    ("ceil", ["__ceil", "__ceil~f"]),
    ("cast_fi", ["__cast~fi"]),
    ("cast_if", ["__cast~if"])]

def formsOf (forms : List (String × List String)) (type : String) : List String :=
  (forms.lookup type).getD []

/-- The kind of the types that are neither operators nor plain low-level objects. -/
def namedKind? : String → Option Kind
  | "biquad" => some .biquad
  | "if" => some .conditional
  | "inlet" => some .inlet
  | "var" => some .cell
  | "vario" => some .cellAccess
  | "outlet" => some .outlet
  | "print" => some .print
  | "sequence" => some .sequence
  | "adc" => some .adc
  | "dac" => some .dac
  | "message" => some .message
  | "noise" => some .noise
  | "system" => some .system
  | "phasor" => some .phasor
  | "line" => some .line
  | "random" => some .random
  | "delay" => some .delay
  | "table" => some .table
  | "slice" => some .slice
  | "receive" => some .receive
  | "send" => some .send
  | "__conv~f" | "__tabread~if" | "__tabread~f" | "__tabreadu~f" | "__tabread" | "__tabhead~f"
  | "__tabhead" | "__tabwrite~f" | "__tabwrite_stoppable~f" | "__tabwrite" => some .tableUser
  | "__lorenz~f" | "__switchcase" | "switchcase" | "__pack" => some .plain
  | _ => none

def kindOf? (type : String) : Option Kind :=
  if (unaryForms.lookup type).isSome then some .unary
  else if (binaryForms.lookup type).isSome then some .binary
  else namedKind? type

def declaredLets (type : String) (arguments : Record) : Kind → Except Fault (Option (Nat × Nat))
  | .unary => .ok (some (1, 1))
  | .binary => .ok (some (2, 1))
  | .biquad => .ok (some (6, 1))
  | .conditional => .ok (some (2, 2))
  | .print => .ok (some (1, 0))
  | .sequence => do return some (1, ← countArgument arguments "casts")
  | .adc => do return some (0, ← countArgument arguments "channels")
  | .dac => do return some (← countArgument arguments "channels", 0)
  | .message => .ok (some (1, 1))
  | .noise => .ok (some (1, 1))
  | .system => .ok (some (1, 1))
  | .line => .ok (some (2, 1))
  | .random => .ok (some (2, 1))
  | .delay => .ok (some (2, 1))
  | .slice => .ok (some (3, 2))
  | .plain =>
    match type with
    | "__pack" => do return some (← countArgument arguments "values", 1)
    | "__switchcase" | "switchcase" => do
        return some (1, (← countArgument arguments "cases") + 1)
    | _ => .ok none
  | _ => .ok none

def typeInNet : String → String
  | "inlet" => "__inlet"
  | "outlet" => "__outlet"
  | "switchcase" => "__switchcase"
  | type => type

namespace Build

def makeLanguage (type : String) (kind : Kind) (arguments annotations : Record)
    (graph : Option Ref) : Build Ref := do
  let lets ← ofExcept (declaredLets type arguments kind)
  let spec? := Catalogue.languageSpec? type
  let (result, settled) :=
    settleArguments type false ((spec?.map (·.arguments)).getD []) arguments
  ofExcept result
  let (inlets, outlets) ←
    match lets, spec? with
    | some lets, _ => pure lets
    | none, some spec => pure (spec.inlets.length, spec.outlets.length)
    | none, none => throw (.missingField type)
  insert
    { type, kind, identity := (← get).size, parent := graph, arguments := settled, annotations
      inlets := List.replicate inlets [], outlets := List.replicate outlets [] }

def describeLow (type : String) (lets : Option (Nat × Nat)) :
    Build (Nat × Nat × List Catalogue.ArgumentSpec) := do
  match lets, Catalogue.irSpec? type with
  | some (inlets, outlets), spec? =>
    return (inlets, outlets, ((spec?.bind (·.arguments)).getD []))
  | none, some spec =>
    return (spec.inlets.length, spec.outlets.length, spec.arguments.getD [])
  | none, none => throw (.missingField type)

def insertLow (type : String) (kind : Kind) (arguments annotations : Record) (graph : Option Ref)
    (inlets outlets : Nat) : Build Ref := do
  insert
    { type, kind, identity := (← get).size, parent := graph, arguments, annotations
      inlets := List.replicate inlets [], outlets := List.replicate outlets []
      inletBuffers := List.replicate inlets .zero
      outletBuffers := List.replicate outlets .zero }

def makeLow (type : String) (kind : Kind) (arguments annotations : Record)
    (graph : Option Ref) : Build Ref := do
  let lets ← ofExcept (declaredLets type arguments kind)
  let type := typeInNet type
  let (inlets, outlets, specs) ← describeLow type lets
  let (result, settled) := settleArguments type true specs arguments
  ofExcept result
  insertLow type kind settled annotations graph inlets outlets

def makePlain (type : String) (arguments : Record) : Build Ref :=
  makeLow type .plain arguments [] none

def hasForeignCharacter (name : Value) : Except Fault Bool :=
  match name with
  | .text s => .ok (!Text.isName s)
  | _ => .error (.badType "a name is no text")

/-- The length of a table follows its values, and the name of an open one must be a name in code. -/
def finishTable (table : Ref) : Build Unit := do
  let arguments := (← node table).arguments
  let count ← ofExcept (countOf (arguments.getD "values" (.list [])))
  if 0 < count then
    change table fun node =>
      { node with arguments := node.arguments.set "size" (.int count) }
  if (arguments.getD "extern" .null).isTrue then
    let name := arguments.getD "name" .null
    if ← ofExcept (hasForeignCharacter name) then
      reject table ("Table names may only contain alphanumeric charactersor underscore: " ++
          s!"'{name.display}'")

def makeKind (type : String) (kind : Kind) (arguments annotations : Record) (graph : Option Ref) :
    Build Ref := do
  if kind.isLanguage then
    let object ← makeLanguage type kind arguments annotations graph
    if kind = .table then finishTable object
    return object
  else makeLow type kind arguments annotations graph

def make (type : String) (arguments annotations : Record) (graph : Option Ref) : Build Ref :=
  makeKind type ((kindOf? type).getD .plain) arguments annotations graph

def makeGraph (parent : Option Ref) (arguments : Record) (file : String) (name : Option String) :
    Build Ref := do
  insert
    { type := "__graph", kind := .graph, identity := (← get).size, parent, arguments
      body := { file, name := match name with
        | some name => if name.isEmpty then "heavy" else name
        | none => "heavy" } }

/-- Makes a low-level object that takes over the arguments of an object of the graph language.
Arguments are shared, so they are settled at the old object as well. -/
def makeLower (object : Ref) (type : String) (annotations : Record) : Build Ref := do
  let (inlets, outlets, specs) ← describeLow type none
  let arguments := (← node object).arguments
  let (result, settled) := settleArguments type true specs arguments
  if !arguments.isEmpty then
    change object fun node => { node with arguments := settled }
  ofExcept result
  insertLow type .plain settled annotations none inlets outlets

/-- The name of an open receiver or sender must be a name in code. -/
def checkMailboxName (object : Ref) (arguments : Record) (complaint : String) : Build Unit := do
  match arguments.get? "extern" with
  | none => throw (.missingField "extern")
  | some exported =>
    if exported.isTrue then
      let some name := arguments.get? "name" | throw (.missingField "name")
      if ← ofExcept (hasForeignCharacter name) then
        reject object s!"{complaint}alphanumeric characters or underscore: '{name.display}'"

end Build

end PatchCompiler
