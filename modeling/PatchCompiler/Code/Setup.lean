import PatchCompiler.Code.Family

/-!
# Definition, initialisation and release of objects

Lines of C++ that define the state of an object, set it up from its arguments and release it.
-/

namespace PatchCompiler

namespace Value

def literal (value : Value) : Except Fault String :=
  value.toDouble.map fun x => x.text ++ "f"

def integerLiteral (value : Value) : Except Fault String :=
  value.toInteger.map toString

def literalField (value : Value) (name : String) : Except Fault String := do
  (← value.need name).literal

def integerField (value : Value) (name : String) : Except Fault String := do
  (← value.need name).integerLiteral

def literals (value : Value) : Except Fault String := do
  return Text.join ", " (← (← value.needItems).mapM literal)

end Value

namespace Family

def definition (family : Family) (type id : String) : Except Fault (List String) :=
  match family with
  | .switchcase => .ok []
  | .biquad =>
    match type with
    | "__biquad_k~f" => .ok [s!"SignalBiquad_k sBiquad_k_{id};"]
    | "__biquad~f" => .ok [s!"SignalBiquad sBiquad_s_{id};"]
    | _ => .error (.failed "")
  | .realPole => .ok [s!"SignalRPole sRPole_{id};"]
  | family => do
      let structName ← family.structure_ type
      let label ← family.label type
      return [s!"{structName} {label}_{id};"]

def tableData (family : Family) (id : String) (arguments : Value) :
    Except Fault (List String) :=
  match family with
  | .table => do
      let count ← (← arguments.fieldOr "values" (.list [])).needLength
      if count = 0 then return []
      let values ← (← arguments.need "values").literals
      return [s!"float hTable_{id}_data[{count}] = \x7b" ++ values ++ "\x7d;"]
  | _ => .error (.noMember "only tables have data")

def tableSetup (id : String) (arguments : Value) : Except Fault (List String) := do
  let count ← (← arguments.fieldOr "values" (.list [])).needLength
  if 0 < count then return [s!"hTable_initWithData(&hTable_{id}, {count}, hTable_{id}_data);"]
  let size ← (← arguments.fieldOr "size" (.int 256)).integerLiteral
  return [s!"hTable_init(&hTable_{id}, {size});"]

def signalCellSetup (type id : String) (arguments : Value) : Except Fault (List String) := do
  if !(["__var~f", "__var~i"].contains type) then throw (.assertion type)
  let label ← Family.signalCell.label type
  let shown := fun (name : String) =>
    if type == "__var~f" then arguments.literalField name else arguments.integerField name
  let k ← shown "k"
  let step ← shown "step"
  let reverse := if (← arguments.need "reverse").isTrue then "true" else "false"
  return [s!"{label}_init(&{label}_{id}, {k}, {step}, {reverse});"]

def setup (family : Family) (type id : String) (arguments : Value) :
    Except Fault (List String) := do
  match family with
  | .binary =>
    if Text.endsWith "_k" type then return []
    let fields ← arguments.needFields
    let k ← (← fetch (fields.map (·.2)) 0).literal
    return [s!"cBinop_init(&cBinop_{id}, {k}); // {type}"]
  | .unary | .print => return []
  | .delay =>
    let time ← arguments.literalField "delay"
    return [s!"cDelay_init(this, &cDelay_{id}, {time});"]
  | .branch =>
    let k ← (← arguments.need "k").toDouble
    let start := if k.isZero then "false" else "true"
    return [s!"cIf_init(&cIf_{id}, {start});"]
  | .random =>
    let seed ← arguments.integerField "seed"
    return [s!"cRandom_init(&cRandom_{id}, {seed});"]
  | .cell =>
    match ← arguments.need "k" with
    | .text s => return [s!"cVar_init_s(&cVar_{id}, \"{s}\");"]
    | .object n => return [s!"cVar_init_s(&cVar_{id}, \"{(Value.object n).display}\");"]
    | k => return [s!"cVar_init_f(&cVar_{id}, {← k.literal});"]
  | .table => tableSetup id arguments
  | .slice =>
    let index ← arguments.integerField "index"
    let length ← arguments.integerField "length"
    return [s!"cSlice_init(&cSlice_{id}, {index}, {length});"]
  | .pack =>
    let values ← arguments.need "values"
    return [s!"cPack_init(&cPack_{id}, {← values.needLength}, {← values.literals});"]
  | .head => return [s!"cTabhead_init(&cTabhead_{id}, &hTable_{← tableOf arguments});"]
  | .read | .write =>
    let label ← family.label type
    let table ← tableOf arguments
    let name := (← arguments.need "table").display
    return [s!"{label}_init(&{label}_{id}, &hTable_{table}); // {name}"]
  | .convolution =>
    let table ← tableOf arguments
    let size ← arguments.integerField "size"
    return [s!"sConv_init(&sConv_{id}, &hTable_{table}, {size});"]
  | .biquad =>
    match type with
    | "__biquad_k~f" =>
      let factors ← ["ff0", "ff1", "ff2", "fb1", "fb2"].mapM arguments.literalField
      return [s!"sBiquad_k_init(&sBiquad_k_{id}, " ++ Text.join ", " factors ++ ");"]
    | "__biquad~f" => return [s!"sBiquad_init(&sBiquad_s_{id});"]
    | _ => throw (.failed "")
  | .envelope =>
    let size ← arguments.integerField "windowSize"
    let period ← arguments.integerField "period"
    return [s!"sEnv_init(&sEnv_{id}, {size}, {period});"]
  | .lorenz =>
    let start ← ["x", "y", "z"].mapM arguments.literalField
    return [s!"sLorenz_init(&sLorenz_{id}, " ++ Text.join ", " start ++ ");"]
  | .line | .delayOne | .sample | .hold | .realPole | .complexPole =>
    let label ← family.label type
    return [s!"{label}_init(&{label}_{id});"]
  | .signalHead | .signalWrite =>
    let label ← family.label type
    return [s!"{label}_init(&{label}_{id}, &hTable_{← tableOf arguments});"]
  | .signalRead =>
    let forced := if type == "__tabread~f" then "true" else "false"
    return [s!"sTabread_init(&sTabread_{id}, &hTable_{← tableOf arguments}, {forced});"]
  | .phasor =>
    match type with
    | "__phasor~f" => return [s!"sPhasor_init(&sPhasor_{id}, sampleRate);"]
    | "__phasor_k~f" =>
      let frequency := (← arguments.need "frequency").display
      return [s!"sPhasor_k_init(&sPhasor_{id}, {frequency}f, sampleRate);"]
    | _ => throw (.failed "")
  | .signalCell => signalCellSetup type id arguments
  | .math | .cast | .message | .system | .receive | .switchcase | .send =>
    throw (.noMember "the object is not set up")
where
  tableOf (arguments : Value) : Except Fault String := do
    return (← arguments.need "table_id").display

def release (family : Family) (type id : String) : Except Fault (List String) :=
  match family with
  | .math | .cast | .message | .pack | .receive | .send | .system | .convolution | .envelope
  | .table => do
      let label ← family.label type
      return [s!"{label}_free(&{label}_{id});"]
  | _ => .ok []

def declaration (family : Family) (type id : String) : Except Fault (List String) :=
  match family with
  | .print => .ok []
  | .switchcase =>
    .ok [s!"cSwitchcase_{id}_onMessage(HeavyContextInterface *, void *, int letIn, " ++
      "const HvMessage *const, void *);"]
  | family => do
      let label ← family.label type
      return [s!"{label}_{id}_sendMessage(HeavyContextInterface *, int, const HvMessage *);"]

end Family

end PatchCompiler
