import PatchCompiler.Code.Setup

/-!
# Signal processing

Calls that process a block of a signal. A call names the buffers it reads and those it writes.
-/

namespace PatchCompiler

namespace SignalCall

def bufferNames : List (String × String) :=
  [("~f>", "Bf"), ("~i>", "Bi"), ("input", "I"), ("output", "O"), ("zero", "ZERO")]

def buffer (value : Value) : Except Fault String := do
  let type ← value.need "type"
  match bufferNames.lookup type.display with
  | none => throw (.missingField type.display)
  | some name =>
    if name == "ZERO" then return name
    return name ++ (← value.need "index").display

def wrapped (kind : String) (value : Value) : Except Fault String := do
  return s!"{kind}({← buffer value})"

def argument (kind side : String) (call : Value) (place : Nat) : Except Fault String := do
  wrapped kind (← call.needAt side place)

def arguments (kind side : String) (call : Value) : Except Fault String := do
  return Text.join ", " (← (← (← call.need side).needItems).mapM (wrapped kind))

def typedArguments (kind side : String) (call : Value) : Except Fault String := do
  let shown ← (← (← call.need side).needItems).mapM fun value => do
    let suffix := if (← value.need "type").equals (.text "~i>") then "i" else "f"
    wrapped (kind ++ suffix) value
  return Text.join ", " shown

def idOf (call : Value) : Except Fault String := do
  return (← call.need "id").display

/-- A call with some of the buffers at its first inlets and outlets. -/
def fixed (function state : String) (call : Value) (inputs outputs : Nat) :
    Except Fault (Option (List String)) := do
  let id ← idOf call
  let read ← (List.range inputs).mapM (argument "VIf" "inputBuffers" call)
  let written ← (List.range outputs).mapM (argument "VOf" "outputBuffers" call)
  return some [s!"{function}(&{state}_{id}, " ++ Text.join ", " (read ++ written) ++ ");"]

/-- A sum of a start and some steps. Texts are strung together. -/
def stepped (k step : Value) (i : Nat) : Except Fault Binary64 := do
  match k, step with
  | .text s, .text t => (Value.text (s ++ String.join (List.replicate i t))).toDouble
  | _, _ =>
    if !(k.isNumber && step.isNumber) then throw (.badType "start and step cannot be added")
    match k.int?, step.int? with
    | some m, some n => (Value.int (m + i * n)).toDouble
    | _, some n => return (← k.toDouble).add (← (Value.int (i * n)).toDouble)
    | _, none =>
      let moved := (← (Value.int i).toDouble).mul (← step.toDouble)
      return (← k.toDouble).add moved

/-- A constant signal, or one that rises by a step from sample to sample. -/
def constant (kind : String) (call arguments : Value) : Except Fault (Option (List String)) := do
  let k ← arguments.need "k"
  let step ← arguments.fieldOr "step" (.real .zero)
  let output := fun (_ : Unit) => argument ("VO" ++ kind) "outputBuffers" call 0
  if k.isZero && step.isZero then return some [s!"__hv_zero_{kind}({← output ()});"]
  let values ← (List.range 8).mapM (stepped k step)
  let shown ←
    if kind == "f" then pure (values.map fun x => x.text ++ "f")
    else values.mapM fun x => (Value.real x).integerLiteral
  let reverse := if (← arguments.fieldOr "reverse" (.bool false)).isTrue then "_r" else ""
  return some [s!"__hv_var_k_{kind}{reverse}({← output ()}, " ++ Text.join ", " shown ++ ");"]

def signalCell (type : String) (call arguments : Value) : Except Fault (Option (List String)) := do
  match type.toList.getLast? with
  | none => throw .outOfRange
  | some last =>
    let kind := String.ofList [last]
    if ["__var~f", "__var~i"].contains type then return some []
    else if ["__varwrite~f", "__varwrite~i"].contains type then
      let cell := (← arguments.need "var_id").display
      let input ← argument ("VI" ++ kind) "inputBuffers" call 0
      return some [s!"__hv_varwrite_{kind}(&sVar{kind}_{cell}, {input});"]
    else if ["__var_k~f", "__var_k~i"].contains type then constant kind call arguments
    else if ["__varread~f", "__varread~i"].contains type then
      let cell := (← arguments.need "var_id").display
      let output ← argument ("VO" ++ kind) "outputBuffers" call 0
      return some [s!"__hv_varread_{kind}(&sVar{kind}_{cell}, {output});"]
    else return none

end SignalCall

namespace Family

open SignalCall in
/-- The calls that process a block. Some objects have nothing to say of some types. -/
def process (family : Family) (type : String) (call arguments : Value) :
    Except Fault (Option (List String)) := do
  let reading := fun (function state : String) => do
    let id ← idOf call
    let inputs ← SignalCall.arguments "VIf" "inputBuffers" call
    return some [s!"{function}(&{state}_{id}, {inputs});"]
  let writing := fun (function state : String) => do
    let id ← idOf call
    let outputs ← SignalCall.arguments "VOf" "outputBuffers" call
    return some [s!"{function}(&{state}_{id}, {outputs});"]
  let both := fun (function state kind : String) => do
    let id ← idOf call
    let inputs ← SignalCall.arguments kind "inputBuffers" call
    let outputs ← SignalCall.arguments "VOf" "outputBuffers" call
    return some [s!"{function}(&{state}_{id}, {inputs}, {outputs});"]
  match family with
  | .math =>
    match mathFunctions.lookup type with
    | none => throw (.missingField type)
    | some function =>
      let inputs ← typedArguments "VI" "inputBuffers" call
      let outputs ← typedArguments "VO" "outputBuffers" call
      return some [s!"{function}({inputs}, {outputs});"]
  | .signalCell => SignalCall.signalCell type call arguments
  | .biquad =>
    match type with
    | "__biquad_k~f" => fixed "__hv_biquad_k_f" "sBiquad_k" call 1 1
    | "__biquad~f" => both "__hv_biquad_f" "sBiquad_s" "VIf"
    | _ => return none
  | .complexPole => fixed "__hv_cpole_f" "sCPole" call 4 2
  | .realPole => fixed "__hv_rpole_f" "sRPole" call 2 1
  | .convolution => fixed "__hv_conv_f" "sConv" call 1 1
  | .delayOne => fixed "__hv_del1_f" "sDel1" call 1 1
  | .hold => fixed "__hv_samphold_f" "sSamphold" call 2 1
  | .line => fixed "__hv_line_f" "sLine" call 0 1
  | .lorenz => both "__hv_lorenz_f" "sLorenz" "VIf"
  | .envelope =>
    let id ← idOf call
    let input ← argument "VIf" "inputBuffers" call 0
    return some [s!"sEnv_process(this, &sEnv_{id}, {input}, &sEnv_{id}_sendMessage);"]
  | .sample =>
    let id ← idOf call
    let input ← argument "VIf" "inputBuffers" call 0
    return some [s!"__hv_sample_f(this, &sSample_{id}, {input}, &sSample_{id}_sendMessage);"]
  | .phasor =>
    match type with
    | "__phasor~f" => fixed "__hv_phasor_f" "sPhasor" call 1 1
    | "__phasor_k~f" => fixed "__hv_phasor_k_f" "sPhasor" call 0 1
    | _ => throw (.failed s!"Unknown object type \"{type}\".")
  | .signalHead => writing "__hv_tabhead_f" "sTabhead"
  | .signalRead =>
    match type with
    | "__tabread~if" => both "__hv_tabread_if" "sTabread" "VIi"
    | "__tabread~f" => writing "__hv_tabread_f" "sTabread"
    | "__tabreadu~f" => writing "__hv_tabreadu_f" "sTabread"
    | _ => throw (.failed "")
  | .signalWrite =>
    match type with
    | "__tabwrite~f" => reading "__hv_tabwrite_f" "sTabwrite"
    | "__tabwrite_stoppable~f" => reading "__hv_tabwrite_stoppable_f" "sTabwrite"
    | _ => throw (.failed "")
  | _ => throw (.notImplemented "method get_C_process not implemented")

end Family

end PatchCompiler
