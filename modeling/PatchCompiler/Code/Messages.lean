import PatchCompiler.Code.Setup
import PatchCompiler.Hash
import PatchCompiler.Patch.Dollar

/-!
# Messages between objects

A message that arrives at an object becomes a call, and the function that sends the messages of an
object makes a call for every object they are delivered to.
-/

namespace PatchCompiler

namespace Family

def reception (family : Family) (type id inlet : String) (arguments : Value) :
    Except Fault (List String) := do
  let own := fun (label last : String) =>
    [s!"{label}_onMessage(_c, &Context(_c)->{label}_{id}, {inlet}, m{last});"]
  let sending := fun (label : String) => own label s!", &{label}_{id}_sendMessage"
  match family with
  | .binary =>
    if Text.endsWith "_k" type then
      let code ← binaryCode (String.ofList (type.toList.take (type.length - 2)))
      let k ← arguments.literalField "k"
      return [s!"cBinop_k_onMessage(_c, NULL, {code}, {k}, {inlet}, m, " ++
        s!"&cBinop_{id}_sendMessage);"]
    let code ← binaryCode type
    return [s!"cBinop_onMessage(_c, &Context(_c)->cBinop_{id}, {code}, {inlet}, m, " ++
      s!"&cBinop_{id}_sendMessage);"]
  | .unary =>
    if unaryTypes.contains type then
      let code := "HV_UNOP_" ++ Text.upper (String.ofList (type.toList.drop 2))
      return [s!"cUnop_onMessage(_c, {code}, m, &cUnop_{id}_sendMessage);"]
    throw (.missingField type)
  | .cast =>
    match castCodes.lookup type with
    | some code => return [s!"cCast_onMessage(_c, {code}, 0, m, &cCast_{id}_sendMessage);"]
    | none => throw (.missingField type)
  | .delay | .branch | .random | .cell | .table | .slice | .pack | .read | .write =>
    return sending (← family.label type)
  | .head => return [s!"cTabhead_onMessage(_c, &Context(_c)->cTabhead_{id}, 0, m, " ++
      s!"&cTabhead_{id}_sendMessage);"]
  | .message | .receive | .send => return [s!"{← family.label type}_{id}_sendMessage(_c, 0, m);"]
  | .print =>
    let label := (← arguments.need "label").display
    return [s!"cPrint_onMessage(_c, m, \"{label}\");"]
  | .system => return [s!"cSystem_onMessage(_c, NULL, {inlet}, m, &cSystem_{id}_sendMessage);"]
  | .switchcase => return [s!"cSwitchcase_{id}_onMessage(_c, NULL, {inlet}, m, NULL);"]
  | .convolution | .line | .signalWrite => return own (← family.label type) ", NULL"
  | .biquad => return [s!"sBiquad_k_onMessage(&Context(_c)->sBiquad_k_{id}, {inlet}, m);"]
  | .lorenz | .sample => return own (← family.label type) ""
  | .signalRead =>
    if ["__tabread~f", "__tabreadu~f"].contains type then return sending "sTabread"
    return own "sTabread" ", NULL"
  | .signalHead => return []
  | .phasor =>
    let call := fun (function : String) =>
      [s!"{function}(_c, &Context(_c)->sPhasor_{id}, {inlet}, m);"]
    match type with
    | "__phasor~f" => return call "sPhasor_onMessage"
    | "__phasor_k~f" => return call "sPhasor_k_onMessage"
    | _ => throw (.failed "")
  | .signalCell =>
    if !(["__var~f", "__var~i"].contains type) then throw (.assertion "")
    let label ← family.label type
    return [s!"{label}_onMessage(_c, &Context(_c)->{label}_{id}, m);"]
  | .hold => throw (.failed "")
  | .math | .envelope | .delayOne | .realPole | .complexPole =>
    throw (.notImplemented "method get_C_onMessage not implemented")
where
  binaryCode (type : String) : Except Fault String :=
    match binaryCodes.lookup type with
    | some code => .ok ("HV_BINOP_" ++ code)
    | none => .error (.missingField type)

end Family

namespace Delivery

def calls (objects deliveries : Value) : Except Fault (List String) := do
  let lists ← (← deliveries.needItems).mapM fun delivery => do
    let id ← delivery.need "id"
    let object ← objects.needEntry id
    let type := (← object.need "type").display
    let family ← Family.ofType type
    let inlet ← delivery.need "inletIndex"
    family.reception type id.display inlet.display (← object.need "args")
  return lists.flatten

def ofOutlet (outlets : Value) (index : Int) : Except Fault Value := do
  fetch (← outlets.needItems) index

end Delivery

namespace MessageElement

/-- An element that stands for an element of the message that arrives. -/
def isReference (s : String) : Bool :=
  match s.toList with
  | '$' :: c :: _ => Text.isDecimal c
  | _ => false

def setter (place : Nat) (element : Value) : Except Fault String :=
  match element.toDouble with
  | .ok x => .ok s!"msg_setFloat(m, {place}, {x.text}f);"
  | .error _ =>
    match element with
    | .text s =>
      if s == "bang" then .ok s!"msg_setBang(m, {place});"
      else if isReference s then do
        let index ← (Value.text (String.ofList (s.toList.drop 1))).toInteger
        return s!"msg_setElementToFrom(m, {place}, n, {index - 1});"
      else if s == "@HV_N_SIMD" then
        .ok s!"msg_setFloat(m, {place},  static_cast<float>(HV_N_SIMD));"
      else .ok s!"msg_setSymbol(m, {place}, \"{s}\");"
    | _ => .error (.badType "an element is neither number nor text")

def build (message : Value) : Except Fault (List String) := do
  let count ← message.needLength
  let elements ← match message with
    | .record _ => if count = 0 then pure [] else throw (.missingField "0")
    | message => message.needItems
  let setters ← elements.zipIdx.mapM fun (element, place) => setter place element
  return [s!"m = HV_MESSAGE_ON_STACK({count});",
    s!"msg_init(m, {count}, msg_getTimestamp(n));"] ++ setters

end MessageElement

namespace Family

def sendHead (label id : String) (message : String) : String :=
  s!"{label}_{id}_sendMessage(HeavyContextInterface *_c, int letIn, const HvMessage *{message}) \x7b"

def plainBody (label id : String) (outlets objects : Value) : Except Fault (List String) := do
  let lists ← outlets.needItems
  if lists.length = 1 then
    return [sendHead label id "m"] ++ (← Delivery.calls objects (← Delivery.ofOutlet outlets 0)) ++
      ["\x7d"]
  let cases ← lists.zipIdx.mapM fun (deliveries, i) => do
    return [s!"case {i}: \x7b"] ++ (← Delivery.calls objects deliveries) ++ ["break;", "\x7d"]
  return [sendHead label id "m", "switch (letIn) \x7b"] ++ cases.flatten ++
    ["default: return;", "\x7d", "\x7d"]

def messageBody (id : String) (outlets objects : Value) : Except Fault (List String) := do
  let object ← objects.need id
  let messages ← (← (← object.need "args").need "local").needItems
  let bodies ← messages.mapM fun message => do
    return (← MessageElement.build message) ++
      (← Delivery.calls objects (← Delivery.ofOutlet outlets 0))
  let declared := if messages.isEmpty then [] else ["HvMessage *m = nullptr;"]
  return [sendHead "cMsg" id "const n"] ++ declared ++ bodies.flatten ++ ["\x7d"]

def sendBody (id : String) (outlets objects : Value) : Except Fault (List String) := do
  let arguments ← (← objects.need id).need "args"
  let exported := (← arguments.fieldOr "extern" (.bool false)).isTrue
  let hook ←
    if exported then do
      let name ← arguments.need "name"
      let hash ← Hash.ofValue name
      pure [s!"if (_c->getSendHook() != nullptr) _c->getSendHook()(_c, \"{name.display}\", " ++
        s!"{Hash.literal hash}, m);"]
    else pure []
  return [sendHead "cSend" id "m"] ++ hook ++
    (← Delivery.calls objects (← Delivery.ofOutlet outlets 0)) ++ ["\x7d"]

def switchcaseBody (id : String) (outlets objects : Value) : Except Fault (List String) := do
  let values ← (← (← (← objects.need id).need "args").need "cases").needItems
  let cases ← values.zipIdx.mapM fun (value, i) => do
    let hash ← Hash.ofValue value
    return [s!"case {Hash.literal hash}: \x7b // \"{value.display}\""] ++
      (← Delivery.calls objects (← Delivery.ofOutlet outlets i)) ++ ["break;", "\x7d"]
  let others ← Delivery.calls objects (← Delivery.ofOutlet outlets (-1))
  return [s!"cSwitchcase_{id}_onMessage(HeavyContextInterface *_c, void *o, int letIn, " ++
      "const HvMessage *const m, void *sendMessage) \x7b",
    "switch (msg_getHash(m, 0)) \x7b"] ++ cases.flatten ++ ["default: \x7b"] ++ others ++
    ["break;", "\x7d", "\x7d", "\x7d"]

def body (family : Family) (type id : String) (outlets objects : Value) :
    Except Fault (List String) :=
  match family with
  | .message => messageBody id outlets objects
  | .send => sendBody id outlets objects
  | .switchcase => switchcaseBody id outlets objects
  | .delay => do
      return [sendHead "cDelay" id "const m",
          s!"cDelay_clearExecutingMessage(&Context(_c)->cDelay_{id}, m);"] ++
        (← Delivery.calls objects (← Delivery.ofOutlet outlets 0)) ++ ["\x7d"]
  | .print => .error (.badType "the object sends no messages")
  | family => do plainBody (← family.label type) id outlets objects

end Family

end PatchCompiler
