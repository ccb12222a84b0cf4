import PatchCompiler.Value.Access

/-!
# Families of low-level objects

Objects of a program are written in C++ by family. Objects of one family share a structure and the
functions that work on it.
-/

namespace PatchCompiler

inductive Family where
  | math
  | binary
  | unary
  | signalCell
  | delay
  | branch
  | print
  | random
  | cell
  | table
  | cast
  | message
  | system
  | receive
  | switchcase
  | convolution
  | biquad
  | envelope
  | line
  | lorenz
  | delayOne
  | signalRead
  | signalHead
  | signalWrite
  | phasor
  | sample
  | hold
  | slice
  | send
  | head
  | read
  | write
  | pack
  | realPole
  | complexPole
  deriving DecidableEq, Repr

namespace Family

def mathFunctions : List (String × String) :=
  (["add~f", "add~i", "sub~f", "sub~i", "mul~f", "mul~i", "div~f", "div~i", "log2~f", "cos~f",
    "acos~f", "cosh~f", "acosh~f", "sin~f", "asin~f", "sinh~f", "asinh~f", "tan~f", "atan~f",
    "atan2~f", "tanh~f", "atanh~f", "exp~f", "pow~f", "pow~i", "sqrt~f", "rsqrt~f", "abs~f",
    "abs~i", "max~f", "max~i", "min~f", "min~i", "neg~f", "gt~f", "gt~i", "gte~f", "gte~i",
    "lt~f", "lt~i", "lte~f", "lte~i", "neq~f", "fma~f", "fms~f", "floor~f", "ceil~f", "cast~fi",
    "cast~if", "and~f", "andnot~f", "or~f"]).map fun name =>
    ("__" ++ name, "__hv_" ++ Text.replaceText "~" "_" name)

def operatorCodes : List (String × String) :=
  [("__add", "ADD"), ("__sub", "SUBTRACT"), ("__mul", "MULTIPLY"), ("__div", "DIVIDE"),
    ("__intdiv", "INT_DIV"), ("__shiftleft", "BIT_LEFTSHIFT"), ("__shiftright", "BIT_RIGHTSHIFT"),
    ("__and", "BIT_AND"), ("__or", "BIT_OR"), ("__logand", "LOGICAL_AND"),
    ("__logor", "LOGICAL_OR"), ("__eq", "EQ"), ("__neq", "NEQ"), ("__lt", "LESS_THAN"),
    ("__lte", "LESS_THAN_EQL"), ("__gt", "GREATER_THAN"), ("__gte", "GREATER_THAN_EQL"),
    ("__max", "MAX"), ("__min", "MIN"), ("__pow", "POW"), ("__atan2", "ATAN2"),
    ("__unimod", "MOD_UNIPOLAR"), ("__bimod", "MOD_BIPOLAR")]

def binaryCodes : List (String × String) :=
  (operatorCodes.flatMap fun (type, code) => [(type, code), (type ++ "_k", code)]) ++
    [("__^", "BIT_XOR"), ("__==", "EQL_EQL"), ("__!=", "NOT_EQL")]

def unaryTypes : List String :=
  ["__cos", "__acos", "__cosh", "__acosh", "__sin", "__asin", "__sinh", "__asinh", "__tan",
    "__atan", "__tanh", "__atanh", "__log", "__log10", "__log2", "__exp", "__abs", "__sqrt",
    "__ceil", "__floor", "__round"]

def castCodes : List (String × String) :=
  [("__cast_b", "HV_CAST_BANG"), ("__cast_f", "HV_CAST_FLOAT"), ("__cast_s", "HV_CAST_SYMBOL")]

def signalCellNames : List (String × String) :=
  [("__var~f", "sVarf"), ("__var~i", "sVari"), ("__var_k~f", "__hv_var_k_f"),
    ("__var_k~i", "__hv_var_k_i"), ("__varwrite~f", "__hv_varwrite_f"),
    ("__varwrite~i", "__hv_varwrite_i"), ("__varread~f", "__hv_varread_f"),
    ("__varread~i", "__hv_varread_i")]

def typed : List (String × Family) :=
  [("__delay", .delay), ("__if", .branch), ("__print", .print), ("__random", .random),
    ("__var", .cell), ("__table", .table), ("__cast_b", .cast), ("__cast_f", .cast),
    ("__cast_s", .cast), ("__message", .message), ("__system", .system), ("__receive", .receive),
    ("__switchcase", .switchcase), ("__conv~f", .convolution), ("__biquad~f", .biquad),
    ("__biquad_k~f", .biquad), ("__env~f", .envelope), ("__line~f", .line),
    ("__lorenz~f", .lorenz), ("__del1~f", .delayOne), ("__tabread~if", .signalRead),
    ("__tabread~f", .signalRead), ("__tabreadu~f", .signalRead), ("__tabhead~f", .signalHead),
    ("__tabwrite~f", .signalWrite), ("__tabwrite_stoppable~f", .signalWrite),
    ("__phasor~f", .phasor), ("__phasor_k~f", .phasor), ("__sample~f", .sample),
    ("__samphold~f", .hold), ("__slice", .slice), ("__send", .send), ("__tabhead", .head),
    ("__tabread", .read), ("__tabwrite", .write), ("__pack", .pack), ("__rpole~f", .realPole),
    ("__cpole~f", .complexPole)]

def ofType (type : String) : Except Fault Family :=
  if (mathFunctions.lookup type).isSome then .ok .math
  else if (binaryCodes.lookup type).isSome then .ok .binary
  else if unaryTypes.contains type then .ok .unary
  else if (signalCellNames.lookup type).isSome then .ok .signalCell
  else
    match typed.lookup type with
    | some family => .ok family
    | none => .error (.failed s!"No class found for object type \"{type}\".")

def structure_ (family : Family) (type : String) : Except Fault String :=
  match family with
  | .math | .message | .print => .ok ""
  | .binary => .ok "ControlBinop"
  | .unary => .ok "ControlUnop"
  | .signalCell =>
    match type with
    | "__var~f" => .ok "SignalVarf"
    | "__var~i" => .ok "SignalVari"
    | _ => .error (.failed "")
  | .delay => .ok "ControlDelay"
  | .branch => .ok "ControlIf"
  | .random => .ok "ControlRandom"
  | .cell => .ok "ControlVar"
  | .table => .ok "HvTable"
  | .cast => .ok "ControlCast"
  | .system => .ok "ControlSystem"
  | .receive => .ok "ControlReceive"
  | .switchcase => .ok "ControlSwitchase"
  | .convolution => .ok "SignalConvolution"
  | .biquad => .ok "SignalBiquad"
  | .envelope => .ok "SignalEnvelope"
  | .line => .ok "SignalLine"
  | .lorenz => .ok "SignalLorenz"
  | .delayOne => .ok "SignalDel1"
  | .signalRead => .ok "SignalTabread"
  | .signalHead => .ok "SignalTabhead"
  | .signalWrite => .ok "SignalTabwrite"
  | .phasor => .ok "SignalPhasor"
  | .sample => .ok "SignalSample"
  | .hold => .ok "SignalSamphold"
  | .slice => .ok "ControlSlice"
  | .send => .ok "ControlSend"
  | .head => .ok "ControlTabhead"
  | .read => .ok "ControlTabread"
  | .write => .ok "ControlTabwrite"
  | .pack => .ok "ControlPack"
  | .realPole => .ok "SignalRpole"
  | .complexPole => .ok "SignalCPole"

def title (family : Family) : String :=
  match family with
  | .math => "SignalMath"
  | .binary => "ControlBinop"
  | .unary => "ControlUnop"
  | .signalCell => "SignalVar"
  | .print => "ControlPrint"
  | .table => "HeavyTable"
  | .message => "ControlMessage"
  | .switchcase => "ControlSwitchcase"
  | .realPole => "SignalRPole"
  | other => (other.structure_ "").toOption.getD ""

def label (family : Family) (type : String) : Except Fault String :=
  match family with
  | .math => .ok ""
  | .binary => .ok "cBinop"
  | .unary => .ok "cUnop"
  | .signalCell =>
    match signalCellNames.lookup type with
    | some name => .ok name
    | none => .error (.missingField type)
  | .delay => .ok "cDelay"
  | .branch => .ok "cIf"
  | .print => .ok "cPrint"
  | .random => .ok "cRandom"
  | .cell => .ok "cVar"
  | .table => .ok "hTable"
  | .cast => .ok "cCast"
  | .message => .ok "cMsg"
  | .system => .ok "cSystem"
  | .receive => .ok "cReceive"
  | .switchcase => .ok "cSwichcase"
  | .convolution => .ok "sConv"
  | .biquad => .ok "sBiquad"
  | .envelope => .ok "sEnv"
  | .line => .ok "sLine"
  | .lorenz => .ok "sLorenz"
  | .delayOne => .ok "sDel1"
  | .signalRead => .ok "sTabread"
  | .signalHead => .ok "sTabhead"
  | .signalWrite => .ok "sTabwrite"
  | .phasor => .ok "sPhasor"
  | .sample => .ok "sSample"
  | .hold => .ok "sSamphold"
  | .slice => .ok "cSlice"
  | .send => .ok "cSend"
  | .head => .ok "cTabhead"
  | .read => .ok "cTabread"
  | .write => .ok "cTabwrite"
  | .pack => .ok "cPack"
  | .realPole => .ok "sRPole"
  | .complexPole => .ok "sCPole"

/-- The name of the library files of a family, for families that have their own. -/
def unit? (family : Family) : Option String :=
  match family with
  | .math | .message | .receive | .send | .switchcase => none
  | .signalHead => some "HvSignalTabread"
  | .signalCell => some "HvSignalVar"
  | .table => some "HvTable"
  | .print => some "HvControlPrint"
  | .realPole => some "HvSignalRPole"
  | family =>
    match family.structure_ "" with
    | .ok name => some ("Hv" ++ name)
    | .error _ => none

def headers (family : Family) : List String :=
  let own := (family.unit?.map (· ++ ".h")).toList
  match family with
  | .math => ["HvMath.h"]
  | .realPole | .complexPole => own ++ ["HvSignalDel1.h", "HvMath.h"]
  | _ => own

def sources (family : Family) : List String :=
  let own := (family.unit?.map fun name => [name ++ ".h", name ++ ".c"]).getD []
  match family with
  | .lorenz => own ++ ["HvMath.h"]
  | .realPole | .complexPole => own ++ ["HvSignalDel1.h", "HvSignalDel1.c", "HvMath.h"]
  | _ => own

end Family

end PatchCompiler
