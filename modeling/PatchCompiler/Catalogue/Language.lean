import PatchCompiler.Catalogue.Basic

/-!
# Objects of the graph language
-/

namespace PatchCompiler.Catalogue

open Table

def language : List (String × LanguageSpec) := families [
  (["!=", "&&", "*", "+", "-", "<", "<=", "==", ">", ">=", "^", "||"],
    ⟨[⟨"Input", "Set input", m⟩, ⟨"k", "Set k", m⟩], [output], [number "k" 0]⟩),
  (["%", "/", "mod"], ⟨[⟨"Input", "Set input", m⟩, ⟨"k", "Set k", m⟩], [output], [number "k" 1]⟩),
  (["&", "<<", ">>", "|"],
    ⟨[⟨"Input", "Set input", m⟩, ⟨"k", "Set k", m⟩], [output], [whole "k" 0]⟩),
  (["abs", "acos", "acosh", "asin", "asinh", "atan", "atanh", "cos", "exp", "log", "log10", "log2",
    "sin", "sinh", "sqrt", "tan", "tanh"],
    ⟨[⟨"inlet", "Input", m⟩], [output], []⟩),
  (["adc"], ⟨[], [bare f], [⟨"channels", .intArray, false, .list [.int 1, .int 2]⟩]⟩),
  (["atan2"], ⟨[⟨"x", "Set x", m⟩, ⟨"y", "Set y", m⟩], [output], [number "y" 0]⟩),
  (["biquad"],
    ⟨[⟨"input", "Filter input.", f⟩, ⟨"x0", "", m⟩, ⟨"x1", "", m⟩, ⟨"x2", "", m⟩, ⟨"y1", "", m⟩,
      ⟨"y2", "", m⟩], [⟨"output", "Filter output.", f⟩],
      [number "ff0" 1, number "ff1" 0, number "ff2" 0, number "fb1" 0, number "fb2" 0]⟩),
  (["ceil"], ⟨[⟨"k", "", m⟩], [⟨"", "ceil(k)", m⟩], []⟩),
  (["comment"], ⟨[], [], [needed "text", ⟨"mime", .string, false, .text "text/plain"⟩]⟩),
  (["dac"], ⟨[bare f], [], [⟨"channels", .intArray, false, .list [.int 1, .int 2]⟩]⟩),
  (["delay"],
    ⟨[⟨"message", "The message to delay.", c⟩, ⟨"delay", "The delay is milliseconds.", c⟩],
      [⟨"outlet", "The delayed message.", c⟩], [number "delay" 0]⟩),
  (["env~"], ⟨[bare f], [bare c], [number "windowSize" 1024, number "period" 512]⟩),
  (["floor"], ⟨[⟨"k", "", m⟩], [⟨"", "floor(k)", m⟩], []⟩),
  (["graph"], ⟨[], [], []⟩),
  (["if"],
    ⟨[⟨"Input", "Set input", m⟩, ⟨"k", "Set k", m⟩],
      [⟨"k is False", "Output.", m⟩, ⟨"k is True", "Output.", m⟩], [number "k" 0]⟩),
  (["inlet"],
    ⟨[], [bare m], [⟨"name", .string, false, .text ""⟩, ⟨"index", .int, true, .int 0⟩,
      needed "type"]⟩),
  (["line"], ⟨[bare c, bare c], [bare m], []⟩),
  (["loadbang"], ⟨[], [⟨"outlet", "Bang output.", c⟩], [whole "priority" 0]⟩),
  (["max", "min"], ⟨[bare m, bare m], [bare m], [number "k" 0]⟩),
  (["message"],
    ⟨[bare c], [bare c], [⟨"local", .other "None", true, .null⟩,
      ⟨"remote", .other "None", false, .list []⟩]⟩),
  (["noise"],
    ⟨[⟨"seed", "Currently unused.", c⟩], [⟨"Output", "White noise.", f⟩],
      [⟨"noise", .string, false, .text "uniform"⟩, number "seed" 0]⟩),
  (["outlet"],
    ⟨[bare m], [], [⟨"name", .string, false, .text ""⟩, ⟨"index", .int, true, .int 0⟩,
      needed "type"]⟩),
  (["phasor"],
    ⟨[⟨"frequency", "", m⟩, ⟨"phase", "", c⟩], [⟨"~f>", "", f⟩],
      [number "frequency" 0, number "phase" 0]⟩),
  (["pow"], ⟨[⟨"inlet", "Input", m⟩, ⟨"constant", "set k", m⟩], [output], [number "k" 0]⟩),
  (["print"], ⟨[bare c], [], [⟨"label", .string, false, .text "print"⟩]⟩),
  (["random"],
    ⟨[⟨"trigger", "Outputs random number when triggered.", c⟩,
      ⟨"range", "Generated number will be in the range [0.0, 1.0).", c⟩],
      [⟨"outlet", "Output.", c⟩], [whole "seed" (-1)]⟩),
  (["receive"],
    ⟨[], [bare c], [needed "name", whole "priority" 0, ⟨"extern", .string, false, .null⟩,
      ⟨"attributes", .other "dict", false, .record []⟩]⟩),
  (["send"], ⟨[bare c], [], [needed "name"]⟩),
  (["sequence"], ⟨[bare c], [⟨"value", "", c⟩], [⟨"casts", .stringArray, true, .null⟩]⟩),
  (["slice"],
    ⟨[bare c, bare c, bare c], [⟨"", "The sliced output.", c⟩,
      ⟨"", "If no slice is possible, a bang is emitted.", c⟩],
      [whole "index" 0, whole "length" 1]⟩),
  (["system"],
    ⟨[⟨"parameter", "The requested system parameter.", c⟩],
      [⟨"value", "The system parameter value.", c⟩], []⟩),
  (["table"],
    ⟨[bare c], [bare c], [needed "name", whole "size" 256,
      ⟨"values", .floatArray, false, .list []⟩, ⟨"extern", .other "bool", false, .bool false⟩]⟩),
  (["tabread"],
    ⟨[bare m], [⟨"", "output = table[input]", m⟩, ⟨"", "output = table[input+1]", m⟩],
      [needed "table", number "delay" 0]⟩),
  (["tabwrite"], ⟨[bare c], [bare f], [needed "name", ⟨"loop", .other "bool", false, .bool true⟩]⟩),
  (["var"],
    ⟨[bare m], [bare m], [number "k" 0, number "step" 0, ⟨"reverse", .boolean, false, .bool false⟩,
      ⟨"name", .string, false, .null⟩]⟩),
  (["vario"], ⟨[bare m], [bare m], [needed "name"]⟩)]

def languageSpec? (type : String) : Option LanguageSpec :=
  language.lookup type

end PatchCompiler.Catalogue
