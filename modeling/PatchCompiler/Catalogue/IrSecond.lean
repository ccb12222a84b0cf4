import PatchCompiler.Catalogue.Basic

/-!
# Intermediate objects, second half of the catalogue
-/

namespace PatchCompiler.Catalogue

open Table

def irSecond : List (String × IrSpec) := families [
  (["__lte~f", "__or~f"], sounding [f, f] [f] (some []) (cycles 1 1)),
  (["__max", "__min", "__mul", "__neq", "__or", "__sub"],
    { messaging [c, c] [c] (some [number "k" 0]) with init := true }),
  (["__max_k", "__min_k", "__mul_k", "__sub_k"],
    { messaging [c] [c] (some [number "k" 0]) with init := true }),
  (["__max~f", "__min~f", "__neq~f"], sounding [f, f] [f] (some []) (cycles 3 3)),
  (["__max~i"], sounding [i, i] [i] (some [whole "k" 0]) none),
  (["__message", "__sinh", "__system"], messaging [c] [c] none),
  (["__min~i"], sounding [i, i] [i] (some [whole "k" 0]) (some [("sse", .ofHalves 1)])),
  (["__mul~f"], sounding [f, f] [f] (some []) (cycles 5 5)),
  (["__mul~i"], sounding [i, i] [i] (some [whole "k" 0]) (cycles 3 1)),
  (["__neq_k"], messaging [c, c] [c] (some [number "k" 0])),
  (["__or_k", "__shiftleft", "__shiftleft_k", "__shiftright", "__shiftright_k"],
    { messaging [c, c] [c] (some [whole "k" 0]) with init := true }),
  (["__outlet", "__print"], { inlets := [c], outlets := [] }),
  (["__pack"],
    { messaging [] [c] (some [⟨"values", .floatArray, false,
      .list [.real .zero, .real .zero]⟩]) with init := true }),
  (["__phasor_k~f"],
    { sounding [c, c] [f] (some [number "frequency" 440,
      number "phase" 0]) (cycles 13 10) with init := true }),
  (["__phasor~f"], { sounding [f, c] [f] (some []) (cycles 38 26) with init := true }),
  (["__pow"], { messaging [c, c] [c] none with init := true }),
  (["__pow_k"], { messaging [c] [c] none with init := true }),
  (["__pow~f"], sounding [f, f] [f] none none),
  (["__random"],
    { messaging [c, c] [c] (some [number "range" 2, number "seed" 1]) with init := true }),
  (["__receive"], messaging [] [c] none),
  (["__rpole~f"], { sounding [f, f] [f] (some []) (cycles 143 53) with init := true }),
  (["__rsqrt~f", "__sqrt~f"], sounding [f] [f] (some []) none),
  (["__samphold~f"], { sounding [f, f] [f] (some []) (cycles 0 3) with init := true }),
  (["__sample~f"],
    { sounding [f, c] [c] (some []) (cycles 1 1) with control := true, init := true }),
  (["__send"], messaging [c] [] (some [needed "name", needed "hash"])),
  (["__sin", "__sqrt", "__tan", "__tanh"], messaging [c] [c] (some [])),
  (["__sin~f"], sounding [f] [f] none none),
  (["__slice"],
    { messaging [c, c, c] [c, c] (some [number "index" 0, number "length" 1]) with init := true }),
  (["__sub~f"], sounding [f, f] [f] none (cycles 3 3)),
  (["__sub~i"], sounding [i, i] [i] (some [number "k" 0]) (cycles 3 1)),
  (["__switchcase"], messaging [c] [] (some [⟨"cases", .other "mixedarray", false, .list []⟩])),
  (["__tabhead"], { messaging [c] [c] (some [needed "table"]) with init := true }),
  (["__tabhead~f"], { sounding [c] [f] (some [needed "table"]) (halves 1 1) with init := true }),
  (["__table"],
    { messaging [c] [c] (some [needed "name", whole "size" 0,
      ⟨"values", .floatArray, false, .list []⟩]) with init := true }),
  (["__tabread"], { messaging [c, c] [c] (some [needed "table"]) with init := true }),
  (["__tabreadu~f"],
    { sounding [c, c] [f, c] (some [needed "table"]) (cycles 2 2)
      with control := true, init := true }),
  (["__tabread~f"],
    { sounding [c, c] [f, c] (some [needed "table"]) (cycles 1 1)
      with control := true, init := true }),
  (["__tabread~if"],
    { sounding [i, c] [f] (some [needed "table"]) (cycles 4 2) with init := true }),
  (["__tabwrite"], { messaging [c, c, c] [c] (some [needed "table"]) with init := true }),
  (["__tabwrite_stoppable~f"],
    { sounding [f, c, c] [] (some [needed "table"]) (cycles 2 2) with init := true }),
  (["__tabwrite~f"],
    { sounding [f, c, c] [] (some [needed "table"]) (cycles 1 1) with init := true }),
  (["__unimod"], { messaging [c, c] [c] (some []) with init := true }),
  (["__unimod_k"], messaging [c, c] [c] (some [])),
  (["__var"], { messaging [c, c] [c] (some [⟨"k", .auto, false, .int 0⟩]) with init := true }),
  (["__var_k~f"],
    sounding [] [f] (some [number "k" 0, number "step" 0,
      ⟨"reverse", .boolean, false, .bool false⟩]) (halves 1 1)),
  (["__var_k~i"],
    sounding [] [i] (some [whole "k" 0, whole "step" 0,
      ⟨"reverse", .boolean, false, .bool false⟩]) (halves 1 1)),
  (["__varread~f"], sounding [] [f] (some [needed "var_id"]) (cycles 1 1)),
  (["__varread~i"], sounding [] [i] (some [needed "var_id"]) (cycles 1 1)),
  (["__varwrite~f"], sounding [f] [] (some [needed "var_id"]) (cycles 1 1)),
  (["__varwrite~i"], sounding [i] [] (some [needed "var_id"]) (cycles 1 1)),
  (["__var~f"],
    { inlets := [c], outlets := [f], arguments := some [number "k" 0, number "step" 0,
      ⟨"reverse", .boolean, false, .bool false⟩], init := true,
      cycles := some [("avx", .whole 0), ("sse", .whole 0), ("neon", .whole 0)] }),
  (["__var~i"],
    { inlets := [c], outlets := [i], arguments := some [whole "k" 0, whole "step" 0,
      ⟨"reverse", .boolean, false, .bool false⟩], init := true,
      cycles := some [("avx", .whole 0), ("sse", .whole 0), ("neon", .whole 0)] }),
  (["asinh~", "sinh~"], sounding [.other "signal"] [.other "signal"] (some []) none),
  (["asin~", "atanh~", "atan~", "tanh~", "tan~"],
    sounding [.other "signal"] [.other "signal"] none none),
  (["__exp~f"],
    sounding [f] [f] (some []) (some [("avx", .whole 0), ("sse", .whole 0), ("neon", .whole 0)]))]

end PatchCompiler.Catalogue
