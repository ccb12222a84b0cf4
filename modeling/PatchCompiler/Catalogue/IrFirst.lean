import PatchCompiler.Catalogue.Basic

/-!
# Intermediate objects, first half of the catalogue
-/

namespace PatchCompiler.Catalogue

open Table

/-- Intermediate objects from bit operations to comparisons. -/
def irFirst : List (String × IrSpec) := families [
  (["__^", "__add", "__div", "__eq", "__gt", "__gte", "__logand", "__logand_k", "__logor",
    "__logor_k", "__lt", "__lte"],
    { messaging [c, c] [c] (some [number "k" 0]) with init := true }),
  (["__^_k", "__add_k", "__div_k", "__eq_k", "__gt_k", "__gte_k", "__lt_k", "__lte_k"],
    { messaging [c] [c] (some [number "k" 0]) with init := true }),
  (["__abs", "__acos", "__acosh", "__atan", "__atanh", "__cast_b", "__cast_f", "__cast_s",
    "__ceil", "__cos", "__cosh", "__exp", "__floor", "__log", "__log10", "__log2"],
    messaging [c] [c] (some [])),
  (["__neg~f", "__abs~f"], sounding [f] [f] (some []) (halves 1 1)),
  (["__abs~i"], sounding [i] [i] none none),
  (["__acosh~f", "__acos~f", "__cosh~f"], sounding [f] [f] none none),
  (["__add~f"], sounding [f, f] [f] (some []) (cycles 3 3)),
  (["__add~i"],
    sounding [i, i] [i] (some [number "k" 0]) (some [("avx", .whole 2), ("sse", .ofHalves 1)])),
  (["__and", "__and_k"], { messaging [c, c] [c] (some [whole "k" 0]) with init := true }),
  (["__and~f", "__andnot~f"], sounding [f, f] [f] (some []) (halves 1 1)),
  (["__asin", "__asinh"], messaging [c] [c] none),
  (["__atan2"], { messaging [c, c] [c] (some [number "y" 1]) with init := true }),
  (["__atan2_k"], { messaging [c] [c] (some [number "y" 0]) with init := true }),
  (["__atan2~f"], sounding [f, f] [f] none none),
  (["__bimod"], { messaging [c, c] [c] (some []) with init := true }),
  (["__bimod_k"], messaging [c, c] [c] (some [])),
  (["__biquad_k~f"],
    { sounding [f, c, c, c, c, c] [f] (some [number "ff0" 1, number "ff1" 0, number "ff2" 0,
      number "fb1" 0, number "fb2" 0]) (cycles 30 15) with init := true }),
  (["__biquad~f"], { sounding [f, f, f, f, f, f] [f] (some []) (some []) with init := true }),
  (["__cast~fi"], sounding [f] [i] (some []) (cycles 1 1)),
  (["__cast~if"], sounding [i] [f] (some []) (cycles 1 1)),
  (["__ceil~f"], sounding [f] [f] none (cycles 1 1)),
  (["__conv~f"],
    { sounding [f, c, c] [f] (some [⟨"table", .string, true, .text ""⟩,
      ⟨"size", .float, true, .int 0⟩]) (cycles 0 0) with init := true }),
  (["__cos~f", "__log2~f"], sounding [f] [f] (some []) none),
  (["__cpole~f"], { sounding [f, f, f, f] [f, f] (some []) (cycles 143 53) with init := true }),
  (["__del1~f"], { sounding [f] [f] (some []) (cycles 5 2) with init := true }),
  (["__delay"], { messaging [c, c, c] [c] (some [number "delay" 0]) with init := true }),
  (["__div~f"], sounding [f, f] [f] (some [number "k" 0]) (cycles 25 25)),
  (["__div~i"], sounding [i, i] [i] (some [number "k" 0]) none),
  (["__env~f"],
    { sounding [f] [c] (some [number "windowSize" 1024,
      number "period" 512]) (cycles 9 9) with control := true, init := true }),
  (["__floor~f"], sounding [f] [f] (some []) (cycles 5 5)),
  (["__fma~f", "__fms~f"], sounding [f, f, f] [f] (some []) (cycles 5 5)),
  (["__gte~f", "__gt~f", "__lt~f"], sounding [f, f] [f] (some []) (cycles 1 1)),
  (["__if"], { messaging [c, c] [c, c] (some [number "k" 0]) with init := true }),
  (["__inlet"], { inlets := [], outlets := [c] }),
  (["__intdiv", "__intdiv_k"], { messaging [c, c] [c] (some [number "k" 1]) with init := true }),
  (["__line~f"], { sounding [c, c] [f] (some []) (halves 11 7) with init := true }),
  (["__lorenz~f"],
    { sounding [f, f, f, f, c] [f, f, f] (some [number "x" 0, number "y" 0,
      number "z" 0]) none with init := true })]

end PatchCompiler.Catalogue
