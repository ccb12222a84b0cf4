import Mathlib.Algebra.Ring.Rat
import PatchCompiler.Proofs.Equations
import PatchCompiler.Proofs.Fusions

/-!
# Fusing keeps the values

The values before and after a fusing are the same, but that the new object has the value of the sum.
Whatever solves the equations before gives a solution after, and the other way round, and the same
arrives at every object that is still there.
-/

namespace PatchCompiler

open List Relation

namespace Net

/-- What fusing needs to know of a net to keep its values. -/
structure Fusing (net : Net) (wires loops : Multiset Wire) : Prop extends
    net.Primed wires loops where
  silent : ∀ wire ∈ loops, wire.isSignal = false
  outlets : ∀ graph, ∀ outlet ∈ (net.node graph).body.outletObjects,
    (net.node outlet).kind = .outlet
  leaving : ∀ wire ∈ wires, (net.node wire.source).type = "__mul~f" → wire.isSignal = true

/-- Values before and after a fusing that correspond to each other. -/
structure Matches {R : Type} (fusion : Fusion) (value worth : Ref → Int → R) : Prop where
  result : worth fusion.result = value fusion.sum
  others : ∀ ref, ref ≠ fusion.product → ref ≠ fusion.sum → ref ≠ fusion.result →
    worth ref = value ref

variable {R : Type} [CommRing R] {net last : Net} {root object ref : Ref}
  {wires loops new : Multiset Wire} {fusion : Fusion} {fusions : List Fusion}
  {meaning : Ref → (Nat → R) → Int → R} {value worth : Ref → Int → R}

omit [CommRing R] in
/-- Values before a fusing for values after it, with any value for the product. -/
theorem exists_matches (worth : Ref → Int → R) (sep : fusion.product ≠ fusion.sum)
    (product : Int → R) : ∃ value, Matches fusion value worth ∧ value fusion.product = product := by
  refine ⟨Function.update (Function.update worth fusion.sum (worth fusion.result))
    fusion.product product, ⟨?_, fun ref notP notS _ => ?_⟩, Function.update_self ..⟩
  · rw [Function.update_of_ne sep.symm, Function.update_self]
  · rw [Function.update_of_ne notP, Function.update_of_ne notS]

theorem lt_size_of_outlet (kind : (net.node ref).kind = .outlet) : ref < net.size :=
  lt_size_of_look Node.kind (kind ▸ nofun)

namespace Fuses

variable (fuses : Fuses loops net wires fusion last new) (fusing : net.Fusing wires loops)
include fuses fusing

theorem keeps_fusing : last.Fusing new loops := by
  refine ⟨fuses.primed fusing.toPrimed, fusing.silent, ?_, ?_⟩
  · intro g out mem
    rw [fuses.look_all (fun n => n.body.outletObjects) rfl (fun _ => rfl)] at mem
    have kind := fusing.outlets g out mem
    exact (fuses.look (lt_size_of_outlet kind) Node.kind rfl).trans kind
  · intro w inN isP
    have old := fuses.lt_size_of_arithmetic (by rw [isP]; decide)
    obtain ⟨pre, inWs, src, type⟩ := fuses.left_before inN old.ne
    rw [fuses.look old Node.type rfl, ← src] at isP
    have sig := fusing.leaving pre inWs isP
    rw [Wire.isSignal, type] at sig
    exact sig

theorem intake_old (eq : Matches fusion value worth) (notP : ref ≠ fusion.product)
    (notS : ref ≠ fusion.sum) (notResult : ref ≠ fusion.result) (place : Nat) :
    last.intake worth ref place = net.intake value ref place := by
  rw [fuses.nested.intake_eq fusing.silent, fusing.nested.intake_eq fusing.silent]
  obtain ⟨-, -, pair, -⟩ := fuses
  refine pair.arrived_old notP notS notResult (fun out => by rw [eq.result]) ?_
  intro w kept out
  obtain ⟨avoidsProduct, avoidsSum⟩ := pair.avoids w kept
  have lt := fusing.nested.end_lt_size (pair.base_subset w kept) .outlet
  rw [eq.others w.source avoidsProduct.1 avoidsSum.1 lt.ne]

theorem answers (eq : Matches fusion value worth) (out : Int) :
    net.answer root meaning value fusion.product out =
        last.intake worth fusion.result 0 * last.intake worth fusion.result 1 ∧
      ((∀ out, value fusion.product out = net.answer root meaning value fusion.product out) →
        net.answer root meaning value fusion.sum out =
          last.answer root meaning worth fusion.result out) := by
  have nest := fusing.nested
  have pre : ∀ ref place, net.intake value ref place = arrived value wires ref place :=
    nest.intake_eq fusing.silent value
  have after : ∀ ref place, last.intake worth ref place = arrived worth new ref place :=
    fuses.nested.intake_eq fusing.silent worth
  have newKind : (last.node net.size).kind = .plain := by
    obtain ⟨_, -, looks⟩ := fuses.look_new
    exact looks Node.kind rfl
  obtain ⟨fuse, hin, pair, melded⟩ := fuses
  rename_i g p link first snd ad type outs base
  have lt : ∀ w ∈ [first, snd, link, ad], w.source ≠ net.size := fun w mem =>
    (nest.end_lt_size (pair.mem_wires w mem) .outlet).ne
  have brings : ∀ w ∈ [first, snd, ad], w.brings worth = w.brings value := by
    intro w mem
    obtain ⟨notP, notS⟩ := pair.sources w mem
    unfold Wire.brings
    rw [eq.others w.source notP notS (lt w (by
      simp only [mem_cons, not_mem_nil, or_false] at mem ⊢
      tauto))]
  have nu : ∀ w ∈ wires, w.target ≠ net.size := fun w hm => (nest.end_lt_size hm .inlet).ne
  have linkBrings : link.brings value = value p link.outlet := by
    have sig : link.isSignal = true := fusing.leaving link (pair.mem_wires link (by simp))
      (pair.link_source ▸ fuse.isProduct)
    rw [Wire.brings, if_pos sig, pair.link_source]
  have productKind := (fusing.shaped p fuse.product_mem).1
  have sumKind := (fusing.shaped link.target fuse.sum_mem).1
  have newType : (last.node net.size).type = type := Node.look_of_bare melded.own Node.type rfl
  obtain ⟨left, right⟩ := pair.arrived_product value
  obtain ⟨one, two, three, -⟩ := pair.arrived_fused worth nu
  have operands : ∀ out, net.answer root meaning value p out =
      first.brings value * snd.brings value := by
    intro out
    rw [answer_plain productKind, Node.computes_product fuse.isProduct, pre, pre, left,
      right]
  dsimp only
  rw [answer_plain sumKind, answer_plain newKind, after, after, one, two,
    brings first (by simp), brings snd (by simp), operands]
  refine ⟨rfl, fun law => ?_⟩
  have linked : link.brings value = first.brings value * snd.brings value := by
    rw [linkBrings, law, operands]
  rcases fuse.isSum with ⟨isSum, rfl⟩ | ⟨isDifference, k, rfl⟩
  · rw [Node.computes_sum isSum, Node.computes_fusedSum newType, pre, pre, after, after,
      after, one, two, three, brings first (by simp), brings snd (by simp),
      brings ad (by simp), ← linked]
    rcases pair.arrived_sum value with ⟨-, here, y⟩ | ⟨-, y, here⟩
    · rw [here, y]
    · rw [here, y, add_comm]
  · rw [Node.computes_difference isDifference, Node.computes_fusedDifference newType, pre, pre,
      after, after, after, one, two, three, brings first (by simp), brings snd (by simp),
      brings ad (by simp), ← linked]
    rcases pair.arrived_sum value with ⟨-, here, y⟩ | ⟨y, -⟩
    · rw [here, y]
    · exact absurd (k.symm.trans y) (by decide)

theorem answer_old (eq : Matches fusion value worth) (hm : net.Inside root object)
    (notP : object ≠ fusion.product) (notS : object ≠ fusion.sum) (outlet : Int) :
    last.answer root meaning worth object outlet = net.answer root meaning value object outlet := by
  obtain ⟨own, -, ok⟩ := TransGen.tail'_iff.mp hm
  have lt := fusing.nested.lt_size ok.2
  refine answer_eq (fuses.bare_old lt) fun ref reads i => ?_
  rcases reads with rfl | ⟨outlet, j, got⟩
  · exact fuses.intake_old fusing eq notP notS (fuses.result ▸ lt.ne) i
  · rcases feedthrough_cases got with ⟨-, mem⟩ | ⟨up, -⟩
    · have kind := fusing.outlets object ref mem
      have notPlain : (net.node ref).kind ≠ .plain := by simp [kind]
      obtain ⟨notP, notS⟩ := fuses.not_fused_of_kind fusing.toPrimed notPlain
      exact fuses.intake_old fusing eq notP notS (fuses.result ▸ (lt_size_of_outlet kind).ne) i
    · have isHolder : own = ref :=
        Option.some.inj ((fusing.nested.parents own object ok).symm.trans up)
      subst isHolder
      obtain ⟨notP, notS⟩ := fuses.not_fused_of_kind fusing.toPrimed (kind_ne_plain ok.1)
      exact fuses.intake_old fusing eq notP notS (fuses.result ▸ (lt_size_of_isGraph ok.1).ne) i

theorem solves (solves : net.Solves root meaning value) (eq : Matches fusion value worth) :
    last.Solves root meaning worth := by
  intro object mem out
  rcases (fuses.inside_iff fusing.toPrimed).mp mem with ⟨old, notP, notS⟩ | ⟨sub, rfl⟩
  · obtain ⟨own, -, ok⟩ := TransGen.tail'_iff.mp old
    have notResult : object ≠ fusion.result := fuses.result ▸ (fusing.nested.lt_size ok.2).ne
    rw [eq.others object notP notS notResult, solves object old,
      fuses.answer_old fusing eq old notP notS]
  · have p : net.Inside root fusion.product := .tail' sub fuses.inside
    have sum : net.Inside root fusion.sum := .tail' sub (fuses.sum_inside fusing.nested)
    rw [← fuses.result, eq.result, solves fusion.sum sum,
      (fuses.answers fusing eq out).2 (solves fusion.product p)]

theorem solves_before (solves : last.Solves root meaning worth) (eq : Matches fusion value worth)
    (law : ∀ outlet, value fusion.product outlet =
      last.intake worth fusion.result 0 * last.intake worth fusion.result 1) :
    net.Solves root meaning value := by
  have productLaw : ∀ outlet, value fusion.product outlet =
      net.answer root meaning value fusion.product outlet := by
    intro outlet
    rw [law, (fuses.answers fusing eq outlet).1]
  intro object mem outlet
  obtain ⟨own, sub, ok⟩ := TransGen.tail'_iff.mp mem
  by_cases isP : object = fusion.product
  · rw [isP, productLaw]
  · by_cases isSum : object = fusion.sum
    · have isHolder := Parented.unique fusing.nested.parents ok
        (isSum ▸ fuses.sum_inside fusing.nested)
      have res : last.Inside root fusion.result :=
        (fuses.inside_iff fusing.toPrimed).mpr (.inr ⟨isHolder ▸ sub, fuses.result⟩)
      rw [isSum, ← eq.result, solves fusion.result res,
        (fuses.answers fusing eq outlet).2 productLaw]
    · have notResult : object ≠ fusion.result :=
        fuses.result ▸ (fusing.nested.lt_size ok.2).ne
      rw [← eq.others object isP isSum notResult,
        solves object ((fuses.inside_iff fusing.toPrimed).mpr (.inl ⟨mem, isP, isSum⟩)),
        fuses.answer_old fusing eq mem isP isSum]

end Fuses

namespace Fusions

variable (run : Fusions loops net wires fusions last new) (fusing : net.Fusing wires loops)
include run fusing

def Apart (fusions : List Fusion) (ref : Ref) : Prop :=
  ∀ fusion ∈ fusions, ref ≠ fusion.product ∧ ref ≠ fusion.sum ∧ ref ≠ fusion.result

theorem inside_of_apart (sep : Apart fusions object) (mem : net.Inside root object) :
    last.Inside root object := by
  induction run with
  | nil => exact mem
  | cons first _ ih =>
    obtain ⟨⟨notP, notS, -⟩, rest⟩ := forall_mem_cons.mp sep
    exact ih (first.keeps_fusing fusing) rest
      ((first.inside_iff fusing.toPrimed).mpr (.inl ⟨mem, notP, notS⟩))

theorem exists_solves_after (solves : net.Solves root meaning value) :
    ∃ worth, last.Solves root meaning worth := by
  induction run generalizing value with
  | nil => exact ⟨value, solves⟩
  | @cons _ _ _ _ _ _ fusion _ first _ ih =>
    have eq : Matches fusion value (Function.update value fusion.result (value fusion.sum)) :=
      ⟨Function.update_self .., fun ref _ _ ne => Function.update_of_ne ne ..⟩
    exact ih (first.keeps_fusing fusing) (first.solves fusing solves eq)

theorem exists_solves_before (solves : last.Solves root meaning worth) :
    ∃ value, net.Solves root meaning value ∧ ∀ ref, Apart fusions ref → ∀ place,
      last.intake worth ref place = net.intake value ref place := by
  induction run with
  | nil => exact ⟨worth, solves, fun _ _ _ => rfl⟩
  | @cons _ mid _ _ _ _ fusion _ first _ ih =>
    obtain ⟨between, post, intakes⟩ := ih (first.keeps_fusing fusing) solves
    obtain ⟨value, eq, p⟩ := exists_matches between first.apart fun _ =>
      mid.intake between fusion.result 0 * mid.intake between fusion.result 1
    refine ⟨value, first.solves_before fusing post eq fun out => by rw [p],
      fun ref sep place => ?_⟩
    obtain ⟨⟨notP, notS, notResult⟩, rest⟩ := forall_mem_cons.mp sep
    rw [intakes ref rest, first.intake_old fusing eq notP notS notResult]

end Fusions

/-- What becomes of a hierarchy in which products have been fused. Every fusing takes one product
and one sum or difference out of a graph, none of them twice, and puts one object in their place.
In the end there is nothing left to fuse. -/
structure AllFused (net : Net) (root : Ref) (fusions : List Fusion) (last : Net) : Prop where
  size : last.size = net.size + fusions.length
  results : fusions.map Fusion.result = List.range' net.size fusions.length
  pairs : ∀ fusion ∈ fusions,
    net.Contains fusion.graph fusion.product ∧ net.Contains fusion.graph fusion.sum ∧
      (net.node fusion.product).type = "__mul~f" ∧
      ((net.node fusion.sum).type = "__add~f" ∧ (last.node fusion.result).type = "__fma~f" ∨
        (net.node fusion.sum).type = "__sub~f" ∧ (last.node fusion.result).type = "__fms~f")
  distinct : (fusions.flatMap fun fusion => [fusion.product, fusion.sum]).Nodup
  contains : ∀ graph object, last.Contains graph object ↔ net.Contains graph object ∧
        (∀ fusion ∈ fusions, object ≠ fusion.product ∧ object ≠ fusion.sum) ∨
      ∃ fusion ∈ fusions, fusion.graph = graph ∧ fusion.result = object
  old : ∀ ref < net.size, (last.node ref).bare = (net.node ref).bare
  spares : Spares (fun wire => ∃ fusion ∈ fusions,
    wire.Meets fusion.product fusion.sum fusion.result) net last
  outputs : ∀ fusion ∈ fusions, ∀ channel, ¬ net.Adder fusion.sum channel
  complete : ∀ object, last.Inside root object → Build.fusedWith? last object = none

theorem Fusions.allFused (run : Fusions loops net wires fusions last new)
    (primed : net.Primed wires loops)
    (spent : ∀ object, last.Inside root object → last.Spent object) :
    AllFused net root fusions last where
  size := run.size
  results := run.results
  pairs := by
    intro fusion mem
    obtain ⟨p, sum⟩ := run.inside primed.nested fusion mem
    exact ⟨p, sum, (run.types fusion mem).1, run.result_types fusion mem⟩
  distinct := run.nodup primed.nested
  contains := fun _ _ => run.contains_iff primed.nested
  old := fun _ => run.bare_old
  spares := run.spares
  outputs := by
    intro fusion mem c a
    have nest := primed.nested
    obtain ⟨w, inWs, src⟩ := run.sum_used nest fusion mem
    obtain ⟨place, lt, k⟩ := (nest.threaded.fits w inWs).bound .outlet
    have noted := nest.threaded.holds .outlet w.source
      (mem_range.mpr (nest.end_lt_size inWs .outlet)) place
    have hm : w ∈ net.held .outlet w.source place := by
      rw [← Multiset.mem_coe, noted, twice, Multiset.add_zero]
      exact Multiset.mem_filter.mpr ⟨inWs, rfl, k⟩
    rw [held, src, Node.lets, a.last] at hm
    rcases place with _ | place
    · cases hm
    · cases hm
  complete := by
    intro object hin
    rw [Option.eq_none_iff_forall_not_mem]
    rintro ⟨link, type⟩ got
    exact spent object hin link type (fusible_of_fusedWith? got)

end Net

namespace Build

open Net

variable {R : Type} [CommRing R] {net : Net} {root : Ref} {wires loops : Multiset Wire}

/-- Fusing products keeps what arrives at every object that is still there. -/
theorem fuseProducts_keeps_values (computing : net.Computing root wires loops) (shaped : net.Shaped)
    (leaving : ∀ wire ∈ wires, (net.node wire.source).type ∈ arithmeticTypes → wire.isSignal = true)
    (meaning : Ref → (Nat → R) → Int → R) :
    Ends (fuseProducts root) net fun _ last => ∃ fusions, AllFused net root fusions last ∧
      (∃ value, net.Solves root meaning value) ∧ (∃ worth, last.Solves root meaning worth) ∧
      ∀ value worth, net.Solves root meaning value → last.Solves root meaning worth →
        ∀ object, net.Inside root object → object ∉ fusions.flatMap (fun fusion =>
          [fusion.product, fusion.sum]) → last.Inside root object ∧
          ∀ place, last.intake worth object place = net.intake value object place := by
  have unpaired : net.Unpaired wires := by
    rintro wire inWires back backInWires isProduct isSum ⟨source, target⟩
    have there : ∀ wire ∈ wires, wire ∈ wires + loops :=
      fun wire inWires => Multiset.mem_add.mpr (.inl inWires)
    refine computing.acyclic wire.source (.tail (.single
      ⟨wire, there wire inWires, leaving wire inWires (by rw [isProduct]; decide), rfl, rfl⟩)
      ⟨back, there back backInWires, leaving back backInWires ?_, source, target⟩)
    rw [source]
    exact mem_arithmeticTypes isSum
  have fusing : net.Fusing wires loops := by
    refine ⟨⟨computing.nested, shaped, unpaired⟩, computing.silent,
      fun graph outlet listed => (computing.outlets graph outlet listed).2, ?_⟩
    exact fun wire inWires isProduct => leaving wire inWires (by rw [isProduct]; decide)
  apply Ends.mono (ends_fuseProducts fusing.toPrimed computing.lowered computing.isGraph)
  rintro _ last ⟨fusions, new, run, spent⟩
  have nested := computing.nested
  obtain ⟨value, solves⟩ := computing.exists_solves meaning
  obtain ⟨worth, solvesAfter⟩ := run.exists_solves_after fusing solves
  refine ⟨fusions, run.allFused fusing.toPrimed spent, ⟨value, solves⟩, ⟨worth, solvesAfter⟩, ?_⟩
  clear! value worth
  intro value worth solves solvesAfter object inside survives
  obtain ⟨holder, -, holds⟩ := TransGen.tail'_iff.mp inside
  have apart : Fusions.Apart fusions object := by
    intro fusion listed
    have above : fusion.result ∈ List.range' net.size fusions.length := by
      rw [← run.results]
      exact mem_map_of_mem listed
    refine ⟨?_, ?_, ?_⟩
    · rintro rfl
      exact survives (mem_flatMap.mpr ⟨fusion, listed, by simp⟩)
    · rintro rfl
      exact survives (mem_flatMap.mpr ⟨fusion, listed, by simp⟩)
    · exact ((nested.lt_size holds.2).trans_le (mem_range'_1.mp above).1).ne
  refine ⟨run.inside_of_apart fusing apart inside, fun place => ?_⟩
  obtain ⟨other, solvesOther, intakes⟩ := run.exists_solves_before fusing solvesAfter
  rw [intakes object apart]
  refine intake_congr (fun slot wire heard => ?_) place
  exact computing.solves_unique solves solvesOther
    (computing.inside_of_informs ⟨inside, object, .inl rfl, slot, wire, heard, rfl⟩)

end Build

namespace Quadratic

open Net

/-- A product of two oscillators is added to a polynomial that a graph of its own computes. -/
def net : Net where
  nodes := #[
    .outermost [(.given "x", 1), (.given "y", 2), (.given "m", 3), (.given "g", 4),
      (.given "a", 9), (.given "d", 10)],
    .wired "__phasor_k~f" 1 0 [[], []] [[.signal 1 3 0, .signal 1 4 0]],
    .wired "__phasor_k~f" 2 0 [[], []] [[.signal 2 3 1]],
    .wired "__mul~f" 3 0 [[.signal 1 3 0], [.signal 2 3 1]] [[.signal 3 9 1]],
    { type := "graph", kind := .graph, identity := 4, parent := some 0
      inlets := [[.signal 1 4 0]], outlets := [[.signal 4 9 0]]
      body := {
        objects := [(.given "i", 5), (.given "m", 6), (.given "s", 7), (.given "o", 8)]
        inletObjects := [5], outletObjects := [8] } },
    { type := "__inlet", kind := .inlet, identity := 5, parent := some 4
      arguments := [("index", .int 0)]
      outlets := [[.signal 5 6 0, .signal 5 6 1, .signal 5 7 1]] },
    .wired "__mul~f" 6 4 [[.signal 5 6 0], [.signal 5 6 1]] [[.signal 6 7 0]],
    .wired "__sub~f" 7 4 [[.signal 6 7 0], [.signal 5 7 1]] [[.signal 7 8 0]],
    { type := "__outlet", kind := .outlet, identity := 8, parent := some 4
      arguments := [("index", .int 0)], inlets := [[.signal 7 8 0]] },
    .wired "__add~f" 9 0 [[.signal 4 9 0], [.signal 3 9 1]] [[.signal 9 10 0]],
    { type := "__add~f", kind := .plain, identity := 10, parent := some 0
      inlets := [[.signal 9 10 0], []], outlets := [[]]
      inletBuffers := [.zero, ⟨.output, 0⟩], outletBuffers := [⟨.output, 0⟩] }]

def wires : List Wire :=
  [.signal 1 3 0, .signal 1 4 0, .signal 2 3 1, .signal 3 9 1, .signal 4 9 0, .signal 5 6 0,
    .signal 5 6 1, .signal 5 7 1, .signal 6 7 0, .signal 7 8 0, .signal 9 10 0]

theorem lowered : net.Lowered 0 :=
  .of_isLowered (show net.isLowered 3 0 = true by decide +kernel)

theorem computing : net.Computing 0 wires 0 where
  nested := .of_lets (by decide) (by decide) (by decide) (by decide)
  lowered := lowered
  isGraph := rfl
  outermost := by
    have small : ∀ graph < 11, 0 ∉ net.contents graph := by decide
    exact fun graph ok => small graph (lt_size_of_isGraph ok.1) ok.2
  acyclic := by
    rw [Multiset.add_zero]
    exact not_transGen_sends (by decide)
  outlets := by
    have small : ∀ graph < 11, ∀ out ∈ (net.node graph).body.outletObjects,
        (net.node graph).isGraph = true ∧ out ∈ net.contents graph ∧
          (net.node out).kind = .outlet := by decide
    intro graph out mem
    have lt := lt_size_of_look (fun n => n.body.outletObjects) (ne_nil_of_mem mem)
    obtain ⟨isGraph, hin, kind⟩ := small graph lt out mem
    exact ⟨⟨isGraph, hin⟩, kind⟩

theorem shaped : net.Shaped :=
  .of_size (by decide)

def numbered (object : Ref) (_ : Nat → ℚ) (_ : Int) : ℚ :=
  object

/-- What the inner graph sends is the same when both products have been fused. -/
theorem keeps_outlet : net.Computing 0 wires 0 ∧ net.Shaped ∧
    Build.Ends (Build.fuseProducts 0) net fun _ last =>
      (∃ worth, last.Solves 0 numbered worth) ∧
      ∀ value worth, net.Solves 0 numbered value → last.Solves 0 numbered worth →
        last.intake worth 8 0 = net.intake value 8 0 := by
  refine ⟨computing, shaped, ?_⟩
  apply Build.Ends.mono (Build.fuseProducts_keeps_values computing shaped (by decide) numbered)
  rintro _ last ⟨fusions, fused, -, solved, same⟩
  have graph : net.Contains 0 4 := ⟨rfl, by decide⟩
  have outlet : net.Contains 4 8 := ⟨rfl, by decide⟩
  have survives : 8 ∉ fusions.flatMap fun fusion => [fusion.product, fusion.sum] := by
    intro isPart
    obtain ⟨fusion, listed, part⟩ := mem_flatMap.mp isPart
    obtain ⟨-, -, product, sum⟩ := fused.pairs fusion listed
    simp only [mem_cons, not_mem_nil, or_false] at part
    rcases part with same | same
    · exact absurd (same ▸ product) (by decide)
    · rcases sum with ⟨isSum, -⟩ | ⟨isDifference, -⟩
      · exact absurd (same ▸ isSum) (by decide)
      · exact absurd (same ▸ isDifference) (by decide)
  refine ⟨solved, fun value worth before after => ?_⟩
  exact (same value worth before after 8 (.tail (.single graph) outlet) survives).2 0

end Quadratic

end PatchCompiler
