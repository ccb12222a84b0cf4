import PatchCompiler.Proofs.Cascade
import PatchCompiler.Proofs.Fusions
import PatchCompiler.Proofs.Lasting
import PatchCompiler.Proofs.Merging

/-!
# One signal at each inlet

When signals have been added up every inlet has at most one signal. The passes that follow keep it
so, and then no buffer is refused because too many signals arrive, provided that no product goes into
a sum that goes back into it: such a pair becomes an object with a loop, which is noted twice.
-/

namespace PatchCompiler

open List Multiset

variable {ref : Ref} {name : Name} {rs : List Ref}

namespace Net

def Single (net : Net) : Prop :=
  ∀ ref slot, (Build.signals (net.held .inlet ref slot)).length ≤ 1

theorem Single.change {net : Net} {f : Node → Node} (one : net.Single)
    (kept : ∀ n, (f n).inlets = n.inlets) : (net.change ref f).Single := by
  intro object slot
  have eq : (net.change ref f).held .inlet object slot = net.held .inlet object slot := by
    unfold held
    exact node_change_keeps (fun n => n.inlets.getD slot []) (fun n => by rw [kept]) object
  rw [eq]
  exact one object slot

end Net

namespace Build

open Net

/-- Faults that say nothing of signals that meet. -/
abbrev Other (fault : Fault) : Prop :=
  ¬ fault.IsFanIn

variable {object graph : Ref}

theorem lasting_single : Lasting Other Single where
  alike one alike ref slot := by
    rw [held, Node.lets, alike.look Node.inlets rfl]
    exact one ref slot
  other _ unlike := unlike
  many one more := absurd (one _ _) more.not_ge

theorem keeps_orderSignals : Keeps Other Single (orderSignals graph) :=
  lasting_single.orderSignals fun _ => .change fun _ one => one.change fun _ => rfl

/-- Where at most one signal arrives at every inlet, no buffer is refused for more. -/
theorem keeps_assignBuffers : Keeps Other Single (assignBuffers graph) :=
  lasting_single.assignBuffers (fun _ => True) (fun _ _ => keeps_orderSignals)
    (fun _ _ _ _ _ => trivial) trivial

def Fewer (net last : Net) : Prop :=
  ∀ side ref slot, (signals (last.held side ref slot)).Sublist (signals (net.held side ref slot))

variable {start net last : Net}

theorem Fewer.of_held (fewer : Fewer start net)
    (held : ∀ s ref j, last.held s ref j = net.held s ref j) : Fewer start last := by
  intro s ref j
  rw [held]
  exact fewer s ref j

theorem Fewer.change {f : Node → Node} (fewer : Fewer start net)
    (kept : ∀ s n, (f n).lets s = n.lets s) : Fewer start (net.change ref f) := by
  refine fewer.of_held fun s object j => ?_
  unfold held
  exact node_change_keeps (fun n => (n.lets s).getD j [])
    (fun n => by rw [kept]) object

theorem Fewer.changeLets {s : Side} {j : Nat} {f : List Wire → List Wire}
    (fewer : Fewer start net) (less : ∀ list, (signals (f list)).Sublist (signals list)) :
    Fewer start (net.changeLets s ref j f) := by
  intro third object i
  refine List.Sublist.trans ?_ (fewer third object i)
  rcases held_changeLets third object i with eq | changed
  · rw [eq]
  · rw [changed]
    exact less _

theorem Fewer.push {n : Node} (fewer : Fewer start net)
    (bare : ∀ s j, (n.lets s).getD j [] = []) : Fewer start (net.push n) := by
  intro s ref j
  refine List.Sublist.trans ?_ (fewer s ref j)
  have same : (net.push n).held s ref j = net.held s ref j := by
    refine look_grown (fun n => (n.lets s).getD j []) size_push (fun lt => ?_) ?_
    · rw [node_push_of_lt lt]
    · rw [node_push_self, bare]
      cases s <;> rfl
  rw [same]

theorem keeps_attach {w : Wire} (mute : w.isSignal = false) :
    Keeps (fun _ => True) (Fewer start) (attach ref w) := by
  intro net fewer
  apply yields_attach.mono
  rintro _ last ⟨s, i, -, rfl⟩
  refine fewer.changeLets fun list => ?_
  simp [signals, filter_append, mute]

theorem keeps_makeLow {type : String} {kind : Kind} {args annotations : Record}
    {graph : Option Ref} :
    Keeps (fun _ => True) (Fewer start) (makeLow type kind args annotations graph) := by
  refine (Keeps.ofExcept fun _ _ => trivial).bind fun lets => ?_
  dsimp only
  refine Keeps.bind ?_ fun desc => ?_
  · unfold describeLow
    split
    · exact .pure _
    · exact .pure _
    · exact .throw trivial
  · refine (Keeps.ofExcept fun _ _ => trivial).bind fun _ => ?_
    intro net fewer
    refine .of_run rfl (fewer.push fun s j => ?_)
    cases s with
    | inlet => exact getD_replicate_nil _ _
    | outlet => exact getD_replicate_nil _ _

theorem enduring_fewer : Enduring (Fewer start) where
  change kept := .change fun net fewer => fewer.change fun s n => by
    cases s
    · exact (kept n).2.2.1
    · exact (kept n).2.2.2
  detach ref wire net fewer := by
    apply yields_detach.mono
    rintro _ last ⟨s, i, -, -, rfl⟩
    exact fewer.changeLets fun list => erase_sublist.filter _
  add graph object net fewer := yields_add_held.mono fun _ _ eq => fewer.of_held eq.2
  makeReceive args notes := keeps_makeLow

theorem keeps_takeWires {r : Ref}
    (quiet : ∀ old ∈ rs, ∀ w ∈ start.held .outlet old 0, w.isSignal = false) :
    Keeps (fun _ => True) (Fewer start) (takeWires r rs) := by
  refine Keeps.bind (.forIn fun old isIn v => ?_) fun _ => .pure _
  intro net fewer
  apply Guarded.at_node
  apply Guarded.bind yields_fetch
  rintro wires _ ⟨rfl, got⟩
  have mute : ∀ w ∈ wires, w.isSignal = false := by
    intro w mem
    by_contra sounding
    rw [held_of_at? got] at mem
    have inSignals : w ∈ signals (Net.held _ .outlet old 0) :=
      mem_filter.mpr ⟨mem, by simpa using sounding⟩
    have pre := mem_filter.mp ((fewer .outlet old 0).subset inSignals)
    exact sounding (quiet old isIn w pre.1)
  refine Keeps.bind (.forIn fun w mem v => ?_) (fun _ => .pure _) _ fewer
  have eq : ({ w with source := r } : Wire).isSignal = false := mute w mem
  exact ((keeps_attach eq).bind fun _ => keeps_attach eq).bind fun _ => .pure _

theorem keeps_groupName (quiet : ∀ old ∈ rs, ∀ w ∈ start.held .outlet old 0, w.isSignal = false) :
    Keeps (fun _ => True) (Fewer start) (groupName graph name rs) := by
  refine Keeps.bind (keeps_openReceiver enduring_fewer _ _ _) fun r => ?_
  intro net fewer
  apply Guarded.bind yields_argumentsOf
  rintro priorities _ ⟨rfl, eq⟩
  apply Guarded.bind yields_ofExcept
  rintro sorted _ ⟨rfl, ord⟩
  refine Keeps.bind (keeps_takeWires fun old isIn => quiet old ?_)
    (fun _ => keeps_removeAll enduring_fewer _) _ fewer
  obtain ⟨⟨priority, object⟩, mem, rfl⟩ := mem_map.mp isIn
  exact (of_mem_zip ((byPriority_ok ord).perm.mem_iff.mp mem)).2

theorem yields_groupReceivers_fewer (quiet : ∀ r, (net.node r).type = "__receive" →
      ∀ w ∈ net.held .outlet r 0, w.isSignal = false) :
    Yields (groupReceivers graph) net fun _ last => Fewer net last := by
  apply Guarded.bind_run (EStateM.run_get _)
  refine Keeps.bind (.forIn fun gp isIn v => ?_) (fun _ => .pure _) net fun _ _ _ => .refl _
  refine Keeps.bind (keeps_groupName fun old mem => quiet old ?_) fun _ => .pure _
  obtain ⟨e, -, rfl⟩ := mem_map.mp (mem_filter.mp isIn).1
  exact beq_iff_eq.mp (mem_filter.mp mem).2

end Build

namespace Net

variable {net last : Net} {root : Ref} {wires loops new : Multiset Wire}

theorem Sprouts.lowered (sprouts : Sprouts net last) {object : Ref}
    (low : net.Lowered object) : last.Lowered object := by
  induction low with
  | @object object spec language plain eq =>
    have lt : object < net.size := lt_size_of_look (fun n => Catalogue.irSpec? n.type) (eq ▸ nofun)
    have type := sprouts.look lt Node.type rfl
    refine .object ?_ ?_ (type ▸ eq)
    · rw [sprouts.look lt (fun n => n.kind.isLanguage) rfl]
      exact language
    · rw [sprouts.look lt Node.isGraph rfl]
      exact plain
  | @graph graph isG _ indexed ih =>
    have lt := lt_size_of_isGraph isG
    refine .graph ?_ ?_ ?_
    · rw [sprouts.look lt Node.isGraph rfl]
      exact isG
    · intro object there
      obtain ⟨more, split, fresh⟩ := sprouts.contents graph
      rw [split, mem_append] at there
      rcases there with old | added
      · exact ih object old
      · obtain ⟨ge, mem⟩ := fresh object added
        obtain ⟨own, same⟩ := sprouts.adders object ge mem
        have type : (last.node object).type = "__add~f" := Node.look_of_bare same Node.type rfl
        have eq : ∃ spec, Catalogue.irSpec? "__add~f" = some spec := ⟨_, rfl⟩
        obtain ⟨spec, isSpec⟩ := eq
        exact .object (Node.look_of_bare same (fun n => n.kind.isLanguage) rfl)
          (sprouts.not_isGraph_new ge mem) (type ▸ isSpec)
    · rw [sprouts.look lt (fun n => n.body.inletObjects) rfl]
      intro i listed
      obtain ⟨k, eq, isNumber⟩ := indexed i listed
      refine ⟨k, ?_, isNumber⟩
      have mem : i < net.size := lt_size_of_look (fun n => n.arguments.get? "index") (eq ▸ nofun)
      rw [sprouts.look mem Node.arguments rfl]
      exact eq

structure Reduced (net : Net) (root : Ref) (wires loops : Multiset Wire) : Prop where
  nested : net.Nested wires loops
  lowered : net.Lowered root
  isGraph : (net.node root).isGraph = true
  whole : ∀ wire ∈ wires + loops, net.Inside root wire.target
  shaped : net.Shaped
  quiet : ∀ wire ∈ wires, (net.node wire.source).type = "__receive" → wire.isSignal = false

/-- The objects that a net has more than another are adders, and with these values they add. -/
def Adding {R : Type} [AddCommMonoid R] (net last : Net) (value : Ref → Int → R) : Prop :=
  ∀ adder, net.size ≤ adder → adder < last.size → (last.node adder).type = "__add~f" ∧
    value adder 0 = last.intake value adder 0 + last.intake value adder 1

theorem Nested.single (nest : net.Nested wires loops) (mute : ∀ w ∈ loops, w.isSignal = false)
    (few : ∀ ref j, (signalsAt wires ref j).card ≤ 1) : net.Single := by
  intro ref j
  rw [← coe_card, nest.coe_signals mute]
  exact few ref j

namespace AddsUp

variable (adds : AddsUp net loops wires last new)
include adds

theorem type_new {a : Ref} (ge : net.size ≤ a) (lt : a < last.size) :
    (last.node a).type = "__add~f" := by
  obtain ⟨graph, eq⟩ := adds.adders a ge lt
  exact Node.look_of_bare eq Node.type rfl

theorem shaped (shaped : net.Shaped) : last.Shaped := by
  intro object arith
  have lt := lt_size_of_type arith
  by_cases old : object < net.size
  · rw [adds.look old Node.type rfl] at arith
    obtain ⟨kind, ins, outs⟩ := shaped object arith
    exact ⟨(adds.look old Node.kind rfl).trans kind,
      (adds.length_lets old .inlet).trans ins, (adds.length_lets old .outlet).trans outs⟩
  · obtain ⟨graph, eq⟩ := adds.adders object (not_lt.mp old) lt
    have lengths : ∀ s, ((last.node object).lets s).length =
        (((Node.plain "__add~f" [] 2 1 object).inGraph graph).lets s).length := fun s =>
      Node.look_of_bare eq (fun n => (n.lets s).length) (funext (Node.length_lets_unwired s))
    exact ⟨Node.look_of_bare eq Node.kind rfl, lengths .inlet, lengths .outlet⟩

theorem lt_size_of_ne (mem : ref < last.size)
    (notAdder : (last.node ref).type ≠ "__add~f") : ref < net.size := by
  by_contra ge
  exact notAdder (adds.type_new (not_lt.mp ge) mem)

/-- What leaves an old object has left it before, and leads to where its new target is at home. -/
theorem left_before (nest : net.Nested wires loops) : ∃ home : Ref → Ref,
    (∀ ref < net.size, home ref = ref) ∧ ∀ w ∈ new,
      (w.source < net.size → ∃ old ∈ wires, old.source = w.source ∧ old.type = w.type ∧
        old.target = home w.target) ∧ (net.size ≤ w.source → home w.source = home w.target) := by
  obtain ⟨home, fixed, leads⟩ := adds.homes
  refine ⟨home, fixed, fun w mem => ?_⟩
  rcases leads w mem with ⟨ge, eq⟩ | earlier
  · exact ⟨fun lt => absurd lt ge.not_gt, fun _ => eq⟩
  · refine ⟨fun _ => earlier, fun ge => ?_⟩
    obtain ⟨old, inWs, src, -⟩ := earlier
    exact absurd (src ▸ nest.end_lt_size inWs .outlet) ge.not_gt

/-- No product goes into an adder that goes back into it: the adder would be for the product. -/
theorem unpaired (nest : net.Nested wires loops) (unpaired : net.Unpaired wires) :
    last.Unpaired new := by
  obtain ⟨home, fixed, leads⟩ := adds.left_before nest
  rintro w inN back backInNew isP isSum ⟨src, tgt⟩
  have productOld : w.source < net.size :=
    adds.lt_size_of_ne (adds.nested.end_lt_size inN .outlet)
      (show (last.node w.source).type ≠ _ by rw [isP]; decide)
  obtain ⟨early, inWs, earlySource, -, earlyTarget⟩ := (leads w inN).1 productOld
  have type : (net.node early.source).type = "__mul~f" := by
    rw [earlySource, ← adds.look productOld Node.type rfl]
    exact isP
  by_cases old : w.target < net.size
  · obtain ⟨earlyBack, backInWires, backSource, -, backTarget⟩ :=
      (leads back backInNew).1 (src ▸ old)
    rw [fixed _ old] at earlyTarget
    rw [tgt, fixed _ productOld] at backTarget
    refine unpaired early inWs earlyBack backInWires type ?_
      ⟨backSource.trans (src.trans earlyTarget.symm), backTarget.trans earlySource.symm⟩
    rw [earlyTarget, ← adds.look old Node.type rfl]
    exact isSum
  · have eq := (leads back backInNew).2 (src ▸ not_lt.mp old)
    rw [src, tgt, fixed _ productOld, ← earlyTarget, ← earlySource] at eq
    exact (nest.threaded.fits early inWs).apart eq.symm

theorem quiet (nest : net.Nested wires loops)
    (quiet : ∀ w ∈ wires, (net.node w.source).type = "__receive" → w.isSignal = false) :
    ∀ w ∈ new, (last.node w.source).type = "__receive" → w.isSignal = false := by
  intro w inN isR
  have old : w.source < net.size :=
    adds.lt_size_of_ne (adds.nested.end_lt_size inN .outlet)
      (show (last.node w.source).type ≠ _ by rw [isR]; decide)
  obtain ⟨home, -, leads⟩ := adds.left_before nest
  obtain ⟨early, inWs, src, type, -⟩ := (leads w inN).1 old
  have mute := quiet early inWs (by
    rw [src, ← adds.look old Node.type rfl]
    exact isR)
  rwa [Wire.isSignal, type] at mute

end AddsUp

theorem Fusions.quiet {fusions : List Fusion} (run : Fusions loops net wires fusions last new)
    (last_nested : last.Nested new loops)
    (quiet : ∀ w ∈ wires, (net.node w.source).type = "__receive" → w.isSignal = false) :
    ∀ w ∈ new, (last.node w.source).type = "__receive" → w.isSignal = false := by
  intro w inN isR
  have old : w.source < net.size := by
    by_contra ge
    have nw : w.source ∈ fusions.map Fusion.result := by
      have lt : w.source < last.size := last_nested.end_lt_size inN .outlet
      rw [run.size] at lt
      rw [run.results, mem_range'_1]
      exact ⟨not_lt.mp ge, lt⟩
    obtain ⟨fus, mem, eq⟩ := mem_map.mp nw
    rcases run.result_types fus mem with ⟨-, type⟩ | ⟨-, type⟩
    · rw [eq, isR] at type
      exact absurd type (by decide)
    · rw [eq, isR] at type
      exact absurd type (by decide)
  obtain ⟨early, inWs, src, type⟩ := run.left_before inN old
  have mute := quiet early inWs (by
    rw [src, ← run.look old Node.type rfl]
    exact isR)
  rwa [Wire.isSignal, type] at mute

end Net

namespace Build

open Net

variable {net last : Net} {root : Ref} {wires loops : Multiset Wire}

/-- After the fusing and the grouping no buffer is refused because more than one signal arrives. -/
theorem fuse_then_assign (primed : net.Primed wires loops) (low : net.Lowered root)
    (isG : (net.node root).isGraph = true) (mute : ∀ w ∈ loops, w.isSignal = false)
    (few : ∀ ref j, (signalsAt wires ref j).card ≤ 1)
    (quiet : ∀ w ∈ wires, (net.node w.source).type = "__receive" → w.isSignal = false) :
    ∃ fused, (fuseProducts root).run net = .ok () fused ∧ ∀ grp,
      (groupReceivers root).run fused = .ok () grp → ∀ err post,
        (assignBuffers root).run grp = .error err post → ¬ err.IsFanIn := by
  obtain ⟨⟨⟩, fused, run, fusions, new, fuses, -⟩ := ends_fuseProducts primed low isG
  have nest := (fuses.primed primed).nested
  have one := nest.single mute fun ref j =>
    fuses.few primed.nested ref j fun _ => few ref j
  have muted : ∀ r, (fused.node r).type = "__receive" →
      ∀ w ∈ fused.held .outlet r 0, w.isSignal = false := by
    intro r isR w mem
    obtain ⟨inN, src⟩ := nest.mem_of_leaving mem
    exact fuses.quiet nest quiet w inN (src ▸ isR)
  refine ⟨fused, run, fun grp grouping err post failed => ?_⟩
  have fewer : Yields (groupReceivers root) fused fun _ last => Fewer fused last :=
    yields_groupReceivers_fewer muted
  rw [Yields, Guarded, grouping] at fewer
  have kept : Keeps Other Single (assignBuffers root) := keeps_assignBuffers
  have guarded := kept grp fun ref j =>
    (fewer .inlet ref j).length_le.trans (one ref j)
  rwa [Guarded, failed] at guarded

/-- Signals that meet at an inlet are added up by adders, which changes no sum and touches nothing
but signals. Then no buffer is refused because more than one signal arrives, if no product goes into
a sum that goes back into it. A signal from an object to itself is the one thing that cannot be added
up. -/
theorem cascade_single (reduced : net.Reduced root wires loops) :
    ((∃ last, (cascade root).run net = .ok () last) ↔ ∀ wire ∈ loops, wire.isSignal = false) ∧
    ∀ last, (cascade root).run net = .ok () last →
      last.Single ∧ Spares (·.isSignal = true) net last ∧
      (∀ (R : Type) [AddCommMonoid R] (value : Ref → Int → R),
        (∃ full, (∀ ref < net.size, full ref = value ref) ∧ net.Adding last full) ∧
        (net.Adding last value → ∀ ref < net.size, ∀ slot,
          last.intake value ref slot = net.intake value ref slot)) ∧
      (net.Unpaired wires → ∃ fused, (fuseProducts root).run last = .ok () fused ∧
        ∀ grouped, (groupReceivers root).run fused = .ok () grouped → ∀ fault later,
          (assignBuffers root).run grouped = .error fault later → ¬ fault.IsFanIn) := by
  have guarded := guarded_cascade reduced.nested reduced.lowered reduced.isGraph
  refine ⟨?_, fun last run => ?_⟩
  · cases run : (cascade root).run net with
    | ok result last =>
      rw [Guarded, run] at guarded
      exact ⟨fun _ wire there =>
        guarded.1 wire there (reduced.whole wire (mem_add.mpr (.inr there))),
        fun _ => ⟨last, rfl⟩⟩
    | error fault last =>
      rw [Guarded, run] at guarded
      obtain ⟨wire, there, -, signal⟩ := guarded
      refine ⟨?_, fun silent => absurd (silent wire there) (by simp [signal])⟩
      rintro ⟨_, ⟨⟩⟩
  · rw [Guarded, run] at guarded
    obtain ⟨mute, new, adds, tidy⟩ := guarded
    have silent : ∀ wire ∈ loops, wire.isSignal = false := fun wire there =>
      mute wire there (reduced.whole wire (mem_add.mpr (.inr there)))
    have few : ∀ ref slot, (signalsAt new ref slot).card ≤ 1 := by
      intro ref slot
      by_cases inside : net.Inside root ref
      · exact tidy ref (adds.inside inside) slot
      · refine adds.tidy ref slot ?_
        rw [show signalsAt wires ref slot = 0 from filter_eq_nil.mpr ?_]
        · exact Nat.zero_le 1
        · rintro wire there ⟨-, placed⟩
          exact inside (placed.1 ▸ reduced.whole wire (mem_add.mpr (.inl there)))
    have adding : ∀ (R : Type) [AddCommMonoid R] (value : Ref → Int → R),
        net.Adding last value ↔ ∀ adder, net.size ≤ adder → adder < last.size →
          value adder 0 = arrived value new adder 0 + arrived value new adder 1 := by
      intro R _ value
      unfold Adding
      simp only [adds.nested.intake_eq silent]
      exact forall₃_congr fun adder above below => and_iff_right (adds.type_new above below)
    refine ⟨adds.nested.single silent few, adds.spares, fun R _ value => ⟨?_, ?_⟩, ?_⟩
    · obtain ⟨full, same, add⟩ := adds.solvable R value
      exact ⟨full, same, (adding R full).mpr add⟩
    · intro add ref below slot
      rw [adds.nested.intake_eq silent, reduced.nested.intake_eq silent]
      exact adds.sums R value ((adding R value).mp add) ref below slot
    · intro unpaired
      exact fuse_then_assign ⟨adds.nested, adds.shaped reduced.shaped,
        adds.unpaired reduced.nested unpaired⟩ (adds.lowered reduced.lowered) (by
          rw [adds.look (lt_size_of_isGraph reduced.isGraph) Node.isGraph rfl]
          exact reduced.isGraph) silent few (adds.quiet reduced.nested reduced.quiet)

end Build

namespace Mixture

open Net

/-- Two oscillators that meet at an inlet, one of them twice, and again at a graph that passes them
on. A receiver sets their phases. -/
def net : Net where
  nodes := #[
    .outermost [(.given "x", 1), (.given "y", 2), (.given "a", 3), (.given "g", 4),
      (.given "r", 7)],
    .wired "__phasor_k~f" 1 0 [[], [⟨7, 0, 1, 1, .control⟩]]
      [[.signal 1 3 0, .signal 1 3 0, .signal 1 4 0]],
    .wired "__phasor_k~f" 2 0 [[], [⟨7, 0, 2, 1, .control⟩]] [[.signal 2 3 0, .signal 2 4 0]],
    .wired "__abs~f" 3 0 [[.signal 1 3 0, .signal 2 3 0, .signal 1 3 0]] [[]],
    { type := "graph", kind := .graph, identity := 4, parent := some 0
      inlets := [[.signal 2 4 0, .signal 1 4 0]], outlets := [[]]
      body := {
        objects := [(.given "i", 5), (.given "o", 6)], inletObjects := [5]
        outletObjects := [6] } },
    { type := "__inlet", kind := .inlet, identity := 5, parent := some 4
      arguments := [("index", .int 0)], outlets := [[.signal 5 6 0, .signal 5 6 0]] },
    { type := "__outlet", kind := .outlet, identity := 6, parent := some 4
      arguments := [("index", .int 0)], inlets := [[.signal 5 6 0, .signal 5 6 0]] },
    .wired "__receive" 7 0 [] [[⟨7, 0, 1, 1, .control⟩, ⟨7, 0, 2, 1, .control⟩]]]

def wires : List Wire :=
  [⟨7, 0, 1, 1, .control⟩, ⟨7, 0, 2, 1, .control⟩, .signal 1 3 0, .signal 1 3 0, .signal 2 3 0,
    .signal 1 4 0, .signal 2 4 0, .signal 5 6 0, .signal 5 6 0]

theorem lowered : net.Lowered 0 :=
  .of_isLowered (show net.isLowered 3 0 = true by decide +kernel)

theorem reduced : net.Reduced 0 wires 0 where
  nested := .of_lets (by decide) (by decide) (by decide) (by decide)
  lowered := lowered
  isGraph := rfl
  whole := by
    intro w mem
    rw [add_zero, mem_coe] at mem
    have lvl : ∀ w ∈ wires, w.target ∈ net.contents 0 ∨ w.target ∈ net.contents 4 := by
      decide
    have graph : net.Contains 0 4 := ⟨rfl, by decide⟩
    rcases lvl w mem with outer | inner
    · exact .single ⟨rfl, outer⟩
    · exact .tail (.single graph) ⟨rfl, inner⟩
  shaped := .of_size (by decide)
  quiet := by
    simp only [mem_coe]
    decide

/-- The signals are added up at both graphs, and buffers can be given. -/
theorem mixture_single : net.Reduced 0 wires 0 ∧ net.Unpaired wires ∧
    ∃ last fused, (Build.cascade 0).run net = .ok () last ∧ last.Single ∧
      (Build.fuseProducts 0).run last = .ok () fused ∧
      ∀ grouped, (Build.groupReceivers 0).run fused = .ok () grouped → ∀ fault later,
        (Build.assignBuffers 0).run grouped = .error fault later → ¬ fault.IsFanIn := by
  have unpaired : net.Unpaired wires := by
    unfold Unpaired
    simp only [mem_coe]
    decide
  obtain ⟨some, all⟩ := Build.cascade_single reduced
  obtain ⟨last, run⟩ := some.mpr nofun
  obtain ⟨single, -, -, later⟩ := all last run
  obtain ⟨fused, fuses, assigned⟩ := later unpaired
  exact ⟨reduced, unpaired, last, fused, run, single, fuses, assigned⟩

end Mixture

namespace Resonance

open Net

/-- A product is added to a signal, and the sum goes back into the product. -/
def net : Net :=
  .ready [
    .outermost [(.given "x", 1), (.given "m", 2), (.given "s", 3), (.given "a", 4)],
    .wired "__phasor_k~f" 1 0 [[], []] [[.signal 1 2 0, .signal 1 3 1]],
    .wired "__mul~f" 2 0 [[.signal 1 2 0], [.signal 3 2 1]] [[.signal 2 3 0]],
    .wired "__add~f" 3 0 [[.signal 2 3 0], [.signal 1 3 1]] [[.signal 3 2 1, .signal 3 4 0]],
    .wired "__abs~f" 4 0 [[.signal 3 4 0]] [[]]]

def wires : List Wire :=
  [.signal 1 2 0, .signal 3 2 1, .signal 2 3 0, .signal 1 3 1, .signal 3 4 0]

theorem reduced : net.Reduced 0 wires 0 where
  nested := .of_lets (by decide) (by decide) (by decide) (by decide)
  lowered := .of_isLowered (show net.isLowered 3 0 = true by decide +kernel)
  isGraph := rfl
  whole := by
    intro w mem
    rw [add_zero, mem_coe] at mem
    have lvl : ∀ w ∈ wires, w.target ∈ net.contents 0 := by decide
    exact .single ⟨rfl, lvl w mem⟩
  shaped := .of_size (by decide)
  quiet := by
    simp only [mem_coe]
    decide

def passes : Build Unit := do
  Build.cascade 0
  Build.fuseProducts 0
  Build.groupReceivers 0

/-- Every inlet has one signal at most, and still a buffer is refused: the fused object has a loop. -/
theorem resonance_refused : net.Reduced 0 wires 0 ∧ ∃ grouped fault later,
    passes.run net = .ok () grouped ∧
      (Build.assignBuffers 0).run grouped = .error fault later ∧ fault.IsFanIn := by
  obtain ⟨_, run⟩ := Build.run_of_finishes (show passes.finishes net = true by decide +kernel)
  have refused : (match (Build.assignBuffers 0).run (passes.netAfter net) with
      | .error (.rejected reason) _ => reason == "This object has 2 (> 1) signal inputs."
      | _ => false) = true := by decide +kernel
  split at refused
  · next reason later failed =>
      exact ⟨reduced, _, _, later, run, failed, "This object has 2", beq_iff_eq.mp refused⟩
  · cases refused

end Resonance

end PatchCompiler
