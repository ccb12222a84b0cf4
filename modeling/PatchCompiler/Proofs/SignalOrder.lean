import Mathlib.Data.Fintype.Card
import Mathlib.Data.Set.Finite.Basic
import PatchCompiler.Proofs.Placing

/-!
# The order of signals

Which objects get a place in the signal order, and which of them come after the objects that send
them signals. Wires of any type lead the walk, so a cycle that only control wires close can turn the
order of two objects with a signal between them. In a graph whose wires are noted alike at both ends
and make no cycle every object comes before a leaf. So all objects that process signals are in the
order, after those they get signals from.
-/

namespace PatchCompiler

open List Relation

namespace Net

def Signals (net : Net) (source object : Ref) : Prop :=
  ∃ wire ∈ (net.node object).incoming, wire.isSignal = true ∧ wire.source = source

def Active (net : Net) (graph object : Ref) : Prop :=
  object ∈ net.contents graph ∧ net.Processes object

/-- Wires of any type lead from the object on to one from which none starts. -/
def ReachesLeaf (net : Net) (graph object : Ref) : Prop :=
  ∃ leaf ∈ net.leaves graph, ReflTransGen (fun a b => b ∈ net.sources a) leaf object

/-- Every object that processes signals is there once and comes after those that send signals to
it. -/
def WellOrdered (net : Net) (graph : Ref) (order : List Ref) : Prop :=
  (∀ object, net.Active graph object → order.count object = 1) ∧
    ∀ source object, net.Active graph source → net.Active graph object →
      net.Signals source object → Precedes order source object

variable {net : Net} {graph object source : Ref}

theorem Signals.source_mem (signals : net.Signals source object) : source ∈ net.sources object := by
  rcases signals with ⟨w, incoming, _, rfl⟩
  exact mem_map_of_mem incoming

theorem start_nodup (net : Net) : net.start.entered.Nodup :=
  nodup_range.filter _

namespace Level

variable {walk : Walk}

theorem not_started (lvl : net.Level graph) (mem : object ∈ net.contents graph) :
    object ∉ net.start.entered := by
  simp [start, lvl.unplaced object mem]

/-- The walk comes to the objects of the graph from which a wire leads on to a leaf. -/
theorem placed_iff (lvl : net.Level graph)
    (vis : Walk.Visits net.sources net.start (net.leaves graph) walk)
    (mem : object ∈ net.contents graph) : object ∈ walk.placed ↔ net.ReachesLeaf graph object := by
  have fresh := lvl.not_started mem
  have new : object ∈ walk.placed ↔ object ∈ walk.entered ∧ object ∉ net.start.entered := by
    simpa [start] using vis.mem_placed_iff object
  rw [new, vis.entered_iff]
  constructor
  · rintro ⟨leaf, inLeaves, _, path⟩
    exact ⟨leaf, inLeaves, ReflTransGen.mono (fun a b step => step.1) _ _ path⟩
  · rintro ⟨leaf, inLeaves, path⟩
    refine ⟨leaf, inLeaves, lvl.not_started (mem_of_mem_filter inLeaves), ?_⟩
    -- a bystander has no sources, so the path to an object of the graph stays in the graph
    have go : ∀ last, ReflTransGen (fun a b => b ∈ net.sources a) leaf last →
        last ∈ net.contents graph → ReflTransGen
          (fun a b => b ∈ net.sources a ∧ b ∉ net.start.entered) leaf last := by
      intro last path
      induction path with
      | refl => exact fun _ => .refl
      | @tail middle last path step ih =>
        intro insideLast
        have near : net.Near graph middle :=
          lvl.ground.near_path (.inl (mem_of_mem_filter inLeaves)) path
        rcases near with insideMiddle | bystander
        · exact (ih insideMiddle).tail ⟨step, lvl.not_started insideLast⟩
        · rw [sources_of_isRoot bystander.root] at step
          cases step
    exact go object path mem

end Level

open Classical in
/-- The objects in the order are those that process signals and come before a leaf. -/
theorem Ordered.mem_order_iff {walk : Walk} {last : Net} (lvl : net.Level graph)
    (vis : Walk.Visits net.sources net.start (net.leaves graph) walk)
    (ord : net.Ordered graph walk last) : object ∈ (last.node graph).body.signalOrder ↔
      net.Active graph object ∧ net.ReachesLeaf graph object := by
  rw [ord.order, mem_filter, decide_eq_true_iff]
  constructor
  · rintro ⟨put, runs⟩
    rcases lvl.ground.placed_near vis put with mem | bystander
    · exact ⟨⟨mem, runs⟩, (lvl.placed_iff vis mem).mp put⟩
    · exact absurd runs bystander.silent
  · rintro ⟨⟨mem, runs⟩, reaches⟩
    exact ⟨(lvl.placed_iff vis mem).mpr reaches, runs⟩

open Classical in
theorem Ordered.nodup {walk : Walk} {last : Net}
    (vis : Walk.Visits net.sources net.start (net.leaves graph) walk)
    (ord : net.Ordered graph walk last) : (last.node graph).body.signalOrder.Nodup := by
  rw [ord.order]
  exact (vis.placed_nodup rfl).filter _

open Classical in
/-- A signal is sent in time unless the walk comes back from its source to the object. -/
theorem Ordered.precedes_iff {walk : Walk} {last : Net}
    (vis : Walk.Visits net.sources net.start (net.leaves graph) walk)
    (ord : net.Ordered graph walk last) (inSrc : source ∈ (last.node graph).body.signalOrder)
    (inObj : object ∈ (last.node graph).body.signalOrder) (w : source ∈ net.sources object) :
    Precedes (last.node graph).body.signalOrder source object ↔
      ¬ Walk.Returns net.sources walk.entered source object := by
  have once := ord.nodup vis
  rw [ord.order] at inSrc inObj once ⊢
  rcases mem_filter.mp inSrc with ⟨placedSource, keepSource⟩
  rcases mem_filter.mp inObj with ⟨placedObject, keepObject⟩
  have whole := vis.precedes_iff rfl net.start_nodup placedSource placedObject w
  rw [← whole]
  constructor
  · intro pre
    rcases Precedes.total placedSource placedObject (pre.ne once) with first | second
    · exact first
    · exact absurd (second.filter keepObject keepSource) (pre.not_symm once)
  · exact fun pre => pre.filter keepSource keepObject

end Net

open Classical in
/-- Ordering the signals of a graph always ends. The order has the objects that come before a leaf,
each once, and a signal is sent in time unless the walk comes back from its source to the object it
is sent to. So the order is right in these cases and no other. -/
theorem Build.orderSignals_wellOrdered_iff {net : Net} {graph : Ref} (level : net.Level graph) :
    ∃ last walk, (orderSignals graph).run net = .ok () last ∧
      Walk.Visits net.sources net.start (net.leaves graph) walk ∧
      (∀ object, (last.node graph).body.signalOrder.count object =
        if net.Active graph object ∧ net.ReachesLeaf graph object then 1 else 0) ∧
      (∀ source ∈ (last.node graph).body.signalOrder,
        ∀ object ∈ (last.node graph).body.signalOrder, net.Signals source object →
          (Precedes (last.node graph).body.signalOrder source object ↔
            ¬ Walk.Returns net.sources walk.entered source object)) ∧
      (net.WellOrdered graph (last.node graph).body.signalOrder ↔
        (∀ object, net.Active graph object → net.ReachesLeaf graph object) ∧
        ∀ source object, net.Active graph source → net.Active graph object →
          net.Signals source object → ¬ Walk.Returns net.sources walk.entered source object) := by
  rcases run_orderSignals level with ⟨last, walk, run, visits, ordered⟩
  have once := ordered.nodup visits
  have count : ∀ object, (last.node graph).body.signalOrder.count object =
      if net.Active graph object ∧ net.ReachesLeaf graph object then 1 else 0 := by
    intro object
    rw [List.Nodup.count once]
    simp only [ordered.mem_order_iff level visits]
  have inTime : ∀ source ∈ (last.node graph).body.signalOrder,
      ∀ object ∈ (last.node graph).body.signalOrder, net.Signals source object →
        (Precedes (last.node graph).body.signalOrder source object ↔
          ¬ Walk.Returns net.sources walk.entered source object) :=
    fun source inSource object inObject signals =>
      ordered.precedes_iff visits inSource inObject signals.source_mem
  refine ⟨last, walk, run, visits, count, inTime, ?_⟩
  constructor
  · rintro ⟨complete, respects⟩
    have present : ∀ object, net.Active graph object →
        object ∈ (last.node graph).body.signalOrder := fun object active =>
      one_le_count_iff.mp (complete object active).ge
    refine ⟨fun object active => ?_, fun source object active active' signals => ?_⟩
    · exact ((ordered.mem_order_iff level visits).mp (present object active)).2
    · exact (inTime source (present source active) object (present object active') signals).mp
        (respects source object active active' signals)
  · rintro ⟨reach, noReturn⟩
    have present : ∀ object, net.Active graph object →
        object ∈ (last.node graph).body.signalOrder := fun object active =>
      (ordered.mem_order_iff level visits).mpr ⟨active, reach object active⟩
    refine ⟨fun object active => ?_, fun source object active active' signals => ?_⟩
    · rw [count object, if_pos ⟨active, reach object active⟩]
    · exact (inTime source (present source active) object (present object active') signals).mpr
        (noReturn source object active active' signals)

namespace Feedback

/-- An oscillator whose signal is sampled, and whose frequency is set from the sample. The signal
wires make no cycle. -/
def net : Net :=
  .ready [
    .outermost [(.given "osc", 1), (.given "snap", 2), (.given "abs", 3)],
    .wired "__phasor_k~f" 1 0 [[⟨2, 0, 1, 0, .control⟩], []] [[.signal 1 2 0, .signal 1 3 0]],
    .wired "__sample~f" 2 0 [[.signal 1 2 0], []] [[⟨2, 0, 1, 0, .control⟩]],
    .wired "__abs~f" 3 0 [[.signal 1 3 0]] [[]]]

theorem level : net.Level 0 where
  inside := by decide
  lowered _ mem :=
    .contents (.of_isLowered (show net.isLowered 2 0 = true by decide +kernel)) ⟨rfl, mem⟩
  unplaced := by decide
  closed := by
    have closed : ∀ object ∈ net.contents 0, ∀ source ∈ net.sources object,
        source ∈ net.contents 0 := by decide
    exact fun object inside source inS => .inl (closed object inside source inS)

theorem wellOrdered_iff : net.Level 0 ∧ ∃ last walk, (Build.orderSignals 0).run net = .ok () last ∧
      Walk.Visits net.sources net.start (net.leaves 0) walk ∧
      (net.WellOrdered 0 (last.node 0).body.signalOrder ↔
        (∀ object, net.Active 0 object → net.ReachesLeaf 0 object) ∧
        ∀ source object, net.Active 0 source → net.Active 0 object →
          net.Signals source object → ¬ Walk.Returns net.sources walk.entered source object) := by
  rcases Build.orderSignals_wellOrdered_iff level with ⟨last, walk, run, visits, _, _, exactly⟩
  exact ⟨level, last, walk, run, visits, exactly⟩

theorem signals_lt {source object : Ref} (signals : net.Signals source object) :
    source < object := by
  rcases signals with ⟨w, incoming, isS, rfl⟩
  have rising : ∀ object < 4, ∀ w ∈ (net.node object).incoming, w.isSignal = true →
      w.source < object := by decide
  exact rising object (Net.lt_size_of_mem_sources (mem_map_of_mem incoming)) w incoming isS

/-- The sample comes before the oscillator that it is taken from. -/
theorem not_wellOrdered : net.Level 0 ∧ (∀ object, ¬ Relation.TransGen net.Signals object object) ∧
      ∃ last, (Build.orderSignals 0).run net = .ok () last ∧
        (last.node 0).body.signalOrder = [2, 1, 3] ∧ net.Signals 1 2 ∧
        ¬ net.WellOrdered 0 (last.node 0).body.signalOrder := by
  have signals : net.Signals 1 2 := ⟨.signal 1 2 0, by decide, rfl, rfl⟩
  refine ⟨level, fun object cycle => ?_, _, rfl, rfl, signals, fun wellOrdered => ?_⟩
  · have step : net.Signals ≤ (· < ·) := fun _ _ => signals_lt
    exact lt_irrefl object (transGen_minimal step _ _ cycle)
  · have active : ∀ object ∈ [1, 2], net.Active 0 object := by
      simp only [forall_mem_cons, not_mem_nil, false_imp_iff, implies_true, and_true]
      exact ⟨⟨by decide, .object rfl rfl rfl⟩, ⟨by decide, .object rfl rfl rfl⟩⟩
    have before := wellOrdered.2 1 2 (active 1 (by simp)) (active 2 (by simp)) signals
    have after : Precedes [2, 1, 3] 2 1 := ⟨[2], [1, 3], rfl, by simp, by simp⟩
    exact after.not_symm (by decide) before

end Feedback

namespace Net

/-- The wires between the objects of a graph are noted alike at both ends. -/
structure Wired (net : Net) (g : Ref) : Prop where
  arriving : ∀ o ∈ net.contents g, ∀ place, ∀ w ∈ (net.node o).inlets.getD place [], w.target = o ∧
      w.source ∈ net.contents g ∧ place? (net.node o).inlets.length w.inlet = some place
  leaving : ∀ o ∈ net.contents g, ∀ place, ∀ w ∈ (net.node o).outlets.getD place [], w.source = o ∧
      w.target ∈ net.contents g ∧ place? (net.node o).outlets.length w.outlet = some place
  agree : ∀ w : Wire, w.source ∈ net.contents g → w.target ∈ net.contents g →
    (net.node w.source).outgoing.count w = (net.node w.target).incoming.count w

/-- No wires lead from an object of the graph back to it. -/
def Acyclic (net : Net) (g : Ref) : Prop :=
  ∀ o ∈ net.contents g, ¬ TransGen (fun a b => b ∈ net.sources a) o o

theorem wellFounded_of_acyclic {α : Type} {xs : List α} {relation : α → α → Prop}
    (acyc : ∀ x ∈ xs, ¬ TransGen relation x x) :
    WellFounded fun a b : {x // x ∈ xs} => TransGen relation a.1 b.1 := by
  have irreflexive : Std.Irrefl fun a b : {x // x ∈ xs} =>
      TransGen relation a.1 b.1 := ⟨fun a cycle => acyc a.1 a.2 cycle⟩
  have transitive : IsTrans _ fun a b : {x // x ∈ xs} =>
      TransGen relation a.1 b.1 := ⟨fun _ _ _ first snd => first.trans snd⟩
  have finite : Finite {x // x ∈ xs} := xs.finite_toSet
  exact Finite.wellFounded_of_trans_of_irrefl _

variable {net : Net} {g o src : Ref} {w : Wire}

theorem mem_flatten_iff {α : Type} {lists : List (List α)} {x : α} :
    x ∈ lists.flatten ↔ ∃ i, x ∈ lists.getD i [] := by
  rw [mem_flatten]
  constructor
  · rintro ⟨list, inLists, inList⟩
    rcases getElem_of_mem inLists with ⟨i, lt, rfl⟩
    exact ⟨i, by simpa [lt] using inList⟩
  · rintro ⟨i, inList⟩
    by_cases lt : i < lists.length
    · exact ⟨lists[i], getElem_mem lt, by simpa [lt] using inList⟩
    · simp [lt] at inList

theorem lt_length_of_mem_getD {α : Type} {lists : List (List α)} {x : α} {i : Nat}
    (mem : x ∈ lists.getD i []) : i < lists.length := by
  by_contra out
  simp [out] at mem

theorem mem_sources {i : Nat} (arr : w ∈ (net.node o).inlets.getD i []) :
    w.source ∈ net.sources o :=
  mem_map_of_mem (mem_flatten_iff.mpr ⟨i, arr⟩)

namespace Wired

theorem source_mem (wired : net.Wired g) (mem : o ∈ net.contents g)
    (inS : src ∈ net.sources o) : src ∈ net.contents g := by
  rcases mem_map.mp inS with ⟨w, incoming, rfl⟩
  rcases mem_flatten_iff.mp incoming with ⟨i, arr⟩
  exact (wired.arriving o mem i w arr).2.1

theorem mem_sources_of_outgoing (wired : net.Wired g) (mem : o ∈ net.contents g)
    (outgoing : w ∈ (net.node o).outgoing) :
    w.target ∈ net.contents g ∧ o ∈ net.sources w.target := by
  rcases mem_flatten_iff.mp outgoing with ⟨i, there⟩
  rcases wired.leaving o mem i w there with ⟨rfl, tgt, _⟩
  have cnt := wired.agree w mem tgt
  have arr : w ∈ (net.node w.target).incoming := by
    rw [← count_pos_iff, ← cnt, count_pos_iff]
    exact outgoing
  exact ⟨tgt, mem_map_of_mem arr⟩

theorem reachesLeaf (wired : net.Wired g) (acyc : net.Acyclic g)
    (isIn : o ∈ net.contents g) : net.ReachesLeaf g o := by
  -- objects that come later are dealt with first
  have go : ∀ a : {o // o ∈ net.contents g}, net.ReachesLeaf g a.1 := by
    intro a
    induction a using (wellFounded_of_acyclic acyc).induction with
    | _ a ih =>
      by_cases isLeaf : (net.node a.1).isLeaf = true
      · exact ⟨a.1, mem_filter.mpr ⟨a.2, isLeaf⟩, .refl⟩
      · have ws : ∃ w, w ∈ (net.node a.1).outgoing := by
          by_contra none
          refine isLeaf (all_eq_true.mpr fun ws inOutlets => ?_)
          rw [List.isEmpty_iff, List.eq_nil_iff_forall_not_mem]
          exact fun w mem => none ⟨w, mem_flatten.mpr ⟨ws, inOutlets, mem⟩⟩
        rcases ws with ⟨w, outgoing⟩
        rcases wired.mem_sources_of_outgoing a.2 outgoing with ⟨tgt, arr⟩
        rcases ih ⟨w.target, tgt⟩ (.single arr) with
          ⟨leaf, inLeaves, path⟩
        exact ⟨leaf, inLeaves, path.tail arr⟩
  exact go ⟨o, isIn⟩

end Wired

theorem Wired.alike {y : Net} (wired : net.Wired g) (alike : Alike Node.shape net y) :
    y.Wired g where
  arriving := by
    rw [alike.contents]
    intro o mem
    rw [alike.inlets]
    exact wired.arriving o mem
  leaving := by
    rw [alike.contents]
    intro o mem
    rw [alike.outlets]
    exact wired.leaving o mem
  agree := by
    rw [alike.contents]
    intro w
    rw [Node.outgoing, alike.outlets, alike.incoming]
    exact wired.agree w

theorem Acyclic.alike {y : Net} (acyc : net.Acyclic g)
    (alike : Alike Node.shape net y) : y.Acyclic g := by
  rw [Acyclic, alike.contents, funext alike.sources]
  exact acyc

theorem Wired.of_lets (arriving : ∀ o ∈ net.contents g, ∀ i < (net.node o).inlets.length,
      ∀ w ∈ (net.node o).inlets.getD i [], w.target = o ∧ w.source ∈ net.contents g ∧
        place? (net.node o).inlets.length w.inlet = some i ∧
        (net.node w.source).outgoing.count w = (net.node w.target).incoming.count w)
    (exit : ∀ o ∈ net.contents g, ∀ i < (net.node o).outlets.length,
      ∀ w ∈ (net.node o).outlets.getD i [], w.source = o ∧ w.target ∈ net.contents g ∧
        place? (net.node o).outlets.length w.outlet = some i ∧
        (net.node w.source).outgoing.count w = (net.node w.target).incoming.count w) :
    net.Wired g := by
  refine ⟨?_, ?_, ?_⟩
  · intro o isIn i w mem
    have facts := arriving o isIn i (lt_length_of_mem_getD mem) w mem
    exact ⟨facts.1, facts.2.1, facts.2.2.1⟩
  · intro o isIn i w mem
    have facts := exit o isIn i (lt_length_of_mem_getD mem) w mem
    exact ⟨facts.1, facts.2.1, facts.2.2.1⟩
  · intro w inSrc inTarget
    by_cases leaves : w ∈ (net.node w.source).outgoing
    · rcases mem_flatten_iff.mp leaves with ⟨i, mem⟩
      exact (exit _ inSrc i (lt_length_of_mem_getD mem) w mem).2.2.2
    · by_cases arr : w ∈ (net.node w.target).incoming
      · rcases mem_flatten_iff.mp arr with ⟨i, mem⟩
        exact (arriving _ inTarget i (lt_length_of_mem_getD mem) w mem).2.2.2
      · rw [count_eq_zero_of_not_mem leaves, count_eq_zero_of_not_mem arr]

theorem Acyclic.of_falling (falling : ∀ o < net.size, ∀ src ∈ net.sources o,
    src < o) : net.Acyclic g := by
  intro o _ cycle
  have step : (fun a b => b ∈ net.sources a) ≤ (· > ·) := fun a b inS =>
    falling a (lt_size_of_mem_sources inS) b inS
  exact lt_irrefl o (transGen_minimal step _ _ cycle)

theorem Acyclic.not_returns (acyc : net.Acyclic g) (mem : src ∈ net.contents g)
    (w : src ∈ net.sources o) (ent : List Ref) : ¬ Walk.Returns net.sources ent src o := by
  intro returns
  have path : ReflTransGen (fun a b => b ∈ net.sources a) src o :=
    ReflTransGen.mono (fun a b step => step.1) _ _ returns
  exact acyc src mem (TransGen.tail' path w)

section Ordered

variable {walk : Walk} {last : Net} (lvl : net.Level g) (wired : net.Wired g) (acyc : net.Acyclic g)
  (vis : Walk.Visits net.sources net.start (net.leaves g) walk) (ord : net.Ordered g walk last)
include lvl wired acyc vis ord

theorem Ordered.mem_iff : o ∈ (last.node g).body.signalOrder ↔ net.Active g o := by
  rw [ord.mem_order_iff lvl vis]
  exact ⟨And.left, fun on => ⟨on, wired.reachesLeaf acyc on.1⟩⟩

theorem Ordered.precedes (onSrc : net.Active g src) (on : net.Active g o)
    (w : src ∈ net.sources o) : Precedes (last.node g).body.signalOrder src o := by
  have inSrc := (ord.mem_iff lvl wired acyc vis).mpr onSrc
  have inObj := (ord.mem_iff lvl wired acyc vis).mpr on
  rw [ord.precedes_iff vis inSrc inObj w]
  exact acyc.not_returns onSrc.1 w walk.entered

end Ordered

end Net

end PatchCompiler
