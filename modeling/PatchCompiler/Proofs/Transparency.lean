import PatchCompiler.Proofs.Descent

/-!
# Signals through graphs

A signal that arrives at an object is followed backwards through graphs to the outlet it comes from.
The object reads the buffer of that outlet if all graphs that the signal leaves on its way process
signals. Graphs that do not are passed over by buffering, and a signal that goes through one of them
gets lost: what comes out is the buffer of zeros.
-/

namespace PatchCompiler

open List Relation

namespace Net

/-- The way of a signal ends at an inlet or outlet of a graph where nothing arrives. -/
def Unconnected (net : Net) (origin : Ref × Nat) : Prop :=
  ((net.node origin.1).isGraph = true ∨ (net.node origin.1).kind = .inlet) ∧
    ∀ source, ¬ net.Passed source origin

/-- All graphs that a signal leaves on its way process signals. -/
def Clear (net : Net) (point : Ref × Nat) : Prop :=
  ∀ graph place, ReflTransGen net.Passed (graph, place) point →
    (net.node graph).isGraph = true → net.Processes graph

/-- The outlet is one that a signal is sent from, or it stands for a channel of the audio input. -/
def Sounds (net : Net) (origin : Ref × Nat) : Prop :=
  net.Processes origin.1 ∧ net.sendsSignal origin.1 origin.2 = true ∨
    net.outletBuffer origin.1 origin.2 ≠ .zero

/-- An inlet has the buffer of the outlet its signal comes from, and has the buffer of zeros only if
nothing is connected there. -/
def Transparent (net : Net) (object : Ref) (place : Nat) (origin : Ref × Nat) (last : Net) : Prop :=
  last.inletBuffer object place = last.outletBuffer origin.1 origin.2 ∧
    (last.inletBuffer object place = .zero → net.Unconnected origin)

namespace Hierarchy

variable {net last : Net} {root graph object : Ref}

section

variable (tree : net.Hierarchy root)
include tree

theorem supplied : net.Supplied root (net.withPool .empty) where
  alike := alike_withPool
  fits := fun _ => id
  sound := Pool.empty_sound
  held := by
    intro object i sub ws
    left
    rw [outletBuffer_withPool]
    cases isG : (net.node object).isGraph with
    | true => simp [(tree.strata object sub isG).blank, Buffer.zero]
    | false =>
      rcases sub.cases_tail with rfl | ⟨graph, near, mem⟩
      · exact absurd (tree.isGraph.symm.trans isG) (by simp)
      · obtain ⟨w, leaves⟩ := exists_mem_of_ne_nil _ ws
        exact ((tree.stratum_of_contains near mem).preset object mem.2 isG).uncounted leaves

open Build in
/-- Buffering a hierarchy comes to an end. All levels it has been in are settled, and the others are
as before. -/
theorem run_assignBuffers : ∃ last, (assignBuffers root).run net = .ok () last ∧
      (∀ graph, net.Reached root graph → net.Settled graph last) ∧
      ∀ graph, net.Within root graph → (net.node graph).isGraph = true →
        ¬ net.Reached root graph → net.Idle graph last := by
  have ends : Ends (assignBuffers root) net fun _ last =>
      net.Descended root root (net.withPool .empty) last := by
    change Ends (assignWithin (net.size + 1) root) (net.withPool .empty) _
    refine tree.ends_assignWithin .refl tree.isGraph ?_ tree.supplied
      ⟨fun _ _ => rfl, (tree.strata root .refl tree.isGraph).blank⟩
    exact Nat.lt_succ_of_le (net.depth_le_size root)
  obtain ⟨_, last, run, descended⟩ := ends
  refine ⟨last, run, descended.inner, fun graph sub isG unreached => ?_⟩
  rcases reflTransGen_iff_eq_or_transGen.mp sub with rfl | inside
  · exact absurd .refl unreached
  · exact descended.unreached graph inside isG unreached

theorem reached_parent (got : net.Reached root graph)
    {parent : Ref} (near : net.Within root parent) (mem : net.Contains parent graph) :
    net.Reached root parent := by
  rcases got.cases_tail with rfl | ⟨own, path, opens⟩
  · exact absurd (TransGen.tail' near mem) (tree.not_inside_itself .refl)
  · cases tree.contains_unique opens.1 mem
    exact path

theorem level_of_passed (sub : net.Within root graph)
    (mem : net.Contains graph object) {i : Nat} {src : Ref × Nat}
    (pass : net.Passed src (object, i)) : ∃ lvl, net.Within root lvl ∧ net.Contains lvl src.1 ∧
      (net.Reached root graph → ((net.node object).isGraph = true → net.Processes object) →
        net.Reached root lvl) := by
  cases pass with
  | into ok _ _ heard _ =>
    cases tree.contains_unique ok mem
    have arr := (mem_signals.mp heard).1
    obtain ⟨up, near, inP⟩ := tree.parent_of_arrives sub arr
    refine ⟨up, near, ?_, fun got _ => tree.reached_parent got near inP⟩
    exact tree.source_contained near inP (mem_sources arr)
  | out ok _ _ heard _ =>
    refine ⟨object, sub.tail mem, ?_, fun got runs =>
      got.tail ⟨mem, ok.1, runs ok.1⟩⟩
    exact tree.source_contained (sub.tail mem) ok (mem_sources (mem_signals.mp heard).1)

theorem clear_iff (sub : net.Within root graph)
    (mem : net.Contains graph object) {i : Nat} {source : Ref × Nat}
    (pass : net.Passed source (object, i)) : net.Clear (object, i) ↔
      ((net.node object).isGraph = true → net.Processes object) ∧ net.Clear source := by
  constructor
  · intro clear
    exact ⟨clear object i .refl, fun y j path => clear y j (path.tail pass)⟩
  · rintro ⟨runs, clear⟩ y j path
    rcases path.cases_tail with eq | ⟨mid, path, last⟩
    · cases eq
      exact runs
    · cases tree.passed_unique sub mem last pass
      exact clear y j path

/-- A signal keeps its buffer from outlet to outlet, up to a graph that does not process signals. -/
theorem outletBuffer_of_path
    (settled : ∀ graph, net.Reached root graph → net.Settled graph last) {origin point : Ref × Nat}
    (first : ∀ src, ¬ net.Passed src origin)
    (path : ReflTransGen net.Passed origin point) (got : net.Reached root graph)
    (mem : net.Contains graph point.1) :
    (net.Clear point → last.outletBuffer point.1 point.2 = last.outletBuffer origin.1 origin.2 ∧
      ∃ lvl, net.Reached root lvl ∧ net.Contains lvl origin.1) ∧
    (¬ net.Clear point → last.outletBuffer point.1 point.2 = .zero) := by
  induction path generalizing graph with
  | refl =>
    refine ⟨fun _ => ⟨rfl, graph, got, mem⟩, fun blocked => ?_⟩
    -- nothing comes before the origin, so it is the graph that does not process signals itself
    have mute : (net.node origin.1).isGraph = true ∧ ¬ net.Processes origin.1 := by
      by_contra runs
      refine blocked fun y j path isG => ?_
      rcases path.cases_tail with rfl | ⟨mid, _, pass⟩
      · by_contra mute
        exact runs ⟨isG, mute⟩
      · exact absurd pass (first mid)
    exact ((settled graph got).carries origin.1 mem.2 origin.2).silent mute.1 mute.2
  | @tail mid point _ pass ih =>
    have carries := (settled graph got).carries point.1 mem.2 point.2
    have clear := tree.clear_iff got.within mem pass
    by_cases runs : (net.node point.1).isGraph = true → net.Processes point.1
    · obtain ⟨lvl, _, insideLevel, reachedLevel⟩ :=
        tree.level_of_passed got.within mem pass
      obtain ⟨whole, lost⟩ := ih (reachedLevel got runs) insideLevel
      rw [carries.passed mid pass runs, clear]
      exact ⟨fun both => whole both.2, fun blocked => lost fun rest => blocked ⟨runs, rest⟩⟩
    · rw [clear]
      refine ⟨fun both => absurd both.1 runs, fun _ => ?_⟩
      rw [Classical.not_imp] at runs
      exact carries.silent runs.1 runs.2

theorem level_of_path {origin point : Ref × Nat}
    (path : ReflTransGen net.Passed origin point) (sub : net.Within root graph)
    (mem : net.Contains graph point.1) :
    ∃ lvl, net.Within root lvl ∧ net.Contains lvl origin.1 := by
  induction path generalizing graph with
  | refl => exact ⟨graph, sub, mem⟩
  | tail _ pass ih =>
    obtain ⟨lvl, withinLevel, insideLevel, _⟩ := tree.level_of_passed sub mem pass
    exact ih withinLevel insideLevel

theorem outletBuffer_unconnected (sub : net.Within root graph)
    (mem : net.Contains graph object) {place : Nat}
    (either : net.Settled graph last ∨ net.Idle graph last)
    (unconnected : net.Unconnected (object, place)) : last.outletBuffer object place = .zero := by
  obtain ⟨border, first⟩ := unconnected
  have blank : net.outletBuffer object place = .zero := by
    rcases border with isG | kind
    · exact (tree.strata object (sub.tail mem) isG).blank place
    · exact ((tree.stratum_of_contains sub mem).inletObjects object mem.2 kind).blank place
  have notFilled : ¬ net.Filled object place := by
    intro filled
    rcases border with isG | kind
    · exact nomatch isG.symm.trans filled.1
    · exact tree.not_inlet_of_processes sub mem filled.2.1 kind
  rcases either with settled | idle
  · rw [(settled.carries object mem.2 place).own first notFilled, blank]
  · rw [outletBuffer, idle.contents object mem.2]
    exact blank

end

theorem outletBuffer_ne_zero_iff (settled : net.Settled graph last)
    (mem : net.Contains graph object) {i : Nat} (first : ∀ src, ¬ net.Passed src (object, i))
    (plain : (net.node object).isGraph = false) :
    last.outletBuffer object i ≠ .zero ↔ net.Sounds (object, i) := by
  have carries := settled.carries object mem.2 i
  by_cases filled : net.Filled object i
  · have sends : net.sendsSignal object i = true := by
      have opens := filled.2.2
      rw [Net.isOpen, Bool.and_eq_true] at opens
      exact opens.1
    exact iff_of_true (carries.filled filled) (.inl ⟨filled.2.1, sends⟩)
  · rw [carries.own first filled]
    refine ⟨.inr, ?_⟩
    rintro (⟨runs, sends⟩ | preset) zero
    · have opens : net.isOpen object i = true := by
        rw [Net.isOpen, zero]
        simpa [Buffer.zero] using sends
      exact filled ⟨plain, runs, opens⟩
    · exact preset zero

end Hierarchy

end Net

/-- Buffering a hierarchy always ends. The orders have the objects that process signals of all graphs
it goes into. A signal that arrives at a low-level object in an order comes from one outlet, and the
object reads the buffer of this outlet just if the signal leaves only graphs that process signals and
one is sent there, or if nothing is connected where it comes from. -/
theorem Build.assignBuffers_transparent_iff {net : Net} {root : Ref} (hierarchy : net.Hierarchy root) :
    ∃ last, (assignBuffers root).run net = .ok () last ∧
      (∀ graph, net.Within root graph → (net.node graph).isGraph = true → ∀ object,
        object ∈ last.order graph ↔ net.Reached root graph ∧ net.Active graph object) ∧
      ∀ graph, net.Within root graph → (net.node graph).isGraph = true →
        ∀ object ∈ last.order graph, (net.node object).isGraph = false → ∀ place,
          ∀ wire ∈ signals ((net.node object).inlets.getD place []), ∃ slot,
            net.FromOutlet wire slot ∧ (∃ origin, net.Origin (wire.source, slot) origin) ∧
            ∀ origin, net.Origin (wire.source, slot) origin →
              (net.Transparent object place origin last ↔
                net.Unconnected origin ∨ net.Clear (wire.source, slot) ∧ net.Sounds origin) := by
  obtain ⟨last, run, settled, unreached⟩ := hierarchy.run_assignBuffers
  have orders : ∀ graph, net.Within root graph → (net.node graph).isGraph = true → ∀ object,
      object ∈ last.order graph ↔ net.Reached root graph ∧ net.Active graph object := by
    intro graph within isGraph object
    by_cases reached : net.Reached root graph
    · rw [(settled graph reached).order object, and_iff_right reached]
    · simp [(unreached graph within isGraph reached).order, reached]
  refine ⟨last, run, orders, ?_⟩
  intro graph within isGraph object inOrder plain place wire heard
  obtain ⟨reached, active⟩ := (orders graph within isGraph object).mp inOrder
  have inside : net.Contains graph object := ⟨isGraph, active.1⟩
  obtain ⟨_, source, slot, arrives⟩ :=
    hierarchy.supplied.arrives hierarchy within inside (Net.mem_signals.mp heard).1
  refine ⟨slot, arrives.starts, hierarchy.exists_origin within source slot, ?_⟩
  rintro origin ⟨path, first⟩
  have hears := (settled graph reached).heard object active plain place wire heard slot arrives.starts
  obtain ⟨whole, lost⟩ := hierarchy.outletBuffer_of_path settled first path reached source
  by_cases unconnected : net.Unconnected origin
  · obtain ⟨level, withinLevel, insideLevel⟩ := hierarchy.level_of_path path within source
    have either : net.Settled level last ∨ net.Idle level last := by
      by_cases reachedLevel : net.Reached root level
      · exact .inl (settled level reachedLevel)
      · exact .inr (unreached level withinLevel insideLevel.1 reachedLevel)
    have zero := hierarchy.outletBuffer_unconnected withinLevel insideLevel either unconnected
    refine iff_of_true ⟨?_, fun _ => unconnected⟩ (.inl unconnected)
    rw [hears]
    by_cases clear : net.Clear (wire.source, slot)
    · exact (whole clear).1
    · exact (lost clear).trans zero.symm
  · rw [or_iff_right unconnected]
    by_cases clear : net.Clear (wire.source, slot)
    · obtain ⟨same, level, reachedLevel, insideLevel⟩ := whole clear
      have plainOrigin : (net.node origin.1).isGraph = false := by
        rw [← Bool.not_eq_true]
        exact fun isGraph => unconnected ⟨.inl isGraph, first⟩
      have sounds := Net.Hierarchy.outletBuffer_ne_zero_iff (settled level reachedLevel) insideLevel
        first plainOrigin
      rw [and_iff_right clear, ← sounds, Net.Transparent, hears, same]
      exact ⟨fun both zero => unconnected (both.2 zero), fun other => ⟨rfl, fun zero => absurd zero other⟩⟩
    · refine iff_of_false (fun both => unconnected (both.2 ?_)) fun both => clear both.1
      rw [hears]
      exact lost clear

namespace Straight

/-- An oscillator whose signal goes straight through a graph to another object. -/
def net : Net :=
  .ready [
    .outermost [(.given "p", 1), (.given "g", 2), (.given "q", 5)],
    .wired "__phasor_k~f" 1 0 [[], []] [[.signal 1 2 0]],
    { type := "graph", kind := .graph, identity := 2, parent := some 0
      inlets := [[.signal 1 2 0]], outlets := [[.signal 2 5 0]]
      body := {
        objects := [(.given "i", 3), (.given "o", 4)], inletObjects := [3], outletObjects := [4] } },
    { type := "__inlet", kind := .inlet, identity := 3, parent := some 2
      arguments := [("index", .int 0)], outlets := [[.signal 3 4 0]] },
    { type := "__outlet", kind := .outlet, identity := 4, parent := some 2
      arguments := [("index", .int 0)], inlets := [[.signal 3 4 0]] },
    .wired "__abs~f" 5 0 [[.signal 2 5 0]] [[]]]

theorem lowered : net.Lowered 0 :=
  .of_isLowered (show net.isLowered 3 0 = true by decide +kernel)

theorem blank (object : Ref) (i : Nat) :
    net.inletBuffer object i = .zero ∧ net.outletBuffer object i = .zero := by
  have zero : ∀ {buffers : List Buffer}, (∀ b ∈ buffers, b = .zero) →
      buffers.getD i .zero = .zero := by
    intro buffers all
    by_cases lt : i < buffers.length
    · exact all _ (by simp [lt])
    · simp [lt]
  have small : ∀ object < 6, (∀ b ∈ (net.node object).inletBuffers, b = .zero) ∧
      ∀ b ∈ (net.node object).outletBuffers, b = .zero := by decide
  by_cases mem : object < 6
  · exact ⟨zero (small object mem).1, zero (small object mem).2⟩
  · rw [Net.inletBuffer, Net.outletBuffer, Net.node_of_size_le (not_lt.mp mem)]
    exact ⟨rfl, rfl⟩

theorem stratum {g : Ref} (isGraph : g = 0 ∨ g = 2) : net.Stratum g where
  fits := by rcases isGraph with rfl | rfl <;> exact ⟨rfl, rfl⟩
  blank := fun i => (blank g i).2
  unordered := by rcases isGraph with rfl | rfl <;> rfl
  objects := by
    have objects : ∀ object ∈ [1, 5, 3, 4], ∃ spec, net.IrObject object spec := by
      simp only [forall_mem_cons, not_mem_nil, false_imp_iff, implies_true, and_true]
      exact ⟨⟨_, rfl, rfl, rfl, ⟨rfl, rfl⟩, fun _ => rfl, fun _ => by decide⟩,
        ⟨_, rfl, rfl, rfl, ⟨rfl, rfl⟩, fun _ => rfl, fun _ => by decide⟩,
        ⟨_, rfl, rfl, rfl, ⟨rfl, rfl⟩, nofun, nofun⟩, ⟨_, rfl, rfl, rfl, ⟨rfl, rfl⟩, nofun, nofun⟩⟩
    intro object isIn plain
    apply objects
    revert object
    rcases isGraph with rfl | rfl <;> decide
  preset := fun object _ _ => .blank (fun i => (blank object i).1) fun i => (blank object i).2
  unplaced := by rcases isGraph with rfl | rfl <;> decide
  wired := by rcases isGraph with rfl | rfl <;> exact .of_lets (by decide) (by decide)
  acyclic := .of_falling (by decide)
  single := by
    have few : ∀ g < 6, ∀ object ∈ net.contents g, ∀ ws ∈ (net.node object).inlets,
        (Build.signals ws).length ≤ 1 := by decide
    exact fun object isIn => Net.single_of_inlets (few g (Net.lt_size_of_mem_contents isIn) object isIn)
  inletObjects := by
    have only : ∀ g < 6, ∀ object ∈ net.contents g, (net.node object).kind = .inlet →
        g = 2 ∧ object = 3 := by decide
    intro inlet mem kind
    obtain ⟨rfl, rfl⟩ := only g (Net.lt_size_of_mem_contents mem) inlet mem kind
    exact ⟨rfl, rfl, fun place => (blank 3 place).2, 0, rfl, rfl⟩
  arrivals := by
    rcases isGraph with rfl | rfl
    · exact fun i ws => absurd (getD_nil ..) ws
    · rintro (_ | place) ws
      · exact ⟨3, by decide, rfl, rfl⟩
      · exact absurd rfl ws
  inlets := by rcases isGraph with rfl | rfl <;> rfl
  outletObjects := by
    rcases isGraph with rfl | rfl
    · exact fun i out got => nomatch got
    · rintro (_ | place) out got
      · cases got
        exact ⟨by decide, rfl, rfl, rfl, rfl⟩
      · cases got
  outletListed := by rcases isGraph with rfl | rfl <;> decide
  outlets := by rcases isGraph with rfl | rfl <;> rfl

theorem hierarchy : net.Hierarchy 0 where
  isGraph := rfl
  lowered := lowered
  parents := by
    have small : ∀ graph < 6, ∀ object ∈ net.contents graph,
        (net.node object).parent = some graph := by decide
    intro graph object mem
    exact small graph (Net.lt_size_of_isGraph mem.1) object mem.2
  strata := by
    have graphs : ∀ graph < 6, (net.node graph).isGraph = true → graph = 0 ∨ graph = 2 := by decide
    exact fun graph _ isGraph => stratum (graphs graph (Net.lt_size_of_isGraph isGraph) isGraph)
  outermost := by decide

theorem transparent_iff :
    net.Hierarchy 0 ∧ ∃ last, (Build.assignBuffers 0).run net = .ok () last ∧ 5 ∈ last.order 0 ∧
      ∀ origin, net.Origin (2, 0) origin → (net.Transparent 5 0 origin last ↔
        net.Unconnected origin ∨ net.Clear (2, 0) ∧ net.Sounds origin) := by
  obtain ⟨last, run, orders, exactly⟩ := Build.assignBuffers_transparent_iff hierarchy
  have inOrder : 5 ∈ last.order 0 :=
    (orders 0 .refl rfl 5).mpr ⟨.refl, by decide, .object rfl rfl rfl⟩
  refine ⟨hierarchy, last, run, inOrder, ?_⟩
  obtain ⟨slot, starts, _, each⟩ :=
    exactly 0 .refl rfl 5 inOrder rfl 0 (.signal 2 5 0) (by decide)
  cases starts
  exact each

theorem origin : net.Origin (2, 0) (1, 0) := by
  have out : net.Passed (3, 0) (2, 0) :=
    @Net.Passed.out net 2 4 0 0 (.signal 3 4 0) ⟨rfl, by decide⟩ rfl rfl (by decide) rfl
  have into : net.Passed (1, 0) (3, 0) :=
    @Net.Passed.into net 2 3 0 0 (.signal 1 2 0) ⟨rfl, by decide⟩ rfl rfl (by decide) rfl
  refine ⟨.tail (.single into) out, fun src pass => ?_⟩
  cases pass with
  | into _ kind _ _ _ => cases kind
  | out ok _ _ _ _ => cases ok.1

/-- The oscillator is not heard behind the graph. -/
theorem not_transparent : net.Hierarchy 0 ∧ ∃ last, (Build.assignBuffers 0).run net = .ok () last ∧
      last.order 0 = [1, 5] ∧ net.Origin (2, 0) (1, 0) ∧ last.outletBuffer 1 0 = ⟨.float, 0⟩ ∧
      last.inletBuffer 5 0 = .zero ∧ ¬ net.Transparent 5 0 (1, 0) last := by
  refine ⟨hierarchy, _, rfl, rfl, origin, rfl, rfl, fun transparent => ?_⟩
  exact absurd transparent.1 (by decide)

end Straight

end PatchCompiler
