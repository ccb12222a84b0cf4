import PatchCompiler.Program
import PatchCompiler.Proofs.Hierarchy
import PatchCompiler.Proofs.Lasting

/-!
# The order of initialisation

A graph puts the objects that it initialises in the order in which they process signals, after the
graphs in it have done the same with theirs. Every object is initialised once for all that, and the
outermost graph has the last word on the order.
-/

namespace PatchCompiler

open List

namespace Net

/-- A low-level object of which the description says that it is to be initialised. -/
def Initialised (net : Net) (o : Ref) : Prop :=
  (net.node o).isGraph = false ∧
    ∃ spec, Catalogue.irSpec? (net.node o).type = some spec ∧ spec.init = true

/-- A graph of low-level objects with graphs in it, to any depth, whose signals have no order yet.
Low-level objects have different identities, and those that process signals have no more buffers than
their descriptions have lets. -/
structure Prepared (net : Net) (root : Ref) : Prop where
  isGraph : (net.node root).isGraph = true
  lowered : net.Lowered root
  parents : net.Parented
  nodup : ∀ g, net.Within root g → (net.contents g).Nodup
  closed : ∀ g o, net.Within root g → net.Contains g o → ∀ source ∈ net.sources o,
    source ∈ net.contents g ∨ net.Bystander source
  unordered : ∀ g, net.Within root g → net.order g = []
  distinct : ∀ o other, net.Inside root o → net.Inside root other →
    (net.node o).isGraph = false → (net.node other).isGraph = false →
    (net.node o).identity = (net.node other).identity → o = other
  buffers : ∀ o spec, net.Inside root o → (net.node o).isGraph = false →
    Catalogue.irSpec? (net.node o).type = some spec → spec.signal = true →
    (net.node o).inletBuffers.length ≤ spec.inlets.length ∧
      (net.node o).outletBuffers.length ≤ spec.outlets.length

/-- The identity is that of a low-level object of some kind which is the object or inside it. -/
def Bears (net : Net) (kind : Ref → Prop) (o : Ref) (i : Nat) : Prop :=
  ∃ inner, net.Within o inner ∧ (net.node inner).isGraph = false ∧ kind inner ∧
    (net.node inner).identity = i

/-- The net while buffers are given: the orders of the graphs are lists of objects in them that
process signals. -/
structure Arranged (net : Net) (root : Ref) (last : Net) : Prop where
  alike : Alike Node.shape net last
  inletBuffers : ∀ o, (last.node o).inletBuffers.length = (net.node o).inletBuffers.length
  outletBuffers : ∀ o, (last.node o).outletBuffers.length = (net.node o).outletBuffers.length
  nodup : ∀ g, net.Within root g → (last.order g).Nodup
  active : ∀ g, net.Within root g → ∀ o ∈ last.order g, net.Active g o

variable {net last : Net} {root g o : Ref} {kind : Ref → Prop} {i : Nat}

theorem bears_object (plain : (net.node o).isGraph = false) :
    net.Bears kind o i ↔ kind o ∧ (net.node o).identity = i := by
  constructor
  · rintro ⟨inner, path, _, ok, same⟩
    rcases path.cases_head with rfl | ⟨_, mem, _⟩
    · exact ⟨ok, same⟩
    · simp [mem.1] at plain
  · exact fun ⟨ok, same⟩ => ⟨o, .refl, plain, ok, same⟩

theorem bears_graph (isG : (net.node g).isGraph = true) :
    net.Bears kind g i ↔ ∃ o ∈ net.contents g, net.Bears kind o i := by
  constructor
  · rintro ⟨inner, path, plain, ok⟩
    rcases path.cases_head with rfl | ⟨o, mem, rest⟩
    · simp [isG] at plain
    · exact ⟨o, mem.2, inner, rest, plain, ok⟩
  · rintro ⟨o, mem, inner, path, ok⟩
    exact ⟨inner, .head ⟨isG, mem⟩ path, ok⟩

theorem Arranged.lasting : Build.Lasting (fun _ => True) (net.Arranged root) where
  alike now alike := by
    have shape : Alike Node.shape _ _ := ⟨alike.1, fun _ => alike.look Node.shape rfl⟩
    have order : ∀ g, Net.order _ g = Net.order _ g := fun _ =>
      alike.look (fun n => n.body.signalOrder) rfl
    refine ⟨now.alike.trans shape, fun o => ?_, fun o => ?_, fun g sub => ?_, fun g sub => ?_⟩
    · rw [← now.inletBuffers]
      exact alike.look (fun n => n.inletBuffers.length) (funext fun _ => by simp [Node.frame])
    · rw [← now.outletBuffers]
      exact alike.look (fun n => n.outletBuffers.length) (funext fun _ => by simp [Node.frame])
    · rw [order]
      exact now.nodup g sub
    · rw [order]
      exact now.active g sub
  other _ _ := trivial
  many _ _ _ := trivial

theorem Processes.described (runs : net.Processes o) (plain : (net.node o).isGraph = false) :
    ∃ spec, Catalogue.irSpec? (net.node o).type = some spec ∧ spec.signal = true := by
  cases runs with
  | object _ got isSignal => exact ⟨_, got, isSignal⟩
  | inner mem _ => simp [mem.1] at plain
  | audio isG _ _ => simp [isG] at plain

namespace Prepared

variable (prep : net.Prepared root)
include prep

section

variable (sub : net.Within root g) (isG : (net.node g).isGraph = true)
include sub isG

theorem ground : net.Ground g where
  inside := lt_size_of_isGraph isG
  lowered _ mem := (prep.lowered.within sub).contents ⟨isG, mem⟩
  closed o mem := prep.closed g o sub ⟨isG, mem⟩

theorem nodup_flatMap
    {os : List Ref} (nodup : os.Nodup) (here : ∀ o ∈ os, o ∈ net.contents g) {f : Ref → List Nat}
    (each : ∀ o ∈ os, (f o).Nodup ∧ ∀ i ∈ f o, net.Bears kind o i) : (os.flatMap f).Nodup := by
  refine List.nodup_flatMap.mpr ⟨fun o mem => (each o mem).1, ?_⟩
  refine nodup.pairwise_of_forall_ne fun o mem y inOs ne i inFirst inSecond => ?_
  obtain ⟨inner, path, plain, _, same⟩ := (each o mem).2 i inFirst
  obtain ⟨other, path', plain', _, same'⟩ := (each y inOs).2 i inSecond
  have inO : net.Contains g o := ⟨isG, here o mem⟩
  have inY : net.Contains g y := ⟨isG, here y inOs⟩
  have eq := prep.distinct inner other ((Relation.TransGen.tail' sub inO).trans_left path)
    ((Relation.TransGen.tail' sub inY).trans_left path') plain plain' (same.trans same'.symm)
  subst eq
  exact prep.parents.apart (prep.lowered.within sub) inO inY ne.symm path path'

open Classical in
theorem keeps_orderSignals :
    Build.Keeps (fun _ => True) (net.Arranged root) (Build.orderSignals g) := by
  intro cur now
  have ground := (prep.ground sub isG).alike now.alike
  obtain ⟨last, walk, run, vis, ord⟩ := ground.run_orderSignals
  refine .of_run run ?_
  have others : ∀ y, y ≠ g → last.order y = cur.order y := by
    intro y ne
    rw [Net.order, ord.unmarked.look (fun n => n.body.signalOrder) rfl, node_change_ne ne, Net.order]
  refine ⟨now.alike.trans ord.alike, fun o => ?_, fun o => ?_, fun y inside => ?_,
    fun y inside o mem => ?_⟩
  · rw [ord.inletBuffers, now.inletBuffers]
  · rw [ord.outletBuffers, now.outletBuffers]
  · by_cases eq : y = g
    · rw [eq]
      exact ord.nodup vis
    · rw [others y eq]
      exact now.nodup y inside
  · by_cases eq : y = g
    · subst eq
      rw [Net.order, ord.order, mem_filter, decide_eq_true_iff, now.alike.processes] at mem
      rcases ground.placed_near vis mem.1 with inside | bystander
      · rw [now.alike.contents] at inside
        exact ⟨inside, mem.2⟩
      · exact absurd (mem.2.alike now.alike) bystander.silent
    · rw [others y eq] at mem
      exact now.active y inside o mem

end

theorem arranged (run : (Build.assignBuffers root).run net = .ok () last) :
    net.Arranged root last := by
  have start : net.Arranged root net := by
    refine ⟨.refl .., fun _ => rfl, fun _ => rfl, fun g sub => ?_, fun g sub o mem => ?_⟩
    · rw [prep.unordered g sub]
      exact nodup_nil
    · rw [prep.unordered g sub] at mem
      cases mem
  refine (Arranged.lasting.assignBuffers (fun g => net.Within root g ∧ (net.node g).isGraph = true)
    (fun g near => prep.keeps_orderSignals near.1 near.2) ?_ ⟨.refl, prep.isGraph⟩ net start).of_ok
      run
  intro _ _ g o now cur near mem isG
  rw [cur.alike.isGraph] at isG
  exact ⟨near.1.tail ⟨near.2, (now.active g near.1 o mem).1⟩, isG⟩

end Prepared

end Net

namespace Build

open Net

variable {net last : Net} {root g o : Ref}

theorem exists_mapM {α β : Type} {step : Ref → Build α} [Inhabited α] (good : Ref → α → Prop)
    {os : List Ref} {next : List α → Build β} {post : β → Prop}
    (each : ∀ o, o ∈ os → ∃ res, (step o).run net = .ok res net ∧ good o res)
    (rest : ∀ f : Ref → α, (∀ o ∈ os, good o (f o)) →
      ∃ res, (next (os.map f)).run net = .ok res net ∧ post res) :
    ∃ res, (os.mapM step >>= next).run net = .ok res net ∧ post res := by
  choose! f runs goods using each
  rw [EStateM.run_bind, run_mapM_map runs]
  exact rest f goods

theorem run_lowSpec {spec : Catalogue.IrSpec}
    (described : Catalogue.irSpec? (net.node o).type = some spec) :
    (lowSpec o).run net = .ok spec net := by
  simp [lowSpec, described]

theorem run_map {α β : Type} {step : Build α} {res : α} {last : Net} (f : α → β)
    (run : step.run net = .ok res last) : (f <$> step).run net = .ok (f res) last := by
  rw [map_eq_pure_bind, EStateM.run_bind, run]
  rfl

theorem run_filterM_fetch {types : List WireType} {buffers : List Buffer}
    (enough : buffers.length ≤ types.length) :
    (buffers.zipIdx.filterM fun e : Buffer × Nat => WireType.isSignal <$> fetch types e.2).run net =
      .ok (buffers.zipIdx.filter fun e => (types.getD e.2 .control).isSignal) net := by
  refine run_filterM fun e mem => ?_
  have lt : e.2 < types.length := by
    have := snd_lt_of_mem_zipIdx mem
    omega
  exact run_map _ (run_fetch (at?_eq_getD (place?_ofNat lt) .control) net)

theorem run_signalsWithin (prep : net.Prepared root) (now : net.Arranged root last) (d : Nat) :
    ∀ g, net.Within root g → (net.node g).isGraph = true → net.depth g < d →
      ∃ signals, (signalsWithin d g).run last = .ok signals last ∧
        (signals.map (·.identity)).Nodup ∧
        ∀ i ∈ signals.map (·.identity), net.Bears (fun _ => True) g i := by
  induction d with
  | zero => intros; omega
  | succ d ih =>
    intro g sub isG deep
    have low := prep.lowered.within sub
    rw [signalsWithin, EStateM.run_bind, run_node]
    refine exists_mapM (fun o signals => (signals.map (·.identity)).Nodup ∧
      ∀ i ∈ signals.map (·.identity), net.Bears (fun _ => True) o i) (fun o mem => ?_) ?_
    · obtain ⟨inside, runs⟩ := now.active g sub o mem
      have contained : net.Contains g o := ⟨isG, inside⟩
      rw [EStateM.run_bind, run_node]
      dsimp only
      rw [now.alike.isGraph]
      cases inner : (net.node o).isGraph with
      | true =>
        have := low.depth_lt contained
        exact ih o (sub.tail contained) inner (by omega)
      | false =>
        obtain ⟨spec, described, isSignal⟩ := runs.described inner
        have enough := prep.buffers o spec (.tail' sub contained) inner described isSignal
        rw [← now.inletBuffers, ← now.outletBuffers] at enough
        rw [← now.alike.type] at described
        simp only [Bool.false_eq_true, if_false]
        rw [EStateM.run_bind, run_lowSpec described]
        simp [isSignal, run_filterM_fetch enough.1, run_map _ (run_filterM_fetch enough.2),
          bears_object inner, now.alike.look Node.identity rfl]
    · intro f good
      refine ⟨_, rfl, ?_, ?_⟩
      · rw [← flatMap_def, map_flatMap]
        exact prep.nodup_flatMap sub isG (now.nodup g sub)
          (fun o mem => (now.active g sub o mem).1) good
      · intro i mem
        rw [← flatMap_def, map_flatMap, mem_flatMap] at mem
        obtain ⟨o, ordered, inO⟩ := mem
        exact (bears_graph isG).mpr ⟨o, (now.active g sub o ordered).1, (good o ordered).2 i inO⟩

/-- The identities that occur in the first list come first, in its order. -/
def arrange (processing all : List Nat) : List Nat :=
  let early := processing.filter all.contains
  early ++ all.filter fun i => !early.contains i

theorem mem_arrange {processing all : List Nat} {i : Nat} :
    i ∈ arrange processing all ↔ i ∈ all := by
  by_cases mem : i ∈ processing <;> simp [arrange, mem]

theorem exists_arrange_eq (processing all : List Nat) : ∃ late, arrange processing all =
        processing.filter (fun i => decide (i ∈ arrange processing all)) ++ late ∧
      ∀ i ∈ late, i ∉ processing := by
  refine ⟨_, congrArg (· ++ _) (filter_congr fun i _ => ?_), fun i late early => ?_⟩
  · simp [mem_arrange]
  · simp only [mem_filter, contains_iff_mem, Bool.not_eq_true', ← Bool.not_eq_true] at late
    exact late.2 ⟨early, late.1⟩

/-- The list has the identity of every object inside that is to be initialised once. -/
def Initialises (net : Net) (o : Ref) (ids : List Nat) : Prop :=
  ids.Nodup ∧ ∀ i, i ∈ ids ↔ net.Bears net.Initialised o i

theorem Initialises.arrange {processing all : List Nat} (once : processing.Nodup)
    (ok : Initialises net g all) : Initialises net g (arrange processing all) := by
  refine ⟨(once.filter _).append (ok.1.filter _) fun i early late => ?_, fun i => ?_⟩
  · simp only [mem_filter, contains_iff_mem, Bool.not_eq_true', ← Bool.not_eq_true] at early late
    exact late.2 early
  · rw [mem_arrange, ok.2]

theorem run_initialWithin (prep : net.Prepared root) (now : net.Arranged root last) (d : Nat) :
    ∀ g, net.Within root g → (net.node g).isGraph = true → net.depth g < d →
      ∃ ids, (initialWithin d g).run last = .ok ids last ∧
        ∃ signals all, (signalList g).run last = .ok signals last ∧
          (signals.map (·.identity)).Nodup ∧ Initialises net g all ∧
          ids = arrange (signals.map (·.identity)) all := by
  induction d with
  | zero => intros; omega
  | succ d ih =>
    intro g sub isG deep
    have low := prep.lowered.within sub
    have reach := net.depth_le_size g
    obtain ⟨signals, run, once, _⟩ := run_signalsWithin prep now (last.size + 1) g sub isG (by
      rw [now.alike.1]
      omega)
    replace run : (signalList g).run last = .ok signals last := run
    rw [initialWithin, EStateM.run_bind, EStateM.run_get]
    refine exists_mapM (Initialises net) (fun o mem => ?_) fun f good => ?_
    · rw [now.alike.contents] at mem
      have contained : net.Contains g o := ⟨isG, mem⟩
      have inner := low.contents contained
      rw [EStateM.run_bind, run_node]
      dsimp only
      rw [now.alike.isGraph, now.alike.kind, inner.not_language]
      cases inner with
      | graph isGraph =>
        rw [isGraph]
        have := low.depth_lt contained
        obtain ⟨ids, run, _, _, _, once, ok, rfl⟩ :=
          ih o (sub.tail contained) isGraph (by omega)
        exact ⟨_, run, ok.arrange once⟩
      | @object _ spec _ plain described =>
        rw [plain]
        simp only [Bool.false_eq_true, if_false]
        rw [← now.alike.type] at described
        rw [EStateM.run_bind, run_lowSpec described]
        refine ⟨_, rfl, ?_, fun i => ?_⟩
        · split
          · exact nodup_singleton _
          · exact nodup_nil
        · rw [bears_object plain, Initialised, ← now.alike.type, described]
          cases init : spec.init <;>
            simp [plain, init, @eq_comm _ i, now.alike.look Node.identity rfl]
    · rw [now.alike.contents] at good ⊢
      refine ⟨_, ?_, signals, (net.contents g).flatMap f, run, once, ⟨?_, fun i => ?_⟩, rfl⟩
      · rw [EStateM.run_bind, run]
        rfl
      · exact prep.nodup_flatMap sub isG (prep.nodup g sub) (fun _ => id) fun o mem =>
          ⟨(good o mem).1, fun i => ((good o mem).2 i).mp⟩
      · rw [mem_flatMap, bears_graph isG]
        exact exists_congr fun o => and_congr_right fun mem => (good o mem).2 i

/-- Every object that is to be initialised, however deep, is initialised once. Those that are in the
list of what processes signals come first, in the order of that list. -/
theorem initialWithin_processing (prep : net.Prepared root)
    (run : (assignBuffers root).run net = .ok () last) :
    ∃ signals ids, (signalList root).run last = .ok signals last ∧
      (initialWithin (last.size + 1) root).run last = .ok ids last ∧ ids.Nodup ∧
      (∀ i, i ∈ ids ↔ ∃ o, net.Inside root o ∧ net.Initialised o ∧ (net.node o).identity = i) ∧
      ∃ late, ids = (signals.map (·.identity)).filter (· ∈ ids) ++ late ∧
        ∀ i ∈ late, i ∉ signals.map (·.identity) := by
  have reach := net.depth_le_size root
  have now := prep.arranged run
  obtain ⟨ids, initial, signals, all, processing, once, ok, eq⟩ :=
    run_initialWithin prep now (last.size + 1) root .refl prep.isGraph (by
      rw [now.alike.1]
      omega)
  have done : Initialises net root ids := eq ▸ ok.arrange once
  refine ⟨signals, ids, processing, initial, done.1, fun i => ?_, eq ▸ exists_arrange_eq _ all⟩
  rw [done.2]
  constructor
  · rintro ⟨o, path, plain, ok⟩
    rcases path.cases_head with rfl | ⟨o, mem, rest⟩
    · simp [prep.isGraph] at plain
    · exact ⟨_, .head' mem rest, ok⟩
  · rintro ⟨o, path, ok, same⟩
    exact ⟨o, path.to_reflTransGen, ok.1, ok, same⟩

end Build

/-! ## An example -/

namespace Bell

/-- An oscillator in a graph beside a delay and an object with as many inlets as it packs values. -/
def net : Net :=
  .ready [
    .outermost [(.given "d", 1), (.given "k", 4), (.given "g", 2)],
    .wired "__delay" 1 0 [[], [], []] [[]],
    { type := "graph", kind := .graph, identity := 2, parent := some 0
      body := { objects := [(.given "p", 3)] } },
    .wired "__phasor_k~f" 3 2 [[], []] [[]], .wired "__pack" 4 0 [[], []] [[]]]

theorem lowered : net.Lowered 0 :=
  .of_isLowered (show net.isLowered 3 0 = true by decide +kernel)

theorem prepared : net.Prepared 0 := by
  have small : ∀ g < 5, (net.contents g).Nodup ∧ net.order g = [] ∧
      ∀ o ∈ net.contents g, (net.node o).parent = some g ∧ net.sources o = [] := by decide
  have distinct : ∀ o < 5, ∀ other < 5,
      (net.node o).identity = (net.node other).identity → o = other := by decide
  have buffers : ∀ o < 5, (Catalogue.irSpec? (net.node o).type).all fun spec =>
      spec.signal = true → (net.node o).inletBuffers.length ≤ spec.inlets.length ∧
        (net.node o).outletBuffers.length ≤ spec.outlets.length := by decide +kernel
  have lt : ∀ {g}, net.Within 0 g → g < 5 := fun sub => (lowered.within sub).lt_size
  refine ⟨rfl, lowered, ?_, fun g sub => (small g (lt sub)).1, ?_,
    fun g sub => (small g (lt sub)).2.1, ?_, ?_⟩
  · exact fun g o mem => ((small g (Net.lt_size_of_isGraph mem.1)).2.2 o mem.2).1
  · intro g o sub mem src isSrc
    rw [((small g (lt sub)).2.2 o mem.2).2] at isSrc
    cases isSrc
  · exact fun o other inO inOther _ _ =>
      distinct o (lt inO.to_reflTransGen) other (lt inOther.to_reflTransGen)
  · intro o spec inO _ described isSignal
    have all := buffers o (lt inO.to_reflTransGen)
    rw [described] at all
    simpa [isSignal] using all

theorem oscillator_first : net.Prepared 0 ∧ ∃ last signals,
    (Build.assignBuffers 0).run net = .ok () last ∧
    (Build.signalList 0).run last = .ok signals last ∧ signals.map (·.identity) = [3] ∧
    (Build.initialWithin (last.size + 1) 0).run last = .ok [3, 1, 4] last ∧
    ∀ i, i ∈ [3, 1, 4] ↔ ∃ o, net.Inside 0 o ∧ net.Initialised o ∧ (net.node o).identity = i := by
  obtain ⟨_, run⟩ := Build.run_of_finishes
    (show (Build.assignBuffers 0).finishes net = true by decide +kernel)
  obtain ⟨signals, ids, processing, initial, _, mem, _⟩ :=
    Build.initialWithin_processing prepared run
  have first : (match (Build.signalList 0).run ((Build.assignBuffers 0).netAfter net) with
      | .ok signals _ => signals.map (·.identity)
      | .error _ _ => []) = [3] := by decide +kernel
  have all : (match (Build.initialWithin 6 0).run ((Build.assignBuffers 0).netAfter net) with
      | .ok ids _ => ids
      | .error _ _ => []) = [3, 1, 4] := by decide +kernel
  have size : ((Build.assignBuffers 0).netAfter net).size = 5 := by decide +kernel
  rw [processing] at first
  rw [size] at initial
  rw [initial] at all
  subst all
  exact ⟨prepared, _, signals, run, processing, first, by rw [size]; exact initial, mem⟩

end Bell

end PatchCompiler
