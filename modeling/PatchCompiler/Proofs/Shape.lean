import Mathlib.Data.Finset.Card
import Mathlib.Logic.Relation
import PatchCompiler.Net.SignalOrder
import PatchCompiler.Proofs.Run

/-!
# What processes signals

A net is lowered below an object if everything in it is a low-level object. There it is settled
which objects process signals: those whose description says so, and the graphs that contain one or
have an audio input. Graphs are nested as deep as there are graphs at most, so looking into them
comes to an end. Ordering marks objects and notes the order at their graph, and giving buffers
changes the buffers of objects and of their lets. All the rest of a net, its shape, stays as it is.
-/

namespace PatchCompiler

namespace Net

open Relation

variable {object graph o : Ref}

def Contains (net : Net) (graph object : Ref) : Prop :=
  (net.node graph).isGraph = true ∧ object ∈ net.contents graph

/-- Everything from an object inwards is a low-level object with a description. -/
inductive Lowered (net : Net) : Ref → Prop where
  | object {object : Ref} {spec : Catalogue.IrSpec} :
      (net.node object).kind.isLanguage = false → (net.node object).isGraph = false →
      Catalogue.irSpec? (net.node object).type = some spec → Lowered net object
  | graph {graph : Ref} :
      (net.node graph).isGraph = true → (∀ object ∈ net.contents graph, Lowered net object) →
      (∀ inlet ∈ (net.node graph).body.inletObjects, ∃ index,
        (net.node inlet).arguments.get? "index" = some index ∧ index.isNumber = true) →
      Lowered net graph

def IsAudioInlet (net : Net) (inlet : Ref) : Prop :=
  ∃ index, (net.node inlet).arguments.get? "index" = some index ∧
    index.compareNumbers (.int 127) = some .gt

inductive Processes (net : Net) : Ref → Prop where
  | object {object : Ref} {spec : Catalogue.IrSpec} :
      (net.node object).isGraph = false → Catalogue.irSpec? (net.node object).type = some spec →
      spec.signal = true → Processes net object
  | inner {graph object : Ref} :
      net.Contains graph object → Processes net object → Processes net graph
  | audio {graph inlet : Ref} :
      (net.node graph).isGraph = true → inlet ∈ (net.node graph).body.inletObjects →
      net.IsAudioInlet inlet → Processes net graph

variable {net : Net}

/-- Whether everything from an object inwards is low-level, for graphs nested up to some depth. -/
def isLowered (net : Net) : Nat → Ref → Bool
  | 0, _ => false
  | depth + 1, o =>
    if (net.node o).isGraph then
      (net.contents o).all (net.isLowered depth) && (net.node o).body.inletObjects.all fun inlet =>
        ((net.node inlet).arguments.get? "index").any Value.isNumber
    else !(net.node o).kind.isLanguage && (Catalogue.irSpec? (net.node o).type).isSome

theorem Lowered.of_isLowered {depth : Nat} (ok : net.isLowered depth o = true) : net.Lowered o := by
  induction depth generalizing o with
  | zero => cases ok
  | succ depth ih =>
    rw [isLowered] at ok
    split at ok
    next isG =>
      simp only [Bool.and_eq_true, List.all_eq_true, Option.any_eq_true] at ok
      exact .graph isG (fun object mem => ih (ok.1 object mem)) ok.2
    next plain =>
      simp only [Bool.and_eq_true, Bool.not_eq_true', Option.isSome_iff_exists] at ok
      obtain ⟨isLow, spec, described⟩ := ok
      exact .object isLow (by simpa using plain) described

theorem Lowered.not_language (low : net.Lowered object) :
    (net.node object).kind.isLanguage = false := by
  cases low with
  | object plain _ _ => exact plain
  | graph isG _ _ =>
    have kind : (net.node object).kind = .graph := by simpa [Node.isGraph] using isG
    simp [kind, Kind.isLanguage]

theorem Lowered.contents (low : net.Lowered graph)
    (mem : net.Contains graph object) : net.Lowered object := by
  cases low with
  | object _ plain _ => simp [mem.1] at plain
  | graph _ sub _ => exact sub object mem.2

theorem lt_size_of_isGraph {g : Ref} (isG : (net.node g).isGraph = true) : g < net.size :=
  lt_size_of_look Node.isGraph (isG ▸ nofun)

theorem Lowered.lt_size (low : net.Lowered o) : o < net.size :=
  lt_size_of_look (fun n => n.kind.isLanguage) (low.not_language ▸ nofun)

theorem Lowered.not_inside_itself (low : net.Lowered graph) :
    ¬ TransGen net.Contains graph graph := by
  have go : ∀ object, net.Lowered object → ∀ last, TransGen net.Contains object last →
      last ≠ object := by
    intro object low
    induction low with
    | object _ plain _ =>
      intro last path _
      rcases TransGen.head'_iff.mp path with ⟨_, first, _⟩
      simp [first.1] at plain
    | graph isG sub _ ih =>
      rintro last path rfl
      rcases TransGen.head'_iff.mp path with ⟨mid, first, rest⟩
      exact ih mid first.2 mid (TransGen.tail' rest first) rfl
  intro path
  exact go graph low graph path rfl

open Classical in
/-- How many graphs there are from an object inwards. -/
noncomputable def depth (net : Net) (object : Ref) : Nat :=
  ((Finset.range net.size).filter fun graph =>
    (net.node graph).isGraph = true ∧ ReflTransGen net.Contains object graph).card

open Classical in
theorem depth_le_size (net : Net) (o : Ref) : net.depth o ≤ net.size := by
  refine (Finset.card_filter_le _ _).trans ?_
  simp

open Classical in
theorem Lowered.depth_lt (low : net.Lowered graph)
    (mem : net.Contains graph o) : net.depth o < net.depth graph := by
  apply Finset.card_lt_card
  rw [Finset.ssubset_iff_of_subset]
  · refine ⟨graph, ?_, ?_⟩
    · simp [lt_size_of_isGraph mem.1, mem.1, ReflTransGen.refl]
    · intro sub
      have path := (Finset.mem_filter.mp sub).2.2
      exact low.not_inside_itself (TransGen.head' mem path)
  · intro y sub
    rcases Finset.mem_filter.mp sub with ⟨lt, isG, path⟩
    exact Finset.mem_filter.mpr ⟨lt, isG, .head mem path⟩

end Net

namespace Build

variable {α : Type} {net : Net}

open Classical in
theorem run_anyM {step : α → Build Bool} {holds : α → Prop} {xs : List α}
    (run : ∀ x ∈ xs, (step x).run net = .ok (decide (holds x)) net) :
    (xs.anyM step).run net = .ok (decide (∃ x ∈ xs, holds x)) net := by
  induction xs with
  | nil => simp
  | cons x rest ih =>
    have first := run x List.mem_cons_self
    have post := ih (List.forall_mem_cons.mp run).2
    rw [List.anyM, EStateM.run_bind, first]
    by_cases got : holds x
    · simp [got]
    · simpa [got] using post

theorem run_filterM {step : α → Build Bool} {keep : α → Bool} {xs : List α}
    (run : ∀ x ∈ xs, (step x).run net = .ok (keep x) net) :
    (xs.filterM step).run net = .ok (xs.filter keep) net := by
  have go : ∀ rest kept, (∀ x ∈ rest, (step x).run net = .ok (keep x) net) →
      (List.filterAuxM step rest kept).run net = .ok ((rest.filter keep).reverse ++ kept) net := by
    intro rest
    induction rest with
    | nil => simp [List.filterAuxM]
    | cons x rest ih =>
      intro kept run
      have first := run x List.mem_cons_self
      have post := fun more => ih more (List.forall_mem_cons.mp run).2
      rw [List.filterAuxM, EStateM.run_bind, first]
      cases got : keep x <;> simp [got, post]
  rw [List.filterM, EStateM.run_bind, go xs [] run]
  simp

theorem run_isAudioIndex {k : Value} (q : k.isNumber = true) : (isAudioIndex k).run net =
      .ok (k.compareNumbers (.int 127) == some .gt) net := by
  simp [isAudioIndex, q]

open Classical in
theorem run_processesSignalWithin (lowered : net.Lowered object) {d : Nat}
    (deep : net.depth object < d) :
    (processesSignalWithin d object).run net = .ok (decide (net.Processes object)) net := by
  induction d generalizing object with
  | zero => omega
  | succ d ih =>
    rw [processesSignalWithin, EStateM.run_bind, run_node]
    cases lowered with
    | @object _ spec plain notG desc =>
      have answer : net.Processes object ↔ spec.signal = true := by
        constructor
        · intro runs
          cases runs with
          | object _ got isS =>
            rw [desc] at got
            cases got
            exact isS
          | inner mem _ => simp [mem.1] at notG
          | audio isG _ _ => simp [isG] at notG
        · exact .object notG desc
      cases isS : spec.signal <;>
        simp [plain, notG, lowSpec, desc, answer, isS]
    | graph isG inner ins =>
      have low : net.Lowered object := .graph isG inner ins
      have plain := low.not_language
      have os : ((net.node object).body.objects.anyM fun e =>
          processesSignalWithin d e.2).run net =
          .ok (decide (∃ e ∈ (net.node object).body.objects, net.Processes e.2)) net := by
        apply run_anyM
        intro e mem
        have contained : net.Contains object e.2 := ⟨isG, List.mem_map.mpr ⟨e, mem, rfl⟩⟩
        apply ih (low.contents contained)
        have := low.depth_lt contained
        omega
      have cs : ((net.node object).body.inletObjects.anyM fun inlet => do
          isAudioIndex (← argument inlet "index")).run net =
          .ok (decide (∃ inlet ∈ (net.node object).body.inletObjects,
            net.IsAudioInlet inlet)) net := by
        apply run_anyM
        intro inlet mem
        rcases ins inlet mem with ⟨k, got, q⟩
        rw [EStateM.run_bind, run_argument got]
        change (isAudioIndex k).run net = _
        rw [run_isAudioIndex q]
        have audio : net.IsAudioInlet inlet ↔ k.compareNumbers (.int 127) = some .gt := by
          simp [Net.IsAudioInlet, got]
        by_cases greater : k.compareNumbers (.int 127) = some .gt <;>
          simp [audio, greater]
      have answer : net.Processes object ↔
          (∃ e ∈ (net.node object).body.objects, net.Processes e.2) ∨
          ∃ inlet ∈ (net.node object).body.inletObjects, net.IsAudioInlet inlet := by
        constructor
        · intro runs
          cases runs with
          | object notG _ _ => simp [isG] at notG
          | inner mem runs =>
            rcases List.mem_map.mp mem.2 with ⟨e, inObjects, rfl⟩
            exact .inl ⟨e, inObjects, runs⟩
          | audio _ inInlets audio => exact .inr ⟨_, inInlets, audio⟩
        · rintro (⟨e, inObjects, runs⟩ | ⟨inlet, inInlets, audio⟩)
          · exact .inner ⟨isG, List.mem_map.mpr ⟨e, inObjects, rfl⟩⟩ runs
          · exact .audio isG inInlets audio
      simp only [plain, isG, Bool.false_eq_true, if_false, if_true]
      rw [EStateM.run_bind, os]
      by_cases got : ∃ e ∈ (net.node object).body.objects, net.Processes e.2
      · simp [answer, got]
      · simpa [answer, got] using cs

open Classical in
theorem run_processesSignal (low : net.Lowered o) :
    (processesSignal o).run net = .ok (decide (net.Processes o)) net := by
  rw [processesSignal, EStateM.run_bind, EStateM.run_get]
  exact run_processesSignalWithin low (by have := net.depth_le_size o; omega)

end Build

/-- An outermost graph with the objects in it. -/
def Node.outermost (objects : List (Key × Ref)) : Node :=
  { type := "graph", kind := .graph, identity := 0, body := { objects } }

/-- A signal wire from the first outlet of an object. -/
def Wire.signal (source target : Ref) (inlet : Int) : Wire :=
  ⟨source, 0, target, inlet, .float⟩

/-- A low-level object of a graph with its wires. -/
def Node.wired (type : String) (identity : Nat) (graph : Ref) (inlets outlets : List (List Wire)) :
    Node :=
  { type, kind := .plain, identity, parent := some graph, inlets, outlets }

/-- Objects with an empty buffer at each of their lets. -/
def Net.ready (nodes : List Node) : Net where
  nodes := (nodes.map fun node => { node with
    inletBuffers := node.inlets.map fun _ => .zero
    outletBuffers := node.outlets.map fun _ => .zero }).toArray

def Node.unmarked (node : Node) : Node :=
  { node with ordered := false }

def Node.withOrder (order : List Ref) (node : Node) : Node :=
  { node with body := { node.body with signalOrder := order } }

/-- An object without its place, its order and its buffers. -/
def Node.shape (node : Node) : Node :=
  { node with
    ordered := false, inletBuffers := [], outletBuffers := []
    body := { node.body with signalOrder := [] } }

@[simp]
theorem Node.withOrder_shape (order : List Ref) (n : Node) : (n.withOrder order).shape = n.shape :=
  rfl

@[simp]
theorem Node.withOrder_ordered (order : List Ref) (n : Node) :
    (n.withOrder order).ordered = n.ordered :=
  rfl

@[simp]
theorem Node.withOrder_inletBuffers (order : List Ref) (n : Node) :
    (n.withOrder order).inletBuffers = n.inletBuffers :=
  rfl

@[simp]
theorem Node.withOrder_outletBuffers (order : List Ref) (n : Node) :
    (n.withOrder order).outletBuffers = n.outletBuffers :=
  rfl

namespace Net

def Alike (view : Node → Node) (net other : Net) : Prop :=
  other.size = net.size ∧ ∀ ref, view (other.node ref) = view (net.node ref)

variable {view : Node → Node} {net y third : Net}

theorem Alike.refl (view : Node → Node) (net : Net) : Alike view net net :=
  ⟨rfl, fun _ => rfl⟩

theorem Alike.symm (alike : Alike view net y) : Alike view y net :=
  ⟨alike.1.symm, fun ref => (alike.2 ref).symm⟩

theorem Alike.trans (first : Alike view net y) (snd : Alike view y third) : Alike view net third :=
  ⟨snd.1.trans first.1, fun ref => (snd.2 ref).trans (first.2 ref)⟩

theorem Alike.change {ref : Ref} {f : Node → Node} (kept : ∀ n, view (f n) = view n) :
    Alike view net (net.change ref f) :=
  ⟨size_change .., node_change_keeps view kept⟩

theorem Alike.change_at {ref : Ref} {f : Node → Node}
    (kept : view (f (net.node ref)) = view (net.node ref)) : Alike view net (net.change ref f) := by
  refine ⟨size_change .., fun o => ?_⟩
  rcases node_change net ref f o with same | ⟨rfl, changed⟩
  · rw [same]
  · rw [changed, kept]

/-- Whatever can be told from the view of an object is the same in both nets. -/
theorem Alike.look {β : Type} {ref : Ref} (alike : Alike view net y) (look : Node → β)
    (blind : look ∘ view = look) : look (y.node ref) = look (net.node ref) := by
  rw [← blind]
  exact congrArg look (alike.2 ref)

theorem Alike.shape_of_unmarked (alike : Alike Node.unmarked net y) : Alike Node.shape net y :=
  ⟨alike.1, fun _ => alike.look Node.shape rfl⟩

section Shape

variable (alike : Alike Node.shape net y) (ref : Ref)
include alike

theorem Alike.kind : (y.node ref).kind = (net.node ref).kind :=
  alike.look Node.kind rfl

theorem Alike.type : (y.node ref).type = (net.node ref).type :=
  alike.look Node.type rfl

theorem Alike.arguments : (y.node ref).arguments = (net.node ref).arguments :=
  alike.look Node.arguments rfl

theorem Alike.inlets : (y.node ref).inlets = (net.node ref).inlets :=
  alike.look Node.inlets rfl

theorem Alike.outlets : (y.node ref).outlets = (net.node ref).outlets :=
  alike.look Node.outlets rfl

theorem Alike.inletObjects : (y.node ref).body.inletObjects = (net.node ref).body.inletObjects :=
  alike.look (fun n => n.body.inletObjects) rfl

theorem Alike.outletObjects : (y.node ref).body.outletObjects = (net.node ref).body.outletObjects :=
  alike.look (fun n => n.body.outletObjects) rfl

theorem Alike.contents : y.contents ref = net.contents ref :=
  alike.look (fun n => n.body.objects.map Prod.snd) rfl

theorem Alike.isGraph : (y.node ref).isGraph = (net.node ref).isGraph :=
  alike.look Node.isGraph rfl

theorem Alike.incoming : (y.node ref).incoming = (net.node ref).incoming :=
  alike.look Node.incoming rfl

theorem Alike.isLeaf : (y.node ref).isLeaf = (net.node ref).isLeaf :=
  alike.look Node.isLeaf rfl

theorem Alike.isRoot : (y.node ref).isRoot = (net.node ref).isRoot :=
  alike.look Node.isRoot rfl

omit ref in
theorem Alike.contains : y.Contains = net.Contains := by
  funext graph object
  simp only [Contains, alike.isGraph, alike.contents]

end Shape

theorem Lowered.alike {object : Ref} (lowered : net.Lowered object)
    (alike : Alike Node.shape net y) : y.Lowered object := by
  induction lowered with
  | @object object spec plain notGraph described =>
    refine @Lowered.object _ _ spec ?_ ?_ ?_
    · rw [alike.kind, plain]
    · rw [alike.isGraph, notGraph]
    · rw [alike.type, described]
  | @graph graph isGraph _ inlets ih =>
    refine .graph ?_ ?_ ?_
    · rw [alike.isGraph, isGraph]
    · rw [alike.contents]
      exact ih
    · rw [alike.inletObjects]
      intro inlet inside
      rw [alike.arguments]
      exact inlets inlet inside

theorem Processes.alike {object : Ref} (runs : net.Processes object)
    (alike : Alike Node.shape net y) : y.Processes object := by
  induction runs with
  | @object object spec notG desc isS =>
    refine @Processes.object _ _ spec ?_ ?_ isS
    · rw [alike.isGraph, notG]
    · rw [alike.type, desc]
  | inner mem _ ih =>
    exact .inner (alike.contains ▸ mem) ih
  | @audio g i isG inInlets audio =>
    refine @Processes.audio _ _ i ?_ ?_ ?_
    · rw [alike.isGraph, isG]
    · rw [alike.inletObjects]
      exact inInlets
    · rw [IsAudioInlet, alike.arguments]
      exact audio

theorem Alike.processes (alike : Alike Node.shape net y) (object : Ref) :
    y.Processes object ↔ net.Processes object :=
  ⟨fun runs => runs.alike alike.symm, fun runs => runs.alike alike⟩

end Net

end PatchCompiler
