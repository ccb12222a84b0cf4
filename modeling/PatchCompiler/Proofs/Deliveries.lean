import PatchCompiler.Program
import PatchCompiler.Proofs.Hierarchy

/-!
# Where messages go

A message goes along the wires of an outlet one after the other. At an object it is delivered. At a
graph it goes on from the inlet object, and at an outlet object it goes on from the outlet of the
graph around it, in both cases along all wires there before the next wire has its turn.

A message that does not go round in circles passes every inlet at most once, and so it is delivered
before the bound on the depth is reached.
-/

namespace PatchCompiler

open List

def controls (ws : List Wire) : List Wire :=
  ws.filter (·.isControl)

theorem Build.run_parentOf {net : Net} {o g : Ref}
    (up : (net.node o).parent = some g) : (parentOf o).run net = .ok g net := by
  simp [parentOf, up]

namespace Net

/-- A wire leads into a graph, where a message goes on from the inlet object. -/
structure Entry (net : Net) (w : Wire) (inlet : Ref) : Prop where
  inside : net.Contains w.target inlet
  kind : (net.node inlet).kind = .inlet
  index : ∃ place, net.HasIndex inlet place ∧ net.ToInlet w place

/-- A wire leads to an outlet object, and a message goes on from that outlet of the graph. -/
structure Exit (net : Net) (w : Wire) (graph : Ref) (place : Nat) : Prop where
  inside : net.Contains graph w.target
  kind : (net.node w.target).kind = .outlet
  index : net.HasIndex w.target place

def Takes (net : Net) (object : Ref) : Prop :=
  (net.node object).kind ≠ .graph ∧ (net.node object).kind ≠ .outlet

/-- The deliveries of a message that is sent along wires, depth first and in the order of the wires.
Inside a graph only wires for messages are followed; `along` says which are behind its outlets. -/
inductive Spreads (net : Net) (along : Wire → Bool) : List Wire → List Program.Delivery → Prop where
  | done : Spreads net along [] []
  | object {w : Wire} {rest : List Wire} {more : List Program.Delivery} :
      net.Takes w.target → Spreads net along rest more →
      Spreads net along (w :: rest) (⟨(net.node w.target).identity, w.inlet⟩ :: more)
  | into {w : Wire} {inlet : Ref} {rest : List Wire} {inner more : List Program.Delivery} :
      net.Entry w inlet → Spreads net along (controls ((net.node inlet).outlets.getD 0 [])) inner →
      Spreads net along rest more → Spreads net along (w :: rest) (inner ++ more)
  | out {w : Wire} {graph : Ref} {place : Nat} {rest : List Wire}
      {outer more : List Program.Delivery} :
      net.Exit w graph place →
      Spreads net along (((net.node graph).outlets.getD place []).filter along) outer →
      Spreads net along rest more → Spreads net along (w :: rest) (outer ++ more)

/-- A message that arrives along a wire goes on along the next one. -/
inductive Leads (net : Net) (w next : Wire) : Prop where
  | into {inlet : Ref} : net.Entry w inlet →
      next ∈ controls ((net.node inlet).outlets.getD 0 []) → Leads net w next
  | out {graph : Ref} {place : Nat} : net.Exit w graph place →
      next ∈ (net.node graph).outlets.getD place [] → Leads net w next

/-- A hierarchy in which messages find their way. The inlets and outlets of a graph are numbered
from zero on, and a wire to a graph ends at one of its inlets. Wires may cross the borders of
graphs, as those of a receiver do that stands for several. -/
structure Addressed (net : Net) (root : Ref) : Prop where
  isGraph : (net.node root).isGraph = true
  lowered : net.Lowered root
  parents : ∀ graph object, net.Contains graph object → (net.node object).parent = some graph
  targets : ∀ object, net.Within root object → ∀ w ∈ (net.node object).outgoing,
    net.Inside root w.target ∧ ∃ place, net.ToInlet w place ∧
      ((net.node w.target).isGraph = true → ∃ inlet, net.Contains w.target inlet ∧
        (net.node inlet).kind = .inlet ∧ net.HasIndex inlet place)
  inlets : ∀ graph inlet, net.Within root graph → net.Contains graph inlet →
    (net.node inlet).kind = .inlet → (net.node inlet).outlets.length = 1 ∧
      ∃ place, net.HasIndex inlet place ∧ (net.node graph).body.inletObjects[place]? = some inlet
  counted : ∀ graph, net.Within root graph → (net.node graph).isGraph = true →
    (net.node graph).inlets.length = (net.node graph).body.inletObjects.length
  outlets : ∀ graph outlet, net.Within root graph → net.Contains graph outlet →
    (net.node outlet).kind = .outlet →
      ∃ place < (net.node graph).outlets.length, net.HasIndex outlet place

variable {net : Net} {along : Wire → Bool} {w other : Wire} {ws : List Wire}

theorem mem_controls : w ∈ controls ws ↔ w ∈ ws ∧ w.isControl = true :=
  mem_filter

@[simp]
theorem controls_controls : controls (controls ws) = controls ws := by
  simp [controls, filter_filter]

theorem Spreads.append {first snd : List Wire} {early late : List Program.Delivery}
    (spreads : Spreads net along first early) (next : Spreads net along snd late) :
    Spreads net along (first ++ snd) (early ++ late) := by
  induction spreads with
  | done => exact next
  | object takes _ ih => exact .object takes ih
  | into e sub _ _ ih =>
    rw [append_assoc]
    exact .into e sub ih
  | out leaves outer _ _ ih =>
    rw [append_assoc]
    exact .out leaves outer ih

def gates (net : Net) : List (Ref × Nat) :=
  (List.range net.size).flatMap fun object =>
    (List.range (net.node object).inlets.length).map (object, ·)

theorem ToInlet.mem_gates {i : Nat} (arr : net.ToInlet w i) : (w.target, i) ∈ net.gates := by
  have lt : i < (net.node w.target).inlets.length := place?_lt arr
  have mem : w.target < net.size :=
    lt_size_of_look (fun n => n.inlets.length) (Nat.zero_lt_of_lt lt).ne'
  exact mem_flatMap.mpr ⟨w.target, mem_range.mpr mem, mem_map_of_mem (mem_range.mpr lt)⟩

theorem length_gates_lt : net.gates.length < Build.deliveryDepth net := by
  have nodes : (List.range net.size).map net.node = net.nodes.toList := by
    apply ext_getElem
    · simp [size]
    · intro place _ lt
      have sub : place < net.nodes.size := by simpa using lt
      simp [node, sub]
  have total : net.gates.length = (net.nodes.toList.map fun node => node.inlets.length).sum := by
    rw [← nodes, gates, length_flatMap, map_map]
    simp [Function.comp_def]
  have cnt : ∀ (nodes : List Node) (start : Nat),
      start + (nodes.map fun node => node.inlets.length).sum ≤
        nodes.foldl (fun sum node => sum + 2 * node.inlets.length + 2) start := by
    intro nodes
    induction nodes with
    | nil => simp
    | cons node rest ih =>
      intro start
      have post := ih (start + 2 * node.inlets.length + 2)
      rw [map_cons, sum_cons, foldl_cons]
      omega
  have := cnt net.nodes.toList 1
  rw [Build.deliveryDepth, ← Array.foldl_toList, total]
  omega

/-- What happens to a message at the end of a wire depends on the inlet only. -/
theorem Leads.of_same_inlet {next : Wire} {i : Nat} (leads : net.Leads w next)
    (eq : other.target = w.target) (arr : net.ToInlet w i)
    (arrives' : net.ToInlet other i) : net.Leads other next := by
  cases leads with
  | into e inNext =>
    obtain ⟨j, k, toSlot⟩ := e.index
    cases Option.some.inj (arr.symm.trans toSlot)
    exact .into ⟨eq ▸ e.inside, e.kind, i, k, arrives'⟩ inNext
  | out leaves inNext =>
    exact .out ⟨eq ▸ leaves.inside, eq ▸ leaves.kind, eq ▸ leaves.index⟩ inNext

theorem inlet_fresh {visited : List (Ref × Nat)} {i : Nat}
    (acyc : ∀ w, ¬ Relation.TransGen net.Leads w w) (arr : net.ToInlet w i)
    (before : ∀ gate ∈ visited, ∃ pre : Wire, pre.target = gate.1 ∧
      net.ToInlet pre gate.2 ∧ Relation.TransGen net.Leads pre w) : (w.target, i) ∉ visited := by
  intro again
  obtain ⟨pre, tgt, arrives', path⟩ := before _ again
  obtain ⟨next, first, rest⟩ := Relation.TransGen.head'_iff.mp path
  have back := first.of_same_inlet tgt.symm arrives' arr
  exact acyc next (Relation.TransGen.tail' rest back)

end Net

namespace Build

open Net

variable {net : Net} {root o : Ref} {w : Wire}

theorem run_mapM {α β : Type} [Inhabited β] {step : α → Build β} {good : α → β → Prop} {xs : List α}
    (each : ∀ x ∈ xs, ∃ res, (step x).run net = .ok res net ∧ good x res) :
    ∃ results, (xs.mapM step).run net = .ok results net ∧ List.Forall₂ good xs results := by
  choose! f runs goods using each
  exact ⟨_, run_mapM_map runs, forall₂_map_right_iff.mpr (forall₂_same.mpr goods)⟩

theorem run_mapM_spreads {step : Wire → Build (List Program.Delivery)} {along : Wire → Bool}
    {ws : List Wire} (each : ∀ w ∈ ws, ∃ deliveries,
      (step w).run net = .ok deliveries net ∧ net.Spreads along [w] deliveries) :
    ∃ lists, (ws.mapM step).run net = .ok lists net ∧ net.Spreads along ws lists.flatten := by
  obtain ⟨lists, run, all⟩ := run_mapM each
  refine ⟨lists, run, ?_⟩
  clear run each
  induction all with
  | nil => exact .done
  | cons first _ ih => exact first.append ih

section Steps

variable {depth : Nat}

theorem run_deliveriesWithin_object {i : Int} (takes : net.Takes o)
    (low : (net.node o).kind.isLanguage = false) : (deliveriesWithin (depth + 1) o i).run net =
      .ok [⟨(net.node o).identity, i⟩] net := by
  obtain ⟨notG, notOutlet⟩ := takes
  rw [deliveriesWithin, EStateM.run_bind, run_node]
  dsimp only
  split
  next kind => exact absurd kind notG
  next kind => exact absurd kind notOutlet
  · rw [low]
    rfl

theorem run_deliveriesWithin_into {i : Ref} {lists : List (List Program.Delivery)}
    (isG : (net.node o).kind = .graph) {k : Int}
    (got : at? (net.node o).body.inletObjects k = some i) (outs : (net.node i).outlets.length = 1)
    (followed : ((controls ((net.node i).outlets.getD 0 [])).mapM fun w =>
      deliveriesWithin depth w.target w.inlet).run net = .ok lists net) :
    (deliveriesWithin (depth + 1) o k).run net = .ok lists.flatten net := by
  obtain ⟨ws, only⟩ := length_eq_one_iff.mp outs
  have start : at? (net.node i).outlets 0 = some ((net.node i).outlets.getD 0 []) := by
    rw [only]
    rfl
  rw [deliveriesWithin, EStateM.run_bind, run_node]
  dsimp only
  rw [isG]
  simp only [EStateM.run_bind, run_fetch got, run_node, run_fetch start]
  rw [controls] at followed
  simp only [followed]
  rfl

theorem run_deliveriesWithin_out {g : Ref} {i : Nat} {k : Int}
    {lists : List (List Program.Delivery)} (kind : (net.node o).kind = .outlet)
    (up : (net.node o).parent = some g) (numbered : net.HasIndex o i)
    (lt : i < (net.node g).outlets.length)
    (followed : (((net.node g).outlets.getD i []).mapM fun w =>
      deliveriesWithin depth w.target w.inlet).run net = .ok lists net) :
    (deliveriesWithin (depth + 1) o k).run net = .ok lists.flatten net := by
  have start : at? (net.node g).outlets (i : Int) = some ((net.node g).outlets.getD i []) := by
    rw [at?, place?_ofNat lt]
    simp [lt]
  rw [deliveriesWithin, EStateM.run_bind, run_node]
  dsimp only
  rw [kind]
  have q : (indexValue (.int i)).run net = .ok (i : Int) net := rfl
  simp only [EStateM.run_bind, run_parentOf up, run_node, run_argument numbered, q,
    run_fetch start, followed]
  rfl

end Steps

/-- A message that arrives along a wire is delivered. `visited` are the inlets it has passed before,
of which there cannot be more than there are inlets. -/
theorem run_deliveriesWithin (addr : net.Addressed root)
    (acyc : ∀ w, ¬ Relation.TransGen net.Leads w w) (depth : Nat) :
    ∀ (visited : List (Ref × Nat)) (o : Ref) (w : Wire), net.Within root o →
      w ∈ (net.node o).outgoing → visited.Nodup → visited ⊆ net.gates →
      (∀ gate ∈ visited, ∃ earlier : Wire, earlier.target = gate.1 ∧
        net.ToInlet earlier gate.2 ∧ Relation.TransGen net.Leads earlier w) →
      net.gates.length < depth + visited.length →
      ∃ deliveries, (deliveriesWithin depth w.target w.inlet).run net = .ok deliveries net ∧
        net.Spreads (fun _ => true) [w] deliveries := by
  induction depth with
  | zero =>
    intro visited _ _ _ _ nodup inGates _ few
    have := (nodup.subperm inGates).length_le
    omega
  | succ depth ih =>
    intro visited o w sub leaves nodup inGates pre few
    obtain ⟨mem, i, arr, entrance⟩ := addr.targets o sub w leaves
    have new := inlet_fresh acyc arr pre
    -- all wires that lead on are followed with this inlet among those passed
    have onward : ∀ own, net.Within root own → ∀ next ∈ (net.node own).outgoing,
        net.Leads w next → ∃ deliveries,
          (deliveriesWithin depth next.target next.inlet).run net = .ok deliveries net ∧
            net.Spreads (fun _ => true) [next] deliveries := by
      intro own near next goesOn leads
      apply ih ((w.target, i) :: visited) own next near goesOn
      · exact nodup_cons.mpr ⟨new, nodup⟩
      · exact cons_subset.mpr ⟨arr.mem_gates, inGates⟩
      · intro gate pass
        rcases mem_cons.mp pass with rfl | earlier
        · exact ⟨w, rfl, arr, .single leads⟩
        · obtain ⟨first, tgt, toGate, path⟩ := pre gate earlier
          exact ⟨first, tgt, toGate, path.tail leads⟩
      · rw [length_cons]
        omega
    have near : net.Within root w.target := mem.to_reflTransGen
    obtain ⟨own, path, holds⟩ := Relation.TransGen.tail'_iff.mp mem
    by_cases isG : (net.node w.target).isGraph = true
    · have kind : (net.node w.target).kind = .graph := by simpa [Node.isGraph] using isG
      obtain ⟨inlet, contained, isInlet, k⟩ := entrance isG
      have e : net.Entry w inlet := ⟨contained, isInlet, i, k, arr⟩
      obtain ⟨outs, slot, index', listed⟩ :=
        addr.inlets w.target inlet near contained isInlet
      cases k.unique index'
      have got : at? (net.node w.target).body.inletObjects w.inlet = some inlet := by
        rw [at?, ← addr.counted w.target near isG, arr]
        exact listed
      obtain ⟨lists, run, spreads⟩ := run_mapM_spreads fun next inNext =>
        onward inlet (near.tail contained) next
          (mem_flatten_iff.mpr ⟨0, (mem_controls.mp inNext).1⟩) (.into e inNext)
      refine ⟨lists.flatten, run_deliveriesWithin_into kind got outs run, ?_⟩
      rw [← append_nil lists.flatten]
      exact .into e spreads .done
    · by_cases kind : (net.node w.target).kind = .outlet
      · obtain ⟨slot, lt, k⟩ := addr.outlets own w.target path holds kind
        have leavesAt : net.Exit w own slot := ⟨holds, kind, k⟩
        obtain ⟨lists, run, spreads⟩ := run_mapM_spreads fun next inNext =>
          onward own path next (mem_flatten_iff.mpr ⟨slot, inNext⟩) (.out leavesAt inNext)
        refine ⟨lists.flatten, run_deliveriesWithin_out kind
          (addr.parents own w.target holds) k lt run, ?_⟩
        rw [← append_nil lists.flatten]
        refine .out leavesAt ?_ .done
        rwa [filter_true]
      · have takes : net.Takes w.target :=
          ⟨fun g => isG (by simp [Node.isGraph, g]), kind⟩
        have low := addr.lowered.within near
        exact ⟨_, run_deliveriesWithin_object takes low.not_language, .object takes .done⟩

end Build

end PatchCompiler
