import Mathlib.Algebra.BigOperators.Group.Multiset.Basic
import PatchCompiler.Net.Simplify
import PatchCompiler.Proofs.Creation
import PatchCompiler.Proofs.Hierarchy

/-!
# The wires of nested graphs

The wires of a graph and of all graphs in it are looked at together: every wire joins two objects of
one graph and is noted at both its ends. A wire from an object back to it is different, it is noted
twice at the inlet and not at all at the outlet.

New objects come into a graph, wires are replaced and objects go, and the wires are still noted like
this.
-/

namespace PatchCompiler

open List Multiset

/-- The signal that a wire brings, given the values at all outlets. -/
def Wire.brings {R : Type} [AddCommMonoid R] (v : Ref → Int → R) (w : Wire) : R :=
  if w.isSignal = true then v w.source w.outlet else 0

namespace Net

def twice (loops : Multiset Wire) : Side → Multiset Wire
  | .inlet => loops + loops
  | .outlet => 0

/-- The wires in a net are the given ones between different objects and the given loops. An object
is in one graph at most, and once. -/
structure Nested (net : Net) (ws loops : Multiset Wire) : Prop where
  threaded : net.Threaded (List.range net.size) ws (twice loops)
  looped : ∀ w ∈ loops, w.source = w.target ∧ w.target < net.size ∧
    ∃ i < ((net.node w.target).lets .inlet).length, w.inlet = i
  level : ∀ w ∈ ws, ∃ graph, net.Contains graph w.source ∧ net.Contains graph w.target
  parents : ∀ graph o, net.Contains graph o → (net.node o).parent = some graph
  distinct : ∀ graph, (net.contents graph).Nodup
  entries : ∀ graph, ∀ entry ∈ (net.node graph).body.objects, entry.2 < net.size ∧
    ∀ identity, entry.1 = .own identity → identity < net.size

def signalsAt (ws : Multiset Wire) (o : Ref) (i : Nat) : Multiset Wire :=
  ws.filter fun w => w.isSignal = true ∧ w.At .inlet o i

def arrived {R : Type} [AddCommMonoid R] (v : Ref → Int → R) (ws : Multiset Wire)
    (o : Ref) (i : Nat) : R :=
  ((signalsAt ws o i).map fun w => v w.source w.outlet).sum

/-- The sum of the signals that arrive at an inlet, given the values at all outlets. -/
def intake {R : Type} [AddCommMonoid R] (net : Net) (v : Ref → Int → R) (o : Ref) (i : Nat) : R :=
  ((Build.signals (net.held .inlet o i)).map fun w =>
    v w.source w.outlet).sum

variable {net last : Net} {g o : Ref} {ws loops new : Multiset Wire} {w : Wire}

section SignalsAt

variable {i : Nat}

theorem signalsAt_add : signalsAt (ws + new) o i = signalsAt ws o i + signalsAt new o i :=
  filter_add _ _ _

theorem signalsAt_cons (sig : w.isSignal = true) (put : w.At .inlet o i) (ref : Ref) (slot : Nat) :
    signalsAt (w ::ₘ ws) ref slot =
      (if ref = o ∧ slot = i then {w} else 0) + signalsAt ws ref slot := by
  have iff : w.isSignal = true ∧ w.At .inlet ref slot ↔ ref = o ∧ slot = i := by
    refine ⟨fun both => put.unique both.2, ?_⟩
    rintro ⟨rfl, rfl⟩
    exact ⟨sig, put⟩
  simp only [signalsAt, Multiset.filter_cons, iff]

theorem signalsAt_eq_zero (away : ∀ w ∈ ws, w.isSignal = true → w.target ≠ o) :
    signalsAt ws o i = 0 :=
  filter_eq_nil.mpr fun w mem put => away w mem put.1 put.2.1

end SignalsAt

section Arrived

variable {R : Type} [AddCommMonoid R] {v : Ref → Int → R} {i : Nat}

theorem arrived_add : arrived v (ws + new) o i = arrived v ws o i + arrived v new o i := by
  rw [arrived, signalsAt_add, map_add, sum_add, arrived, arrived]

theorem arrived_cons (w : Wire) : arrived v (w ::ₘ ws) o i =
      (if w.At .inlet o i then w.brings v else 0) + arrived v ws o i := by
  unfold arrived Wire.brings signalsAt
  rw [Multiset.filter_cons, map_add, sum_add]
  by_cases sig : w.isSignal = true <;> by_cases put : w.At .inlet o i <;> simp [sig, put]

theorem arrived_eq_zero (away : ∀ w ∈ ws, w.target ≠ o) : arrived v ws o i = 0 := by
  rw [arrived, signalsAt_eq_zero fun w mem _ => away w mem]
  rfl

theorem arrived_congr {y : Ref → Int → R}
    (same : ∀ w ∈ ws, v w.source w.outlet = y w.source w.outlet) :
    arrived v ws o i = arrived y ws o i := by
  unfold arrived
  refine congrArg Multiset.sum (map_congr rfl ?_)
  exact fun w mem => same w (mem_of_mem_filter mem)

/-- Other wires bring the same if they end where the wires do and start at the same values. -/
theorem arrived_map {y : Ref → Int → R} {moved : Wire → Wire}
    (type : ∀ w ∈ ws, (moved w).type = w.type)
    (put : ∀ w ∈ ws, (moved w).At .inlet o i ↔ w.At .inlet o i) (same : ∀ w ∈ ws,
      y (moved w).source (moved w).outlet = v w.source w.outlet) :
    arrived y (ws.map moved) o i = arrived v ws o i := by
  have kept : signalsAt (ws.map moved) o i = (signalsAt ws o i).map moved := by
    rw [signalsAt, Multiset.filter_map, signalsAt]
    refine congrArg (Multiset.map moved) (filter_congr fun w mem => ?_)
    simp only [Function.comp_apply, Wire.isSignal, type w mem, put w mem]
  rw [arrived, kept, Multiset.map_map, arrived]
  refine congrArg Multiset.sum (map_congr rfl ?_)
  exact fun w mem => same w (mem_of_mem_filter mem)

theorem card_signalsAt : (signalsAt ws o i).card = arrived (fun _ _ => 1) ws o i := by
  rw [arrived, Multiset.map_const', Multiset.sum_replicate]
  exact (Nat.mul_one _).symm

end Arrived

/-- A new low-level object without wires is in a graph. -/
structure Born (net : Net) (graph : Ref) (type : String) (inlets outlets : Nat) (last : Net) :
    Prop where
  size : last.size = net.size + 1
  own : last.node net.size = (Node.plain type [] inlets outlets net.size).inGraph graph
  others : ∀ ref < net.size, ref ≠ graph → last.node ref = net.node ref
  graph : last.node graph = (net.node graph).enter net.size

theorem Alike.unwired_contains (alike : Alike Node.unwired net last) :
    last.Contains g o ↔ net.Contains g o := by
  rw [Contains, alike.unwired_contents, alike.look Node.isGraph rfl, Contains]

namespace Nested

section

variable (nested : net.Nested ws loops)
include nested

theorem near (s : Side) : ∀ w ∈ twice loops s, w.object s ∈ List.range net.size := by
  intro w inL
  cases s with
  | inlet =>
    rw [List.mem_range]
    rcases mem_add.mp inL with there | there
    · exact (nested.looped w there).2.1
    · exact (nested.looped w there).2.1
  | outlet => simp [twice] at inL

theorem lt_size (hm : o ∈ net.contents g) : o < net.size := by
  obtain ⟨e, mem, rfl⟩ := mem_map.mp hm
  exact (nested.entries g e mem).1

theorem end_lt_size (hm : w ∈ ws) (s : Side) : w.object s < net.size :=
  List.mem_range.mp ((nested.threaded.fits w hm).mem s)

theorem signalsAt_of_size_le (out : net.size ≤ o) (i : Nat) : signalsAt ws o i = 0 := by
  refine signalsAt_eq_zero fun w mem _ same => ?_
  exact out.not_gt (same ▸ nested.end_lt_size mem .inlet)

theorem source_inside (mem : w ∈ ws) (tgt : net.Contains g w.target) : net.Contains g w.source := by
  obtain ⟨own, src, inHolder⟩ := nested.level w mem
  exact Parented.unique nested.parents inHolder tgt ▸ src

theorem target_inside (mem : w ∈ ws) (src : net.Contains g w.source) : net.Contains g w.target := by
  obtain ⟨own, inHolder, tgt⟩ := nested.level w mem
  exact Parented.unique nested.parents inHolder src ▸ tgt

end

theorem of_lets {ws : List Wire} (fits : ∀ w ∈ ws, w.source ≠ w.target ∧ ∀ s ∈ Side.both,
      w.object s ∈ List.range net.size ∧
        ∃ i < ((net.node (w.object s)).lets s).length, w.index s = i)
    (agree : ∀ s ∈ Side.both, ∀ o ∈ List.range net.size, ∀ i < ((net.node o).lets s).length,
        (net.held s o i).Perm (ws.filter (Wire.At s o i)))
    (level : ∀ w ∈ ws, ∃ g < net.size, (net.node g).isGraph = true ∧
      w.source ∈ net.contents g ∧ w.target ∈ net.contents g)
    (graphs : ∀ g < net.size, (net.contents g).Nodup ∧
      ∀ e ∈ (net.node g).body.objects, (net.node e.2).parent = some g ∧
        e.2 < net.size ∧ e.1 = .given (Build.keyName e.1)) : net.Nested ws 0 := by
  have none : ∀ g, ¬ g < net.size → (net.node g).body.objects = [] :=
    fun g out => by rw [node_of_size_le (not_lt.mp out)]; rfl
  refine ⟨?_, nofun, ?_, ?_, ?_, ?_⟩
  · have threaded := Threaded.of_lets (fun o => List.mem_range.mp) fits agree
    have same : (fun _ => 0 : Side → Multiset Wire) = twice 0 := by
      funext s
      cases s <;> rfl
    exact same ▸ threaded
  · intro w hin
    obtain ⟨g, -, isGraph, src, tgt⟩ := level w (mem_coe.mp hin)
    exact ⟨g, ⟨isGraph, src⟩, isGraph, tgt⟩
  · rintro g o ⟨isGraph, hin⟩
    obtain ⟨e, mem, rfl⟩ := mem_map.mp hin
    exact ((graphs g (lt_size_of_isGraph isGraph)).2 e mem).1
  · intro g
    by_cases hm : g < net.size
    · exact (graphs g hm).1
    · rw [Net.contents, none g hm]
      exact nodup_nil
  · intro g e mem
    by_cases hm : g < net.size
    · obtain ⟨-, lt, arg⟩ := (graphs g hm).2 e mem
      refine ⟨lt, fun ident own => ?_⟩
      rw [own] at arg
      cases arg
    · rw [none g hm] at mem
      cases mem

theorem mem_of_leaving (nested : net.Nested ws loops) {ref : Ref} {j : Nat}
    (mem : w ∈ net.held .outlet ref j) : w ∈ ws ∧ w.source = ref := by
  have hm := (lt_of_mem_held mem).1
  rw [← mem_coe, nested.threaded.holds .outlet ref (List.mem_range.mpr hm), twice, add_zero] at mem
  obtain ⟨inWs, put⟩ := mem_filter.mp mem
  exact ⟨inWs, put.1⟩

theorem coe_signals (nested : net.Nested ws loops)
    (silent : ∀ w ∈ loops, w.isSignal = false) (o : Ref) (i : Nat) :
    (Build.signals (net.held .inlet o i) : Multiset Wire) = signalsAt ws o i := by
  by_cases mem : o < net.size
  · have none : ((loops + loops).filter (Wire.At .inlet o i)).filter
        (fun w => w.isSignal = true) = 0 := by
      rw [filter_eq_nil]
      intro w hm sig
      have inL : w ∈ loops := by
        rcases mem_add.mp (mem_filter.mp hm).1 with one | other
        · exact one
        · exact other
      exact absurd sig (by simp [silent w inL])
    have holds := nested.threaded.holds .inlet o (List.mem_range.mpr mem) i
    have split : Build.signals (net.held .inlet o i) =
        (net.held .inlet o i).filter fun w => decide (w.isSignal = true) := by
      simp [Build.signals]
    rw [split, ← filter_coe, holds, filter_add, filter_add, twice,
      none, add_zero, Multiset.filter_filter, signalsAt]
  · rw [nested.signalsAt_of_size_le (not_lt.mp mem), held_of_size_le (not_lt.mp mem)]
    rfl

theorem intake_eq {R : Type} [AddCommMonoid R] (nested : net.Nested ws loops)
    (silent : ∀ w ∈ loops, w.isSignal = false) (v : Ref → Int → R) (o : Ref)
    (i : Nat) : net.intake v o i = arrived v ws o i := by
  rw [intake, arrived, ← nested.coe_signals silent, map_coe, sum_coe]

theorem rethreaded (nested : net.Nested ws loops) {hit : Wire → Prop}
    (done : Build.Rethreaded net (List.range net.size) new (twice loops) hit last)
    (level : ∀ w ∈ new, ∃ g, net.Contains g w.source ∧ net.Contains g w.target) :
    last.Nested new loops := by
  have alike := done.alike
  have body : ∀ ref, (last.node ref).body = (net.node ref).body := fun _ => alike.look Node.body rfl
  have contains : ∀ g o, last.Contains g o ↔ net.Contains g o := fun _ _ => alike.unwired_contains
  refine ⟨?_, ?_, ?_, ?_, ?_, ?_⟩
  · rw [alike.1]
    exact done.threaded
  · intro w inL
    rw [alike.1, alike.unwired_length]
    exact nested.looped w inL
  · simpa only [contains] using level
  · intro g o mem
    rw [alike.look Node.parent rfl]
    exact nested.parents g o ((contains g o).mp mem)
  · intro g
    rw [alike.unwired_contents]
    exact nested.distinct g
  · intro g
    rw [body, alike.1]
    exact nested.entries g

end Nested

namespace Born

variable {type : String} {inlets outlets : Nat} (born : Born net g type inlets outlets last)
include born

theorem contents_graph : last.contents g = net.contents g ++ [net.size] := by
  rw [Net.contents, born.graph, Net.contents, Node.enter, map_append]
  rfl

theorem look_old {α : Type} {ref : Ref} (look : Node → α)
    (enters : ∀ o n, look (Node.enter o n) = look n) (lt : ref < net.size) :
    look (last.node ref) = look (net.node ref) := by
  by_cases same : ref = g
  · rw [same, born.graph, enters]
  · rw [born.others ref lt same]

theorem look {α : Type} (look : Node → α) (enters : ∀ o n, look (Node.enter o n) = look n)
    (nu : look ((Node.plain type [] inlets outlets net.size).inGraph g) = look default)
    (ref : Ref) : look (last.node ref) = look (net.node ref) :=
  look_grown look born.size (born.look_old look enters) (born.own ▸ nu)

theorem isGraph (ref : Ref) : (last.node ref).isGraph = (net.node ref).isGraph :=
  born.look Node.isGraph (fun _ _ => rfl) rfl ref

theorem body_ne {ref : Ref} (ne : ref ≠ g) : (last.node ref).body = (net.node ref).body :=
  look_grown Node.body born.size (fun lt => by rw [born.others ref lt ne]) (by rw [born.own]; rfl)

theorem contents_ne {ref : Ref} (ne : ref ≠ g) : last.contents ref = net.contents ref := by
  rw [Net.contents, born.body_ne ne, Net.contents]

theorem lets {ref : Ref} (lt : ref < net.size) (side : Side) :
    (last.node ref).lets side = (net.node ref).lets side :=
  born.look_old (·.lets side) (fun _ _ => by cases side <;> rfl) lt

theorem held_eq (s : Side) (ref : Ref) (i : Nat) : last.held s ref i = net.held s ref i := by
  have none : ((Node.plain type [] inlets outlets net.size).lets s).getD i [] = [] :=
    Node.plain_silent s i
  refine born.look (fun n => (n.lets s).getD i []) ?_ ?_ ref
  · cases s <;> exact fun _ _ => rfl
  · cases s <;> exact none

theorem spares {hit : Wire → Prop} : Spares hit net last := by
  intro keep _ s ref j
  rw [born.held_eq]

theorem contains_iff (isGraph : (net.node g).isGraph = true) {ref inner : Ref} :
    last.Contains ref inner ↔ net.Contains ref inner ∨ ref = g ∧ inner = net.size := by
  unfold Contains
  rw [born.isGraph]
  by_cases same : ref = g
  · subst same
    simp [born.contents_graph, isGraph]
  · simp [born.contents_ne same, same]

theorem nested (nested : net.Nested ws loops) (isGraph : (net.node g).isGraph = true) :
    last.Nested ws loops := by
  have contains : ∀ ref inner, last.Contains ref inner ↔
      net.Contains ref inner ∨ ref = g ∧ inner = net.size :=
    fun _ _ => born.contains_iff isGraph
  have hin := lt_size_of_isGraph isGraph
  refine ⟨?_, ?_, ?_, ?_, ?_, ?_⟩
  · apply nested.threaded.regroup (by rw [born.size]; exact Nat.le_succ _)
    · exact fun ref hm s => born.lets (List.mem_range.mp hm) s
    · intro w inWs s
      have hm := (nested.threaded.fits w inWs).mem s
      rw [List.mem_range] at hm ⊢
      rw [born.size]
      exact Nat.lt_succ_of_lt hm
    · exact nested.near
    · intro ref hm notOld
      rw [List.mem_range] at hm notOld
      refine ⟨hm, fun s i => ?_⟩
      rw [born.held_eq, held_of_size_le (not_lt.mp notOld)]
  · intro w inL
    obtain ⟨same, lt, bd⟩ := nested.looped w inL
    rw [born.size, born.lets lt]
    exact ⟨same, Nat.lt_succ_of_lt lt, bd⟩
  · intro w inWs
    obtain ⟨holder, src, tgt⟩ := nested.level w inWs
    exact ⟨holder, (contains _ _).mpr (.inl src), (contains _ _).mpr (.inl tgt)⟩
  · intro ref inner holds
    rcases (contains ref inner).mp holds with old | ⟨rfl, rfl⟩
    · rw [born.look_old Node.parent (fun _ _ => rfl) (nested.lt_size old.2)]
      exact nested.parents ref inner old
    · rw [born.own]
      rfl
  · intro ref
    by_cases same : ref = g
    · rw [same, born.contents_graph, ← concat_eq_append, nodup_concat]
      exact ⟨fun hm => lt_irrefl _ (nested.lt_size hm), nested.distinct g⟩
    · rw [born.contents_ne same]
      exact nested.distinct ref
  · intro ref e hm
    rw [born.size]
    have old : e ∈ (net.node ref).body.objects ∨ e = (.own net.size, net.size) := by
      by_cases same : ref = g
      · rw [same, born.graph, Node.enter, mem_append, List.mem_singleton] at hm
        rw [same]
        exact hm
      · rw [born.body_ne same] at hm
        exact .inl hm
    rcases old with hm | rfl
    · obtain ⟨lt, keys⟩ := nested.entries ref e hm
      exact ⟨Nat.lt_succ_of_lt lt, fun ident key => Nat.lt_succ_of_lt (keys ident key)⟩
    · refine ⟨Nat.lt_succ_self _, ?_⟩
      rintro ident key
      cases key
      exact Nat.lt_succ_self _

end Born

theorem Nested.dropped (nested : net.Nested ws loops)
    (dropped : Build.Dropped net g o (List.range net.size) ws (twice loops) last) :
    last.Nested (ws.filter (Wire.Avoids o)) loops ∧ last.contents g = (net.contents g).erase o ∧
      ∀ ref ≠ g, last.contents ref = net.contents ref := by
  have alike := dropped.alike
  have contents : last.contents g = (net.contents g).erase o := by
    rw [Net.contents, dropped.body, Node.objects_dropEntry, Net.contents]
  have ys : ∀ ref ≠ g, last.contents ref = net.contents ref := by
    intro ref ne
    rw [Net.contents, dropped.bodies ref ne, Net.contents]
  have part : ∀ ref, (last.contents ref).Sublist (net.contents ref) := by
    intro ref
    by_cases same : ref = g
    · rw [same, contents]
      exact erase_sublist
    · rw [ys ref same]
  have graphs : ∀ ref, (last.node ref).isGraph = (net.node ref).isGraph :=
    fun _ => alike.look Node.isGraph rfl
  have still : ∀ ref inner, inner ≠ o → net.Contains ref inner → last.Contains ref inner := by
    intro ref inner ne holds
    refine ⟨(graphs ref).trans holds.1, ?_⟩
    by_cases same : ref = g
    · rw [same] at holds ⊢
      rw [contents]
      exact (List.mem_erase_of_ne ne).mpr holds.2
    · rw [ys ref same]
      exact holds.2
  refine ⟨⟨?_, ?_, ?_, ?_, ?_, ?_⟩, contents, ys⟩
  · rw [alike.1]
    exact dropped.threaded
  · intro w inL
    rw [alike.1, alike.look (fun n => (n.lets .inlet).length)
      (funext (Node.length_lets_unwired .inlet))]
    exact nested.looped w inL
  · intro w inWs
    obtain ⟨old, avoids⟩ := mem_filter.mp inWs
    obtain ⟨own, src, tgt⟩ := nested.level w old
    exact ⟨own, still _ _ avoids.1 src, still _ _ avoids.2 tgt⟩
  · intro ref inner holds
    rw [alike.look Node.parent rfl]
    exact nested.parents ref inner ⟨(graphs ref).symm.trans holds.1, (part ref).subset holds.2⟩
  · exact fun ref => (nested.distinct ref).sublist (part ref)
  · intro ref e mem
    rw [alike.1]
    apply nested.entries ref e
    by_cases same : ref = g
    · rw [same, dropped.body] at mem
      rw [same]
      exact mem_of_mem_eraseP mem
    · rw [dropped.bodies ref same] at mem
      exact mem

end Net

namespace Build

open Net

variable {net : Net} {g : Ref} {ws loops : Multiset Wire} {type : String}
  {inlets outlets : Nat}

theorem ends_lead {w : Wire} {target : Ref} (j : Nat)
    (nested : net.Nested (w ::ₘ ws) loops) (apart : w.source ≠ target)
    (src : net.Contains g w.source) (hm : net.Contains g target)
    (lt : j < ((net.node target).lets .inlet).length) :
    Ends (rewire (some w) [{ w with target := target, inlet := j }]) net fun _ last =>
      Rethreaded net (List.range net.size)
        ({ w with target := target, inlet := j } ::ₘ ws) (twice loops)
        (· ∈ [w, { w with target := target, inlet := j }]) last ∧
      last.Nested ({ w with target := target, inlet := j } ::ₘ ws) loops := by
  have old := nested.threaded.fits w (mem_cons_self _ _)
  have fits : net.Suits (List.range net.size) { w with target := target, inlet := j } := by
    refine ⟨apart, ?_, ?_⟩
    · intro s
      cases s with
      | inlet => exact List.mem_range.mpr (nested.lt_size hm.2)
      | outlet => exact old.mem .outlet
    · intro s
      cases s with
      | inlet => exact ⟨j, lt, rfl⟩
      | outlet => exact old.bound .outlet
  have shared : ∀ y ∈ [({ w with target := target, inlet := j } : Wire)],
      y.object .outlet = w.object .outlet ∧ y.index .outlet = w.index .outlet := by
    intro y same
    rw [List.mem_singleton.mp same]
    exact ⟨rfl, rfl⟩
  apply Ends.mono (nested.threaded.ends_rewire (cons_ne_nil _ _) shared
    (fun y same => List.mem_singleton.mp same ▸ fits) nofun)
  intro _ last done
  rw [coe_singleton, singleton_add] at done
  refine ⟨done, nested.rethreaded done ?_⟩
  intro y inN
  rcases mem_cons.mp inN with rfl | kept
  · exact ⟨g, src, hm⟩
  · exact nested.level y (mem_cons_of_mem kept)

theorem ends_join {w : Wire} (nested : net.Nested ws loops)
    (apart : w.source ≠ w.target) (src : net.Contains g w.source)
    (tgt : net.Contains g w.target)
    (leaves : ∃ i < ((net.node w.source).lets .outlet).length, w.outlet = i)
    (enters : ∃ i < ((net.node w.target).lets .inlet).length, w.inlet = i) :
    Ends (connect w) net fun _ last =>
      Rethreaded net (List.range net.size) (w ::ₘ ws) (twice loops) (· = w) last ∧
      last.Nested (w ::ₘ ws) loops := by
  have fits : net.Suits (List.range net.size) w := by
    refine ⟨apart, fun s => ?_, fun s => ?_⟩
    · cases s with
      | inlet => exact List.mem_range.mpr (nested.lt_size tgt.2)
      | outlet => exact List.mem_range.mpr (nested.lt_size src.2)
    · cases s with
      | inlet => exact enters
      | outlet => exact leaves
  have together : (net.node w.source).parent = (net.node w.target).parent :=
    (nested.parents g _ src).trans (nested.parents g _ tgt).symm
  apply Ends.mono (nested.threaded.ends_connect fits together)
  intro _ last done
  refine ⟨done, nested.rethreaded done ?_⟩
  intro y inN
  rcases mem_cons.mp inN with rfl | kept
  · exact ⟨g, src, tgt⟩
  · exact nested.level y kept

/-- An object of a type that a graph takes no note of is made and added to it. -/
theorem ends_birth {α : Type} {next : Ref → Build α} {post : α → Net → Prop}
    (nested : net.Nested ws loops) (isGraph : (net.node g).isGraph = true)
    (made : (makePlain type []).run net =
      .ok net.size (net.push (.plain type [] inlets outlets net.size))) (quiet : type ∈ quietTypes)
    (rest : ∀ last, Born net g type inlets outlets last → last.Nested ws loops →
      Ends (next net.size) last post) :
    Ends (do
      let o ← makePlain type []
      add g o
      next o) net post := by
  have hm := lt_size_of_isGraph isGraph
  have graphNode : ∀ n, (net.push n).node g = net.node g := fun n => node_push_of_lt hm
  apply Ends.bind_run made
  generalize eq : net.push (.plain type [] inlets outlets net.size) = current
  have own : current.node net.size = .plain type [] inlets outlets net.size := by
    rw [← eq, node_push_self]
  have size : current.size = net.size + 1 := by rw [← eq, size_push]
  have graphSame : current.node g = net.node g := by rw [← eq, graphNode]
  have ne : net.size ≠ g := hm.ne'
  have loose : current.Loose g net.size := by
    refine ⟨?_, ne, ?_, ?_, ?_, ?_⟩
    · rw [size]
      exact Nat.lt_succ_self _
    · rw [Net.contents, graphSame]
      exact fun mem => Nat.lt_irrefl _ (nested.lt_size mem)
    · rw [graphSame]
      exact fun e mem key =>
        lt_irrefl _ ((nested.entries g e mem).2 net.size key)
    · rw [own]
      rfl
    · intro s i
      rw [held, own]
      exact Node.plain_silent s i
  have insideCurrent : g < current.size := by
    rw [size]
    exact Nat.lt_succ_of_lt hm
  have born : Born net g type inlets outlets (current.entered g net.size) := by
    refine ⟨?_, ?_, ?_, ?_⟩
    · rw [entered, size_change, size_change, size]
    · rw [entered, node_change_ne ne, node_change_self loose.inside, own]
    · intro ref lt notG
      rw [entered, node_change_ne notG, node_change_ne lt.ne, ← eq, node_push_of_lt lt]
    · rw [entered, node_change_self (by rw [size_change]; exact insideCurrent),
        node_change_ne ne.symm, graphSame]
  have noted : Ends (add g net.size) current fun _ last => last = current.entered g net.size := by
    apply ends_add loose
    refine .of_run (run_noteObject_quiet ?_) rfl
    rw [born.own]
    exact quiet
  apply Ends.bind noted
  rintro _ _ rfl
  exact rest _ born (born.nested nested isGraph)

end Build

end PatchCompiler
