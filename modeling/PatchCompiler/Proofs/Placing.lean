import PatchCompiler.Proofs.Shape
import PatchCompiler.Proofs.Walk

/-!
# The walk through a graph

Ordering the signals of a graph is a walk from its leaves against the wires. Objects that have their
places are passed over, and so a walk through one graph also ends where wires come in from others.
-/

namespace PatchCompiler

open List

variable {net y last : Net} {o g : Ref} {walk : Walk}

namespace Net

def sources (net : Net) (o : Ref) : List Ref :=
  (net.node o).incoming.map (·.source)

theorem lt_size_of_mem_sources {src : Ref} (mem : src ∈ net.sources o) : o < net.size :=
  lt_size_of_look (fun n => n.incoming.map (·.source)) (ne_nil_of_mem mem)

def leaves (net : Net) (g : Ref) : List Ref :=
  (net.contents g).filter fun o => (net.node o).isLeaf

/-- A walk in which the objects that have their places already are passed over. -/
def start (net : Net) : Walk :=
  ⟨(range net.size).filter fun o => (net.node o).ordered, []⟩

/-- An object of another graph that sends into a graph: nothing arrives at it, and it has nothing to
do with signals. Receivers of the outermost graph are such objects. -/
structure Bystander (net : Net) (o : Ref) : Prop where
  lowered : net.Lowered o
  root : (net.node o).isRoot = true
  silent : ¬ net.Processes o

structure Ground (net : Net) (g : Ref) : Prop where
  inside : g < net.size
  lowered : ∀ o ∈ net.contents g, net.Lowered o
  closed : ∀ o ∈ net.contents g, ∀ source ∈ net.sources o,
    source ∈ net.contents g ∨ net.Bystander source

/-- A graph of low-level objects that have no places yet. -/
structure Level (net : Net) (g : Ref) : Prop where
  inside : g < net.size
  lowered : ∀ o ∈ net.contents g, net.Lowered o
  unplaced : ∀ o ∈ net.contents g, (net.node o).ordered = false
  closed : ∀ o ∈ net.contents g, ∀ source ∈ net.sources o,
    source ∈ net.contents g ∨ net.Bystander source

def Near (net : Net) (g o : Ref) : Prop :=
  o ∈ net.contents g ∨ net.Bystander o

theorem Alike.sources (alike : Alike Node.shape net y) (ref : Ref) :
    y.sources ref = net.sources ref :=
  alike.look (fun n => n.incoming.map Wire.source) rfl

theorem sources_of_isRoot (root : (net.node o).isRoot = true) : net.sources o = [] := by
  have empty : ∀ ws ∈ (net.node o).inlets, ws = [] := by
    simpa [Node.isRoot] using root
  simp [Net.sources, Node.incoming, flatten_eq_nil_iff.mpr empty]

theorem Level.ground (lvl : net.Level g) : net.Ground g :=
  ⟨lvl.inside, lvl.lowered, lvl.closed⟩

namespace Ground

variable {net : Net} {g o : Ref}

theorem near_lowered (ground : net.Ground g) (near : net.Near g o) : net.Lowered o := by
  rcases near with mem | bystander
  · exact ground.lowered o mem
  · exact bystander.lowered

theorem near_sources (ground : net.Ground g) (near : net.Near g o) :
    ∀ source ∈ net.sources o, net.Near g source := by
  intro source inS
  rcases near with mem | bystander
  · exact ground.closed o mem source inS
  · rw [sources_of_isRoot bystander.root] at inS
    cases inS

theorem near_path (ground : net.Ground g) {first : Ref} (near : net.Near g first)
    (path : Relation.ReflTransGen (fun a b => b ∈ net.sources a) first o) : net.Near g o := by
  induction path with
  | refl => exact near
  | tail _ step ih => exact ground.near_sources ih _ step

theorem placed_near (ground : net.Ground g)
    (vis : Walk.Visits net.sources net.start (net.leaves g) walk)
    (put : o ∈ walk.placed) : net.Near g o := by
  have ent : o ∈ walk.entered ∧ o ∉ net.start.entered := by
    simpa [start] using (vis.mem_placed_iff o).mp put
  rcases (vis.entered_iff o).mp ent with ⟨first, inLeaves, _, path⟩
  exact ground.near_path (.inl (mem_of_mem_filter inLeaves))
    (Relation.ReflTransGen.mono (fun a b step => step.1) _ _ path)

end Ground

def remaining (size : Nat) (entered : List Ref) : Nat :=
  (Finset.range size \ entered.toFinset).card

theorem remaining_enter {size : Nat} {entered : List Ref} (lt : o < size)
    (new : o ∉ entered) : remaining size (entered ++ [o]) < remaining size entered := by
  apply Finset.card_lt_card
  rw [Finset.ssubset_iff_of_subset]
  · exact ⟨o, by simp [lt, new], by simp⟩
  · intro y
    simp only [Finset.mem_sdiff, mem_toFinset, mem_append, not_or]
    exact fun mem => ⟨mem.1, mem.2.1⟩

theorem remaining_mono {size : Nat} {entered more : List Ref} (extended : entered <+: more) :
    remaining size more ≤ remaining size entered := by
  apply Finset.card_le_card
  intro y
  simp only [Finset.mem_sdiff, mem_toFinset]
  exact fun mem => ⟨mem.1, fun seen => mem.2 (extended.subset seen)⟩

theorem remaining_le (size : Nat) (ent : List Ref) : remaining size ent ≤ size := by
  refine (Finset.card_le_card Finset.sdiff_subset).trans ?_
  simp

/-- A net that differs from another one only in its marks, which are those of a walk. -/
structure Marked (net : Net) (walk : Walk) (other : Net) : Prop where
  alike : Alike Node.unmarked net other
  pool : other.pool = net.pool
  marks : ∀ ref, (other.node ref).ordered = true ↔ ref ∈ walk.entered

theorem Marked.enter (lt : o < net.size) (marked : net.Marked walk y) : net.Marked (walk.enter o)
      (y.change o fun n => { n with ordered := true }) := by
  have mem : o < y.size := by rw [marked.alike.1]; exact lt
  refine ⟨marked.alike.trans (.change fun _ => rfl), marked.pool, fun ref => ?_⟩
  by_cases eq : ref = o
  · subst eq
    simp [node_change_self mem]
  · rw [node_change_ne eq, marked.marks]
    simp [eq]

theorem Marked.place (o : Ref) (marked : net.Marked walk y) : net.Marked (walk.place o) y :=
  ⟨marked.alike, marked.pool, marked.marks⟩

theorem start_marked (net : Net) : net.Marked net.start net := by
  refine ⟨.refl _ _, rfl, fun ref => ?_⟩
  simp only [start, mem_filter, mem_range]
  constructor
  · exact fun ord => ⟨lt_size_of_look Node.ordered (ord ▸ nofun), ord⟩
  · exact fun mem => mem.2

end Net

namespace Build

variable {net : Net} {g : Ref}

/-- What placing does from a state of the walk on: it goes on with the walk and gives the objects
that got their places on the way. -/
def Advances (net : Net) (walk : Walk) (objects : List Ref) (placed : List Ref) (last : Net) :
    Prop :=
  ∃ next, Walk.Visits net.sources walk objects next ∧ next.placed = walk.placed ++ placed ∧
    net.Marked next last

theorem ends_placeAll {i : Ref → Build (List Ref)} {budget : Nat}
    (each : ∀ o, net.Near g o → ∀ walk cur, net.Marked walk cur →
      Net.remaining net.size walk.entered ≤ budget → Ends (i o) cur (Advances net walk [o]))
    {os : List Ref} (near : ∀ o ∈ os, net.Near g o) {cur : Net} (marked : net.Marked walk cur)
    (enough : Net.remaining net.size walk.entered ≤ budget) :
    Ends (placeAll i os) cur (Advances net walk os) := by
  apply Ends.foldlM (fun done put last => Advances net walk done put last)
  · exact ⟨walk, .done walk, by simp, marked⟩
  · rintro done o rest put last rfl ⟨next, vis, grown, markedNext⟩
    have budgetLeft := (Net.remaining_mono vis.entered_prefix).trans enough
    apply Ends.bind (each o (near o (by simp)) next last markedNext budgetLeft)
    rintro more final ⟨further, visitsMore, grownMore, markedFurther⟩
    refine .pure ⟨further, vis.append visitsMore, ?_, markedFurther⟩
    rw [grownMore, grown, append_assoc]

/-- Placing an object goes on with the walk. Every level of the recursion enters an object, so there
is depth left as long as there are objects left. -/
theorem ends_placeWithin (ground : net.Ground g) (d : Nat) :
    ∀ o, net.Near g o → ∀ walk cur, net.Marked walk cur → Net.remaining net.size walk.entered ≤ d →
      Ends (placeWithin (d + 1) o) cur (Advances net walk [o]) := by
  induction d with
  | zero =>
    intro o near walk cur marked enough
    have low := ground.near_lowered near
    have alike := marked.alike.shape_of_unmarked
    have eq : o ∈ walk.entered := by
      by_contra new
      have := Net.remaining_enter low.lt_size new
      omega
    rw [placeWithin]
    refine .bind_run (run_node o cur) ?_
    rw [alike.kind, low.not_language, (marked.marks o).mpr eq]
    exact .pure ⟨walk, .known eq (.done walk), by simp, marked⟩
  | succ d ih =>
    intro o near walk cur marked enough
    have low := ground.near_lowered near
    have alike := marked.alike.shape_of_unmarked
    rw [placeWithin]
    refine .bind_run (run_node o cur) ?_
    rw [alike.kind, low.not_language]
    by_cases eq : o ∈ walk.entered
    · rw [(marked.marks o).mpr eq]
      exact .pure ⟨walk, .known eq (.done walk), by simp, marked⟩
    · have unmarked : (cur.node o).ordered = false := by
        rw [← Bool.not_eq_true, marked.marks]
        exact eq
      rw [unmarked]
      refine .bind_run (run_change ..) ?_
      have incoming : (cur.node o).incoming.map (·.source) = net.sources o := by
        rw [alike.incoming]
        rfl
      rw [incoming]
      have fewer := Net.remaining_enter low.lt_size eq
      apply Ends.bind (ends_placeAll ih (ground.near_sources near) (marked.enter low.lt_size) (by
          rw [Walk.entered_enter]
          omega))
      rintro put last ⟨sub, vis, grown, markedInner⟩
      refine .pure ⟨sub.place o, .enter eq vis (.done _), ?_, markedInner.place o⟩
      rw [Walk.placed_place, grown, Walk.placed_enter, append_assoc]

end Build

namespace Net

variable {net y : Net} {g : Ref}

theorem Bystander.alike (bystander : net.Bystander o)
    (alike : Alike Node.shape net y) : y.Bystander o where
  lowered := bystander.lowered.alike alike
  root := by rw [alike.isRoot]; exact bystander.root
  silent := fun runs => bystander.silent (runs.alike alike.symm)

theorem Ground.alike (ground : net.Ground g) (alike : Alike Node.shape net y) : y.Ground g where
  inside := by rw [alike.1]; exact ground.inside
  lowered := by
    rw [alike.contents]
    exact fun o inside => (ground.lowered o inside).alike alike
  closed := by
    rw [alike.contents]
    intro o inside src inS
    rw [alike.sources] at inS
    rcases ground.closed o inside src inS with near | bystander
    · exact .inl near
    · exact .inr (bystander.alike alike)

open Classical in
/-- A net in which the walk has marked what it entered and the graph has its order. -/
structure Ordered (net : Net) (g : Ref) (walk : Walk) (last : Net) : Prop where
  order : (last.node g).body.signalOrder = walk.placed.filter fun o => decide (net.Processes o)
  marks : ∀ ref, (last.node ref).ordered = true ↔ ref ∈ walk.entered
  unmarked : Alike Node.unmarked (net.change g (Node.withOrder (last.node g).body.signalOrder)) last
  pool : last.pool = net.pool

theorem Ordered.alike (ord : net.Ordered g walk last) : Alike Node.shape net last :=
  (Alike.change (Node.withOrder_shape _)).trans ord.unmarked.shape_of_unmarked

theorem Ordered.inletBuffers (ord : net.Ordered g walk last)
    (ref : Ref) : (last.node ref).inletBuffers = (net.node ref).inletBuffers :=
  (ord.unmarked.look Node.inletBuffers rfl).trans
    (node_change_keeps Node.inletBuffers (Node.withOrder_inletBuffers _) ref)

theorem Ordered.outletBuffers (ord : net.Ordered g walk last)
    (ref : Ref) : (last.node ref).outletBuffers = (net.node ref).outletBuffers :=
  (ord.unmarked.look Node.outletBuffers rfl).trans
    (node_change_keeps Node.outletBuffers (Node.withOrder_outletBuffers _) ref)

end Net

open Classical in
theorem Net.Ground.run_orderSignals (ground : net.Ground g) :
    ∃ last walk, (Build.orderSignals g).run net = .ok () last ∧
      Walk.Visits net.sources net.start (net.leaves g) walk ∧ net.Ordered g walk last := by
  let cleared := net.change g (Node.withOrder [])
  have alike : Net.Alike Node.shape net cleared := .change (Node.withOrder_shape _)
  have marks : ∀ ref, (cleared.node ref).ordered = (net.node ref).ordered :=
    Net.node_change_keeps Node.ordered (Node.withOrder_ordered _)
  have still := ground.alike alike
  have srcs : cleared.sources = net.sources := funext alike.sources
  have leaves : cleared.leaves g = net.leaves g := by
    simp only [Net.leaves, alike.contents, alike.isLeaf]
  have start : cleared.start = net.start := by
    simp only [Net.start, alike.1, marks]
  have near : ∀ o ∈ cleared.leaves g, cleared.Near g o := fun o inLeaves =>
    .inl (mem_of_mem_filter inLeaves)
  rcases Build.ends_placeAll (Build.ends_placeWithin still cleared.size) near cleared.start_marked
    (Net.remaining_le _ _) with ⟨order, marked, run, walk, visits, placed, isMarked⟩
  have sameOrder : order = walk.placed := by
    rw [placed]
    simp [Net.start]
  subst sameOrder
  have markedAlike := isMarked.alike.shape_of_unmarked
  have filtered : (walk.placed.filterM Build.processesSignal).run marked =
      .ok (walk.placed.filter fun o => decide (net.Processes o)) marked := by
    apply Build.run_filterM
    intro o inPlaced
    have low := (still.near_lowered (still.placed_near visits inPlaced)).alike markedAlike
    rw [Build.run_processesSignal low]
    simp only [markedAlike.processes, alike.processes]
  rw [srcs, start, leaves] at visits
  let final := marked.change g
    (Node.withOrder (walk.placed.filter fun o => decide (net.Processes o)))
  have mem : g < marked.size := by
    rw [isMarked.alike.1, alike.1]
    exact ground.inside
  have noted : (final.node g).body.signalOrder =
      walk.placed.filter fun o => decide (net.Processes o) := by
    rw [Net.node_change_self mem]
    rfl
  refine ⟨final, walk, ?_, visits, ?_⟩
  · rw [Build.orderSignals]
    exact (Build.run_bind_ok (Build.run_changeBody _ _ _)).trans <|
      (Build.run_bind_ok (EStateM.run_get cleared)).trans <|
      (Build.run_bind_ok run).trans (Build.run_bind_ok filtered)
  · refine ⟨noted, ?_, ?_, isMarked.pool⟩
    · intro ref
      rw [Net.node_change_keeps Node.ordered (Node.withOrder_ordered _)]
      exact isMarked.marks ref
    · rw [noted]
      refine ⟨?_, fun ref => ?_⟩
      · simp [final, isMarked.alike.1, cleared]
      · by_cases eq : ref = g
        · subst eq
          rw [Net.node_change_self mem, Net.node_change_self ground.inside]
          have pre := isMarked.alike.2 ref
          rw [Net.node_change_self ground.inside] at pre
          exact congrArg (Node.withOrder _) pre
        · rw [Net.node_change_ne eq, Net.node_change_ne eq, isMarked.alike.2 ref,
            Net.node_change_ne eq]

theorem Build.run_orderSignals (lvl : net.Level g) :
    ∃ last walk, (orderSignals g).run net = .ok () last ∧
      Walk.Visits net.sources net.start (net.leaves g) walk ∧ net.Ordered g walk last :=
  lvl.ground.run_orderSignals

end PatchCompiler
