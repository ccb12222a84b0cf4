import PatchCompiler.Proofs.Allocation

/-!
# Graphs in graphs

A hierarchy is a graph with graphs in it, to any depth. Every level of it is a graph of low-level
objects and graphs whose wires are noted at both ends and make no cycle. The inlet and outlet objects
of a level are numbered from zero on, as the inlets and outlets of its graph are.
-/

namespace PatchCompiler.Net

open Relation

def Within (net : Net) (g o : Ref) : Prop :=
  ReflTransGen net.Contains g o

def Inside (net : Net) (g o : Ref) : Prop :=
  TransGen net.Contains g o

theorem Lowered.within {net : Net} {root o : Ref} (low : net.Lowered root)
    (sub : net.Within root o) : net.Lowered o := by
  induction sub with
  | refl => exact low
  | tail _ mem ih => exact ih.contents mem

def Parented (net : Net) : Prop :=
  ∀ g o, net.Contains g o → (net.node o).parent = some g

namespace Parented

variable {net : Net} {g other o inner : Ref}

theorem unique (known : net.Parented) (first : net.Contains g o) (snd : net.Contains other o) :
    g = other :=
  Option.some.inj ((known g o first).symm.trans (known other o snd))

theorem not_within_sibling (known : net.Parented) (low : net.Lowered g)
    (inObj : net.Contains g o) (inOther : net.Contains g other) (ne : other ≠ o) :
    ¬ net.Within o other := by
  intro path
  rcases path.cases_tail with eq | ⟨own, path, ok⟩
  · exact ne eq
  · have here := known.unique ok inOther
    subst here
    exact low.not_inside_itself (.head' inObj path)

theorem apart (known : net.Parented) (low : net.Lowered g) (inObj : net.Contains g o)
    (inOther : net.Contains g other) (ne : other ≠ o) (first : net.Within o inner) :
    ¬ net.Within other inner := by
  intro snd
  have unique : Relator.RightUnique (Function.swap net.Contains) :=
    fun _ _ _ ok holds' => known.unique ok holds'
  have upwards := ReflTransGen.total_of_right_unique unique
    (reflTransGen_swap.mpr first) (reflTransGen_swap.mpr snd)
  rcases upwards with path | path
  · exact known.not_within_sibling low inOther inObj ne.symm (reflTransGen_swap.mp path)
  · exact known.not_within_sibling low inObj inOther ne (reflTransGen_swap.mp path)

end Parented

def HasIndex (net : Net) (o : Ref) (place : Nat) : Prop :=
  (net.node o).arguments.get? "index" = some (.int place)

/-- An inlet object of a graph has nothing to do with signals itself. It is found under its index
among those of the graph. -/
structure InletObject (net : Net) (g inlet : Ref) : Prop where
  type : (net.node inlet).type = "__inlet"
  outlets : (net.node inlet).outlets.length = 1
  blank : ∀ place, net.outletBuffer inlet place = .zero
  listed : ∃ place, net.HasIndex inlet place ∧ (net.node g).body.inletObjects[place]? = some inlet

structure OutletObject (net : Net) (g outlet : Ref) (place : Nat) : Prop where
  inside : outlet ∈ net.contents g
  kind : (net.node outlet).kind = .outlet
  type : (net.node outlet).type = "__outlet"
  inlets : (net.node outlet).inlets.length = 1
  index : net.HasIndex outlet place

/-- One level of a hierarchy before buffering. -/
structure Stratum (net : Net) (g : Ref) : Prop where
  fits : net.Fits g
  blank : ∀ place, net.outletBuffer g place = .zero
  unordered : net.order g = []
  objects : ∀ o ∈ net.contents g, (net.node o).isGraph = false → ∃ spec, net.IrObject o spec
  preset : ∀ o ∈ net.contents g, (net.node o).isGraph = false → net.Preset o
  unplaced : ∀ o ∈ net.contents g, (net.node o).ordered = false
  wired : net.Wired g
  acyclic : net.Acyclic g
  single : ∀ o ∈ net.contents g, ∀ place,
    (Build.signals ((net.node o).inlets.getD place [])).length ≤ 1
  inletObjects : ∀ inlet ∈ net.contents g, (net.node inlet).kind = .inlet → net.InletObject g inlet
  arrivals : ∀ place, (net.node g).inlets.getD place [] ≠ [] →
    ∃ inlet ∈ net.contents g, (net.node inlet).kind = .inlet ∧ net.HasIndex inlet place
  inlets : (net.node g).inlets.length = (net.node g).body.inletObjects.length
  outletObjects : ∀ place outlet, (net.node g).body.outletObjects[place]? = some outlet →
    net.OutletObject g outlet place
  outletListed : ∀ outlet ∈ net.contents g, (net.node outlet).kind = .outlet →
    outlet ∈ (net.node g).body.outletObjects
  outlets : (net.node g).outlets.length = (net.node g).body.outletObjects.length

/-- A graph with all the graphs in it. An object is in one graph only, and no wire leads to the
outermost graph. -/
structure Hierarchy (net : Net) (root : Ref) : Prop where
  isGraph : (net.node root).isGraph = true
  lowered : net.Lowered root
  parents : ∀ g o, net.Contains g o → (net.node o).parent = some g
  strata : ∀ g, net.Within root g → (net.node g).isGraph = true → net.Stratum g
  outermost : ∀ wires ∈ (net.node root).inlets, wires = []

theorem HasIndex.unique {net : Net} {o : Ref} {i j : Nat}
    (k : net.HasIndex o i) (eq : net.HasIndex o j) : i = j := by
  have values : (i : Int) = j := by simpa using k.symm.trans eq
  omega

namespace Hierarchy

variable {net : Net} {root g other o inner : Ref}

section

variable (tree : net.Hierarchy root)
include tree

theorem lowered_within (sub : net.Within root o) : net.Lowered o :=
  tree.lowered.within sub

theorem contains_unique : net.Contains g o → net.Contains other o → g = other :=
  Parented.unique tree.parents

theorem not_within_sibling (sub : net.Within root g) :
    net.Contains g o → net.Contains g other → other ≠ o → ¬ net.Within o other :=
  Parented.not_within_sibling tree.parents (tree.lowered_within sub)

theorem apart (sub : net.Within root g) : net.Contains g o →
    net.Contains g other → other ≠ o → net.Within o inner → ¬ net.Within other inner :=
  Parented.apart tree.parents (tree.lowered_within sub)

theorem not_inside_itself (sub : net.Within root g) : ¬ net.Inside g g :=
  (tree.lowered_within sub).not_inside_itself

end

end Hierarchy

end PatchCompiler.Net
