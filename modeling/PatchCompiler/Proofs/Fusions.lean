import PatchCompiler.Proofs.Fusion

/-!
# Products fused one after the other

A graph and the graphs in it are gone through, and every product that can be fused is. What one
fusing does is said once, and the whole run is a list of fusings.
-/

namespace PatchCompiler

open List Relation

variable {type : String} {link : Wire}

/-- A product and a sum of a graph and the object that has taken their place. -/
structure Fusion where
  graph : Ref
  product : Ref
  sum : Ref
  result : Ref

namespace Net

variable {net middle last : Net} {ws loops between new : Multiset Wire} {f : Fusion}
  {fusions more : List Fusion}

/-- What fusing one product with a sum does. -/
inductive Fuses (loops : Multiset Wire) (net : Net) (ws : Multiset Wire) :
    Fusion → Net → Multiset Wire → Prop
  | intro {graph product : Ref} {link first second addend : Wire} {type : String}
      {outs : List Wire} {base : Multiset Wire} {last : Net}
      (fusible : Fusible net product link type) (inside : net.Contains graph product)
      (pairing : Pairing product link.target ws first second link addend outs base)
      (melded : Melded net graph product link.target type loops last
        (fusedWires net.size first second addend outs base)) :
      Fuses loops net ws ⟨graph, product, link.target, net.size⟩ last
        (fusedWires net.size first second addend outs base)

/-- Fusings one after the other. -/
inductive Fusions (loops : Multiset Wire) :
    Net → Multiset Wire → List Fusion → Net → Multiset Wire → Prop
  | nil {net : Net} {ws : Multiset Wire} : Fusions loops net ws [] net ws
  | cons {net middle last : Net} {ws between new : Multiset Wire} {fusion : Fusion}
      {more : List Fusion} (first : Fuses loops net ws fusion middle between)
      (rest : Fusions loops middle between more last new) :
      Fusions loops net ws (fusion :: more) last new

def Spent (net : Net) (o : Ref) : Prop :=
  ∀ link type, ¬ Fusible net o link type

theorem mem_arithmeticTypes (isSum : type ∈ ["__add~f", "__sub~f"]) : type ∈ arithmeticTypes :=
  mem_cons_of_mem _ isSum

structure Primed (net : Net) (ws loops : Multiset Wire) : Prop where
  nested : net.Nested ws loops
  shaped : net.Shaped
  unpaired : net.Unpaired ws

theorem Fusions.append (first : Fusions loops net ws fusions middle between)
    (snd : Fusions loops middle between more last new) :
    Fusions loops net ws (fusions ++ more) last new := by
  induction first with
  | nil => exact snd
  | cons step _ ih => exact .cons step (ih snd)

theorem kind_ne_plain {ref : Ref} (isGraph : (net.node ref).isGraph = true) :
    (net.node ref).kind ≠ .plain := by
  intro kind
  simp [Node.isGraph, kind] at isGraph

namespace Fuses

variable (fuses : Fuses loops net ws f last new)
include fuses

theorem size : last.size = net.size + 1 := by
  obtain ⟨-, -, -, melded⟩ := fuses
  exact melded.size

theorem result : f.result = net.size := by
  cases fuses
  rfl

theorem nested : last.Nested new loops := by
  obtain ⟨-, -, -, melded⟩ := fuses
  exact melded.nested

theorem bare_old {ref : Ref} (lt : ref < net.size) :
    (last.node ref).bare = (net.node ref).bare := by
  obtain ⟨-, -, -, melded⟩ := fuses
  exact melded.old ref lt

theorem look {α : Type} {ref : Ref} (lt : ref < net.size) (look : Node → α)
    (blind : look ∘ Node.bare = look) : look (last.node ref) = look (net.node ref) :=
  Node.look_of_bare (fuses.bare_old lt) look blind

theorem look_new : ∃ type ∈ ["__fma~f", "__fms~f"], ∀ {α : Type} (look : Node → α),
    look ∘ Node.bare = look → look (last.node net.size) =
        look ((Node.plain type [] 3 1 net.size).inGraph f.graph) := by
  obtain ⟨fuse, -, -, melded⟩ := fuses
  refine ⟨_, ?_, fun look blind => Node.look_of_bare melded.own look blind⟩
  rcases fuse.isSum with ⟨-, rfl⟩ | ⟨-, -, rfl⟩
  · simp
  · simp

theorem look_all {α : Type} (look : Node → α) (blind : look ∘ Node.bare = look)
    (new : ∀ type, look ((Node.plain type [] 3 1 net.size).inGraph f.graph) = look default)
    (ref : Ref) : look (last.node ref) = look (net.node ref) := by
  obtain ⟨type, -, looks⟩ := fuses.look_new
  exact look_grown look fuses.size (fuses.look · look blind) ((looks look blind).trans (new type))

theorem isGraph (ref : Ref) : (last.node ref).isGraph = (net.node ref).isGraph :=
  fuses.look_all Node.isGraph rfl (fun _ => rfl) ref

theorem lt_size_of_arithmetic {ref : Ref} (arith : (last.node ref).type ∈ arithmeticTypes) :
    ref < net.size := by
  have lt := lt_size_of_type arith
  rw [fuses.size] at lt
  rcases Nat.lt_or_eq_of_le (Nat.le_of_lt_succ lt) with less | rfl
  · exact less
  · obtain ⟨type, isFused, looks⟩ := fuses.look_new
    have same : (last.node net.size).type = type := looks Node.type rfl
    rw [same] at arith
    have none : ∀ fused ∈ ["__fma~f", "__fms~f"], fused ∉ arithmeticTypes := by decide
    exact absurd arith (none type isFused)

theorem lt_size_of_types {product sum : Ref} (types : (last.node product).type = "__mul~f" ∧
    (last.node sum).type ∈ ["__add~f", "__sub~f"]) : product < net.size ∧ sum < net.size :=
  ⟨fuses.lt_size_of_arithmetic (by rw [types.1]; decide),
    fuses.lt_size_of_arithmetic (mem_arithmeticTypes types.2)⟩

theorem contains_iff (nested : net.Nested ws loops) {g o : Ref} : last.Contains g o ↔
      net.Contains g o ∧ o ≠ f.product ∧ o ≠ f.sum ∨ g = f.graph ∧ o = net.size := by
  have isGraph := fuses.isGraph g
  obtain ⟨fuse, inside, pair, melded⟩ := fuses
  rename_i holder p link first snd addend type outs base
  have sumInside := pair.sum_inside nested inside
  have unique : ∀ {y : Ref}, net.Contains holder o → net.Contains y o →
      y = holder := fun here mem => Parented.unique nested.parents mem here
  unfold Contains
  rw [isGraph]
  by_cases same : g = holder
  · subst same
    have fresh : net.size ∉ net.contents g := fun mem => lt_irrefl _ (nested.lt_size mem)
    have distinct : (net.contents g ++ [net.size]).Nodup := by
      rw [← concat_eq_append, nodup_concat]
      exact ⟨fresh, nested.distinct g⟩
    have notNew : ∀ {ref : Ref}, net.Contains g ref → net.size ≠ ref :=
      fun holds => (nested.lt_size holds.2).ne.symm
    rw [melded.contents, (distinct.erase _).mem_erase_iff, distinct.mem_erase_iff,
      mem_append, mem_singleton]
    constructor
    · rintro ⟨holds, notS, notP, old | new⟩
      · exact .inl ⟨⟨holds, old⟩, notP, notS⟩
      · exact .inr ⟨rfl, new⟩
    · rintro (⟨⟨holds, old⟩, notP, notS⟩ | ⟨-, rfl⟩)
      · exact ⟨holds, notS, notP, .inl old⟩
      · exact ⟨inside.1, notNew sumInside, notNew inside, .inr rfl⟩
  · rw [melded.others g same]
    constructor
    · intro holds
      refine .inl ⟨holds, ?_, ?_⟩
      · rintro rfl
        exact same (unique inside holds)
      · rintro rfl
        exact same (unique sumInside holds)
    · rintro (⟨holds, -⟩ | ⟨here, -⟩)
      · exact holds
      · exact absurd here same

theorem primed (primed : net.Primed ws loops) : last.Primed new loops := by
  refine ⟨fuses.nested, ?_, ?_⟩
  · intro o arith
    have lt := fuses.lt_size_of_arithmetic arith
    have lengths : ∀ s, ((last.node o).lets s).length = ((net.node o).lets s).length :=
      fun s => fuses.look lt (fun n => (n.lets s).length)
        (funext (Node.length_lets_unwired s))
    rw [fuses.look lt Node.type rfl] at arith
    obtain ⟨kind, inlets, outlets⟩ := primed.shaped o arith
    exact ⟨(fuses.look lt Node.kind rfl).trans kind, (lengths .inlet).trans inlets,
      (lengths .outlet).trans outlets⟩
  · -- the new object is neither a product nor a sum
    intro w inN back backNew isP isSum loop
    obtain ⟨sourceOld, targetOld⟩ := fuses.lt_size_of_types ⟨isP, isSum⟩
    rw [fuses.look sourceOld Node.type rfl] at isP
    rw [fuses.look targetOld Node.type rfl] at isSum
    obtain ⟨-, -, pair, -⟩ := fuses
    have inWs := pair.base_subset w (mem_base_of_mem_fusedWires inN ⟨sourceOld.ne, targetOld.ne⟩)
    have backInWires := pair.base_subset back (mem_base_of_mem_fusedWires backNew
      ⟨loop.1 ▸ targetOld.ne, loop.2 ▸ sourceOld.ne⟩)
    exact primed.unpaired w inWs back backInWires isP isSum loop

theorem inside : net.Contains f.graph f.product := by
  obtain ⟨-, inside, -, -⟩ := fuses
  exact inside

theorem sum_inside (nested : net.Nested ws loops) : net.Contains f.graph f.sum := by
  obtain ⟨-, inside, pair, -⟩ := fuses
  exact pair.sum_inside nested inside

theorem types : (net.node f.product).type = "__mul~f" ∧
    (net.node f.sum).type ∈ ["__add~f", "__sub~f"] := by
  obtain ⟨fuse, -, -, -⟩ := fuses
  refine ⟨fuse.isProduct, ?_⟩
  rcases fuse.isSum with ⟨type, -⟩ | ⟨type, -⟩
  · simp [type]
  · simp [type]

theorem result_type : (net.node f.sum).type = "__add~f" ∧
      (last.node f.result).type = "__fma~f" ∨
    (net.node f.sum).type = "__sub~f" ∧ (last.node f.result).type = "__fms~f" := by
  obtain ⟨fuse, -, -, melded⟩ := fuses
  have type := Node.look_of_bare melded.own Node.type rfl
  rcases fuse.isSum with ⟨isSum, rfl⟩ | ⟨isDifference, -, rfl⟩
  · exact .inl ⟨isSum, type⟩
  · exact .inr ⟨isDifference, type⟩

theorem apart : f.product ≠ f.sum := by
  obtain ⟨-, -, pair, -⟩ := fuses
  exact pair.apart

theorem spares : Spares (Wire.Meets f.product f.sum f.result) net last := by
  obtain ⟨-, -, -, melded⟩ := fuses
  exact melded.spares

theorem left_before {w : Wire} (inN : w ∈ new) (old : w.source ≠ net.size) :
    ∃ pre ∈ ws, pre.source = w.source ∧ pre.type = w.type := by
  obtain ⟨-, -, pair, -⟩ := fuses
  have mem := pair.mem_wires
  simp only [fusedWires, Multiset.mem_cons, Multiset.mem_add, Multiset.mem_coe, mem_map] at inN
  rcases inN with rfl | rfl | rfl | ⟨out, -, rfl⟩ | kept
  · exact ⟨_, mem _ mem_cons_self, rfl, rfl⟩
  · exact ⟨_, mem _ (.tail _ mem_cons_self), rfl, rfl⟩
  · exact ⟨_, mem _ (.tail _ (.tail _ (.tail _ mem_cons_self))), rfl, rfl⟩
  · exact absurd rfl old
  · exact ⟨w, pair.base_subset w kept, rfl, rfl⟩

theorem sum_used (nested : net.Nested ws loops) : ∃ w ∈ ws, w.source = f.sum := by
  obtain ⟨fuse, -, -, -⟩ := fuses
  obtain ⟨w, mem⟩ := exists_mem_of_ne_nil _ fuse.used
  exact ⟨w, nested.mem_of_leaving mem⟩

theorem few_new (nested : net.Nested ws loops) (slot : Nat) :
    (signalsAt new net.size slot).card ≤ 1 := by
  obtain ⟨-, -, pair, -⟩ := fuses
  have single : ∀ w : Wire, w.brings (fun _ _ => 1) ≤ 1 := by
    intro w
    unfold Wire.brings
    split
    · exact le_rfl
    · exact Nat.zero_le 1
  obtain ⟨first, snd, third, more⟩ := pair.arrived_fused (fun _ _ => 1)
    fun w mem => (nested.end_lt_size mem .inlet).ne
  rw [card_signalsAt]
  match slot with
  | 0 => exact first ▸ single _
  | 1 => exact snd ▸ single _
  | 2 => exact third ▸ single _
  | slot + 3 => rw [more (slot + 3) (by omega)]; exact Nat.zero_le 1

theorem few {ref : Ref} (nested : net.Nested ws loops) (old : ref < net.size) (j : Nat) :
    (signalsAt new ref j).card ≤ (signalsAt ws ref j).card := by
  obtain ⟨-, inside, pair, -⟩ := fuses
  rename_i p link _ _ _ _ _ _
  have away := And.intro (nested.lt_size inside.2).ne'
    (nested.lt_size (pair.sum_inside nested inside).2).ne'
  have avoids := pair.fusedWires_avoids away
  rw [card_signalsAt, card_signalsAt]
  by_cases isP : ref = p
  · rw [arrived_eq_zero fun w mem => isP ▸ (avoids w mem).1.2]
    exact Nat.zero_le _
  · by_cases isSum : ref = link.target
    · rw [arrived_eq_zero fun w mem => isSum ▸ (avoids w mem).2.2]
      exact Nat.zero_le _
    · exact (pair.arrived_old isP isSum old.ne (fun _ => rfl)
        fun _ _ _ => rfl).le

section Primed

variable {root o ref : Ref} (primed : net.Primed ws loops)
include primed

theorem not_fused_of_kind (kind : (net.node ref).kind ≠ .plain) :
    ref ≠ f.product ∧ ref ≠ f.sum := by
  obtain ⟨isP, isSum⟩ := fuses.types
  refine ⟨?_, ?_⟩
  · rintro rfl
    exact kind (primed.shaped f.product (by rw [isP]; decide)).1
  · rintro rfl
    exact kind (primed.shaped f.sum (mem_arithmeticTypes isSum)).1

theorem within_iff {g : Ref} (isGraph : (net.node g).isGraph = true) :
    last.Within root g ↔ net.Within root g := by
  have nested := primed.nested
  constructor
  · intro within
    induction within with
    | refl => exact .refl
    | @tail own g _ holds ih =>
      have isHolder : (net.node own).isGraph = true := (fuses.isGraph own).symm.trans holds.1
      rcases (fuses.contains_iff nested).mp holds with ⟨old, -⟩ | ⟨-, rfl⟩
      · exact (ih isHolder).tail old
      · exact absurd (lt_size_of_isGraph isGraph) (lt_irrefl _)
  · intro within
    induction within with
    | refl => exact .refl
    | @tail own g _ holds ih =>
      exact (ih holds.1).tail ((fuses.contains_iff nested).mpr (.inl ⟨holds,
          fuses.not_fused_of_kind primed (kind_ne_plain isGraph)⟩))

theorem inside_iff : last.Inside root o ↔ net.Inside root o ∧ o ≠ f.product ∧ o ≠ f.sum ∨
      net.Within root f.graph ∧ o = net.size := by
  have nested := primed.nested
  constructor
  · intro inside
    obtain ⟨own, within, holds⟩ := TransGen.tail'_iff.mp inside
    have isHolder : (net.node own).isGraph = true := (fuses.isGraph own).symm.trans holds.1
    have before := (fuses.within_iff primed isHolder).mp within
    rcases (fuses.contains_iff nested).mp holds with ⟨old, notFused⟩ | ⟨rfl, rfl⟩
    · exact .inl ⟨.tail' before old, notFused⟩
    · exact .inr ⟨before, rfl⟩
  · rintro (⟨inside, notFused⟩ | ⟨within, rfl⟩)
    · obtain ⟨own, within, holds⟩ := TransGen.tail'_iff.mp inside
      exact .tail' ((fuses.within_iff primed holds.1).mpr within)
        ((fuses.contains_iff nested).mpr (.inl ⟨holds, notFused⟩))
    · exact .tail' ((fuses.within_iff primed fuses.inside.1).mpr within)
        ((fuses.contains_iff nested).mpr (.inr ⟨rfl, rfl⟩))

theorem length_held (old : ref < net.size) (notP : ref ≠ f.product)
    (notS : ref ≠ f.sum) (s : Side) (i : Nat) :
    (last.held s ref i).length = (net.held s ref i).length := by
  have n : ∀ {net : Net} {ws : Multiset Wire}, net.Nested ws loops → ref < net.size →
      (net.held s ref i).length = (ws.filter (Wire.At s ref i)).card +
        ((twice loops s).filter (Wire.At s ref i)).card := by
    intro net ws nested inside
    rw [← Multiset.coe_card, nested.threaded.holds s ref (mem_range.mpr inside),
      Multiset.filter_add, Multiset.card_add]
  rw [n fuses.nested (fuses.size ▸ Nat.lt_succ_of_lt old), n primed.nested old]
  obtain ⟨-, -, pair, -⟩ := fuses
  rw [pair.card_at_old s notP notS old.ne]

theorem fusible_before (fuse : Fusible last o link type) : Fusible net o link type := by
  have later := fuses.primed primed
  obtain ⟨linkThere, linkAt⟩ := later.nested.of_held_single (lt_size_of_type fuse.product_mem)
    (fuse.free_product later.nested later.shaped) fuse.leaves
  obtain ⟨own, src, tgt⟩ := later.nested.level link linkThere
  rw [show link.source = o from linkAt.1] at src
  have objectOld := fuses.lt_size_of_arithmetic fuse.product_mem
  have sumOld := fuses.lt_size_of_arithmetic fuse.sum_mem
  have lengths : ∀ {ref}, last.Contains own ref → ref < net.size → ∀ s i,
      (net.held s ref i).length = (last.held s ref i).length := by
    intro ref holds lt s i
    rcases (fuses.contains_iff primed.nested).mp holds with ⟨-, notP, notS⟩ | ⟨-, rfl⟩
    · exact (fuses.length_held primed lt notP notS s i).symm
    · exact absurd lt (lt_irrefl _)
  have one : ∀ {ref s i w}, last.Contains own ref → ref < net.size → last.held s ref i = [w] →
      ∃ before, net.held s ref i = [before] :=
    fun holds lt held => length_eq_one_iff.mp ((lengths holds lt ..).trans (congrArg length held))
  have single : ∀ {ref : Ref}, last.Contains own ref → ref < net.size →
      (∃ first snd, last.held .inlet ref 0 = [first] ∧ last.held .inlet ref 1 = [snd]) →
      ∃ first snd, net.held .inlet ref 0 = [first] ∧ net.held .inlet ref 1 = [snd] := by
    rintro ref holds lt ⟨first, snd, left, right⟩
    obtain ⟨before, leftBefore⟩ := one holds lt left
    obtain ⟨after, rightBefore⟩ := one holds lt right
    exact ⟨before, after, leftBefore, rightBefore⟩
  have inWs : link ∈ ws := by
    obtain ⟨-, -, pair, -⟩ := fuses
    refine pair.base_subset link (mem_base_of_mem_fusedWires linkThere ⟨?_, ?_⟩)
    · rw [show link.source = o from linkAt.1]
      exact objectOld.ne
    · exact sumOld.ne
  refine ⟨?_, single src objectOld fuse.operands, ?_, ?_, single tgt sumOld fuse.terms, ?_⟩
  · rw [← fuses.look objectOld Node.type rfl]
    exact fuse.isProduct
  · obtain ⟨w, leaves⟩ := one src objectOld fuse.leaves
    have mem : link ∈ net.held .outlet o 0 := by
      rw [← Multiset.mem_coe, primed.nested.threaded.holds .outlet o (mem_range.mpr objectOld) 0]
      exact Multiset.mem_filter.mpr ⟨Multiset.mem_add.mpr (.inl inWs), linkAt⟩
    rw [leaves, mem_singleton] at mem
    rw [leaves, mem]
  · rw [← fuses.look sumOld Node.type rfl]
    exact fuse.isSum
  · intro none
    have same := lengths tgt sumOld .outlet 0
    rw [none] at same
    exact fuse.used (length_eq_zero_iff.mp same.symm)

end Primed

end Fuses

namespace Fusions

variable (run : Fusions loops net ws fusions last new)
include run

theorem primed (primed : net.Primed ws loops) : last.Primed new loops := by
  induction run with
  | nil => exact primed
  | cons first _ ih => exact ih (first.primed primed)

theorem size_le : net.size ≤ last.size := by
  induction run with
  | nil => exact le_rfl
  | cons first _ ih =>
    rw [first.size] at ih
    exact Nat.le_of_succ_le ih

theorem bare_old {ref : Ref} (lt : ref < net.size) :
    (last.node ref).bare = (net.node ref).bare := by
  induction run with
  | nil => rfl
  | cons first _ ih =>
    rw [ih (first.size ▸ Nat.lt_succ_of_lt lt), first.bare_old lt]

theorem look {α : Type} {ref : Ref} (lt : ref < net.size) (look : Node → α)
    (blind : look ∘ Node.bare = look) : look (last.node ref) = look (net.node ref) :=
  Node.look_of_bare (run.bare_old lt) look blind

theorem isGraph (ref : Ref) : (last.node ref).isGraph = (net.node ref).isGraph := by
  induction run with
  | nil => rfl
  | cons first _ ih => rw [ih, first.isGraph]

theorem contains_of_old (nested : net.Nested ws loops) {g o : Ref}
    (lt : o < net.size) (holds : last.Contains g o) : net.Contains g o := by
  induction run with
  | nil => exact holds
  | cons first _ ih =>
    have pre := ih first.nested (first.size ▸ Nat.lt_succ_of_lt lt) holds
    rcases (first.contains_iff nested).mp pre with ⟨old, -⟩ | ⟨-, rfl⟩
    · exact old
    · exact absurd lt (lt_irrefl _)

theorem fusible_before (primed : net.Primed ws loops) {o : Ref}
    (fuse : Fusible last o link type) : Fusible net o link type := by
  induction run with
  | nil => exact fuse
  | cons first _ ih =>
    exact first.fusible_before primed (ih (first.primed primed) fuse)

theorem spent (primed : net.Primed ws loops) {o : Ref} (spent : net.Spent o) : last.Spent o :=
  fun link type fuse => spent link type (run.fusible_before primed fuse)

theorem contains_graph (primed : net.Primed ws loops) {g o : Ref}
    (holds : net.Contains g o) (isGraph : (net.node o).isGraph = true) : last.Contains g o := by
  induction run with
  | nil => exact holds
  | cons first _ ih =>
    refine ih (first.primed primed) ?_ ((first.isGraph o).trans isGraph)
    exact (first.contains_iff primed.nested).mpr
      (.inl ⟨holds, first.not_fused_of_kind primed (kind_ne_plain isGraph)⟩)

theorem inside_before (primed : net.Primed ws loops) {root o : Ref}
    (lt : o < net.size) (inside : last.Inside root o) : net.Inside root o := by
  induction run with
  | nil => exact inside
  | cons first _ ih =>
    have between := ih (first.primed primed) (first.size ▸ Nat.lt_succ_of_lt lt) inside
    rcases (first.inside_iff primed).mp between with ⟨old, -⟩ | ⟨-, rfl⟩
    · exact old
    · exact absurd lt (lt_irrefl _)

theorem types : ∀ f ∈ fusions, (net.node f.product).type = "__mul~f" ∧
    (net.node f.sum).type ∈ ["__add~f", "__sub~f"] := by
  induction run with
  | nil => exact nofun
  | cons first _ ih =>
    refine forall_mem_cons.mpr ⟨first.types, fun f later => ?_⟩
    obtain ⟨p, sum⟩ := ih f later
    obtain ⟨productOld, sumOld⟩ := first.lt_size_of_types ⟨p, sum⟩
    rw [first.look productOld Node.type rfl] at p
    rw [first.look sumOld Node.type rfl] at sum
    exact ⟨p, sum⟩

theorem size : last.size = net.size + fusions.length := by
  induction run with
  | nil => rfl
  | cons first _ ih =>
    rw [ih, first.size, length_cons]
    omega

theorem inside (nested : net.Nested ws loops) : ∀ f ∈ fusions,
    net.Contains f.graph f.product ∧ net.Contains f.graph f.sum := by
  induction run with
  | nil => exact nofun
  | cons first rest ih =>
    refine forall_mem_cons.mpr ⟨⟨first.inside, first.sum_inside nested⟩, ?_⟩
    intro f later
    obtain ⟨p, sum⟩ := ih first.nested f later
    obtain ⟨productOld, sumOld⟩ := first.lt_size_of_types (rest.types f later)
    have single := Fusions.cons first .nil
    exact ⟨single.contains_of_old nested productOld p, single.contains_of_old nested sumOld sum⟩

theorem nodup (nested : net.Nested ws loops) :
    (fusions.flatMap fun f => [f.product, f.sum]).Nodup := by
  induction run with
  | nil => exact nodup_nil
  | @cons net middle last ws between new f more first rest ih =>
    have gone : ∀ o ∈ [f.product, f.sum], ∀ own, ¬ middle.Contains own o := by
      intro o mem own holds
      have old : o < net.size := by
        simp only [mem_cons, not_mem_nil, or_false] at mem
        rcases mem with rfl | rfl
        · exact nested.lt_size first.inside.2
        · exact nested.lt_size (first.sum_inside nested).2
      rcases (first.contains_iff nested).mp holds with ⟨-, notP, notS⟩ | ⟨-, rfl⟩
      · simp [notP, notS] at mem
      · exact lt_irrefl _ old
    rw [flatMap_cons, nodup_append]
    refine ⟨by simp [first.apart], ih first.nested, ?_⟩
    rintro o mem _ later rfl
    obtain ⟨part, inMore, isPart⟩ := mem_flatMap.mp later
    obtain ⟨p, sum⟩ := rest.inside first.nested part inMore
    simp only [mem_cons, not_mem_nil, or_false] at isPart
    rcases isPart with rfl | rfl
    · exact gone _ mem _ p
    · exact gone _ mem _ sum

theorem results : fusions.map Fusion.result = List.range' net.size fusions.length := by
  induction run with
  | nil => rfl
  | cons first _ ih =>
    rw [map_cons, first.result, ih, first.size, length_cons, List.range'_succ]

theorem result_types : ∀ f ∈ fusions,
    (net.node f.sum).type = "__add~f" ∧ (last.node f.result).type = "__fma~f" ∨
      (net.node f.sum).type = "__sub~f" ∧ (last.node f.result).type = "__fms~f" := by
  induction run with
  | nil => exact nofun
  | @cons net middle last _ _ _ f more first rest ih =>
    refine forall_mem_cons.mpr ⟨?_, fun later mem => ?_⟩
    · have here : f.result < middle.size := by
        rw [first.result, first.size]
        exact Nat.lt_succ_self _
      rw [rest.look here Node.type rfl]
      exact first.result_type
    · have old := (first.lt_size_of_types (rest.types later mem)).2
      rw [← first.look old Node.type rfl]
      exact ih later mem

theorem contains_iff (nested : net.Nested ws loops) {g o : Ref} : last.Contains g o ↔
      net.Contains g o ∧ (∀ f ∈ fusions, o ≠ f.product ∧ o ≠ f.sum) ∨
        ∃ f ∈ fusions, f.graph = g ∧ f.result = o := by
  induction run with
  | nil => simp
  | @cons net _ _ _ _ _ _ more first rest ih =>
    have fresh : ∀ f ∈ more, net.size ≠ f.product ∧ net.size ≠ f.sum := by
      intro f later
      obtain ⟨productOld, sumOld⟩ := first.lt_size_of_types (rest.types f later)
      exact ⟨productOld.ne', sumOld.ne'⟩
    rw [ih first.nested, first.contains_iff nested, forall_mem_cons,
      exists_mem_cons_iff, first.result]
    constructor
    · rintro (⟨⟨old, notFirst⟩ | ⟨rfl, rfl⟩, notLater⟩ | later)
      · exact .inl ⟨old, notFirst, notLater⟩
      · exact .inr (.inl ⟨rfl, rfl⟩)
      · exact .inr (.inr later)
    · rintro (⟨old, notFirst, notLater⟩ | ⟨rfl, rfl⟩ | later)
      · exact .inl ⟨.inl ⟨old, notFirst⟩, notLater⟩
      · exact .inl ⟨.inr ⟨rfl, rfl⟩, fresh⟩
      · exact .inr later

theorem spares : Spares (fun w => ∃ f ∈ fusions, w.Meets f.product f.sum f.result) net last := by
  induction run with
  | nil => exact .refl _ _
  | cons first _ ih =>
    refine (first.spares.mono fun w meets => ?_).trans (ih.mono ?_)
    · exact ⟨_, mem_cons_self, meets⟩
    · rintro w ⟨f, later, meets⟩
      exact ⟨f, mem_cons_of_mem _ later, meets⟩

theorem left_before {w : Wire} (inN : w ∈ new) (old : w.source < net.size) :
    ∃ pre ∈ ws, pre.source = w.source ∧ pre.type = w.type := by
  induction run generalizing w with
  | nil => exact ⟨w, inN, rfl, rfl⟩
  | cons first _ ih =>
    obtain ⟨between, inBetween, src, type⟩ :=
      ih inN (first.size ▸ Nat.lt_succ_of_lt old)
    obtain ⟨pre, inWs, sourceBefore, typeBefore⟩ :=
      first.left_before inBetween (src ▸ old.ne)
    exact ⟨pre, inWs, sourceBefore.trans src, typeBefore.trans type⟩

theorem sum_used (nested : net.Nested ws loops) : ∀ f ∈ fusions, ∃ w ∈ ws, w.source = f.sum := by
  induction run with
  | nil => exact nofun
  | cons first rest ih =>
    refine forall_mem_cons.mpr ⟨first.sum_used nested, fun f later => ?_⟩
    obtain ⟨w, inBetween, src⟩ := ih first.nested f later
    have old := (first.lt_size_of_types (rest.types f later)).2
    obtain ⟨pre, inWs, same, -⟩ := first.left_before inBetween (src ▸ old.ne)
    exact ⟨pre, inWs, same.trans src⟩

theorem few (nested : net.Nested ws loops) (ref : Ref) (j : Nat)
    (old : ref < net.size → (signalsAt ws ref j).card ≤ 1) : (signalsAt new ref j).card ≤ 1 := by
  induction run with
  | @nil net ws =>
    by_cases lt : ref < net.size
    · exact old lt
    · rw [nested.signalsAt_of_size_le (not_lt.mp lt)]
      exact Nat.zero_le 1
  | cons first rest ih =>
    refine ih first.nested fun lt => ?_
    rw [first.size] at lt
    rcases Nat.lt_or_eq_of_le (Nat.le_of_lt_succ lt) with less | rfl
    · exact (first.few nested less j).trans (old less)
    · exact first.few_new nested j

end Fusions

end Net

namespace Build

open Net

variable {net cur : Net} {root g o : Ref} {ws loops new : Multiset Wire}

theorem contains_of_fusible (primed : net.Primed ws loops)
    (fuse : Fusible net o link type) (up : (net.node o).parent = some g) : net.Contains g o := by
  obtain ⟨first, -, left, -⟩ := fuse.operands
  obtain ⟨mem, put⟩ := primed.nested.of_held_single (lt_size_of_type fuse.product_mem)
    (fuse.free_product primed.nested primed.shaped) left
  obtain ⟨own, -, inHolder⟩ := primed.nested.level first mem
  have tgt : first.target = o := put.1
  rw [tgt] at inHolder
  have same : some own = some g := (primed.nested.parents own o inHolder).symm.trans up
  exact Option.some.inj same ▸ inHolder

theorem not_fusible_of_fuses {last : Net} {f : Fusion}
    (primed : net.Primed ws loops) (fuses : Fuses loops net ws f last new) :
    ¬ Fusible last f.product link type := by
  intro fuse
  have old := primed.nested.lt_size fuses.inside.2
  have up : (last.node f.product).parent = some f.graph :=
    (fuses.look old Node.parent rfl).trans (primed.nested.parents _ _ fuses.inside)
  have holds := contains_of_fusible (fuses.primed primed) fuse up
  rcases (fuses.contains_iff primed.nested).mp holds with ⟨-, apart, -⟩ | ⟨-, nw⟩
  · exact apart rfl
  · exact old.ne nw

theorem ends_fuseWithin (lowered : net.Lowered root) (primed : net.Primed ws loops) (d : Nat) :
    ∀ {g : Ref} {cur : Net} {between : Multiset Wire} {fusions : List Fusion},
      net.Within root g → (net.node g).isGraph = true → net.depth g < d →
      Fusions loops net ws fusions cur between → Ends (fuseWithin d g) cur fun _ last => ∃ more new,
        Fusions loops cur between more last new ∧ ∀ o, net.Inside g o → last.Spent o := by
  induction d with
  | zero => exact fun _ _ none => absurd none (Nat.not_lt_zero _)
  | succ d ih =>
    intro g cur between fusions within isGraph shallow pre
    have primedCurrent := pre.primed primed
    unfold fuseWithin
    apply Ends.bind_run (EStateM.run_get _)
    apply Ends.bind (Ends.forIn (fun done _ last => ∃ more new,
      Fusions loops cur between more last new ∧
      ∀ o ∈ done, ∀ inner, net.Within o inner → last.Spent inner) ?_ ?_)
    · rintro _ last ⟨more, new, run, spent⟩
      refine .pure ⟨more, new, run, fun o inside => ?_⟩
      obtain ⟨first, holds, path⟩ := TransGen.head'_iff.mp inside
      by_cases mem : cur.Contains g first
      · exact spent first mem.2 o path
      · -- what has been fused before is not there any more
        rcases reflTransGen_iff_eq_or_transGen.mp path with rfl | deeper
        · intro link type fuse
          have old := primed.nested.lt_size holds.2
          have up : (last.node o).parent = some g :=
            ((pre.append run).look old Node.parent rfl).trans (primed.nested.parents g o holds)
          have still := contains_of_fusible (run.primed primedCurrent) fuse up
          exact mem (run.contains_of_old primedCurrent.nested (old.trans_le pre.size_le) still)
        · obtain ⟨_, inner, -⟩ := TransGen.head'_iff.mp deeper
          exact absurd (pre.contains_graph primed holds inner.1) mem
    · exact ⟨[], between, .nil, nofun⟩
    · rintro done o later _ middle split ⟨more, new, soFar, spent⟩
      have all := pre.append soFar
      have primedMiddle := all.primed primed
      have here : cur.Contains g o := ⟨(pre.isGraph g).trans isGraph, by simp [split]⟩
      have lt := primedCurrent.nested.lt_size here.2
      -- what was spent stays so while more products are fused
      have extend : ∀ {last : Net} {further : List Fusion} {final : Multiset Wire},
          Fusions loops middle new further last final →
          (∀ inner, net.Within o inner → last.Spent inner) →
          ∀ ref ∈ done ++ [o], ∀ inner, net.Within ref inner → last.Spent inner := by
        intro last further final rest own
        exact forall_mem_append.mpr ⟨fun ref mem inner path =>
          rest.spent primedMiddle (spent ref mem inner path), forall_mem_singleton.mpr own⟩
      have alone : ¬ (middle.node o).isGraph = true → ∀ inner, net.Within o inner → o = inner := by
        intro leaf inner path
        rcases path.cases_head with same | ⟨_, holds, -⟩
        · exact same
        · exact absurd ((all.isGraph o).trans holds.1) leaf
      apply Ends.bind_run (EStateM.run_get _)
      split
      next link type got =>
        have up : (middle.node o).parent = some g :=
          (soFar.look lt Node.parent rfl).trans (primedCurrent.nested.parents g o here)
        have fuse := fusible_of_fusedWith? got
        have inside := contains_of_fusible primedMiddle fuse up
        apply Ends.bind (ends_fuse primedMiddle.nested primedMiddle.shaped primedMiddle.unpaired
          fuse inside)
        rintro _ last ⟨first, snd, addend, outs, base, pair, melded⟩
        have fuses : Fuses loops middle new ⟨g, o, link.target, middle.size⟩ last
            (fusedWires middle.size first snd addend outs base) :=
          .intro fuse inside pair melded
        refine .pure ⟨PUnit.unit, rfl, _, _, soFar.append (.cons fuses .nil),
          extend (.cons fuses .nil) fun inner path => ?_⟩
        have plain := (primedMiddle.shaped o fuse.product_mem).1
        rw [← alone (fun isGraph => kind_ne_plain isGraph plain) inner path]
        exact fun _ _ => not_fusible_of_fuses primedMiddle fuses
      next none =>
        have own : middle.Spent o := by
          intro link type fuse
          have got := fuse.fusedWith? primedMiddle.shaped
          rw [none] at got
          cases got
        apply Ends.at_node
        by_cases inner : (middle.node o).isGraph = true
        · rw [if_pos inner]
          have innerBefore : (net.node o).isGraph = true := (all.isGraph o).symm.trans inner
          have holds := pre.contains_of_old primed.nested (lt_size_of_isGraph innerBefore) here
          have less := (lowered.within within).depth_lt holds
          apply Ends.bind (ih (within.tail holds) innerBefore (by omega) all)
          rintro _ last ⟨further, final, rest, deep⟩
          refine .pure ⟨PUnit.unit, rfl, _, final, soFar.append rest, extend rest ?_⟩
          intro inner path
          rcases reflTransGen_iff_eq_or_transGen.mp path with rfl | deeper
          · exact rest.spent primedMiddle own
          · exact deep inner deeper
        · rw [if_neg inner]
          exact .pure ⟨PUnit.unit, rfl, more, new, soFar,
            extend .nil fun ref path => alone inner ref path ▸ own⟩

theorem ends_fuseProducts (primed : net.Primed ws loops) (lowered : net.Lowered root)
    (isGraph : (net.node root).isGraph = true) :
    Ends (fuseProducts root) net fun _ last => ∃ fusions new,
      Fusions loops net ws fusions last new ∧ ∀ o, last.Inside root o → last.Spent o := by
  apply Ends.bind_run (EStateM.run_get _)
  apply Ends.mono (ends_fuseWithin lowered primed (net.size + 1) .refl isGraph
    (Nat.lt_succ_of_le (net.depth_le_size root)) .nil)
  rintro _ last ⟨fusions, new, run, spent⟩
  refine ⟨fusions, new, run, fun o inside link type fuse => ?_⟩
  have old := lt_size_of_type (run.fusible_before primed fuse).product_mem
  exact spent o (run.inside_before primed old inside) link type fuse

end Build

end PatchCompiler
