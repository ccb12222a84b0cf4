import PatchCompiler.Proofs.Nesting
import PatchCompiler.Proofs.Sparing

/-!
# Adders for signals that meet

Signals that meet at an inlet are led through a chain of adders. The adders come into the graph of
the object, and every one of them has a signal at each of its inlets. Whatever values the outlets
have, as long as the new adders add up what arrives at them, every inlet that was there before gets
the same sum, and there always are such values of the adders.

A signal from an object back to it is noted at the inlet only, and cannot be led anywhere.
-/

namespace PatchCompiler

open List Multiset Relation

variable {ref a : Ref} {chain ws : Multiset Wire} {taken : List Wire} {place : Nat} {cur : Net}
  {loop : Wire} {blame : Fault → Prop}

namespace Net

variable {net middle last : Net} {root g o : Ref}
  {ws loops base new : Multiset Wire}

/-- Adders have come into a graph and the graphs in it, and all other objects have stayed. -/
structure Sprouts (net last : Net) : Prop where
  size : net.size ≤ last.size
  old : ∀ ref < net.size, (last.node ref).bare = (net.node ref).bare
  adders : ∀ ref, net.size ≤ ref → ref < last.size → ∃ g,
    (last.node ref).bare = ((Node.plain "__add~f" [] 2 1 ref).inGraph g).bare
  contents : ∀ g, ∃ more, last.contents g = net.contents g ++ more ∧
    ∀ ref ∈ more, net.size ≤ ref ∧ ref < last.size

namespace Sprouts

theorem refl (net : Net) : Sprouts net net where
  size := le_rfl
  old := fun _ _ => rfl
  adders := fun _ ge lt => absurd lt ge.not_gt
  contents := fun _ => ⟨[], (append_nil _).symm, nofun⟩

section

variable (sprouts : Sprouts net last)
include sprouts

theorem look {α : Type} (lt : ref < net.size)
    (look : Node → α) (blind : look ∘ Node.bare = look) :
    look (last.node ref) = look (net.node ref) :=
  Node.look_of_bare (sprouts.old ref lt) look blind

theorem length_lets (lt : ref < net.size)
    (s : Side) : ((last.node ref).lets s).length = ((net.node ref).lets s).length :=
  sprouts.look lt (fun n => (n.lets s).length) (funext (Node.length_lets_unwired s))

theorem outlets_new (ge : net.size ≤ ref)
    (lt : ref < last.size) : ((last.node ref).lets .outlet).length = 1 := by
  obtain ⟨_, same⟩ := sprouts.adders ref ge lt
  exact Node.look_of_bare same (fun n => (n.lets .outlet).length)
    (funext (Node.length_lets_unwired .outlet))

theorem not_isGraph_new (ge : net.size ≤ ref)
    (lt : ref < last.size) : (last.node ref).isGraph = false := by
  obtain ⟨_, same⟩ := sprouts.adders ref ge lt
  exact Node.look_of_bare same Node.isGraph rfl

theorem contains (inside : net.Contains g o) : last.Contains g o := by
  obtain ⟨more, split, -⟩ := sprouts.contents g
  refine ⟨?_, ?_⟩
  · rw [sprouts.look (lt_size_of_isGraph inside.1) Node.isGraph rfl]
    exact inside.1
  · rw [split]
    exact mem_append_left _ inside.2

theorem inside (inside : net.Inside g o) : last.Inside g o :=
  TransGen.mono (fun _ _ => sprouts.contains) _ _ inside

end

theorem trans (first : Sprouts net middle) (snd : Sprouts middle last) : Sprouts net last where
  size := first.size.trans snd.size
  old := fun ref lt =>
    (snd.old ref (lt.trans_le first.size)).trans (first.old ref lt)
  adders := by
    intro ref ge lt
    by_cases early : ref < middle.size
    · obtain ⟨g, same⟩ := first.adders ref ge early
      exact ⟨g, (snd.old ref early).trans same⟩
    · exact snd.adders ref (not_lt.mp early) lt
  contents := by
    intro g
    obtain ⟨more, split, fresh⟩ := first.contents g
    obtain ⟨further, splitLast, fresher⟩ := snd.contents g
    refine ⟨more ++ further, by rw [splitLast, split, append_assoc], ?_⟩
    intro ref inside
    rcases mem_append.mp inside with there | there
    · exact ⟨(fresh ref there).1, Nat.lt_of_lt_of_le (fresh ref there).2 snd.size⟩
    · exact ⟨first.size.trans (fresher ref there).1, (fresher ref there).2⟩

theorem of_rethreaded {os : List Ref} {besides : Side → Multiset Wire} {hit : Wire → Prop}
    (done : Build.Rethreaded net os new besides hit last) : Sprouts net last where
  size := done.alike.1.ge
  old := fun ref _ => done.alike.look Node.bare (funext Node.bare_unwired)
  adders := fun _ above lt => absurd (done.alike.1 ▸ lt) above.not_gt
  contents := fun g => ⟨[], by rw [done.alike.unwired_contents, append_nil], nofun⟩

theorem of_born (born : Born net g "__add~f" 2 1 last) : Sprouts net last := by
  have ge : ∀ ref, net.size ≤ ref → ref < last.size → ref = net.size := by
    intro ref ge lt
    rw [born.size] at lt
    omega
  refine ⟨by rw [born.size]; exact Nat.le_succ _, ?_, ?_, ?_⟩
  · intro ref lt
    by_cases same : ref = g
    · rw [same, born.graph]
      rfl
    · rw [born.others ref lt same]
  · intro ref lower upper
    rw [ge ref lower upper]
    exact ⟨g, by rw [born.own]⟩
  · intro ref
    by_cases same : ref = g
    · refine ⟨[net.size], by rw [same, born.contents_graph], ?_⟩
      intro inner new
      rw [List.mem_singleton.mp new, born.size]
      exact ⟨le_rfl, Nat.lt_succ_self _⟩
    · exact ⟨[], by rw [born.contents_ne same, append_nil], nofun⟩

theorem contains_iff (sprouts : Sprouts net last) (lt : o < net.size) :
    last.Contains g o ↔ net.Contains g o := by
  constructor
  · intro holds
    by_cases old : g < net.size
    · obtain ⟨more, split, fresh⟩ := sprouts.contents g
      refine ⟨?_, ?_⟩
      · rw [← sprouts.look old Node.isGraph rfl]
        exact holds.1
      · have mem := holds.2
        rw [split, mem_append] at mem
        exact mem.resolve_right fun new => Nat.not_lt_of_le (fresh o new).1 lt
    · have plain := sprouts.not_isGraph_new (Nat.le_of_not_lt old) (lt_size_of_isGraph holds.1)
      exact nomatch holds.1.symm.trans plain
  · exact sprouts.contains

theorem inside_of_old (sprouts : Sprouts net last) (lt : o < net.size)
    (inside : last.Inside g o) : net.Inside g o := by
  induction inside with
  | single holds => exact .single ((sprouts.contains_iff lt).mp holds)
  | @tail middle o _ holds ih =>
    have now := (sprouts.contains_iff lt).mp holds
    exact .tail (ih (lt_size_of_isGraph now.1)) now

end Sprouts

/-- Every wire is an old one that may lead to an adder now, or comes from an adder. An adder is at
home at the object that it adds up signals for. -/
def Homes (net : Net) (ws new : Multiset Wire) : Prop :=
  ∃ home : Ref → Ref, (∀ ref < net.size, home ref = ref) ∧ ∀ wire ∈ new,
    net.size ≤ wire.source ∧ home wire.source = home wire.target ∨
      ∃ old ∈ ws, old.source = wire.source ∧ old.type = wire.type ∧ old.target = home wire.target

/-- Signals have been added up: no inlet has got more signals than one or than it had, and with
adders that add every old inlet gets the sum it got before. -/
structure AddsUp (net : Net) (loops ws : Multiset Wire) (last : Net)
    (new : Multiset Wire) : Prop extends Sprouts net last where
  nested : last.Nested new loops
  spares : Spares (·.isSignal = true) net last
  tidy : ∀ ref slot, (signalsAt ws ref slot).card ≤ 1 → (signalsAt new ref slot).card ≤ 1
  sums : ∀ (R : Type) [AddCommMonoid R] (value : Ref → Int → R),
    (∀ adder, net.size ≤ adder → adder < last.size →
      value adder 0 = arrived value new adder 0 + arrived value new adder 1) →
    ∀ ref < net.size, ∀ slot, arrived value new ref slot = arrived value ws ref slot
  solvable : ∀ (R : Type) [AddCommMonoid R] (value : Ref → Int → R), ∃ full : Ref → Int → R,
    (∀ ref < net.size, full ref = value ref) ∧ ∀ adder, net.size ≤ adder → adder < last.size →
      full adder 0 = arrived full new adder 0 + arrived full new adder 1
  homes : Homes net ws new

theorem Homes.refl (net : Net) (ws : Multiset Wire) : Homes net ws ws :=
  ⟨id, fun _ _ => rfl, fun w mem => .inr ⟨w, mem, rfl, rfl, rfl⟩⟩

theorem Homes.trans {between : Multiset Wire} (first : Homes net ws between)
    (snd : Homes middle between new) (size : net.size ≤ middle.size)
    (inside : ∀ w ∈ between, w.source < middle.size) : Homes net ws new := by
  obtain ⟨home, old, leads⟩ := first
  obtain ⟨later, oldLater, leadsLater⟩ := snd
  refine ⟨home ∘ later, fun ref lt => ?_, fun w inN => ?_⟩
  · rw [Function.comp_apply, oldLater ref (lt.trans_le size), old ref lt]
  rcases leadsLater w inN with ⟨ge, same⟩ | ⟨mid, inBetween, src, type, tgt⟩
  · exact .inl ⟨size.trans ge, congrArg home same⟩
  · have unmoved : later w.source = w.source := oldLater _ (src ▸ inside mid inBetween)
    rcases leads mid inBetween with ⟨ge, same⟩ | ⟨early, inWs, sourceEq, typeEq, targetEq⟩
    · refine .inl ⟨src ▸ ge, ?_⟩
      rw [Function.comp_apply, Function.comp_apply, unmoved, ← src, ← tgt, same]
    · exact .inr ⟨early, inWs, sourceEq.trans src, typeEq.trans type,
        targetEq.trans (congrArg home tgt)⟩

theorem AddsUp.refl (nested : net.Nested ws loops) : AddsUp net loops ws net ws :=
  ⟨.refl net, nested, .refl _ net, fun _ _ few => few, fun _ _ _ _ _ _ _ => rfl,
    fun _ _ v => ⟨v, fun _ _ => rfl, fun _ ge lt =>
      absurd lt ge.not_gt⟩, .refl _ _⟩

theorem AddsUp.trans {mid : Multiset Wire} (first : AddsUp net loops ws middle mid)
    (snd : AddsUp middle loops mid last new) : AddsUp net loops ws last new where
  toSprouts := first.toSprouts.trans snd.toSprouts
  nested := snd.nested
  spares := first.spares.trans snd.spares
  tidy := fun ref slot few => snd.tidy ref slot (first.tidy ref slot few)
  sums := by
    intro R _ v adds ref lt slot
    have later := snd.sums R v fun a ge => adds a (first.size.trans ge)
    have pre : ∀ a, net.size ≤ a → a < middle.size →
        v a 0 = arrived v mid a 0 + arrived v mid a 1 := by
      intro a ge early
      rw [adds a ge (early.trans_le snd.size), later a early, later a early]
    rw [later ref (lt.trans_le first.size), first.sums R v pre ref lt]
  solvable := by
    intro R _ v
    obtain ⟨half, sameHalf, addsHalf⟩ := first.solvable R v
    obtain ⟨full, same, adds⟩ := snd.solvable R half
    refine ⟨full, fun ref lt => ?_, fun a ge lt => ?_⟩
    · rw [same ref (lt.trans_le first.size), sameHalf ref lt]
    · by_cases early : a < middle.size
      · have kept : ∀ slot, arrived full new a slot = arrived half mid a slot := by
          intro slot
          rw [snd.sums R full adds a early]
          exact arrived_congr fun w mem =>
            congrFun (same _ (first.nested.end_lt_size mem .outlet)) _
        rw [same a early, addsHalf a ge early, kept, kept]
      · exact adds a (not_lt.mp early) lt
  homes := first.homes.trans snd.homes first.size
    fun _ inBetween => first.nested.end_lt_size inBetween .outlet

/-- No loop brings a signal to an object, and no inlet of it gets more than one. -/
def Clean (loops ws : Multiset Wire) (o : Ref) : Prop :=
  (∀ w ∈ loops, w.target = o → w.isSignal = false) ∧ ∀ slot, (signalsAt ws o slot).card ≤ 1

theorem AddsUp.clean (adds : AddsUp net loops ws last new) (clean : Clean loops ws o) :
    Clean loops new o :=
  clean.imp_right fun few slot => adds.tidy o slot (few slot)

/-- Signals have been led into a chain of adders, of which the last one has their sum. -/
structure Chained (net : Net) (g : Ref) (base loops : Multiset Wire) (taken : List Wire)
    (adder : Ref) (chain : Multiset Wire) (last : Net) : Prop extends Sprouts net last where
  nested : last.Nested (chain + base) loops
  above : net.size ≤ adder
  inGraph : last.Contains g adder
  ends : ∀ wire ∈ chain, wire.isSignal = true ∧ net.size ≤ wire.target ∧
    (net.size ≤ wire.source ∨ ∃ old ∈ taken, old.source = wire.source ∧ old.type = wire.type)
  single : ∀ ref slot, (signalsAt chain ref slot).card ≤ 1
  sum : ∀ (R : Type) [AddCommMonoid R] (value : Ref → Int → R),
    (∀ ref, net.size ≤ ref → ref < last.size →
      value ref 0 = arrived value chain ref 0 + arrived value chain ref 1) →
    value adder 0 = (taken.map fun wire => value wire.source wire.outlet).sum
  solvable : ∀ (R : Type) [AddCommMonoid R] (value : Ref → Int → R), ∃ full : Ref → Int → R,
    (∀ ref < net.size, full ref = value ref) ∧ ∀ ref, net.size ≤ ref → ref < last.size →
      full ref 0 = arrived full chain ref 0 + arrived full chain ref 1
  spares : Spares (·.isSignal = true) net last

/-- The signals at an adder that has come last, and those at all other inlets. -/
theorem signalsAt_pair {left right : Wire}
    (fresh : ∀ w ∈ chain, w.target < a) (leftSignal : left.isSignal = true)
    (leftAt : left.At .inlet a 0) (rightSignal : right.isSignal = true)
    (rightAt : right.At .inlet a 1) : signalsAt (left ::ₘ right ::ₘ chain) a 0 = {left} ∧
      signalsAt (left ::ₘ right ::ₘ chain) a 1 = {right} ∧
      (∀ slot > 1, signalsAt (left ::ₘ right ::ₘ chain) a slot = 0) ∧ ∀ ref ≠ a, ∀ slot,
        signalsAt (left ::ₘ right ::ₘ chain) ref slot = signalsAt chain ref slot := by
  have none : ∀ slot, signalsAt chain a slot = 0 :=
    fun slot => signalsAt_eq_zero fun w mem _ => (fresh w mem).ne
  simp only [signalsAt_cons leftSignal leftAt, signalsAt_cons rightSignal rightAt, none]
  refine ⟨by simp, by simp, fun slot more => ?_, fun ref ne slot => by simp [ne]⟩
  rw [if_neg (by omega), if_neg (by omega)]
  rfl

/-- A new adder with a signal at each of its inlets is at the end of a chain. -/
theorem Chained.of_pair {left right : Wire} {adder : Ref} (sprouts : Sprouts net last)
    (nested : last.Nested (left ::ₘ right ::ₘ chain + base) loops)
    (inGraph : last.Contains g adder) (ge : net.size ≤ adder) (newest : last.size = adder + 1)
    (leftSignal : left.isSignal = true) (leftAt : left.At .inlet adder 0)
    (rightSignal : right.isSignal = true) (rightAt : right.At .inlet adder 1)
    (ends : ∀ w ∈ chain, w.isSignal = true ∧ net.size ≤ w.target ∧ w.target < adder)
    (origins : ∀ w ∈ left ::ₘ right ::ₘ chain, net.size ≤ w.source ∨
      ∃ old ∈ taken, old.source = w.source ∧ old.type = w.type)
    (single : ∀ ref slot, (signalsAt chain ref slot).card ≤ 1)
    (sum : ∀ (R : Type) [AddCommMonoid R] (v : Ref → Int → R),
      (∀ ref, net.size ≤ ref → ref < adder →
        v ref 0 = arrived v chain ref 0 + arrived v chain ref 1) →
      v left.source left.outlet + v right.source right.outlet =
        (taken.map fun w => v w.source w.outlet).sum)
    (solvable : ∀ (R : Type) [AddCommMonoid R] (v : Ref → Int → R), ∃ full : Ref → Int → R,
      (∀ ref < net.size, full ref = v ref) ∧ ∀ ref, net.size ≤ ref → ref < adder →
        full ref 0 = arrived full chain ref 0 + arrived full chain ref 1)
    (sources : ∀ w ∈ left ::ₘ right ::ₘ chain, w.source < adder)
    (spares : Spares (·.isSignal = true) net last) :
    Chained net g base loops taken adder (left ::ₘ right ::ₘ chain) last := by
  obtain ⟨first, snd, none, ys⟩ := signalsAt_pair
    (fun w mem => (ends w mem).2.2) leftSignal leftAt rightSignal rightAt
  simp only [Multiset.forall_mem_cons] at origins sources
  refine ⟨sprouts, nested, ge, inGraph, ?_, ?_, ?_, ?_, spares⟩
  · simp only [Multiset.forall_mem_cons]
    exact ⟨⟨leftSignal, ge.trans leftAt.1.symm.le, origins.1⟩,
      ⟨rightSignal, ge.trans rightAt.1.symm.le, origins.2.1⟩,
      fun w mem => ⟨(ends w mem).1, (ends w mem).2.1, origins.2.2 w mem⟩⟩
  · intro ref slot
    by_cases same : ref = adder
    · subst same
      match slot with
      | 0 => rw [first, card_singleton]
      | 1 => rw [snd, card_singleton]
      | slot + 2 => rw [none (slot + 2) (by omega), card_zero]; exact Nat.zero_le 1
    · rw [ys ref same]
      exact single ref slot
  · intro R _ v adds
    have own := adds adder ge (newest ▸ Nat.lt_succ_self _)
    have here : v adder 0 = v left.source left.outlet + v right.source right.outlet := by
      rw [own, arrived, arrived, first, snd, Multiset.map_singleton, Multiset.sum_singleton,
        Multiset.map_singleton, Multiset.sum_singleton]
    rw [here]
    apply sum R v
    intro ref lower upper
    have adding := adds ref lower (by omega)
    simp only [arrived, ys ref upper.ne] at adding
    exact adding
  · intro R _ v
    obtain ⟨half, same, addsHalf⟩ := solvable R v
    obtain ⟨full, own, old⟩ : ∃ full : Ref → Int → R, (∀ outlet, full adder outlet =
          half left.source left.outlet + half right.source right.outlet) ∧
        ∀ ref < adder, full ref = half ref := by
      refine ⟨fun ref outlet => if ref = adder then
        half left.source left.outlet + half right.source right.outlet else half ref outlet,
        fun _ => if_pos rfl, fun ref less => funext fun _ => if_neg less.ne⟩
    refine ⟨full, fun ref lt => ?_, fun ref lower upper => ?_⟩
    · rw [old ref (lt.trans_le ge), same ref lt]
    · by_cases nw : ref = adder
      · subst nw
        rw [own, arrived, arrived, first, snd, Multiset.map_singleton, Multiset.sum_singleton,
          Multiset.map_singleton, Multiset.sum_singleton, old _ sources.1, old _ sources.2.1]
      · have less : ref < adder := by omega
        have kept : ∀ slot, arrived full (left ::ₘ right ::ₘ chain) ref slot =
            arrived half chain ref slot := by
          intro slot
          rw [arrived, ys ref nw, ← arrived]
          exact arrived_congr fun w mem => congrFun (old _ (sources.2.2 w mem)) _
        rw [old ref less, addsHalf ref lower less, kept, kept]

theorem Chained.homes {sum : Wire} (chained : Chained net g base loops taken a chain last)
    (lt : o < net.size) (old : ∀ w ∈ base, w.target < net.size)
    (there : ∀ w ∈ taken, w.target = o) (src : net.size ≤ sum.source)
    (tgt : sum.target = o) : Homes net (taken + base) (sum ::ₘ (chain + base)) := by
  obtain ⟨home, early, late⟩ : ∃ home : Ref → Ref,
      (∀ ref < net.size, home ref = ref) ∧ ∀ ref, net.size ≤ ref → home ref = o :=
    ⟨fun ref => if ref < net.size then ref else o, fun _ less => if_pos less,
      fun _ ge => if_neg ge.not_gt⟩
  refine ⟨home, early, fun w inN => ?_⟩
  rcases Multiset.mem_cons.mp inN with rfl | inside
  · exact .inl ⟨src, by rw [late _ src, tgt, early o lt]⟩
  · rcases mem_add.mp inside with inChain | inBase
    · obtain ⟨-, ge, new | ⟨first, mem, same, type⟩⟩ := chained.ends w inChain
      · exact .inl ⟨new, by rw [late _ new, late _ ge]⟩
      · exact .inr ⟨first, mem_add.mpr (.inl mem), same, type,
          (there first mem).trans (late _ ge).symm⟩
    · exact .inr ⟨w, mem_add.mpr (.inr inBase), rfl, rfl, (early _ (old w inBase)).symm⟩

/-- What is at an inlet: the signals that wires bring, and twice those of the loops there. -/
theorem Nested.coe_signals_add (nested : net.Nested ws loops) (o : Ref) (place : Nat) :
    (Build.signals (net.held .inlet o place) : Multiset Wire) =
      signalsAt ws o place + signalsAt (loops + loops) o place := by
  by_cases inside : o < net.size
  · have holds := nested.threaded.holds .inlet o (List.mem_range.mpr inside) place
    have split : Build.signals (net.held .inlet o place) =
        (net.held .inlet o place).filter fun w => decide (w.isSignal = true) := by
      simp [Build.signals]
    rw [split, ← filter_coe, holds, twice, Multiset.filter_filter, ← signalsAt, signalsAt_add]
  · have out := not_lt.mp inside
    have none : signalsAt (loops + loops) o place = 0 := by
      refine signalsAt_eq_zero fun w mem _ same => inside ?_
      rw [← same]
      rcases mem_add.mp mem with one | other
      · exact (nested.looped w one).2.1
      · exact (nested.looped w other).2.1
    rw [nested.signalsAt_of_size_le out, none, held_of_size_le out]
    rfl

theorem Nested.coe_signals_at (nested : net.Nested ws loops) {o : Ref}
    (silent : ∀ w ∈ loops, w.At .inlet o place → w.isSignal = false) :
    (Build.signals (net.held .inlet o place) : Multiset Wire) = signalsAt ws o place := by
  have none : signalsAt loops o place = 0 :=
    filter_eq_nil.mpr fun w mem put =>
      absurd put.1 (by simp [silent w mem put.2])
  rw [nested.coe_signals_add, signalsAt_add, none, add_zero, add_zero]

end Net

namespace Build

open Net

variable {net : Net} {root g o : Ref} {base loops : Multiset Wire}

theorem run_makePlain_adder (net : Net) : (makePlain "__add~f" []).run net =
    .ok net.size (net.push (.plain "__add~f" [] 2 1 net.size)) :=
  run_makePlain rfl rfl rfl rfl net

theorem ends_addFirst {first snd : Wire} {next : Ref → Build Unit} {post : Unit → Net → Prop}
    (nested : net.Nested (first ::ₘ snd ::ₘ base) loops)
    (target : ∀ w ∈ [first, snd], net.Contains g w.target ∧ w.isSignal = true)
    (rest : ∀ chain last, Chained net g base loops [first, snd] net.size chain last →
      Ends (next net.size) last post) :
    Ends (do
      let a ← makePlain "__add~f" []
      add g a
      rewire (some first) [{ first with target := a, inlet := 0 }]
      rewire (some snd) [{ snd with target := a, inlet := 1 }]
      next a) net post := by
  obtain ⟨firstTarget, firstSignal⟩ := target first (by simp)
  obtain ⟨secondTarget, secondSignal⟩ := target snd (by simp)
  have isGraph := firstTarget.1
  have firstSource := nested.source_inside (Multiset.mem_cons_self _ _) firstTarget
  have secondSource :=
    nested.source_inside (Multiset.mem_cons_of_mem (Multiset.mem_cons_self _ _)) secondTarget
  apply ends_birth nested isGraph (run_makePlain_adder net) (by decide)
  intro current born nestedCurrent
  have grown : Sprouts net current := .of_born born
  have adderInside : current.Contains g net.size :=
    (born.contains_iff isGraph).mpr (.inr ⟨rfl, rfl⟩)
  have slots : ((current.node net.size).lets .inlet).length = 2 := by
    rw [born.own]
    rfl
  apply Ends.bind (ends_lead 0 nestedCurrent (nested.lt_size firstSource.2).ne
    (grown.contains firstSource) adderInside (by rw [slots]; decide))
  rintro _ middle ⟨one, nestedMiddle⟩
  have grownMiddle := grown.trans (.of_rethreaded one)
  rw [cons_swap] at nestedMiddle
  apply Ends.bind (ends_lead 1 nestedMiddle (nested.lt_size secondSource.2).ne
    (grownMiddle.contains secondSource) ((Sprouts.of_rethreaded one).contains adderInside)
    (by rw [one.alike.unwired_length, slots]; decide))
  rintro _ last ⟨two, nestL⟩
  rw [cons_swap] at nestL
  have grownLast := Sprouts.of_rethreaded two
  generalize leftEq : ({ first with target := net.size, inlet := (0 : Nat) } : Wire) = left
    at nestL one
  generalize rightEq : ({ snd with target := net.size, inlet := (1 : Nat) } : Wire) = right
    at nestL two
  have leftSignal : left.isSignal = true := leftEq ▸ firstSignal
  have rightSignal : right.isSignal = true := rightEq ▸ secondSignal
  have spares : Spares (·.isSignal = true) net last := by
    refine (born.spares.trans (one.spares.mono ?_)).trans (two.spares.mono ?_)
    · simp [firstSignal, leftSignal]
    · simp [secondSignal, rightSignal]
  have nestedPair : last.Nested (left ::ₘ right ::ₘ 0 + base) loops := by
    simpa using nestL
  apply rest
  refine .of_pair (grownMiddle.trans grownLast) nestedPair ?_ le_rfl ?_ leftSignal
    (leftEq ▸ ⟨rfl, rfl⟩) rightSignal (rightEq ▸ ⟨rfl, rfl⟩) (by simp) ?_ (by simp [signalsAt]) ?_
    ?_ ?_ spares
  · exact grownLast.contains ((Sprouts.of_rethreaded one).contains adderInside)
  · rw [two.alike.1, one.alike.1, born.size]
  · simp [← leftEq, ← rightEq]
  · intro R _ v _
    simp [← leftEq, ← rightEq]
  · exact fun R _ v => ⟨v, fun _ _ => rfl, fun ref lower upper =>
      absurd upper lower.not_gt⟩
  · simp [← leftEq, ← rightEq, nested.lt_size firstSource.2, nested.lt_size secondSource.2]

theorem ends_addNext {w : Wire} (sig : w.isSignal = true) (target : cur.Contains g w.target)
    (chained : Chained net g (w ::ₘ base) loops taken a chain cur) :
    Ends (do
      let next ← makePlain "__add~f" []
      add g next
      connect ⟨a, 0, next, 0, .float⟩
      rewire (some w) [{ w with target := next, inlet := 1 }]
      pure (ForInStep.yield next)) cur fun next last =>
        ∃ res, next = .yield res ∧ ∃ more,
          Chained net g base loops (taken ++ [w]) res more last := by
  have isGraph := chained.inGraph.1
  have nested := chained.nested
  have adderBelow := nested.lt_size chained.inGraph.2
  have inWs : w ∈ chain + w ::ₘ base := by simp
  have src := nested.source_inside inWs target
  apply ends_birth nested isGraph (run_makePlain_adder cur) (by decide)
  intro second born nestedSecond
  have grown : Sprouts cur second := .of_born born
  have nextInside : second.Contains g cur.size := (born.contains_iff isGraph).mpr (.inr ⟨rfl, rfl⟩)
  have slots : ((second.node cur.size).lets .inlet).length = 2 := by
    rw [born.own]
    rfl
  have ports : ((second.node a).lets .outlet).length = 1 := by
    rw [born.lets adderBelow]
    exact chained.outlets_new chained.above adderBelow
  apply Ends.bind (ends_join nestedSecond adderBelow.ne (grown.contains chained.inGraph) nextInside
    ⟨0, ports ▸ (by decide), rfl⟩ ⟨0, slots ▸ (by decide), rfl⟩)
  rintro _ third ⟨one, nestedThird⟩
  have grownThird := Sprouts.of_rethreaded one
  have swap : (⟨a, 0, cur.size, 0, .float⟩ : Wire) ::ₘ (chain + w ::ₘ base) =
      w ::ₘ ((⟨a, 0, cur.size, 0, .float⟩ : Wire) ::ₘ (chain + base)) := by
    rw [add_cons, cons_swap]
  rw [swap] at nestedThird
  apply Ends.bind (ends_lead 1 nestedThird (nested.lt_size src.2).ne
    (grownThird.contains (grown.contains src)) (grownThird.contains nextInside)
    (by rw [one.alike.unwired_length, slots]; decide))
  rintro _ last ⟨two, nestL⟩
  have grownLast := Sprouts.of_rethreaded two
  rw [cons_swap] at nestL
  generalize rightEq : ({ w with target := cur.size, inlet := (1 : Nat) } : Wire) = right
    at nestL two
  have rightSignal : right.isSignal = true := rightEq ▸ sig
  have spares : Spares (·.isSignal = true) cur last := by
    refine (born.spares.trans (one.spares.mono ?_)).trans (two.spares.mono ?_)
    · rintro _ rfl
      rfl
    · simp [sig, rightSignal]
  have nestedPair : last.Nested
      ((⟨a, 0, cur.size, 0, .float⟩ : Wire) ::ₘ right ::ₘ chain + base) loops := by
    simpa using nestL
  refine .pure ⟨cur.size, rfl, _, .of_pair
    (((chained.toSprouts.trans grown).trans grownThird).trans grownLast) nestedPair
    (grownLast.contains (grownThird.contains nextInside)) chained.size ?_ rfl ⟨rfl, rfl⟩ rightSignal
    (rightEq ▸ ⟨rfl, rfl⟩) ?_ ?_ chained.single ?_ chained.solvable ?_
    (chained.spares.trans spares)⟩
  · rw [two.alike.1, one.alike.1, born.size]
  · intro y inChain
    refine ⟨(chained.ends y inChain).1, (chained.ends y inChain).2.1, ?_⟩
    exact List.mem_range.mp ((nested.threaded.fits y (mem_add.mpr (.inl inChain))).mem .inlet)
  · simp only [Multiset.forall_mem_cons, ← rightEq]
    refine ⟨.inl chained.above, .inr ⟨w, by simp, rfl, rfl⟩, fun y inChain =>
      (chained.ends y inChain).2.2.imp_right ?_⟩
    rintro ⟨old, listed, same⟩
    exact ⟨old, mem_append_left _ listed, same⟩
  · intro R _ v adds
    simp [← chained.sum R v adds, ← rightEq]
  · simp only [Multiset.forall_mem_cons, ← rightEq]
    exact ⟨adderBelow, nested.lt_size src.2, fun y inChain =>
      nested.end_lt_size (mem_add.mpr (.inl inChain)) .outlet⟩

theorem ends_addLast (inside : net.Contains g o) (lt : o < net.size)
    (bound : place < ((net.node o).lets .inlet).length) (old : ∀ w ∈ base, w.target < net.size)
    (free : signalsAt base o place = 0) (mem : ∀ w ∈ taken, w.isSignal = true ∧ w.At .inlet o place)
    (chained : Chained net g base loops taken a chain cur) :
    Ends (connect ⟨a, 0, o, place, .float⟩) cur fun _ last => ∃ new,
      AddsUp net loops (taken + base) last new ∧ (signalsAt new o place).card ≤ 1 := by
  have nested := chained.nested
  have adderBelow := nested.lt_size chained.inGraph.2
  have ports := chained.outlets_new chained.above adderBelow
  have slots := chained.length_lets lt .inlet
  have apart : a ≠ o := (lt.trans_le chained.above).ne'
  apply Ends.mono (ends_join nested apart chained.inGraph (chained.contains inside)
    ⟨0, ports ▸ (by decide), rfl⟩ ⟨place, slots ▸ bound, rfl⟩)
  rintro _ last ⟨done, nestL⟩
  have grown := Sprouts.of_rethreaded done
  have size : last.size = cur.size := done.alike.1
  generalize link : (⟨a, 0, o, place, .float⟩ : Wire) = sum at done nestL
  have sumSignal : sum.isSignal = true := by rw [← link]; rfl
  have sumAt : sum.At .inlet o place := by rw [← link]; exact ⟨rfl, rfl⟩
  have noChain : ∀ ref < net.size, ∀ slot, signalsAt chain ref slot = 0 := by
    intro ref early slot
    refine signalsAt_eq_zero fun w inChain _ same => ?_
    have late := (chained.ends w inChain).2.1
    rw [same] at late
    exact late.not_gt early
  have here : signalsAt (sum ::ₘ (chain + base)) o place = {sum} := by
    rw [signalsAt_cons sumSignal sumAt, if_pos ⟨rfl, rfl⟩, signalsAt_add, noChain o lt, free]
    rfl
  have far : ∀ ref slot, ¬ (ref = o ∧ slot = place) → signalsAt (sum ::ₘ (chain + base)) ref slot =
        signalsAt chain ref slot + signalsAt base ref slot := by
    intro ref slot ne
    rw [signalsAt_cons sumSignal sumAt, if_neg ne, zero_add, signalsAt_add]
  have late : ∀ ref, net.size ≤ ref → ∀ slot,
      signalsAt (sum ::ₘ (chain + base)) ref slot = signalsAt chain ref slot := by
    intro ref ge slot
    have none : signalsAt base ref slot = 0 := by
      refine signalsAt_eq_zero fun w inBase _ same => ?_
      exact ge.not_gt (same ▸ old w inBase)
    rw [far ref slot (by rintro ⟨rfl, -⟩; exact ge.not_gt lt), none,
      add_zero]
  have early : ∀ ref < net.size, ∀ slot, ¬ (ref = o ∧ slot = place) →
      signalsAt (sum ::ₘ (chain + base)) ref slot = signalsAt (taken + base) ref slot := by
    intro ref less slot ne
    have none : signalsAt (taken : Multiset Wire) ref slot = 0 :=
      filter_eq_nil.mpr fun w inTaken put => ne ((mem w (mem_coe.mp inTaken)).2.unique put.2)
    rw [far ref slot ne, noChain ref less, zero_add, signalsAt_add, none, zero_add]
  have sparesLast : Spares (·.isSignal = true) cur last := by
    refine done.spares.mono ?_
    rintro _ rfl
    exact sumSignal
  have homes : Homes net (taken + base) (sum ::ₘ (chain + base)) :=
    chained.homes lt old (fun w listed => (mem w listed).2.1)
      (by rw [← link]; exact chained.above) sumAt.1
  refine ⟨_, ⟨chained.toSprouts.trans grown, nestL, chained.spares.trans sparesLast, ?_, ?_,
    ?_, homes⟩, ?_⟩
  · intro ref slot few
    by_cases ge : net.size ≤ ref
    · rw [late ref ge]
      exact chained.single ref slot
    · by_cases same : ref = o ∧ slot = place
      · rcases same with ⟨rfl, rfl⟩
        rw [here, card_singleton]
      · rw [early ref (not_le.mp ge) slot same]
        exact few
  · intro R _ v adds ref less slot
    by_cases same : ref = o ∧ slot = place
    · rcases same with ⟨rfl, rfl⟩
      have all : signalsAt (taken + base) ref slot = taken := by
        rw [signalsAt_add, free, Multiset.add_zero, signalsAt, Multiset.filter_eq_self]
        exact fun w inTaken => mem w (mem_coe.mp inTaken)
      have total : v a 0 = (taken.map fun w => v w.source w.outlet).sum := by
        apply chained.sum R v
        intro a ge inCurrent
        have adding := adds a ge (size ▸ inCurrent)
        simp only [arrived, late a ge] at adding
        exact adding
      rw [arrived, here, Multiset.map_singleton, Multiset.sum_singleton, arrived, all,
        map_coe, sum_coe, ← total, ← link]
    · rw [arrived, early ref less slot same, arrived]
  · intro R _ v
    obtain ⟨full, same, adds⟩ := chained.solvable R v
    refine ⟨full, same, fun ref ge less => ?_⟩
    rw [size] at less
    simp only [arrived, late ref ge]
    exact adds ref ge less
  · rw [here, card_singleton]

/-- At most one signal is left at an inlet at which signals have been added up. -/
theorem ends_addUp (nested : net.Nested ws loops)
    (silent : ∀ w ∈ loops, w.At .inlet o place → w.isSignal = false)
    (inside : net.Contains g o) (bound : place < ((net.node o).lets .inlet).length) :
    Ends (addUp g o place (signals (net.held .inlet o place))) net fun _ last => ∃ new,
      AddsUp net loops ws last new ∧ (signalsAt new o place).card ≤ 1 := by
  have here := nested.coe_signals_at silent
  generalize eq : signals (net.held .inlet o place) = arriving at here
  unfold addUp
  split
  next first snd rest =>
    -- what arrives at the inlet is separated from all other wires
    have split : ws = (first :: snd :: rest : List Wire) +
        ws.filter fun w => ¬ (w.isSignal = true ∧ w.At .inlet o place) := by
      rw [here, signalsAt, filter_add_not]
    generalize rest' : (ws.filter fun w =>
      ¬ (w.isSignal = true ∧ w.At .inlet o place)) = base at split
    have there : ∀ w ∈ first :: snd :: rest, w.isSignal = true ∧ w.At .inlet o place := by
      intro w inList
      rw [← mem_coe, here] at inList
      exact (mem_filter.mp inList).2
    have lt := nested.lt_size inside.2
    have old : ∀ w ∈ base, w.target < net.size := by
      intro w inBase
      rw [← rest'] at inBase
      exact List.mem_range.mp ((nested.threaded.fits w (mem_filter.mp inBase).1).mem .inlet)
    have free : signalsAt base o place = 0 := by
      rw [← rest', signalsAt, Multiset.filter_filter, filter_eq_nil]
      exact fun w _ both => both.2 both.1
    have nestedSplit : net.Nested (first ::ₘ snd ::ₘ (rest + base)) loops := by
      rw [← cons_add, ← cons_add, cons_coe, cons_coe, ← split]
      exact nested
    apply ends_addFirst nestedSplit
    · intro w inPair
      obtain ⟨sig, target, -⟩ := there w (List.mem_append_left rest inPair)
      exact ⟨show net.Contains g (w.object .inlet) from target ▸ inside, sig⟩
    intro chain current chained
    apply Ends.bind (Ends.forIn (fun done a current => ∃ chain, Chained net g
      (rest.drop done.length + base) loops (first :: snd :: done) a chain current)
      ⟨chain, chained⟩ ?_)
    · rintro a current ⟨chain, chained⟩
      rw [drop_length] at chained
      have last := ends_addLast inside lt bound old free there (by simpa using chained)
      rwa [← split] at last
    · rintro done w later a current parts ⟨chain, chained⟩
      have dropped : rest.drop done.length = w :: later := by
        rw [parts, drop_left]
      have eq := there w (by simp [parts])
      have tgt : current.Contains g w.target := by
        rw [show w.target = o from eq.2.1]
        exact chained.contains inside
      have chained' : Chained net g (w ::ₘ (later + base)) loops
          (first :: snd :: done) a chain current := by
        rw [← cons_add, cons_coe, ← dropped]
        exact chained
      have next := ends_addNext eq.1 tgt chained'
      have droppedNext : rest.drop (done ++ [w]).length = later := by
        rw [parts, append_cons done w later, drop_left]
      rw [droppedNext]
      exact next
  next few =>
    refine .pure ⟨ws, .refl nested, ?_⟩
    rw [← here, coe_card]
    rcases arriving with _ | ⟨first, _ | ⟨snd, rest⟩⟩
    · exact Nat.zero_le 1
    · exact le_rfl
    · exact absurd rfl (few first snd rest)

theorem yields_lead_of_stray {w : Wire} {i : Int}
    (stray : ∀ slot, loop ∉ cur.held .outlet loop.source slot) (away : loop.target ≠ a) :
    Yields (rewire (some w) [{ w with target := a, inlet := i }]) cur
      fun _ last => w ≠ loop ∧ last.size = cur.size ∧
        ∀ slot, loop ∉ last.held .outlet loop.source slot := by
  apply (yields_rewire_from (by simp) (by simp)).mono
  rintro _ last ⟨rewired, slot, noted⟩
  have ne : w ≠ loop := by
    rintro rfl
    exact stray slot noted
  refine ⟨ne, rewired.alike.1, fun slot => ?_⟩
  rw [rewired.mem_held_iff]
  · exact stray slot
  · rintro (same | same)
    · exact ne same.symm
    · exact away (by rw [List.mem_singleton.mp same])

theorem yields_adder_of_stray {α : Type} {next : Ref → Build α}
    {post : α → Net → Prop} (turns : loop.source = loop.target) (lt : loop.target < cur.size)
    (stray : ∀ j, loop ∉ cur.held .outlet loop.source j)
    (rest : ∀ a last, loop.target ≠ a → loop.target < last.size →
      (∀ j, loop ∉ last.held .outlet loop.source j) → Yields (next a) last post) :
    Yields (do
      let a ← makePlain "__add~f" []
      add g a
      next a) cur post := by
  apply Guarded.bind_run (run_makePlain_adder cur)
  apply Guarded.bind yields_add_held
  rintro _ last ⟨size, held⟩
  refine rest cur.size last lt.ne ?_ fun j => ?_
  · rw [size, size_push]
    exact Nat.lt_succ_of_lt lt
  · rw [held, Net.held, node_push_of_lt (turns ▸ lt)]
    exact stray j

theorem yields_addUp_stray {arriving : List Wire} {i : Int}
    (mem : loop ∈ arriving) (more : 2 ≤ arriving.length) (turns : loop.source = loop.target)
    (lt : loop.target < net.size) (stray : ∀ slot, loop ∉ net.held .outlet loop.source slot) :
    Yields (addUp g o i arriving) net fun _ _ => False := by
  unfold addUp
  split
  next first snd rest =>
    apply yields_adder_of_stray turns lt stray
    intro a grown away lt stray
    apply Guarded.bind (yields_lead_of_stray stray away)
    rintro _ led ⟨notFirst, size, stray⟩
    rw [← size] at lt
    apply Guarded.bind (yields_lead_of_stray stray away)
    rintro _ third ⟨notSecond, size, stray⟩
    rw [← size] at lt
    have inR : loop ∈ rest := by
      simpa [notFirst.symm, notSecond.symm] using mem
    apply Guarded.bind (Guarded.forIn (fun done _ cur => loop ∉ done ∧
      loop.target < cur.size ∧ ∀ slot, loop ∉ cur.held .outlet loop.source slot)
      ⟨not_mem_nil, lt, stray⟩ ?_)
    · exact fun _ _ clean => absurd inR clean.1
    · rintro done w later a cur split ⟨clean, lt, stray⟩
      apply yields_adder_of_stray turns lt stray
      intro next grown away lt stray
      apply Guarded.bind yields_connect_rewired
      intro _ joined rewired
      rw [← rewired.alike.1] at lt
      have strayJoined : ∀ slot, loop ∉ joined.held .outlet loop.source slot := by
        intro slot
        rw [rewired.mem_held_iff]
        · exact stray slot
        · rintro rfl
          exact away rfl
      apply Guarded.bind (yields_lead_of_stray strayJoined away)
      rintro _ last ⟨notWire, size, stray⟩
      rw [← size] at lt
      refine .pure ⟨next, rfl, ?_, lt, stray⟩
      simp [clean, Ne.symm notWire]
  next few =>
    match arriving, more, few with
    | first :: snd :: rest, _, few => exact absurd rfl (few first snd rest)

/-- At an inlet at which a loop brings a signal the signals cannot be added up. -/
theorem guarded_addUp (nested : net.Nested ws loops) (inside : net.Contains g o)
    (bound : place < ((net.node o).lets .inlet).length)
    (may : ∀ w ∈ loops, w.target = o → w.isSignal = true → ∀ err, blame err) :
    Guarded blame (addUp g o place (signals (net.held .inlet o place))) net
      fun _ last => (∀ w ∈ loops, w.At .inlet o place → w.isSignal = false) ∧
        ∃ new, AddsUp net loops ws last new ∧ (signalsAt new o place).card ≤ 1 := by
  by_cases silent : ∀ w ∈ loops, w.At .inlet o place → w.isSignal = false
  · exact ((ends_addUp nested silent inside bound).mono fun _ _ done => ⟨silent, done⟩).guarded
  · push Not at silent
    obtain ⟨loop, inL, put, loud⟩ := silent
    have sig : loop.isSignal = true := by simpa using loud
    obtain ⟨turns, lt, -⟩ := nested.looped loop inL
    have here := nested.coe_signals_add o place
    have twice : loop ∈ signalsAt loops o place := mem_filter.mpr ⟨inL, sig, put⟩
    have stray : ∀ slot, loop ∉ net.held .outlet loop.source slot := by
      intro slot mem
      have holds := nested.threaded.holds .outlet loop.source (List.mem_range.mpr (turns ▸ lt)) slot
      rw [← mem_coe, holds, Net.twice, add_zero] at mem
      exact (nested.threaded.fits loop (mem_of_mem_filter mem)).apart turns
    have listed : loop ∈ signals (net.held .inlet o place) := by
      rw [← mem_coe, here, signalsAt_add]
      exact mem_add.mpr (.inr (mem_add.mpr (.inl twice)))
    have more : 2 ≤ (signals (net.held .inlet o place)).length := by
      have one : 0 < (signalsAt loops o place).card := card_pos_iff_exists_mem.mpr ⟨loop, twice⟩
      rw [← coe_card, here, signalsAt_add, card_add, card_add]
      omega
    exact (yields_addUp_stray listed more turns lt stray).of_yields (may loop inL put.1 sig)
      fun _ _ => False.elim

theorem guarded_addUpAll (nested : net.Nested ws loops) (inside : net.Contains g o)
    (may : ∀ w ∈ loops, w.target = o → w.isSignal = true → ∀ err, blame err) :
    Guarded blame (forIn (List.range (net.node o).inlets.length) PUnit.unit
      fun (place : Nat) _ => do
        let node ← node o
        addUp g o place ((node.inlets.getD place []).filter (·.isSignal))
        pure (ForInStep.yield PUnit.unit)) net fun _ last =>
          ∃ new, AddsUp net loops ws last new ∧ Clean loops new o := by
  have below := nested.lt_size inside.2
  apply Guarded.mono (Guarded.forIn (fun done _ cur =>
    (∀ slot < done.length, ∀ w ∈ loops, w.At .inlet o slot → w.isSignal = false) ∧
    ∃ new, AddsUp net loops ws cur new ∧
      ∀ slot < done.length, (signalsAt new o slot).card ≤ 1) ?_ ?_)
  · rintro _ last ⟨silent, new, adds, few⟩
    rw [length_range] at silent few
    refine ⟨new, adds, ?_, fun slot => ?_⟩
    · rintro w inL rfl
      obtain ⟨-, -, place, lt, index⟩ := nested.looped w inL
      exact silent place lt w inL ⟨rfl, index⟩
    · by_cases lt : slot < (net.node o).inlets.length
      · exact few slot lt
      · have none : signalsAt new o slot = 0 := by
          refine filter_eq_nil.mpr ?_
          rintro w inN ⟨-, target, index⟩
          obtain ⟨place, less, known⟩ := (adds.nested.threaded.fits w inN).bound .inlet
          rw [target] at less
          rw [adds.length_lets below] at less
          have same : place = slot := by omega
          exact lt (same ▸ less)
        rw [none]
        exact Nat.zero_le 1
  · exact ⟨nofun, ws, .refl nested, nofun⟩
  · rintro done place later _ cur split ⟨silent, new, adds, few⟩
    obtain ⟨put, less, -⟩ := eq_length_of_range split
    have lt : place < ((cur.node o).lets .inlet).length := by
      rw [adds.length_lets below]
      exact less
    apply Guarded.at_node
    apply Guarded.bind (guarded_addUp adds.nested (adds.contains inside) lt may)
    rintro _ last ⟨silentHere, newer, more, here⟩
    have cases : ∀ slot < (done ++ [place]).length, slot = place ∨ slot < done.length := by
      intro slot less
      rw [length_append, length_singleton] at less
      omega
    refine .pure ⟨PUnit.unit, rfl, fun slot less => ?_, newer, adds.trans more, fun slot less => ?_⟩
    · rcases cases slot less with rfl | early
      · exact silentHere
      · exact silent slot early
    · rcases cases slot less with rfl | early
      · exact here
      · exact more.tidy o slot (few slot early)

theorem guarded_cascadeWithin (lowered : net.Lowered root) (old : ∀ w ∈ loops, w.target < net.size)
    (may : ∀ w ∈ loops, net.Inside root w.target → w.isSignal = true →
      ∀ fault, blame fault) (d : Nat) :
    ∀ {g : Ref} {cur : Net} {new : Multiset Wire}, net.Within root g →
      (net.node g).isGraph = true → net.depth g < d → AddsUp net loops ws cur new →
      Guarded blame (cascadeWithin d g) cur fun _ last => ∃ newer,
        AddsUp cur loops new last newer ∧ ∀ o, net.Inside g o → Clean loops newer o := by
  induction d with
  | zero => exact fun _ _ none => absurd none (Nat.not_lt_zero _)
  | succ d ih =>
    intro g cur new within isGraph shallow adds
    have isGraphNow : (cur.node g).isGraph = true :=
      (adds.look (lt_size_of_isGraph isGraph) Node.isGraph rfl).trans isGraph
    unfold cascadeWithin
    apply Guarded.bind_run (EStateM.run_get _)
    apply Guarded.bind (Guarded.forIn (fun done _ last => ∃ newer,
      AddsUp cur loops new last newer ∧
        ∀ o ∈ done, ∀ inner, net.Within o inner → Clean loops newer inner) ?_ ?_)
    · rintro _ last ⟨newer, more, clean⟩
      refine .pure ⟨newer, more, fun o inside => ?_⟩
      obtain ⟨first, holds, path⟩ := TransGen.head'_iff.mp inside
      exact clean first (adds.contains holds).2 o path
    · exact ⟨new, .refl adds.nested, nofun⟩
    · rintro done o later _ middle split ⟨newer, more, clean⟩
      have here : cur.Contains g o := ⟨isGraphNow, by simp [split]⟩
      have mayHere : ∀ w ∈ loops, w.target = o → w.isSignal = true → ∀ fault, blame fault := by
        rintro w inL rfl sig
        exact may w inL (.tail' within ((adds.contains_iff (old w inL)).mp here)) sig
      apply Guarded.at_node
      apply Guarded.bind (guarded_addUpAll more.nested (more.contains here) mayHere)
      rintro _ third ⟨newest, most, own⟩
      have all := adds.trans (more.trans most)
      -- what was clean stays so while more signals are added up
      have kept : ∀ {last : Net} {final : Multiset Wire}, AddsUp third loops newest last final →
          (∀ inner, net.Inside o inner → Clean loops final inner) →
          ∀ ref ∈ done ++ [o], ∀ inner, net.Within ref inner → Clean loops final inner := by
        intro last final rest deep ref mem inner path
        rcases mem_append.mp mem with early | now
        · exact rest.clean (most.clean (clean ref early inner path))
        · rw [List.mem_singleton.mp now] at path
          rcases reflTransGen_iff_eq_or_transGen.mp path with rfl | deeper
          · exact rest.clean own
          · exact deep inner deeper
      apply Guarded.at_node
      by_cases inner : (third.node o).isGraph = true
      · rw [if_pos inner]
        have early : o < net.size := by
          by_contra new
          have plain := all.not_isGraph_new (not_lt.mp new) (lt_size_of_isGraph inner)
          exact nomatch inner.symm.trans plain
        have holds : net.Contains g o := (adds.contains_iff early).mp here
        have innerBefore : (net.node o).isGraph = true :=
          (all.look early Node.isGraph rfl).symm.trans inner
        have less := (lowered.within within).depth_lt holds
        apply Guarded.bind (ih (within.tail holds) innerBefore (by omega) all)
        rintro _ last ⟨final, rest, deep⟩
        exact .pure ⟨PUnit.unit, rfl, final, (more.trans most).trans rest, kept rest deep⟩
      · rw [if_neg inner]
        refine .pure ⟨PUnit.unit, rfl, newest, more.trans most, kept (.refl most.nested) ?_⟩
        intro deeper path
        obtain ⟨_, first, _⟩ := TransGen.head'_iff.mp path
        refine absurd ?_ inner
        rw [all.look (lt_size_of_isGraph first.1) Node.isGraph rfl]
        exact first.1

/-- Signals are added up in a graph and in all graphs in it, unless one leads from an object back to
it. -/
theorem guarded_cascade (nested : net.Nested ws loops)
    (lowered : net.Lowered root) (isGraph : (net.node root).isGraph = true) :
    Guarded (fun _ => ∃ w ∈ loops, net.Inside root w.target ∧ w.isSignal = true)
      (cascade root) net fun _ last =>
        (∀ w ∈ loops, net.Inside root w.target → w.isSignal = false) ∧
        ∃ new, AddsUp net loops ws last new ∧
          ∀ o, last.Inside root o → ∀ j, (signalsAt new o j).card ≤ 1 := by
  apply Guarded.bind_run (EStateM.run_get _)
  apply Guarded.mono (guarded_cascadeWithin lowered (fun w inL => (nested.looped w inL).2.1)
    (fun w inL inside sig _ => ⟨w, inL, inside, sig⟩) (net.size + 1) .refl isGraph
    (Nat.lt_succ_of_le (net.depth_le_size root)) (.refl nested))
  rintro _ last ⟨new, adds, clean⟩
  refine ⟨fun w inL inside => (clean _ inside).1 w inL rfl, new, adds, ?_⟩
  intro o inside j
  by_cases old : o < net.size
  · exact (clean o (adds.inside_of_old old inside)).2 j
  · refine adds.tidy o j ?_
    rw [nested.signalsAt_of_size_le (not_lt.mp old)]
    exact Nat.zero_le 1

end Build

end PatchCompiler
