import PatchCompiler.Proofs.Nesting

/-!
# Products that are fused with sums

A product that goes only into a sum and the sum are replaced by one object. It gets the two operands
of the product and the other operand of the sum, and what left the sum leaves it.
-/

namespace PatchCompiler

open List Multiset

variable {o fused ref : Ref} {place i : Nat} {w first second addend : Wire} {s : Side}
  {outs : List Wire} {base : Multiset Wire}

def arithmeticTypes : List String :=
  ["__mul~f", "__add~f", "__sub~f"]

def Wire.Meets (p sum fused : Ref) (w : Wire) : Prop :=
  ¬ (w.Avoids p ∧ w.Avoids sum ∧ w.Avoids fused)

namespace Net

/-- Objects of arithmetic are low-level objects with two inlets and an outlet. -/
def Shaped (net : Net) : Prop :=
  ∀ o, (net.node o).type ∈ arithmeticTypes → (net.node o).kind = .plain ∧
    (net.node o).inlets.length = 2 ∧ (net.node o).outlets.length = 1

/-- No product goes into a sum or difference that goes back into it. -/
def Unpaired (net : Net) (ws : Multiset Wire) : Prop :=
  ∀ w ∈ ws, ∀ back ∈ ws, (net.node w.source).type = "__mul~f" →
    (net.node w.target).type ∈ ["__add~f", "__sub~f"] →
    ¬ (back.source = w.target ∧ back.target = w.source)

/-- The wires at a product and a sum that it goes into. -/
structure Pairing (p sum : Ref) (ws : Multiset Wire) (first second link addend : Wire)
    (outs : List Wire) (base : Multiset Wire) : Prop where
  split : ws = first ::ₘ second ::ₘ link ::ₘ addend ::ₘ (outs + base)
  apart : p ≠ sum
  firstAt : first.At .inlet p 0
  secondAt : second.At .inlet p 1
  linkAt : link.At .outlet p 0 ∧ link.target = sum
  places : link.inlet = 0 ∧ addend.At .inlet sum 1 ∨ link.inlet = 1 ∧ addend.At .inlet sum 0
  leaving : ∀ out ∈ outs, out.At .outlet sum 0 ∧ out.target ≠ p ∧ out.target ≠ sum
  sources : ∀ w ∈ [first, second, addend], w.source ≠ p ∧ w.source ≠ sum
  avoids : ∀ w ∈ base, w.Avoids p ∧ w.Avoids sum

variable {net last : Net} {g p sum : Ref} {ws loops : Multiset Wire} {link : Wire}
  {type : String}

/-- What is known of a product and a sum that can be fused. -/
structure Fusible (net : Net) (p : Ref) (link : Wire) (type : String) : Prop where
  isProduct : (net.node p).type = "__mul~f"
  operands : ∃ first second, net.held .inlet p 0 = [first] ∧ net.held .inlet p 1 = [second]
  leaves : net.held .outlet p 0 = [link]
  isSum : (net.node link.target).type = "__add~f" ∧ type = "__fma~f" ∨
    (net.node link.target).type = "__sub~f" ∧ link.inlet = 0 ∧ type = "__fms~f"
  terms : ∃ first second, net.held .inlet link.target 0 = [first] ∧
    net.held .inlet link.target 1 = [second]
  used : net.held .outlet link.target 0 ≠ []

theorem fusible_of_fusedWith? (got : Build.fusedWith? net p = some (link, type)) :
    Fusible net p link type := by
  simp only [Build.fusedWith?] at got
  split at got
  · cases got
  next isP =>
    split at got
    next first second ins w outlets inletsEq outletsEq =>
      have operands : ∃ first second, net.held .inlet p 0 = [first] ∧
          net.held .inlet p 1 = [second] :=
        ⟨first, second, by simp [held, Node.lets, inletsEq], by simp [held, Node.lets, inletsEq]⟩
      have leaves : net.held .outlet p 0 = [w] := by simp [held, Node.lets, outletsEq]
      split at got
      next isAdder =>
        rw [Option.bind_eq_bind, Option.bind_some] at got
        split at got
        next left right more out outs further sumInlets sumOutlets =>
          cases got
          exact ⟨by simpa using isP, operands, leaves, .inl ⟨by simpa using isAdder, rfl⟩,
            ⟨left, right, by simp [held, Node.lets, sumInlets], by simp [held, Node.lets, sumInlets]⟩,
            by simp [held, Node.lets, sumOutlets]⟩
        · cases got
      · split at got
        next isSubtracter =>
          rw [Option.bind_eq_bind, Option.bind_some] at got
          rw [Bool.and_eq_true, beq_iff_eq, beq_iff_eq] at isSubtracter
          split at got
          next left right more out outs further sumInlets sumOutlets =>
            cases got
            exact ⟨by simpa using isP, operands, leaves,
              .inr ⟨isSubtracter.1, isSubtracter.2, rfl⟩,
              ⟨left, right, by simp [held, Node.lets, sumInlets],
                by simp [held, Node.lets, sumInlets]⟩,
              by simp [held, Node.lets, sumOutlets]⟩
          · cases got
        · cases got
    · cases got

theorem Fusible.product_mem (fusible : Fusible net p link type) :
    (net.node p).type ∈ arithmeticTypes := by
  rw [fusible.isProduct]
  decide

theorem Fusible.sum_mem (fusible : Fusible net p link type) :
    (net.node link.target).type ∈ arithmeticTypes := by
  rcases fusible.isSum with ⟨type, -⟩ | ⟨type, -⟩
  · rw [type]
    decide
  · rw [type]
    decide

theorem eq_pair_of_length {α : Type} {lists : List (List α)} (length : lists.length = 2) :
    lists = [lists.getD 0 [], lists.getD 1 []] := by
  match lists, length with
  | [_, _], _ => rfl

theorem eq_singleton_of_length {α : Type} {lists : List (List α)} (length : lists.length = 1) :
    lists = [lists.getD 0 []] := by
  match lists, length with
  | [_], _ => rfl

theorem Fusible.fusedWith? (fusible : Fusible net p link type) (shaped : net.Shaped) :
    Build.fusedWith? net p = some (link, type) := by
  have isP := fusible.product_mem
  have isSum := fusible.sum_mem
  obtain ⟨first, second, left, right⟩ := fusible.operands
  obtain ⟨one, two, sumLeft, sumRight⟩ := fusible.terms
  have ins := eq_pair_of_length (shaped p isP).2.1
  have outlets := eq_singleton_of_length (shaped p isP).2.2
  have sumInlets := eq_pair_of_length (shaped link.target isSum).2.1
  have sumOutlets := eq_singleton_of_length (shaped link.target isSum).2.2
  obtain ⟨out, outs, used⟩ := exists_cons_of_ne_nil fusible.used
  simp only [held, Node.lets] at left right sumLeft sumRight used
  have leaves := fusible.leaves
  simp only [held, Node.lets] at leaves
  rw [left, right] at ins
  rw [leaves] at outlets
  rw [sumLeft, sumRight] at sumInlets
  rw [used] at sumOutlets
  rcases fusible.isSum with ⟨sumType, rfl⟩ | ⟨sumType, k, rfl⟩
  · simp [Build.fusedWith?, fusible.isProduct, ins, outlets, sumType, sumInlets, sumOutlets]
  · simp [Build.fusedWith?, fusible.isProduct, ins, outlets, sumType, sumInlets, sumOutlets, k]

theorem Nested.not_loop_of_single
    (nested : net.Nested ws loops) (one : net.held .inlet o place = [w]) :
    ∀ loop ∈ loops, ¬ loop.At .inlet o place := by
  intro loop inL put
  have mem : o < net.size := by
    rw [← show loop.target = o from put.1]
    exact (nested.looped loop inL).2.1
  have ok := nested.threaded.holds .inlet o (List.mem_range.mpr mem) place
  rw [one, twice, filter_add, filter_add] at ok
  have some : 0 < (loops.filter (Wire.At .inlet o place)).card :=
    card_pos_iff_exists_mem.mpr ⟨loop, mem_filter.mpr ⟨inL, put⟩⟩
  have n := congrArg Multiset.card ok
  rw [coe_card, card_add, card_add, length_singleton] at n
  omega

/-- Nothing is besides the wires at an object with two inlets that hold one wire each. -/
theorem Nested.free_of_single (nested : net.Nested ws loops)
    (ins : (net.node o).inlets.length = 2) (one : ∃ first second, net.held .inlet o 0 = [first] ∧
      net.held .inlet o 1 = [second]) : ∀ s, ∀ w ∈ twice loops s, w.object s ≠ o := by
  obtain ⟨first, second, left, right⟩ := one
  have none : ∀ loop ∈ loops, loop.target ≠ o := by
    rintro loop inL rfl
    obtain ⟨i, lt, k⟩ := (nested.looped loop inL).2.2
    rw [Node.lets, ins] at lt
    obtain rfl | rfl : i = 0 ∨ i = 1 := by omega
    · exact nested.not_loop_of_single left loop inL ⟨rfl, k⟩
    · exact nested.not_loop_of_single right loop inL ⟨rfl, k⟩
  intro s w besides
  cases s with
  | inlet =>
    rcases mem_add.mp besides with there | there
    · exact none w there
    · exact none w there
  | outlet => simp [twice] at besides

theorem at_iff_eq {other : Nat} (put : w.At s o i) : w.At s o other ↔ i = other := by
  refine ⟨fun here => ?_, fun eq => eq ▸ put⟩
  have eq := put.2.symm.trans here.2
  omega

theorem split_at_pair (sep : p ≠ sum) (proper : ∀ w ∈ ws, w.source ≠ w.target)
    (leads : ∀ w ∈ ws, w.source = p → w.target = sum)
    (oneWay : ∀ w ∈ ws, ¬ (w.source = sum ∧ w.target = p)) :
    ws = (ws.filter fun w => w.target = p) + ((ws.filter fun w => w.target = sum) +
        ((ws.filter fun w => w.source = sum) + ws.filter fun w => w.Avoids p ∧ w.Avoids sum)) := by
  have last : (ws.filter fun w => ¬ (w.target = p ∨ w.target = sum)) =
      (ws.filter fun w => w.source = sum) +
        ws.filter fun w => w.Avoids p ∧ w.Avoids sum := by
    apply filter_add_filter_of_disjoint
    · intro w inWs
      have one := leads w inWs
      have two := oneWay w inWs
      have three := proper w inWs
      unfold Wire.Avoids
      grind
    · rintro w - ⟨eq, -, avoids⟩
      exact avoids.1 eq
  have second : (ws.filter fun w => ¬ w.target = p) =
      (ws.filter fun w => w.target = sum) +
        ws.filter fun w => ¬ (w.target = p ∨ w.target = sum) := by
    apply filter_add_filter_of_disjoint
    · intro w _
      grind
    · rintro w - ⟨eq, neither⟩
      exact neither (.inr eq)
  rw [← last, ← second, filter_add_not]

theorem lt_size_of_type (type : (net.node o).type ∈ arithmeticTypes) : o < net.size :=
  lt_size_of_look Node.type fun eq => absurd (eq ▸ type) (by decide)

theorem Shaped.of_size (small : ∀ o < net.size, (net.node o).type ∈ arithmeticTypes →
    (net.node o).kind = .plain ∧ (net.node o).inlets.length = 2 ∧
      (net.node o).outlets.length = 1) : net.Shaped :=
  fun o arith => small o (lt_size_of_type arith) arith

theorem Nested.of_held_single (nested : net.Nested ws loops) (mem : o < net.size)
    (free : ∀ s, ∀ w ∈ twice loops s, w.object s ≠ o) (one : net.held s o place = [w]) :
    w ∈ ws ∧ w.At s o place := by
  have here := nested.threaded.coe_held (List.mem_range.mpr mem) free s place
  rw [one, coe_singleton] at here
  exact mem_filter.mp (here ▸ Multiset.mem_singleton_self w)

section Lets

variable {o : Ref} (nested : net.Nested ws loops) (shaped : net.Shaped)
  (arithmetic : (net.node o).type ∈ arithmeticTypes)
  (free : ∀ s, ∀ w ∈ twice loops s, w.object s ≠ o)
include nested shaped arithmetic free

theorem Nested.filter_target : (ws.filter fun w => w.target = o) =
    (net.held .inlet o 0 : Multiset Wire) + (net.held .inlet o 1 : Multiset Wire) := by
  have all := nested.threaded.coe_flatten (List.mem_range.mpr (lt_size_of_type arithmetic)) free
    .inlet
  have length : ((net.node o).lets .inlet).length = 2 := (shaped o arithmetic).2.1
  rw [eq_pair_of_length length, flatten_cons, flatten_singleton, ← coe_add] at all
  exact all.symm

theorem Nested.filter_source : (ws.filter fun w => w.source = o) =
    (net.held .outlet o 0 : Multiset Wire) := by
  have all := nested.threaded.coe_flatten (List.mem_range.mpr (lt_size_of_type arithmetic)) free
    .outlet
  have length : ((net.node o).lets .outlet).length = 1 := (shaped o arithmetic).2.2
  rw [eq_singleton_of_length length, flatten_singleton] at all
  exact all.symm

end Lets

section Fusible

variable (fusible : Fusible net p link type) (nested : net.Nested ws loops)
  (shaped : net.Shaped)
include fusible

include nested shaped

theorem Fusible.free_product : ∀ s, ∀ w ∈ twice loops s, w.object s ≠ p :=
  nested.free_of_single (shaped p fusible.product_mem).2.1 fusible.operands

theorem Fusible.free_sum : ∀ s, ∀ w ∈ twice loops s, w.object s ≠ link.target :=
  nested.free_of_single (shaped link.target fusible.sum_mem).2.1 fusible.terms

theorem Fusible.exists_pairing (unpaired : net.Unpaired ws) :
    ∃ first second addend base, Pairing p link.target ws first second link addend
        (net.held .outlet link.target 0) base ∧
      net.held .inlet p 0 = [first] ∧ net.held .inlet p 1 = [second] ∧
      ∃ y : Nat, Build.otherPlace link.inlet = y ∧ net.held .inlet link.target y = [addend] := by
  obtain ⟨first, second, left, right⟩ := fusible.operands
  obtain ⟨one, two, sumLeft, sumRight⟩ := fusible.terms
  have freeProduct := fusible.free_product nested shaped
  have freeSum := fusible.free_sum nested shaped
  have productInside := lt_size_of_type fusible.product_mem
  have sumInside := lt_size_of_type fusible.sum_mem
  have intoProduct := nested.filter_target shaped fusible.product_mem freeProduct
  have outOfProduct := nested.filter_source shaped fusible.product_mem freeProduct
  have intoSum := nested.filter_target shaped fusible.sum_mem freeSum
  have outOfSum := nested.filter_source shaped fusible.sum_mem freeSum
  rw [left, right] at intoProduct
  rw [fusible.leaves] at outOfProduct
  rw [sumLeft, sumRight] at intoSum
  have linkFacts : link ∈ ws ∧ link.source = p := by
    have mem : link ∈ ws.filter fun w => w.source = p := by
      rw [outOfProduct]
      exact Multiset.mem_singleton_self link
    exact mem_filter.mp mem
  have linkAt := (nested.of_held_single productInside freeProduct fusible.leaves).2
  have proper : ∀ w ∈ ws, w.source ≠ w.target := fun w inWs => (nested.threaded.fits w inWs).apart
  have sep : p ≠ link.target := by
    rw [← linkFacts.2]
    exact proper link linkFacts.1
  have oneWay : ∀ w ∈ ws, ¬ (w.source = link.target ∧ w.target = p) := by
    rintro w inWs ⟨src, tgt⟩
    refine unpaired link linkFacts.1 w inWs ?_ ?_ ⟨src, tgt.trans linkFacts.2.symm⟩
    · rw [linkFacts.2]
      exact fusible.isProduct
    · rcases fusible.isSum with ⟨type, -⟩ | ⟨type, -⟩
      · simp [type]
      · simp [type]
  have leads : ∀ w ∈ ws, w.source = p → w = link := by
    intro w inWs src
    have mem : w ∈ ws.filter fun w => w.source = p := mem_filter.mpr ⟨inWs, src⟩
    rw [outOfProduct] at mem
    simpa using mem
  have split := split_at_pair sep proper (fun w inWs src => by rw [leads w inWs src]) oneWay
  rw [intoProduct, intoSum, outOfSum] at split
  have avoids : ∀ w ∈ ws.filter fun w => w.Avoids p ∧ w.Avoids link.target,
      w.Avoids p ∧ w.Avoids link.target :=
    fun w inBase => (mem_filter.mp inBase).2
  generalize ws.filter (fun w => w.Avoids p ∧ w.Avoids link.target) = base
    at split avoids
  obtain ⟨firstThere, firstAt⟩ := nested.of_held_single productInside freeProduct left
  obtain ⟨secondThere, secondAt⟩ := nested.of_held_single productInside freeProduct right
  obtain ⟨oneThere, oneAt⟩ := nested.of_held_single sumInside freeSum sumLeft
  obtain ⟨twoThere, twoAt⟩ := nested.of_held_single sumInside freeSum sumRight
  have exit : ∀ out ∈ net.held .outlet link.target 0, out.At .outlet link.target 0 ∧
      out.target ≠ p ∧ out.target ≠ link.target := by
    intro out inO
    rw [← mem_coe, nested.threaded.coe_held (List.mem_range.mpr sumInside) freeSum] at inO
    obtain ⟨inWs, put⟩ := mem_filter.mp inO
    refine ⟨put, fun eq => oneWay out inWs ⟨put.1, eq⟩, fun eq => ?_⟩
    exact proper out inWs (show out.source = out.target from put.1.trans eq.symm)
  have operandFacts : ∀ w ∈ ws, w.target = p → w.source ≠ p ∧ w.source ≠ link.target := by
    intro w inWs tgt
    refine ⟨fun eq => proper w inWs (eq.trans tgt.symm), fun eq => ?_⟩
    exact oneWay w inWs ⟨eq, tgt⟩
  have termFacts : ∀ w ∈ ws, w.target = link.target → w ≠ link →
      w.source ≠ p ∧ w.source ≠ link.target := by
    intro w inWs tgt ne
    exact ⟨fun eq => ne (leads w inWs eq),
      fun eq => proper w inWs (eq.trans tgt.symm)⟩
  have sourceFacts : ∀ addend ∈ ws, addend.target = link.target → addend ≠ link →
      ∀ w ∈ [first, second, addend], w.source ≠ p ∧ w.source ≠ link.target := by
    intro addend mem tgt ne w listed
    simp only [List.mem_cons, not_mem_nil, or_false] at listed
    rcases listed with rfl | rfl | rfl
    · exact operandFacts _ firstThere firstAt.1
    · exact operandFacts _ secondThere secondAt.1
    · exact termFacts _ mem tgt ne
  have ne : one ≠ two := by
    rintro rfl
    have eq' : ((0 : Nat) : Int) = (1 : Nat) := oneAt.2.symm.trans twoAt.2
    exact absurd eq' (by decide)
  have which : link = one ∨ link = two := by
    have mem : link ∈ ws.filter fun w => w.target = link.target := mem_filter.mpr ⟨linkFacts.1, rfl⟩
    rw [intoSum] at mem
    simpa using mem
  simp only [coe_singleton, singleton_add, cons_add] at split
  -- the product goes to the first or the second inlet of the sum
  rcases which with rfl | rfl
  · exact ⟨first, second, two, base, ⟨split, sep, firstAt, secondAt, ⟨linkAt, rfl⟩,
      .inl ⟨oneAt.2, twoAt⟩, exit, sourceFacts two twoThere twoAt.1 ne.symm, avoids⟩,
      left, right, 1, by rw [show link.inlet = 0 from oneAt.2]; rfl, sumRight⟩
  · rw [cons_swap one] at split
    exact ⟨first, second, one, base, ⟨split, sep, firstAt, secondAt, ⟨linkAt, rfl⟩,
      .inr ⟨twoAt.2, oneAt⟩, exit, sourceFacts one oneThere oneAt.1 ne, avoids⟩,
      left, right, 0, by rw [show link.inlet = 1 from twoAt.2]; rfl, sumLeft⟩

end Fusible

section Pairing

variable {first second addend : Wire} {outs : List Wire} {base : Multiset Wire}
  (pairing : Pairing p sum ws first second link addend outs base)
include pairing

theorem Pairing.link_source : link.source = p :=
  pairing.linkAt.1.1

theorem Pairing.mem_wires : ∀ w ∈ [first, second, link, addend], w ∈ ws := by
  intro w mem
  rw [pairing.split]
  simp only [List.mem_cons, not_mem_nil, or_false] at mem
  simp only [Multiset.mem_cons]
  tauto

theorem Pairing.outs_subset : ∀ out ∈ outs, out ∈ ws := by
  intro out mem
  rw [pairing.split]
  simp [mem]

theorem Pairing.base_subset : ∀ w ∈ base, w ∈ ws := by
  intro w inBase
  rw [pairing.split]
  simp [inBase]

theorem Pairing.sum_inside (nested : net.Nested ws loops) (mem : net.Contains g p) :
    net.Contains g sum := by
  rw [← pairing.linkAt.2]
  exact nested.target_inside (pairing.mem_wires link (by simp)) (pairing.link_source ▸ mem)

end Pairing

def fusedWires (fused : Ref) (first second addend : Wire) (outs : List Wire)
    (base : Multiset Wire) : Multiset Wire :=
  { first with target := fused } ::ₘ { second with target := fused } ::ₘ
    { addend with target := fused, inlet := 2 } ::ₘ
      ((outs.map fun out => { out with source := fused } : List Wire) + base)

/-- A wire away from the new object is one that was away from the product and the sum. -/
theorem mem_base_of_mem_fusedWires
    (mem : w ∈ fusedWires fused first second addend outs base) (avoids : w.Avoids fused) :
    w ∈ base := by
  simp only [fusedWires, Multiset.mem_cons, mem_add, mem_coe, List.mem_map] at mem
  rcases mem with rfl | rfl | rfl | ⟨out, -, rfl⟩ | kept
  · exact absurd rfl avoids.2
  · exact absurd rfl avoids.2
  · exact absurd rfl avoids.2
  · exact absurd rfl avoids.1
  · exact kept

section Arrived

variable {R : Type} [AddCommMonoid R] {v worth : Ref → Int → R} {fused : Ref}
  {first second addend : Wire} {outs : List Wire} {base : Multiset Wire}
  (pairing : Pairing p sum ws first second link addend outs base)
include pairing

theorem Pairing.addend_target : addend.target = sum := by
  rcases pairing.places with ⟨-, put⟩ | ⟨-, put⟩
  · exact put.1
  · exact put.1

theorem Pairing.fusedWires_avoids (away : fused ≠ p ∧ fused ≠ sum) :
    ∀ w ∈ fusedWires fused first second addend outs base, w.Avoids p ∧ w.Avoids sum := by
  intro w hm
  have operand : ∀ moved : Wire, moved.target = fused → ∀ w ∈ [first, second, addend],
      moved.source = w.source → moved.Avoids p ∧ moved.Avoids sum := by
    intro moved tgt w mem src
    obtain ⟨notP, notS⟩ := pairing.sources w mem
    rw [Wire.Avoids, Wire.Avoids, src, tgt]
    exact ⟨⟨notP, away.1⟩, notS, away.2⟩
  simp only [fusedWires, Multiset.mem_cons, mem_add, mem_coe, List.mem_map]
    at hm
  rcases hm with rfl | rfl | rfl | ⟨out, mem, rfl⟩ | kept
  · exact operand _ rfl first (by simp) rfl
  · exact operand _ rfl second (by simp) rfl
  · exact operand _ rfl addend (by simp) rfl
  · obtain ⟨-, notP, notS⟩ := pairing.leaving out mem
    exact ⟨⟨away.1, notP⟩, away.2, notS⟩
  · exact pairing.avoids w kept

theorem Pairing.arrived_product (v : Ref → Int → R) : arrived v ws p 0 = first.brings v ∧
      arrived v ws p 1 = second.brings v := by
  have none : ∀ w ∈ link ::ₘ addend ::ₘ (outs + base), w.target ≠ p := by
    intro w mem
    simp only [Multiset.mem_cons, mem_add, mem_coe] at mem
    rcases mem with rfl | rfl | out | kept
    · exact pairing.linkAt.2 ▸ pairing.apart.symm
    · exact pairing.addend_target ▸ pairing.apart.symm
    · exact (pairing.leaving w out).2.1
    · exact (pairing.avoids w kept).1.2
  rw [pairing.split]
  simp [arrived_cons first, arrived_cons second, arrived_eq_zero none, at_iff_eq pairing.firstAt,
    at_iff_eq pairing.secondAt]

theorem Pairing.arrived_sum (v : Ref → Int → R) :
    link.inlet = 0 ∧ arrived v ws sum 0 = link.brings v ∧ arrived v ws sum 1 = addend.brings v ∨
      link.inlet = 1 ∧ arrived v ws sum 0 = addend.brings v ∧
        arrived v ws sum 1 = link.brings v := by
  have none : ∀ w ∈ (outs : Multiset Wire) + base, w.target ≠ sum := by
    intro w mem
    rcases mem_add.mp mem with out | kept
    · exact (pairing.leaving w out).2.2
    · exact (pairing.avoids w kept).2.2
  have operands : ∀ place, ¬ first.At .inlet sum place ∧ ¬ second.At .inlet sum place :=
    fun place => ⟨fun put => pairing.apart (pairing.firstAt.1.symm.trans put.1),
      fun put => pairing.apart (pairing.secondAt.1.symm.trans put.1)⟩
  rw [pairing.split]
  simp only [arrived_cons, operands, arrived_eq_zero none]
  refine pairing.places.imp ?_ ?_ <;> rintro ⟨k, put⟩
  · have linkAt : link.At .inlet sum 0 := ⟨pairing.linkAt.2, k⟩
    simp [at_iff_eq linkAt, at_iff_eq put, k]
  · have linkAt : link.At .inlet sum 1 := ⟨pairing.linkAt.2, k⟩
    simp [at_iff_eq linkAt, at_iff_eq put, k]

theorem Pairing.arrived_fused (worth : Ref → Int → R) (new : ∀ w ∈ ws, w.target ≠ fused) :
    arrived worth (fusedWires fused first second addend outs base) fused 0 = first.brings worth ∧
      arrived worth (fusedWires fused first second addend outs base) fused 1 = second.brings worth ∧
      arrived worth (fusedWires fused first second addend outs base) fused 2 = addend.brings worth ∧
      ∀ j > 2, arrived worth (fusedWires fused first second addend outs base) fused j = 0 := by
  have none : ∀ w ∈ ((outs.map fun out => { out with source := fused } : List Wire) :
      Multiset Wire) + base, w.target ≠ fused := by
    intro w hm
    rcases mem_add.mp hm with moved | kept
    · obtain ⟨out, mem, rfl⟩ := List.mem_map.mp (mem_coe.mp moved)
      exact new out (pairing.outs_subset out mem)
    · exact new w (pairing.base_subset w kept)
  have firstAt : ({ first with target := fused } : Wire).At .inlet fused 0 :=
    ⟨rfl, pairing.firstAt.2⟩
  have secondAt : ({ second with target := fused } : Wire).At .inlet fused 1 :=
    ⟨rfl, pairing.secondAt.2⟩
  have addendAt : ({ addend with target := fused, inlet := 2 } : Wire).At .inlet fused 2 :=
    ⟨rfl, rfl⟩
  simp only [fusedWires, arrived_cons, at_iff_eq firstAt, at_iff_eq secondAt, at_iff_eq addendAt,
    arrived_eq_zero none]
  refine ⟨by simp; rfl, by simp; rfl, by simp; rfl, fun j more => ?_⟩
  rw [if_neg (by omega), if_neg (by omega), if_neg (by omega), add_zero, add_zero, add_zero]

/-- Nothing else arrives at another object, if the new object has the value of the sum. -/
theorem Pairing.arrived_old {slot : Nat} (notP : ref ≠ p)
    (notS : ref ≠ sum) (notFused : ref ≠ fused)
    (moves : ∀ outlet, worth fused outlet = v sum outlet)
    (stays : ∀ w ∈ base, ∀ outlet, worth w.source outlet = v w.source outlet) :
    arrived worth (fusedWires fused first second addend outs base) ref slot =
      arrived v ws ref slot := by
  have away : ∀ w ∈ [first, second, link, addend], ¬ w.At .inlet ref slot := by
    intro w mem put
    have target : w.target = ref := put.1
    simp only [List.mem_cons, not_mem_nil, or_false] at mem
    rcases mem with rfl | rfl | rfl | rfl
    · exact notP (target.symm.trans pairing.firstAt.1)
    · exact notP (target.symm.trans pairing.secondAt.1)
    · exact notS (target.symm.trans pairing.linkAt.2)
    · exact notS (target.symm.trans pairing.addend_target)
  have moved : arrived worth ((outs.map fun out => { out with source := fused } : List Wire) :
      Multiset Wire) ref slot = arrived v (outs : Multiset Wire) ref slot := by
    rw [← map_coe]
    refine arrived_map (fun _ _ => rfl) (fun _ _ => Iff.rfl) ?_
    intro out mem
    have source : out.source = sum := (pairing.leaving out (mem_coe.mp mem)).1.1
    rw [moves, source]
  simp only [List.forall_mem_cons] at away
  rw [pairing.split, fusedWires]
  simp only [arrived_cons, arrived_add, away, moved, arrived_congr fun w hm => stays w hm w.outlet]
  simp [Wire.At, Wire.object, notFused.symm]

end Arrived

theorem Pairing.card_at_old
    (pairing : Pairing p sum ws first second link addend outs base) (s : Side)
    (notP : ref ≠ p) (notS : ref ≠ sum) (notFused : ref ≠ fused) :
    ((fusedWires fused first second addend outs base).filter (Wire.At s ref place)).card =
      (ws.filter (Wire.At s ref place)).card := by
  have notFirst : first.target ≠ ref := fun eq => notP (eq.symm.trans pairing.firstAt.1)
  have notSecond : second.target ≠ ref := fun eq => notP (eq.symm.trans pairing.secondAt.1)
  have notAddend : addend.target ≠ ref := fun eq => notS (eq.symm.trans pairing.addend_target)
  rw [pairing.split, fusedWires]
  simp only [← countP_eq_card_filter, Multiset.countP_cons, countP_add]
  cases s with
  | inlet =>
    have notLink : link.target ≠ ref := fun eq => notS (eq.symm.trans pairing.linkAt.2)
    have moved : ((outs.map fun out => { out with source := fused } : List Wire) :
        Multiset Wire).countP (Wire.At .inlet ref place) =
          (outs : Multiset Wire).countP (Wire.At .inlet ref place) := by
      rw [← map_coe, Multiset.countP_map, countP_eq_card_filter]
      rfl
    simp [moved, Wire.At, Wire.object, notFirst, notSecond, notAddend, notLink, notFused.symm]
  | outlet =>
    have notLink : link.source ≠ ref := fun eq => notP (eq.symm.trans pairing.link_source)
    have moved : ((outs.map fun out => { out with source := fused } : List Wire) :
        Multiset Wire).countP (Wire.At .outlet ref place) = 0 := by
      refine Multiset.countP_eq_zero.mpr fun w mem put => ?_
      obtain ⟨out, -, rfl⟩ := List.mem_map.mp (mem_coe.mp mem)
      exact notFused put.1.symm
    have left : (outs : Multiset Wire).countP (Wire.At .outlet ref place) = 0 :=
      Multiset.countP_eq_zero.mpr fun w mem put =>
        notS (put.1.symm.trans (pairing.leaving w (mem_coe.mp mem)).1.1)
    simp [moved, left, Wire.At, Wire.object, Wire.index, notLink]
    rfl

/-- A product and a sum in a graph have been replaced by one object. -/
structure Melded (net : Net) (g p sum : Ref) (type : String) (loops : Multiset Wire)
    (last : Net) (new : Multiset Wire) : Prop where
  size : last.size = net.size + 1
  nested : last.Nested new loops
  own : (last.node net.size).bare = ((Node.plain type [] 3 1 net.size).inGraph g).bare
  old : ∀ ref < net.size, (last.node ref).bare = (net.node ref).bare
  contents : last.contents g = ((net.contents g ++ [net.size]).erase p).erase sum
  others : ∀ ref ≠ g, last.contents ref = net.contents ref
  spares : Spares (Wire.Meets p sum net.size) net last

/-- Of the wires after all moves those are left that avoid the product and the sum. -/
theorem Pairing.filter_avoids {outgoing : List Wire}
    (pairing : Pairing p sum ws first second link addend outs base)
    (away : fused ≠ p ∧ fused ≠ sum) (eq : outgoing.Perm outs) :
    (((outgoing.map fun out => { out with source := fused } : List Wire) +
      ({ addend with target := fused, inlet := 2 } ::ₘ { second with target := fused } ::ₘ
        { first with target := fused } ::ₘ link ::ₘ (outs + base))).filter
          (Wire.Avoids p)).filter (Wire.Avoids sum) =
      fusedWires fused first second addend outs base := by
  have moved : ∀ w ∈ [first, second, addend], ∀ inlet : Int,
      ({ w with target := fused, inlet := inlet } : Wire).Avoids sum ∧
        ({ w with target := fused, inlet := inlet } : Wire).Avoids p := by
    intro w mem inlet
    obtain ⟨notP, notS⟩ := pairing.sources w mem
    exact ⟨⟨notS, away.2⟩, notP, away.1⟩
  have exit : ∀ w ∈ ((outgoing.map fun out => { out with source := fused } : List Wire) :
      Multiset Wire), w.Avoids sum ∧ w.Avoids p := by
    intro w hm
    obtain ⟨out, mem, rfl⟩ := List.mem_map.mp (mem_coe.mp hm)
    obtain ⟨-, notP, notS⟩ := pairing.leaving out (eq.subset mem)
    exact ⟨⟨away.2, notS⟩, away.1, notP⟩
  have gone : ∀ w ∈ (outs : Multiset Wire), ¬ (w.Avoids sum ∧ w.Avoids p) := by
    rintro w hm ⟨avoids, -⟩
    exact avoids.1 (pairing.leaving w (mem_coe.mp hm)).1.1
  have stays : ∀ w ∈ base, w.Avoids sum ∧ w.Avoids p := fun w hm => (pairing.avoids w hm).symm
  have perm : ((outgoing.map fun out => ({ out with source := fused } : Wire) : List Wire) :
      Multiset Wire) = (outs.map fun out => { out with source := fused } : List Wire) :=
    coe_eq_coe.mpr (eq.map _)
  have linkGone : ¬ link.Avoids p := fun avoids => avoids.1 pairing.linkAt.1.1
  simp only [List.forall_mem_cons] at moved
  rw [Multiset.filter_filter, filter_add, filter_eq_self.mpr exit, perm, fusedWires]
  simp only [Multiset.filter_cons_of_pos, Multiset.filter_cons_of_neg, moved, linkGone, and_self,
    and_false, not_false_eq_true, filter_add, filter_eq_nil.mpr gone, filter_eq_self.mpr stays,
    zero_add, add_cons]
  rw [cons_swap _ ({ first with target := fused } : Wire),
    cons_swap _ ({ first with target := fused } : Wire),
    cons_swap _ ({ second with target := fused } : Wire)]

/-- What leaves the sum is still to be led elsewhere when the operands have been. -/
theorem Pairing.filter_leaving (pairing : Pairing p sum ws first second link addend outs base)
    (fused : Ref) :
    ({ addend with target := fused, inlet := 2 } ::ₘ { second with target := fused } ::ₘ
        { first with target := fused } ::ₘ link ::ₘ (outs + base)).filter (Wire.At .outlet sum 0) =
      ws.filter (Wire.At .outlet sum 0) := by
  have sources := pairing.sources
  simp only [List.forall_mem_cons] at sources
  rw [pairing.split]
  simp [Wire.At, Wire.object, sources, pairing.link_source, pairing.apart]

/-- Wires have been led elsewhere, and the others are as they were. -/
structure Staged (net : Net) (touched : Wire → Prop) (loops ws : Multiset Wire) (last : Net) :
    Prop where
  alike : Alike Node.unwired net last
  nested : last.Nested ws loops
  spares : Spares touched net last

theorem Nested.held_perm {new : Multiset Wire}
    (nested : net.Nested ws loops) (post : last.Nested new loops) (mem : ref < net.size)
    (size : last.size = net.size)
    (eq : new.filter (Wire.At s ref i) = ws.filter (Wire.At s ref i)) :
    (last.held s ref i).Perm (net.held s ref i) := by
  have pre := nested.threaded.holds s ref (List.mem_range.mpr mem) i
  have after := post.threaded.holds s ref (List.mem_range.mpr (size ▸ mem)) i
  rw [filter_add, eq, ← filter_add, ← pre] at after
  exact coe_eq_coe.mp after

end Net

namespace Build

open Net

variable {net cur : Net} {g p sum fused : Ref} {ws loops : Multiset Wire}
  {touched : Wire → Prop} {w : Wire}

theorem run_fetch_held (lt : i < ((net.node ref).lets s).length) (other : Net) :
    (fetch ((net.node ref).lets s) (i : Int)).run other = .ok (net.held s ref i) other := by
  refine run_fetch ?_ other
  rw [at?, place?_ofNat lt, Option.bind_some, held, getD_eq_getElem?_getD,
    List.getElem?_eq_getElem lt]
  rfl

theorem ends_leadStage (j : Nat) (staged : Staged net touched loops (w ::ₘ ws) cur)
    (old : touched w) (new : touched { w with target := fused, inlet := j })
    (src : net.Contains g w.source) (mem : net.Contains g fused)
    (sep : w.source ≠ fused) (lt : j < ((net.node fused).lets .inlet).length) :
    Ends (rewire (some w) [{ w with target := fused, inlet := j }]) cur fun _ last =>
      Staged net touched loops ({ w with target := fused, inlet := j } ::ₘ ws) last := by
  have alike := staged.alike
  apply Ends.mono (ends_lead j staged.nested sep (alike.unwired_contains.mpr src)
    (alike.unwired_contains.mpr mem) (by rw [alike.unwired_length]; exact lt))
  rintro _ last ⟨done, nested⟩
  refine ⟨alike.trans done.alike, nested, staged.spares.trans (done.spares.mono ?_)⟩
  intro y listed
  rcases List.mem_cons.mp listed with rfl | listed
  · exact old
  · rw [List.mem_singleton.mp listed]
    exact new

theorem ends_leaveStage (staged : Staged net touched loops ws cur)
    (new : ∀ out ∈ outs, touched { out with source := fused })
    (targets : ∀ out ∈ outs, net.Contains g out.target ∧ out.target ≠ fused ∧ out.outlet = 0 ∧
      ∃ place < ((net.node out.target).lets .inlet).length, out.inlet = place)
    (hm : net.Contains g fused) (lt : 0 < ((net.node fused).lets .outlet).length) :
    Ends (forIn outs PUnit.unit fun out _ => do
      connect { out with source := fused }
      pure (ForInStep.yield PUnit.unit)) cur fun _ last =>
        Staged net touched loops
          ((outs.map fun out => { out with source := fused } : List Wire) + ws) last := by
  apply Ends.mono (Ends.forIn (fun done _ last => Staged net touched loops
    ((done.map fun out => { out with source := fused } : List Wire) + ws) last) ?_ ?_)
  · exact fun _ _ done => done
  · simpa using staged
  · intro done out post _ mid split pre
    have mem : out ∈ outs := by simp [split]
    obtain ⟨tgt, sep, outlet, place, less, k⟩ := targets out mem
    have alike := pre.alike
    have lengths := alike.unwired_length
    apply Ends.bind (show Ends (connect { out with source := fused }) mid _ from
      ends_join pre.nested sep.symm (alike.unwired_contains.mpr hm)
        (alike.unwired_contains.mpr tgt) ⟨0, lengths .. ▸ lt, outlet⟩ ⟨place, lengths .. ▸ less, k⟩)
    rintro _ last ⟨joined, nested⟩
    refine .pure ⟨PUnit.unit, rfl, alike.trans joined.alike, ?_, pre.spares.trans
      (joined.spares.mono ?_)⟩
    · have front : ((((done ++ [out]).map fun out => { out with source := fused }) : List Wire) :
          Multiset Wire) + ws = ({ out with source := fused } : Wire) ::ₘ
            ((done.map fun out => { out with source := fused } : List Wire) + ws) := by
        rw [map_append, ← coe_add, List.map_singleton, coe_singleton,
          add_comm (_ : Multiset Wire) {_}, add_assoc, singleton_add]
      rw [front]
      exact nested
    · rintro _ rfl
      exact new out mem

theorem ends_removeArithmetic (nested : net.Nested ws loops) (mem : net.Contains g o)
    (free : ∀ s, ∀ w ∈ twice loops s, w.object s ≠ o)
    (arithmetic : (net.node o).type ∈ arithmeticTypes) : Ends (remove g o) net fun _ last =>
      Dropped net g o (List.range net.size) ws (twice loops) last := by
  have mute : isMailbox (net.node o).type = false := by
    simp only [arithmeticTypes, List.mem_cons, not_mem_nil, or_false] at arithmetic
    rcases arithmetic with type | type | type
    all_goals
      rw [type]
      decide
  exact ends_drop nested.threaded (List.mem_range.mpr (nested.lt_size mem.2)) free nested.near
    (lt_size_of_isGraph mem.1) mute

/-- An operand is read at a let that still holds it, and led to the new object. -/
theorem ends_takeOperand (place j : Nat) {o : Ref} {more : Multiset Wire} {move : Wire → Wire}
    {next : Build Unit} {post : Unit → Net → Prop} (nested : net.Nested ws loops)
    (staged : Staged net (Wire.Meets p sum fused) loops (w ::ₘ more) cur)
    (held : net.held .inlet o place = [w]) (same : (w ::ₘ more).filter (Wire.At .inlet o place) =
      ws.filter (Wire.At .inlet o place)) (moved : move w = { w with target := fused, inlet := j })
    (meets : w.Meets p sum fused) (src : net.Contains g w.source ∧ w.source ≠ fused)
    (inside : net.Contains g fused) (few : j < ((net.node fused).lets .inlet).length)
    (rest : ∀ last, Staged net (Wire.Meets p sum fused) loops (move w ::ₘ more) last →
      Ends next last post) :
    Ends (do
      let operand ← fetch (← fetch (← node o).inlets place) 0
      rewire (some operand) [move operand]
      next) cur post := by
  obtain ⟨there, lt⟩ := lt_of_mem_held (held ▸ List.mem_singleton_self w)
  have read : cur.held .inlet o place = [w] := by
    have perm := nested.held_perm staged.nested there staged.alike.1 same
    rw [held] at perm
    exact perm_singleton.mp perm
  rw [moved] at rest
  apply Ends.at_node
  apply Ends.bind_run (read ▸ run_fetch_held (staged.alike.unwired_length _ _ ▸ lt) cur)
  apply Ends.bind_run (run_fetch rfl _)
  rw [moved]
  exact .bind (ends_leadStage j staged meets (fun avoids => avoids.2.2.2 rfl) src.1 inside src.2 few)
    fun _ => rest

/-- The new object takes the operands of the product and the other operand of the sum. -/
theorem ends_takeOperands {sum : Ref} {link : Wire}
    {other : Nat} {next : Build Unit} {post : Unit → Net → Prop}
    (nested : net.Nested ws loops) (pairing : Pairing p sum ws first second link addend outs base)
    (left : net.held .inlet p 0 = [first]) (right : net.held .inlet p 1 = [second])
    (third : net.held .inlet sum other = [addend])
    (fusedInside : net.Contains g fused) (slots : ((net.node fused).lets .inlet).length = 3)
    (srcs : ∀ w ∈ [first, second, addend], net.Contains g w.source ∧ w.source ≠ fused)
    (away : fused ≠ p ∧ fused ≠ sum) (rest : ∀ last, Staged net (Wire.Meets p sum fused) loops
      ({ addend with target := fused, inlet := 2 } ::ₘ { second with target := fused } ::ₘ
        { first with target := fused } ::ₘ link ::ₘ (outs + base)) last → Ends next last post) :
    Ends (do
      for place in [0, 1] do
        let operand ← fetch (← fetch (← node p).inlets place) 0
        rewire (some operand) [{ operand with target := fused }]
      let addend ← fetch (← fetch (← node sum).inlets other) 0
      rewire (some addend) [{ addend with target := fused, inlet := 2 }]
      next) net post := by
  have gone : ∀ (moved : Wire) (o : Ref) (place : Nat), moved.target = fused → fused ≠ o →
      ¬ moved.At .inlet o place :=
    fun moved o place target ne put => ne (target.symm.trans put.1)
  have operands : ∀ w : Wire, w.target = p → ¬ w.At .inlet sum other :=
    fun w target put => pairing.apart (target.symm.trans put.1)
  simp only [forIn_cons, forIn_nil, LawfulMonad.bind_assoc, pure_bind]
  apply ends_takeOperand 0 0 nested ⟨.refl _ net, pairing.split ▸ nested, .refl _ net⟩ left
    (by rw [← pairing.split]) (by rw [show first.inlet = (0 : Nat) from pairing.firstAt.2])
    (fun avoids => avoids.1.2 pairing.firstAt.1) (srcs first (by simp)) fusedInside
    (slots ▸ by decide)
  intro mid one
  rw [cons_swap] at one
  apply ends_takeOperand 1 1 nested one right
    (by rw [pairing.split, cons_swap second, filter_cons_of_neg _ (gone _ p 1 rfl away.1),
      filter_cons_of_neg _ (mt (at_iff_eq pairing.firstAt).mp (by decide))])
    (by rw [show second.inlet = (1 : Nat) from pairing.secondAt.2])
    (fun avoids => avoids.1.2 pairing.secondAt.1) (srcs second (by simp)) fusedInside
    (slots ▸ by decide)
  intro later two
  rw [cons_swap link addend, cons_swap _ addend, cons_swap _ addend] at two
  apply ends_takeOperand other 2 nested two third
    (by rw [cons_swap addend, cons_swap addend, cons_swap addend, pairing.split,
      filter_cons_of_neg _ (gone _ sum other rfl away.2),
      filter_cons_of_neg _ (gone _ sum other rfl away.2),
      filter_cons_of_neg _ (operands first pairing.firstAt.1),
      filter_cons_of_neg _ (operands second pairing.secondAt.1)])
    rfl (fun avoids => avoids.2.1.2 pairing.addend_target) (srcs addend (by simp)) fusedInside
    (slots ▸ by decide)
  exact rest

theorem ends_removePair (nested : net.Nested ws loops) (sep : p ≠ sum)
    (mem : ∀ o ∈ [p, sum], net.Contains g o) (free : ∀ o ∈ [p, sum], ∀ s, ∀ w ∈ twice loops s,
      w.object s ≠ o) (arithmetic : ∀ o ∈ [p, sum], (net.node o).type ∈ arithmeticTypes) :
    Ends (do
      for o in [p, sum] do
        match (← node o).parent with
        | some up => remove up o
        | none => throw (.noMember "an object is in no graph")) net fun _ last =>
      Alike Node.bare net last ∧
      last.Nested ((ws.filter (Wire.Avoids p)).filter (Wire.Avoids sum)) loops ∧
      last.contents g = ((net.contents g).erase p).erase sum ∧
      (∀ ref ≠ g, last.contents ref = net.contents ref) ∧
      Spares (fun w => ¬ (w.Avoids p ∧ w.Avoids sum)) net last := by
  simp only [forIn_cons, forIn_nil, LawfulMonad.bind_assoc]
  apply Ends.at_node
  rw [nested.parents g p (mem p (by simp))]
  simp only [LawfulMonad.bind_assoc, pure_bind]
  apply Ends.bind (ends_removeArithmetic nested (mem p (by simp)) (free p (by simp))
    (arithmetic p (by simp)))
  intro _ mid one
  obtain ⟨nestedMiddle, cs, ys⟩ := nested.dropped one
  have stays : mid.Contains g sum := by
    refine ⟨(one.alike.look Node.isGraph rfl).trans (mem sum (by simp)).1, ?_⟩
    rw [cs]
    exact (List.mem_erase_of_ne sep.symm).mpr (mem sum (by simp)).2
  apply Ends.at_node
  rw [nestedMiddle.parents g sum stays]
  simp only [LawfulMonad.bind_assoc, pure_bind]
  have type : (mid.node sum).type = (net.node sum).type := one.alike.look Node.type rfl
  apply Ends.bind (ends_removeArithmetic nestedMiddle stays (free sum (by simp))
    (type ▸ arithmetic sum (by simp)))
  intro _ last two
  obtain ⟨nestL, contentsLast, othersLast⟩ := nestedMiddle.dropped two
  refine .pure ⟨one.alike.trans two.alike, nestL, by rw [contentsLast, cs],
    fun ref ne => (othersLast ref ne).trans (ys ref ne),
    (one.spares.mono ?_).trans (two.spares.mono ?_)⟩
  · exact fun w meets avoids => meets avoids.1
  · exact fun w meets avoids => meets avoids.2

theorem ends_fuse {link : Wire} {type : String} (nested : net.Nested ws loops)
    (shaped : net.Shaped) (unpaired : net.Unpaired ws)
    (fusible : Fusible net p link type) (hm : net.Contains g p) :
    Ends (fuse g p link type) net fun _ last => ∃ first second addend outs base,
      Pairing p link.target ws first second link addend outs base ∧
      Melded net g p link.target type loops last
        (fusedWires net.size first second addend outs base) := by
  obtain ⟨first, second, addend, base, pairing, left, right, y, otherEq, third⟩ :=
    fusible.exists_pairing nested shaped unpaired
  have hin := pairing.mem_wires
  have outThere := pairing.outs_subset
  have sumInside := pairing.sum_inside nested hm
  have bothInside : ∀ o ∈ [p, link.target], net.Contains g o :=
    forall_mem_cons.mpr ⟨hm, forall_mem_singleton.mpr sumInside⟩
  have arithmetic : ∀ o ∈ [p, link.target], (net.node o).type ∈ arithmeticTypes :=
    forall_mem_cons.mpr ⟨fusible.product_mem, forall_mem_singleton.mpr fusible.sum_mem⟩
  have free : ∀ o ∈ [p, link.target], ∀ s, ∀ w ∈ twice loops s, w.object s ≠ o :=
    forall_mem_cons.mpr ⟨fusible.free_product nested shaped,
      forall_mem_singleton.mpr (fusible.free_sum nested shaped)⟩
  have sourceInside : ∀ (w : Wire) (o : Ref), w ∈ ws → w.target = o →
      net.Contains g o → net.Contains g w.source := by
    rintro w _ inWs rfl holds
    exact nested.source_inside inWs holds
  have srcs : ∀ w ∈ [first, second, addend], net.Contains g w.source := by
    intro w mem
    simp only [List.mem_cons, not_mem_nil, or_false] at mem
    rcases mem with rfl | rfl | rfl
    · exact sourceInside _ p (hin _ (by simp)) pairing.firstAt.1 hm
    · exact sourceInside _ p (hin _ (by simp)) pairing.secondAt.1 hm
    · exact sourceInside _ _ (hin _ (by simp)) pairing.addend_target sumInside
  obtain ⟨made, quiet⟩ : (makePlain type []).run net =
      .ok net.size (net.push (.plain type [] 3 1 net.size)) ∧ type ∈ quietTypes := by
    rcases fusible.isSum with ⟨-, rfl⟩ | ⟨-, -, rfl⟩
    · exact ⟨run_makePlain rfl rfl rfl rfl net, by decide⟩
    · exact ⟨run_makePlain rfl rfl rfl rfl net, by decide⟩
  apply ends_birth nested hm.1 made quiet
  intro begun born nestedBegun
  have contains : ∀ ref sub, begun.Contains ref sub ↔
      net.Contains ref sub ∨ ref = g ∧ sub = net.size :=
    fun _ _ => born.contains_iff hm.1
  have older : ∀ o, net.Contains g o → o ≠ net.size := fun o holds => (nested.lt_size holds.2).ne
  have slots : ((begun.node net.size).lets .inlet).length = 3 := by
    rw [born.own]
    rfl
  have exit : ((begun.node net.size).lets .outlet).length = 1 := by
    rw [born.own]
    rfl
  have away : net.size ≠ p ∧ net.size ≠ link.target := ⟨(older p hm).symm, (older _ sumInside).symm⟩
  rw [otherEq]
  apply ends_takeOperands nestedBegun pairing ((born.held_eq _ _ _).trans left)
    ((born.held_eq _ _ _).trans right) ((born.held_eq _ _ _).trans third)
    ((contains _ _).mpr (.inr ⟨rfl, rfl⟩)) slots
    (fun w mem => ⟨(contains _ _).mpr (.inl (srcs w mem)),
      older _ (srcs w mem)⟩) away
  intro led staged
  have outletBound : 0 < ((led.node link.target).lets .outlet).length := by
    rw [staged.alike.unwired_length, born.lets (nested.lt_size sumInside.2)]
    exact (shaped _ fusible.sum_mem).2.2 ▸ Nat.one_pos
  have outgoing : (led.held .outlet link.target 0).Perm (net.held .outlet link.target 0) := by
    have perm := nestedBegun.held_perm staged.nested (born.size ▸ Nat.lt_succ_of_lt
      (nested.lt_size sumInside.2)) staged.alike.1 (pairing.filter_leaving net.size)
    rwa [born.held_eq] at perm
  apply Ends.at_node
  apply Ends.bind_run (run_fetch_held outletBound led)
  apply Ends.bind (ends_leaveStage staged ?_ ?_ ((contains _ _).mpr (.inr ⟨rfl, rfl⟩))
    (by rw [exit]; exact Nat.one_pos))
  · intro _ led done
    have alike := done.alike
    have view : ∀ o, net.Contains g o → led.Contains g o :=
      fun o holds => alike.unwired_contains.mpr ((contains _ _).mpr (.inl holds))
    have types : ∀ o, net.Contains g o → (led.node o).type = (net.node o).type := by
      intro o holds
      rw [alike.look Node.type rfl]
      by_cases eq : o = g
      · rw [eq, born.graph]
        rfl
      · rw [born.others o (nested.lt_size holds.2) eq]
    apply Ends.mono (ends_removePair done.nested pairing.apart
      (fun o mem => view o (bothInside o mem)) free
      (fun o mem => types o (bothInside o mem) ▸ arithmetic o mem))
    rintro _ last ⟨bare, nestL, contentsLast, ys, spares⟩
    rw [pairing.filter_avoids away outgoing] at nestL
    have still : ∀ ref, (last.node ref).bare = (begun.node ref).bare :=
      fun ref => (bare.2 ref).trans (alike.look Node.bare (funext Node.bare_unwired))
    refine ⟨first, second, addend, _, base, pairing, ?_, nestL, ?_, ?_, ?_, ?_, ?_⟩
    · rw [bare.1, alike.1, born.size]
    · rw [still, born.own]
    · intro ref lt
      rw [still]
      by_cases eq : ref = g
      · rw [eq, born.graph]
        rfl
      · rw [born.others ref lt eq]
    · rw [contentsLast, alike.unwired_contents, born.contents_graph]
    · intro ref ne
      rw [ys ref ne, alike.unwired_contents, born.contents_ne ne]
    · refine (born.spares.trans done.spares).trans (spares.mono ?_)
      exact fun w meets avoids => meets ⟨avoids.1, avoids.2.1⟩
  · intro out mem avoids
    exact avoids.2.2.1 rfl
  · intro out mem
    have old := outgoing.subset mem
    obtain ⟨put, notP, notS⟩ := pairing.leaving out old
    have tgt : net.Contains g out.target :=
      nested.target_inside (outThere out old) (show net.Contains g (out.object .outlet) from
        put.1.symm ▸ sumInside)
    refine ⟨(contains _ _).mpr (.inl tgt), older _ tgt, put.2, ?_⟩
    rw [born.lets (nested.lt_size tgt.2)]
    exact (nested.threaded.fits out (outThere out old)).bound .inlet

end Build

end PatchCompiler
