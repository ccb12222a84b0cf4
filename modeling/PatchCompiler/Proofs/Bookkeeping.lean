import PatchCompiler.Proofs.Effects
import PatchCompiler.Proofs.Entering

/-!
# The two ends of a wire

A wire is noted at both its ends, by steps that each change one end. Whatever is added, removed,
connected, disconnected and replaced in a graph, the two ends agree as long as no call fails.
-/

namespace PatchCompiler

open List Multiset

namespace Net

def Lists (net : Net) (side : Side) (bag : Multiset Wire) : Prop :=
  ∀ ref slot, (net.held side ref slot : Multiset Wire) = bag.filter (net.Meets side ref slot)

variable {net last : Net} {side : Side} {wire : Wire} {i : Nat} {f : List Wire → List Wire}
  {bag : Multiset Wire} {new : List Wire}

namespace Lists

theorem congr (lists : net.Lists side bag)
    (held : ∀ ref j, last.held side ref j = net.held side ref j)
    (eq : ∀ wire ∈ bag, last.letOf side wire = net.letOf side wire) : last.Lists side bag := by
  intro ref j
  rw [held, lists ref j]
  apply Multiset.filter_congr
  intro wire inBag
  rw [Meets, Meets, eq wire inBag]

theorem keeps (lists : net.Lists side bag) {other : Side} (edited : Edited net other wire f last)
    (ne : side ≠ other) : last.Lists side bag := by
  apply lists.congr
  · intro ref j
    rw [edited.held, if_neg fun both => ne both.1]
  · exact fun w _ => edited.alike.letOf side w

theorem mem (lists : net.Lists side bag)
    (pres : wire ∈ net.held side (wire.object side) i) : wire ∈ bag := by
  rw [← mem_coe, lists] at pres
  exact (mem_filter.mp pres).1

variable (lists : net.Lists side bag)
include lists

theorem append (appended : Appended net side new last) : last.Lists side (new + bag) := by
  intro ref j
  rw [appended.here, ← Multiset.coe_add, lists, ← Multiset.filter_coe, Multiset.filter_add,
    Multiset.add_comm]
  simp only [appended.alike.meets]

theorem substitute (edited : Edited net side wire f last) (met : net.letOf side wire = some i)
    (pres : wire ∈ net.held side (wire.object side) i) (effect : ∀ list : List Wire, wire ∈ list →
      (f list : Multiset Wire) = new + (list : Multiset Wire).erase wire)
    (shared : ∀ w ∈ new, w.object side = wire.object side ∧
      w.index side = wire.index side) : last.Lists side (new + bag.erase wire) := by
  have along : ∀ ref j, ∀ w ∈ new, net.Meets side ref j w ↔ net.Meets side ref j wire := by
    intro ref j w inN
    rcases shared w inN with ⟨sameObject, sameIndex⟩
    rw [Meets, Meets, letOf, letOf, sameObject, sameIndex]
  obtain ⟨rest, rfl⟩ := exists_cons_of_mem (lists.mem pres)
  rw [Multiset.erase_cons_head]
  intro ref j
  rw [edited.held, filter_add]
  simp only [edited.alike.meets]
  by_cases meets : net.Meets side ref j wire
  · have eq : ref = wire.object side ∧ j = i := by
      obtain ⟨rfl, place⟩ := meets
      rw [met] at place
      exact ⟨rfl, (Option.some.inj place).symm⟩
    obtain ⟨rfl, rfl⟩ := eq
    have all : (new : Multiset Wire).filter (net.Meets side (wire.object side) j) = new :=
      filter_eq_self.mpr fun w inN =>
        (along _ _ w (mem_coe.mp inN)).mpr meets
    rw [if_pos ⟨trivial, meets⟩, effect _ pres, lists, filter_cons_of_pos _ meets,
      Multiset.erase_cons_head, all]
  · have none : (new : Multiset Wire).filter (net.Meets side ref j) = 0 :=
      filter_eq_nil.mpr fun w inN there =>
        meets ((along _ _ w (mem_coe.mp inN)).mp there)
    rw [if_neg fun both => meets both.2, lists, none, Multiset.zero_add,
      filter_cons_of_neg _ meets]

theorem detach (edited : Edited net side wire (·.erase wire) last)
    (pres : ∃ i, wire ∈ net.held side (wire.object side) i) : last.Lists side (bag.erase wire) := by
  obtain ⟨i, mem⟩ := pres
  have met : net.Meets side (wire.object side) i wire := by
    rw [← Multiset.mem_coe, lists] at mem
    exact (Multiset.mem_filter.mp mem).2
  have erased : ∀ list : List Wire, wire ∈ list → (list.erase wire : Multiset Wire) =
      ([] : List Wire) + (list : Multiset Wire).erase wire := by
    intro list _
    rw [Multiset.coe_nil, Multiset.zero_add, Multiset.coe_erase]
  have done := lists.substitute edited met.2 mem erased nofun
  rwa [Multiset.coe_nil, Multiset.zero_add] at done

end Lists

end Net

namespace Net

def Joins (net : Net) (graph : Ref) (wire : Wire) : Prop :=
  wire.source ≠ wire.target ∧ ∀ side, wire.object side ∈ net.contents graph

/-- The given wires are between objects of a graph, and every let of the net holds those of them that
end there and no other. -/
structure Booked (net : Net) (graph : Ref) (bag : Multiset Wire) : Prop where
  aside : graph ∉ net.contents graph
  joins : ∀ wire ∈ bag, net.Joins graph wire
  placed : ∀ wire ∈ bag, ∀ side, (net.letOf side wire).isSome
  lists : ∀ side, net.Lists side bag

end Net

namespace Build

open Net

variable {net : Net} {graph o : Ref} {wire : Wire} {bag : Multiset Wire}

/-- The wires of a graph have become the given ones, and nothing but wires has changed. -/
structure Rebooked (net : Net) (graph : Ref) (bag : Multiset Wire) (last : Net) : Prop where
  alike : Alike Node.unwired net last
  booked : last.Booked graph bag

theorem Rebooked.of_lists {last : Net} (side : Side) (alike : Alike Node.unwired net last)
    (aside : graph ∉ net.contents graph) (joins : ∀ wire ∈ bag, net.Joins graph wire)
    (placed : ∀ wire ∈ bag, ∀ side, (net.letOf side wire).isSome) (here : last.Lists side bag)
    (mem : last.Lists side.other bag) : Rebooked net graph bag last where
  alike := alike
  booked := {
    aside := by
      rw [alike.unwired_contents]
      exact aside
    joins := by
      intro wire inBag
      rw [Joins, alike.unwired_contents]
      exact joins wire inBag
    placed := by
      intro wire inBag s
      rw [alike.letOf]
      exact placed wire inBag s
    lists := by
      intro s
      rcases side.eq_or_eq_other s with rfl | rfl
      · exact here
      · exact mem }

section Wires

variable (booked : net.Booked graph bag)
include booked

theorem Rebooked.of_extended {new : List Wire} {last : Net}
    (joins : ∀ w ∈ new, net.Joins graph w) (extended : Extended net new last) :
    Rebooked net graph (new + bag) last := by
  have lists : ∀ side, last.Lists side (new + bag) := by
    intro side ref j
    rw [extended.held, ← coe_add, booked.lists, ← filter_coe,
      Multiset.filter_add, Multiset.add_comm]
    simp only [extended.alike.meets]
  refine .of_lists .inlet extended.alike booked.aside ?_ ?_ (lists _) (lists _)
  · intro w mem
    rcases mem_add.mp mem with added | kept
    · exact joins w (mem_coe.mp added)
    · exact booked.joins w kept
  · intro w mem
    rcases mem_add.mp mem with added | kept
    · exact extended.placed w (mem_coe.mp added)
    · exact booked.placed w kept

theorem Rebooked.of_stripped {gone : List Wire} {last : Net} (bare : Stripped net gone last) :
    Rebooked net graph (bag - gone) last := by
  have lists : ∀ side, last.Lists side (bag - gone) := by
    intro side ref j
    rw [bare.held, ← coe_sub, booked.lists, ← filter_coe, ← filter_sub]
    simp only [bare.alike.meets]
  have part : ∀ w ∈ bag - gone, w ∈ bag := fun w => Multiset.mem_of_le (Multiset.sub_le_self _ _)
  exact .of_lists .inlet bare.alike booked.aside (fun w mem => booked.joins w (part w mem))
    (fun w mem => booked.placed w (part w mem)) (lists _) (lists _)

/-- Wires that share one end with a wire take its place, at an outlet literally so. -/
theorem yields_exchange {new : List Wire} (side : Side) (sep : wire.source ≠ wire.target)
    (joins : ∀ w ∈ new, net.Joins graph w) (shared : ∀ w ∈ new, w.object side = wire.object side ∧
      w.index side = wire.index side) :
    Yields (do
      substitute (wire.object side) wire new
      detach (wire.object side.other) wire
      new.forM fun w => attach (w.object side.other) w) net fun _ last =>
        Rebooked net graph (new + bag.erase wire) last ∧ ∃ i, net.letOf side wire = some i ∧
            wire ∈ net.held side (wire.object side) i ∧ last.held side (wire.object side) i =
              replaceAt wire new side (net.held side (wire.object side) i) := by
  have ne := side.other_ne
  apply Guarded.bind (yields_substitute_end sep)
  rintro _ snd ⟨⟨i, met, pres⟩, first⟩
  apply Guarded.bind (yields_detach_end sep)
  rintro _ mid ⟨listed, next⟩
  have alike := first.alike.trans next.alike
  apply (yields_attachAll fun w inN => (joins w inN).1).mono
  intro _ last attached
  have here : mid.Lists side (new + bag.erase wire) :=
    ((booked.lists side).substitute first met pres (fun _ mem => coe_replaceAt mem)
      shared).keeps next ne.symm
  have across : mid.Lists side.other (bag.erase wire) :=
    ((booked.lists side.other).keeps first ne).detach next listed
  refine ⟨.of_lists side (alike.trans attached.alike) booked.aside ?_ ?_ ?_
    (across.append attached), i, met, pres, ?_⟩
  · intro w mem
    rcases mem_add.mp mem with added | kept
    · exact joins w (by simpa using added)
    · exact booked.joins w (Multiset.mem_of_mem_erase kept)
  · intro w mem s
    rcases mem_add.mp mem with added | kept
    · have inN : w ∈ new := by simpa using added
      rcases side.eq_or_eq_other s with rfl | rfl
      · rcases shared w inN with ⟨sameObject, sameIndex⟩
        rw [letOf, sameObject, sameIndex, ← letOf, met]
        rfl
      · rw [← alike.letOf]
        exact attached.placed w inN
    · exact booked.placed w (Multiset.mem_of_mem_erase kept) s
  · exact here.congr (attached.there side ne.symm) fun w _ => attached.alike.letOf side w
  · rw [attached.there side ne.symm, next.held, if_neg fun both => ne both.1.symm,
      first.held, if_pos ⟨rfl, rfl, met⟩]

theorem yields_clear (o : Ref) (side : Side) :
    Yields (forIn (List.range ((net.node o).lets side).length) PUnit.unit fun i _ => do
      let node ← node o
      ((node.lets side).getD i []).forM disconnect
      pure (ForInStep.yield PUnit.unit)) net fun _ last =>
        ∃ rest ≤ bag, Rebooked net graph rest last ∧ ∀ wire ∈ rest, wire.object side ≠ o := by
  apply Guarded.mono (Guarded.forIn (fun done _ cur => ∃ rest ≤ bag,
    Rebooked net graph rest cur ∧
      ∀ wire ∈ rest, ∀ slot < done.length, ¬ net.Meets side o slot wire) ?_ ?_)
  · rintro _ last ⟨rest, part, rebooked, cleared⟩
    refine ⟨rest, part, rebooked, ?_⟩
    rintro wire inR rfl
    obtain ⟨slot, met⟩ := Option.isSome_iff_exists.mp (booked.placed wire (mem_of_le part inR) side)
    exact cleared wire inR slot (by simpa using bound_of_letOf met) ⟨rfl, met⟩
  · exact ⟨bag, le_rfl, ⟨.refl _ _, booked⟩, by simp⟩
  · rintro done i _ _ cur split ⟨rest, part, pre, cleared⟩
    obtain ⟨rfl, -⟩ := eq_length_of_range split
    apply Guarded.at_node
    have here := pre.booked.lists side o done.length
    have inR : ∀ wire ∈ cur.held side o done.length, wire ∈ rest := by
      intro wire mem
      rw [← mem_coe, here] at mem
      exact (mem_filter.mp mem).1
    apply Guarded.bind (yields_disconnectAll_stripped fun wire mem =>
      (booked.joins wire (mem_of_le part (inR wire mem))).1)
    intro _ last bare
    have post := Rebooked.of_stripped pre.booked bare
    refine .pure ⟨PUnit.unit, rfl, _, (Multiset.sub_le_self _ _).trans part,
      ⟨pre.alike.trans post.alike, post.booked⟩, ?_⟩
    intro wire sub slot lt meets
    -- what the let held is gone, and what the lets before it held went earlier
    have left : rest - (cur.held side o done.length : Multiset Wire) =
        rest.filter (¬ cur.Meets side o done.length ·) := by
      rw [here, sub_filter_eq_filter_not]
    change wire ∈ rest - (cur.held side o done.length : Multiset Wire) at sub
    rw [left] at sub
    obtain ⟨old, missed⟩ := mem_filter.mp sub
    rw [length_append, length_singleton] at lt
    rcases Nat.lt_succ_iff_lt_or_eq.mp lt with earlierSlot | rfl
    · exact cleared wire old slot earlierSlot meets
    · refine missed ⟨meets.1, ?_⟩
      rw [pre.alike.letOf]
      exact meets.2

end Wires

end Build

namespace Net

open Build

variable {net last : Net} {graph o : Ref} {bag rest : Multiset Wire}

theorem Booked.held_mem (booked : net.Booked graph bag) {side : Side} {ref : Ref} {j : Nat}
    {wire : Wire} (mem : wire ∈ net.held side ref j) : wire ∈ bag ∧ net.Meets side ref j wire := by
  rw [← mem_coe, booked.lists side ref j] at mem
  exact mem_filter.mp mem

theorem Booked.regroup (booked : net.Booked graph bag)
    (held : ∀ side ref j, last.held side ref j = net.held side ref j)
    (lengths : ∀ ref ≠ graph, ∀ side,
      ((last.node ref).lets side).length = ((net.node ref).lets side).length)
    (aside : graph ∉ last.contents graph)
    (kept : ∀ wire ∈ bag, ∀ side, wire.object side ∈ last.contents graph) :
    last.Booked graph bag := by
  have eq : ∀ wire ∈ bag, ∀ side, last.letOf side wire = net.letOf side wire := by
    intro wire inBag side
    refine letOf_eq (lengths _ ?_ side)
    intro eq'
    exact booked.aside (eq' ▸ (booked.joins wire inBag).2 side)
  refine ⟨aside, fun wire inBag => ⟨(booked.joins wire inBag).1, kept wire inBag⟩, ?_, ?_⟩
  · intro wire inBag side
    rw [eq wire inBag side]
    exact booked.placed wire inBag side
  · exact fun side => (booked.lists side).congr (held side) fun wire inBag => eq wire inBag side

theorem contents_dropEntry : (net.change graph (Node.dropEntry o)).contents graph =
    (net.contents graph).erase o := by
  by_cases mem : graph < net.size
  · rw [Net.contents, node_change_self mem, Node.objects_dropEntry, Net.contents]
  · rw [change_of_size_le (not_lt.mp mem), Net.contents, node_of_size_le (not_lt.mp mem)]
    rfl

theorem contents_withRegistry {home : Ref} {reg : Registry} :
    (net.change home (Node.withRegistry reg)).contents graph = net.contents graph := by
  have kept : ∀ n : Node, (n.withRegistry reg).body.objects = n.body.objects := fun _ => rfl
  rw [Net.contents, node_change_keeps (fun n => n.body.objects) kept, Net.contents]

theorem Booked.dropEntry (booked : net.Booked graph bag)
    (avoids : ∀ wire ∈ bag, ∀ side, wire.object side ≠ o) :
    (net.change graph (Node.dropEntry o)).Booked graph bag := by
  have lets : ∀ ref side, ((net.change graph (Node.dropEntry o)).node ref).lets side =
      (net.node ref).lets side := fun ref side =>
    node_change_keeps (fun n => n.lets side) (Node.dropEntry_lets o side) ref
  apply booked.regroup
  · intro side ref j
    rw [held, lets, held]
  · intro ref _ side
    rw [lets]
  · rw [contents_dropEntry]
    exact fun mem => booked.aside (List.mem_of_mem_erase mem)
  · intro wire inBag side
    rw [contents_dropEntry]
    exact (List.mem_erase_of_ne (avoids wire inBag side)).mpr ((booked.joins wire inBag).2 side)

theorem Booked.withRegistry {home : Ref} {reg : Registry} (booked : net.Booked graph bag) :
    (net.change home (Node.withRegistry reg)).Booked graph bag := by
  have lets : ∀ ref side, ((net.change home (Node.withRegistry reg)).node ref).lets side =
      (net.node ref).lets side := fun ref side =>
    node_change_keeps (fun n => n.lets side) (Node.withRegistry_lets reg side) ref
  apply booked.regroup
  · intro side ref j
    rw [held, lets, held]
  · intro ref _ side
    rw [lets]
  · rw [contents_withRegistry]
    exact booked.aside
  · intro wire inBag side
    rw [contents_withRegistry]
    exact (booked.joins wire inBag).2 side

end Net

namespace Build

open Net

variable {net last : Net} {graph o : Ref} {bag : Multiset Wire}

theorem yields_remove (booked : net.Booked graph bag) : Yields (remove graph o) net fun _ last =>
    last.contents graph = (net.contents graph).erase o ∧
      ∃ rest, last.Booked graph rest ∧ ∀ wire ∈ rest, ∀ side, wire.object side ≠ o := by
  apply Guarded.at_node
  apply Guarded.bind (yields_clear booked o .inlet)
  rintro _ snd ⟨fewer, -, first, noTarget⟩
  apply Guarded.at_node
  apply Guarded.bind (yields_clear first.booked o .outlet)
  rintro _ mid ⟨rest, part, next, noSource⟩
  have avoids : ∀ wire ∈ rest, ∀ side, wire.object side ≠ o := by
    intro wire inR side
    cases side with
    | inlet => exact noTarget wire (mem_of_le part inR)
    | outlet => exact noSource wire inR
  apply Guarded.bind_run (run_changeBody _ _ _)
  apply Guarded.at_node
  have gone := next.booked.dropEntry avoids
  have contents : (mid.change graph (Node.dropEntry o)).contents graph =
      (net.contents graph).erase o := by
    rw [contents_dropEntry, next.alike.unwired_contents, first.alike.unwired_contents]
  split
  · apply yields_unregister.mono
    rintro _ _ ⟨home, name, registry, -, -, -, rfl⟩
    exact ⟨contents_withRegistry.trans contents, rest, gone.withRegistry, avoids⟩
  · exact .pure ⟨contents, rest, gone, avoids⟩

theorem yields_enter {key : Key} (booked : net.Booked graph bag) (ne : o ≠ graph) :
    Yields (addAs graph o key) net fun _ last => last.Booked graph bag := by
  apply yields_addAs.mono
  rintro _ last ⟨-, noted⟩
  have cs : ∀ ref, ref ∈ last.contents graph → ref ∈ net.contents graph ∨ ref = o := by
    intro ref mem
    rw [noted.contents] at mem
    by_cases lt : graph < net.size
    · rw [contents_enteredAs lt] at mem
      simpa using mem
    · rw [Net.contents, node_of_size_le] at mem
      · cases mem
      · rw [enteredAs, size_change, size_change]
        exact not_lt.mp lt
  have grows : ∀ ref ∈ net.contents graph, ref ∈ last.contents graph := by
    intro ref mem
    rw [noted.contents, contents_enteredAs (lt_size_of_mem_contents mem)]
    exact mem_append_left _ mem
  apply booked.regroup
  · intro side ref j
    rw [noted.held, held, lets_enteredAs, held]
  · intro ref notG side
    rcases noted.lets ref side with eq | ⟨equal, -⟩
    · rw [eq, lets_enteredAs]
    · exact absurd equal notG
  · intro there
    rcases cs graph there with old | equal
    · exact booked.aside old
    · exact ne equal.symm
  · exact fun wire inBag side => grows _ ((booked.joins wire inBag).2 side)

end Build

/-- What can be asked of a graph. -/
inductive Call where
  | add (o : Ref) (key : Key)
  | remove (o : Ref)
  | connect (wire : Wire)
  | connectAny (wire : Wire)
  | disconnect (wire : Wire)
  | rewire (old : Option Wire) (new : List Wire)

namespace Call

def run (graph : Ref) : Call → Build Unit
  | add o key => Build.addAs graph o key
  | remove o => Build.remove graph o
  | connect wire => Build.connect wire
  | connectAny wire => Build.connectAny wire
  | disconnect wire => Build.disconnect wire
  | rewire old new => Build.rewire old new

/-- Wires that replace one keep its let at the end they share with it. -/
def KeepsLet (wire : Wire) (new : List Wire) : Prop :=
  if ∀ other ∈ new, other.source = wire.source then ∀ other ∈ new, other.outlet = wire.outlet
  else (∀ other ∈ new, other.target = wire.target) → ∀ other ∈ new, other.inlet = wire.inlet

/-- No graph is put into itself, and wires are between different objects of the graph. -/
def Proper (net : Net) (graph : Ref) : Call → Prop
  | add o _ => o ≠ graph
  | remove _ => True
  | connect wire | connectAny wire | disconnect wire => net.Joins graph wire
  | rewire old new => (∀ wire ∈ old, net.Joins graph wire ∧ KeepsLet wire new) ∧
      ∀ other ∈ new, net.Joins graph other

def Steps (graph : Ref) (net last : Net) : Prop :=
  ∃ call : Call, call.Proper net graph ∧ (call.run graph).run net = .ok () last

end Call

namespace Build

open Net

variable {net last : Net} {graph o : Ref} {bag : Multiset Wire}

theorem yields_rewire {old : Option Wire} {new : List Wire} (booked : net.Booked graph bag)
    (proper : (Call.rewire old new).Proper net graph) :
    Yields (rewire old new) net fun _ last => ∃ bag, last.Booked graph bag := by
  cases old with
  | none =>
    exact (yields_connectAll_extended fun w inN => (proper.2 w inN).1).mono
      fun _ _ done => ⟨_, (Rebooked.of_extended booked proper.2 done).booked⟩
  | some wire =>
    obtain ⟨joins, keeps⟩ := proper.1 wire rfl
    unfold rewire
    dsimp only
    split
    · exact (yields_disconnect_stripped joins.1).mono
        fun _ _ done => ⟨_, (Rebooked.of_stripped booked done).booked⟩
    split
    case isTrue srcs =>
      have sharing : ∀ w ∈ new, w.source = wire.source := by simpa using srcs
      rw [Call.KeepsLet, if_pos sharing] at keeps
      exact (yields_exchange booked .outlet joins.1 proper.2
        fun w inN => ⟨sharing w inN, keeps w inN⟩).mono
          fun _ _ done => ⟨_, done.1.booked⟩
    case isFalse srcs =>
      have notSharing : ¬ ∀ w ∈ new, w.source = wire.source := by simpa using srcs
      rw [Call.KeepsLet, if_neg notSharing] at keeps
      split
      case isTrue targets =>
        have sharing : ∀ w ∈ new, w.target = wire.target := by simpa using targets
        exact (yields_exchange booked .inlet joins.1 proper.2
          fun w inN => ⟨sharing w inN, keeps sharing w inN⟩).mono
            fun _ _ done => ⟨_, done.1.booked⟩
      case isFalse => exact .bind_run rfl (.bind_run rfl (.throw trivial))

theorem replaceFirst_append {wire : Wire} {new pre after : List Wire} (nu : wire ∉ pre) :
    replaceFirst wire new (pre ++ wire :: after) = pre ++ new ++ after := by
  induction pre with
  | nil => simp [replaceFirst]
  | cons first rest ih =>
    rw [List.mem_cons, not_or] at nu
    have ne : first ≠ wire := fun eq => nu.1 eq.symm
    simp only [cons_append, replaceFirst, if_neg ne]
    rw [ih nu.2]

theorem yields_rewire_outlet {wire : Wire} {new : List Wire} (booked : net.Booked graph bag)
    (proper : (Call.rewire (some wire) new).Proper net graph) (some : new ≠ [])
    (sharing : ∀ w ∈ new, w.source = wire.source) :
    Yields (rewire (.some wire) new) net fun _ last => ∃ j pre after,
      net.letOf .outlet wire = .some j ∧ wire ∉ pre ∧
        net.held .outlet wire.source j = pre ++ wire :: after ∧
        last.held .outlet wire.source j = pre ++ new ++ after := by
  obtain ⟨joins, keeps⟩ := proper.1 wire rfl
  rw [Call.KeepsLet, if_pos sharing] at keeps
  have notEmpty : new.isEmpty = false := by simpa using some
  have srcs : (new.all fun w => w.source = wire.source) = true := by simpa using sharing
  rw [rewire, notEmpty, srcs]
  apply (yields_exchange booked .outlet joins.1 proper.2
    fun w inN => ⟨sharing w inN, keeps w inN⟩).mono
  rintro _ last ⟨-, j, met, pres, replaced⟩
  obtain ⟨pre, after, split, nu⟩ := eq_append_cons_of_mem pres
  refine ⟨j, pre, after, met, nu, split, ?_⟩
  rw [split] at replaced
  exact replaced.trans (replaceFirst_append nu)

end Build

namespace Net

open Build

variable {net last : Net} {graph : Ref} {bag : Multiset Wire}

theorem Booked.steps (booked : net.Booked graph bag) (steps : Call.Steps graph net last) :
    ∃ bag, last.Booked graph bag := by
  obtain ⟨call, proper, run⟩ := steps
  cases call with
  | add o key => exact ⟨bag, (yields_enter booked proper).of_ok run⟩
  | remove o =>
    obtain ⟨-, rest, gone, -⟩ := (yields_remove booked).of_ok run
    exact ⟨rest, gone⟩
  | connect wire =>
    exact ⟨_, (Rebooked.of_extended booked (forall_mem_singleton.mpr proper)
      ((yields_connect_extended proper.1).of_ok run)).booked⟩
  | connectAny wire =>
    exact ⟨_, (Rebooked.of_extended booked (forall_mem_singleton.mpr proper)
      ((yields_connectAny_extended proper.1).of_ok run)).booked⟩
  | disconnect wire =>
    exact ⟨_, (Rebooked.of_stripped booked
      ((yields_disconnect_stripped proper.1).of_ok run)).booked⟩
  | rewire old new => exact (yields_rewire booked proper).of_ok run

theorem Booked.reaches (booked : net.Booked graph bag)
    (got : Relation.ReflTransGen (Call.Steps graph) net last) : ∃ bag, last.Booked graph bag := by
  induction got with
  | refl => exact ⟨bag, booked⟩
  | tail _ steps ih =>
    obtain ⟨mid, bookedMiddle⟩ := ih
    exact bookedMiddle.steps steps

theorem booked_of_unwired (unwired : ∀ side ref j, net.held side ref j = [])
    (aside : graph ∉ net.contents graph) : net.Booked graph 0 := by
  refine ⟨aside, by simp, by simp, fun side ref j => ?_⟩
  rw [unwired]
  rfl

theorem Booked.timesNoted_eq (booked : net.Booked graph bag) (side : Side) (wire : Wire) :
    net.timesNoted side wire = bag.count wire := by
  unfold timesNoted
  split
  case h_1 nowhere =>
    refine (Multiset.count_eq_zero.mpr fun inBag => ?_).symm
    have somewhere := booked.placed wire inBag side
    rw [nowhere] at somewhere
    cases somewhere
  case h_2 j met =>
    rw [← coe_count, booked.lists]
    exact count_filter_of_pos ⟨rfl, met⟩

end Net

namespace Call

open Net

variable {start net : Net} {graph : Ref}

/-- In every net that proper calls lead to from a graph without wires, the two ends of every wire
agree, no let holds a wire of another let or of an object that is not in the graph, an object that is
removed leaves the graph and every let, and wires that replace one at its outlet stand where it
stood. -/
theorem ends_agree (unwired : ∀ side ref slot, start.held side ref slot = [])
    (aside : graph ∉ start.contents graph)
    (reached : Relation.ReflTransGen (Steps graph) start net) :
    (∀ wire, net.timesNoted .outlet wire = net.timesNoted .inlet wire) ∧
      (∀ side ref slot, ∀ wire ∈ net.held side ref slot, net.Meets side ref slot wire ∧
        ∀ s, wire.object s ∈ net.contents graph) ∧
      (∀ o last, ((remove o).run graph).run net = .ok () last →
        last.contents graph = (net.contents graph).erase o ∧
          ∀ side ref slot, ∀ wire ∈ last.held side ref slot, ∀ s, wire.object s ≠ o) ∧
      ∀ wire new last, (rewire (some wire) new).Proper net graph → new ≠ [] →
        (∀ other ∈ new, other.source = wire.source) →
        ((rewire (some wire) new).run graph).run net = .ok () last →
        ∃ slot before after, net.letOf .outlet wire = some slot ∧ wire ∉ before ∧
          net.held .outlet wire.source slot = before ++ wire :: after ∧
          last.held .outlet wire.source slot = before ++ new ++ after := by
  obtain ⟨bag, booked⟩ := (booked_of_unwired unwired aside).reaches reached
  refine ⟨fun wire => ?_, fun side ref slot wire there => ?_, fun o last run => ?_, ?_⟩
  · rw [booked.timesNoted_eq, booked.timesNoted_eq]
  · obtain ⟨inBag, meets⟩ := booked.held_mem there
    exact ⟨meets, (booked.joins wire inBag).2⟩
  · obtain ⟨contents, rest, after, avoids⟩ := (Build.yields_remove booked).of_ok run
    exact ⟨contents, fun side ref slot wire there => avoids wire (after.held_mem there).1⟩
  · intro wire new last proper some sharing run
    exact (Build.yields_rewire_outlet booked proper some sharing).of_ok run

end Call

namespace Spliced

/-- A graph with an object that sends and one that receives, and an object that is still outside. -/
def start : Net where
  nodes := #[
    .outermost [(.given "send", 1), (.given "take", 2)],
    .wired "__slice" 1 0 [[]] [[], []],
    .wired "__print" 2 0 [[]] [],
    { type := "__add", kind := .plain, identity := 3, inlets := [[], []], outlets := [[]] }]

def sent : Wire :=
  ⟨1, -2, 2, 0, .control⟩

def spliced : List Wire :=
  [⟨1, -2, 3, 1, .control⟩, ⟨1, -2, 3, 0, .control⟩]

def after : List Call → Net
  | [] => start
  | call :: earlier =>
    match (call.run 0).run (after earlier) with
    | .ok _ last => last
    | .error _ last => last

def twice : List Call :=
  [.add 3 (.given "sum"), .connect sent, .connectAny sent]

def replaced : List Call :=
  .rewire (some sent) spliced :: twice

theorem steps {call : Call} {pre : List Call} (proper : call.Proper (after pre) 0)
    (run : (call.run 0).run (after pre) = .ok () (after (call :: pre))) :
    Call.Steps 0 (after pre) (after (call :: pre)) :=
  ⟨call, proper, run⟩

theorem joins {pre : List Call} {wire : Wire} (sep : wire.source ≠ wire.target)
    (mem : ∀ side ∈ Side.both, wire.object side ∈ (after pre).contents 0) :
    (after pre).Joins 0 wire :=
  ⟨sep, fun side => mem side side.mem_both⟩

theorem reached : Relation.ReflTransGen (Call.Steps 0) start (after twice) := by
  have first : Call.Steps 0 start (after [.connectAny sent]) :=
    @steps (.connectAny sent) [] (@joins [] sent (by decide) (by decide)) rfl
  have snd : Call.Steps 0 (after [.connectAny sent]) (after [.connect sent, .connectAny sent]) :=
    steps (@joins [.connectAny sent] sent (by decide) (by decide)) rfl
  have third : Call.Steps 0 (after [.connect sent, .connectAny sent]) (after twice) :=
    @steps (.add 3 (.given "sum")) [.connect sent, .connectAny sent]
      (show (3 : Ref) ≠ 0 by decide) rfl
  exact .tail (.tail (.single first) snd) third

theorem proper : (Call.rewire (some sent) spliced).Proper (after twice) 0 := by
  have each : ∀ wire ∈ sent :: spliced, (after twice).Joins 0 wire := by
    have checked : ∀ wire ∈ sent :: spliced, wire.source ≠ wire.target ∧
        ∀ side ∈ Side.both, wire.object side ∈ (after twice).contents 0 := by decide
    exact fun wire mem => joins (checked wire mem).1 (checked wire mem).2
  have keeps : Call.KeepsLet sent spliced := by
    rw [Call.KeepsLet, if_pos (by decide)]
    decide
  refine ⟨?_, (forall_mem_cons.mp each).2⟩
  intro wire eq
  cases eq
  exact ⟨each sent mem_cons_self, keeps⟩

/-- The two wires that replace the first of two equal ones come before the other. Both are gone when
the object is removed to which they lead. -/
theorem ends_agree_twice : (∀ side ref slot, start.held side ref slot = []) ∧
    Relation.ReflTransGen (Call.Steps 0) start (after twice) ∧
    (∀ wire, (after twice).timesNoted .outlet wire = (after twice).timesNoted .inlet wire) ∧
    (Call.rewire (some sent) spliced).Proper (after twice) 0 ∧
    (∃ slot before rest, (after twice).letOf .outlet sent = some slot ∧ sent ∉ before ∧
      (after twice).held .outlet 1 slot = before ++ sent :: rest ∧
      (after replaced).held .outlet 1 slot = before ++ spliced ++ rest) ∧
    (after (.remove 3 :: replaced)).contents 0 = ((after replaced).contents 0).erase 3 ∧
    ∀ side ref slot, ∀ wire ∈ (after (.remove 3 :: replaced)).held side ref slot,
      ∀ s, wire.object s ≠ 3 := by
  have unwired : ∀ side ref slot, start.held side ref slot = [] := by
    have blank : ∀ side ∈ Side.both, ∀ ref < 4, ∀ wires ∈ (start.node ref).lets side,
        wires = [] := by decide
    intro side ref slot
    by_cases inside : ref < 4
    · rw [Net.held, getD_eq_getElem?_getD]
      cases found : ((start.node ref).lets side)[slot]? with
      | none => rfl
      | some wires => exact blank side side.mem_both ref inside wires (mem_of_getElem? found)
    · exact Net.held_of_size_le (not_lt.mp inside)
  obtain ⟨agree, -, -, keepsPlace⟩ := Call.ends_agree unwired (by decide) reached
  obtain ⟨-, -, removed, -⟩ := Call.ends_agree unwired (by decide)
    (reached.tail (@steps _ twice proper rfl))
  exact ⟨unwired, reached, agree, proper,
    keepsPlace sent spliced (after replaced) proper (by decide) (by decide) rfl,
    removed 3 (after (.remove 3 :: replaced)) rfl⟩

end Spliced

end PatchCompiler
