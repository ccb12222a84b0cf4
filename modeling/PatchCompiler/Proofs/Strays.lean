import PatchCompiler.Proofs.Deliveries

/-!
# Messages that go astray

Messages are meant to go along wires for messages only. Behind the outlet of a graph they go along
all wires there, those with signals too. The deliveries are the right ones just if no message finds
an object behind a wire that is not for messages.
-/

namespace PatchCompiler

open List Relation

namespace Net

def Delivers (net : Net) (wire : Wire) : Prop :=
  ∃ last, ReflTransGen net.Leads wire last ∧ net.Takes last.target

/-- A message that is sent along the wire comes to an object behind a wire that is not for
messages. -/
def Strays (net : Net) (wire : Wire) : Prop :=
  ∃ signal, ReflTransGen net.Leads wire signal ∧ signal.isControl = false ∧ net.Delivers signal

variable {net : Net} {root inlet g : Ref} {along : Wire → Bool} {wire next : Wire}
  {wires : List Wire} {place : Nat}

theorem delivers_iff (wire : Wire) : net.Delivers wire ↔
    net.Takes wire.target ∨ ∃ next, net.Leads wire next ∧ net.Delivers next := by
  constructor
  · rintro ⟨last, path, takes⟩
    rcases ReflTransGen.cases_head path with rfl | ⟨next, leads, rest⟩
    · exact .inl takes
    · exact .inr ⟨next, leads, last, rest, takes⟩
  · rintro (takes | ⟨next, leads, last, path, takes⟩)
    · exact ⟨wire, .refl, takes⟩
    · exact ⟨last, .head leads path, takes⟩

theorem strays_iff (wire : Wire) : net.Strays wire ↔
    wire.isControl = false ∧ net.Delivers wire ∨ ∃ next, net.Leads wire next ∧ net.Strays next := by
  constructor
  · rintro ⟨sig, path, isS, delivers⟩
    rcases ReflTransGen.cases_head path with rfl | ⟨next, leads, rest⟩
    · exact .inl ⟨isS, delivers⟩
    · exact .inr ⟨next, leads, sig, rest, isS, delivers⟩
  · rintro (⟨isS, delivers⟩ | ⟨next, leads, sig, path, isS, delivers⟩)
    · exact ⟨wire, .refl, isS, delivers⟩
    · exact ⟨sig, .head leads path, isS, delivers⟩

/-- The object at the end of the wire passes messages on along the given wires. -/
structure Conveys (net : Net) (root : Ref) (wire : Wire) (nexts : List Wire) : Prop where
  hosted : ∀ next ∈ nexts, net.Within root next.target
  passes : ¬ net.Takes wire.target
  leads : ∀ next, net.Leads wire next ↔ next ∈ nexts

theorem Conveys.not_delivers_iff (conveys : net.Conveys root wire wires) :
    ¬ net.Delivers wire ↔ ∀ next ∈ wires, ¬ net.Delivers next := by
  rw [delivers_iff, or_iff_right conveys.passes, not_exists]
  simp only [conveys.leads, not_and]

theorem Strays.delivers (strays : net.Strays wire) : net.Delivers wire := by
  obtain ⟨sig, path, -, last, rest, takes⟩ := strays
  exact ⟨last, path.trans rest, takes⟩

theorem Entry.isGraph (e : net.Entry wire inlet) : (net.node wire.target).kind = .graph := by
  simpa [Node.isGraph] using e.inside.1

theorem Takes.not_leads (takes : net.Takes wire.target) : ¬ net.Leads wire next := by
  rintro (⟨e, -⟩ | ⟨leaves, -⟩)
  · exact takes.1 e.isGraph
  · exact takes.2 leaves.kind

theorem Exit.not_entry (leaves : net.Exit wire g place) : ¬ net.Entry wire inlet := by
  intro e
  exact nomatch leaves.kind.symm.trans e.isGraph

namespace Addressed

variable (addressed : net.Addressed root)
include addressed

theorem entry_unique {other : Ref} (sub : net.Within root wire.target)
    (e : net.Entry wire inlet) (entry' : net.Entry wire other) : inlet = other := by
  obtain ⟨place, k, arr⟩ := e.index
  obtain ⟨place', index', arrives'⟩ := entry'.index
  cases Option.some.inj (arr.symm.trans arrives')
  obtain ⟨-, j, mem, got⟩ := addressed.inlets _ inlet sub e.inside e.kind
  obtain ⟨-, slot', listed', found'⟩ := addressed.inlets _ other sub entry'.inside entry'.kind
  cases k.unique mem
  cases index'.unique listed'
  exact Option.some.inj (got.symm.trans found')

theorem exit_unique {y : Ref} {slot : Nat} (leaves : net.Exit wire g place)
    (leaves' : net.Exit wire y slot) : g = y ∧ place = slot := by
  have up := addressed.parents g wire.target leaves.inside
  have parent' := addressed.parents y wire.target leaves'.inside
  exact ⟨Option.some.inj (up.symm.trans parent'), leaves.index.unique leaves'.index⟩

theorem hosted {object : Ref} (sub : net.Within root object) {place : Nat} :
    ∀ wire ∈ (net.node object).outlets.getD place [], net.Within root wire.target := by
  intro wire leaves
  exact (addressed.targets object sub wire (mem_flatten_iff.mpr ⟨place, leaves⟩)).1.to_reflTransGen

theorem conveys_into (sub : net.Within root wire.target) (e : net.Entry wire inlet) :
    net.Conveys root wire (controls ((net.node inlet).outlets.getD 0 [])) where
  hosted next inNext := addressed.hosted (sub.tail e.inside) next (mem_controls.mp inNext).1
  passes takes := takes.1 e.isGraph
  leads next := by
    constructor
    · rintro (⟨entry', inNext⟩ | ⟨leaves, -⟩)
      · cases addressed.entry_unique sub e entry'
        exact inNext
      · exact absurd e leaves.not_entry
    · exact .into e

theorem conveys_out (sub : net.Within root wire.target) (leaves : net.Exit wire g place) :
    net.Conveys root wire ((net.node g).outlets.getD place []) where
  hosted := by
    rcases sub.cases_tail with eq | ⟨own, path, ok⟩
    · have isG := addressed.isGraph
      rw [← eq, Node.isGraph, leaves.kind] at isG
      simp at isG
    · have up := addressed.parents g wire.target leaves.inside
      have parent' := addressed.parents own wire.target ok
      cases Option.some.inj (up.symm.trans parent')
      exact addressed.hosted path
  passes takes := takes.2 leaves.kind
  leads next := by
    constructor
    · rintro (⟨e, -⟩ | ⟨leaves', inNext⟩)
      · exact absurd e leaves.not_entry
      · obtain ⟨rfl, rfl⟩ := addressed.exit_unique leaves leaves'
        exact inNext
    · exact .out leaves

theorem spreads_unique {first second : List Program.Delivery}
    (spreads : net.Spreads along wires first) (spreads' : net.Spreads along wires second)
    (sub : ∀ wire ∈ wires, net.Within root wire.target) : first = second := by
  induction spreads generalizing second with
  | done =>
    cases spreads'
    rfl
  | object takes _ ih =>
    obtain ⟨-, post⟩ := forall_mem_cons.mp sub
    cases spreads' with
    | object _ spreads' => rw [ih spreads' post]
    | into e _ _ => exact absurd e.isGraph takes.1
    | out leaves _ _ => exact absurd leaves.kind takes.2
  | into e _ _ ihs ih =>
    obtain ⟨here, post⟩ := forall_mem_cons.mp sub
    cases spreads' with
    | object takes _ => exact absurd e.isGraph takes.1
    | into entry' inner' spreads' =>
      cases addressed.entry_unique here e entry'
      rw [ihs inner' (addressed.conveys_into here e).hosted, ih spreads' post]
    | out leaves _ _ => exact absurd e leaves.not_entry
  | out leaves _ _ outerIh ih =>
    obtain ⟨here, post⟩ := forall_mem_cons.mp sub
    cases spreads' with
    | object takes _ => exact absurd leaves.kind takes.2
    | into e _ _ => exact absurd e leaves.not_entry
    | out leaves' outer' spreads' =>
      obtain ⟨rfl, rfl⟩ := addressed.exit_unique leaves leaves'
      rw [outerIh outer' fun next inNext =>
        (addressed.conveys_out here leaves).hosted next (mem_of_mem_filter inNext),
        ih spreads' post]

theorem eq_nil_iff {deliveries : List Program.Delivery}
    (spreads : net.Spreads (fun _ => true) wires deliveries)
    (sub : ∀ wire ∈ wires, net.Within root wire.target) :
    deliveries = [] ↔ ∀ wire ∈ wires, ¬ net.Delivers wire := by
  induction spreads with
  | done => simp
  | object takes _ _ =>
    refine iff_of_false (by simp) fun none => ?_
    exact none _ mem_cons_self ((delivers_iff _).mpr (.inl takes))
  | into e _ _ ihs ih =>
    obtain ⟨here, post⟩ := forall_mem_cons.mp sub
    have conveys := addressed.conveys_into here e
    rw [append_eq_nil_iff, ihs conveys.hosted, ih post, forall_mem_cons, conveys.not_delivers_iff]
  | out leaves _ _ outerIh ih =>
    obtain ⟨here, post⟩ := forall_mem_cons.mp sub
    have conveys := addressed.conveys_out here leaves
    rw [filter_true] at outerIh
    rw [append_eq_nil_iff, outerIh conveys.hosted, ih post, forall_mem_cons,
      conveys.not_delivers_iff]

end Addressed

theorem append_eq_append_iff_of_sublist {α : Type} {first snd third fourth : List α}
    (left : first.Sublist third) (right : snd.Sublist fourth) :
    first ++ snd = third ++ fourth ↔ first = third ∧ snd = fourth := by
  constructor
  · intro eq
    have lengths := congrArg List.length eq
    rw [length_append, length_append] at lengths
    have := left.length_le
    have := right.length_le
    exact append_inj eq (by omega)
  · rintro ⟨rfl, rfl⟩
    rfl

/-- A wire is followed, and the deliveries behind it and those behind the rest are put together.
`got` are the deliveries along all wires and `right` those along wires for messages. -/
theorem kept_cons {wire : Wire} {rest : List Wire} {got right foundRest rightRest all :
      List Program.Delivery} (step : ∀ more, net.Spreads Wire.isControl (controls rest) more →
      net.Spreads Wire.isControl (wire :: controls rest) (right ++ more))
    (part : right.Sublist got) (nothing : got = [] ↔ ¬ net.Delivers wire)
    (eq : right = got ↔ ∀ next, net.Leads wire next → ¬ net.Strays next)
    (spreads : net.Spreads Wire.isControl (controls rest) rightRest)
    (partRest : rightRest.Sublist foundRest)
    (sameRest : rightRest = foundRest ↔ ∀ wire ∈ rest, ¬ net.Strays wire)
    (together : all = got ++ foundRest) :
    ∃ kept, net.Spreads Wire.isControl (controls (wire :: rest)) kept ∧ kept.Sublist all ∧
      (kept = all ↔ ∀ y ∈ wire :: rest, ¬ net.Strays y) := by
  subst together
  simp only [forall_mem_cons, strays_iff wire, not_or, not_and, not_exists]
  by_cases isControl : wire.isControl = true
  · have kept : controls (wire :: rest) = wire :: controls rest := filter_cons_of_pos isControl
    refine ⟨right ++ rightRest, kept ▸ step rightRest spreads, part.append partRest, ?_⟩
    rw [append_eq_append_iff_of_sublist part partRest, eq, sameRest]
    simp [isControl]
  · have gone : controls (wire :: rest) = controls rest := filter_cons_of_neg isControl
    refine ⟨rightRest, gone ▸ spreads, partRest.trans (sublist_append_right ..), ?_⟩
    have front := append_eq_append_iff_of_sublist (nil_sublist got) partRest
    rw [nil_append, eq_comm (a := []), nothing, sameRest] at front
    rw [front]
    simp only [Bool.not_eq_true] at isControl
    refine and_congr_left' ⟨fun none => ⟨fun _ => none, fun next leads strays => ?_⟩,
      fun both => both.1 isControl⟩
    exact none ((delivers_iff _).mpr (.inr ⟨next, leads, strays.delivers⟩))

/-- Along wires for messages a part of the deliveries is made, and all of them if no message goes
astray. -/
theorem Addressed.exists_kept (addressed : net.Addressed root) {got : List Program.Delivery}
    (spreads : net.Spreads (fun _ => true) wires got)
    (sub : ∀ wire ∈ wires, net.Within root wire.target) :
    ∃ kept, net.Spreads Wire.isControl (controls wires) kept ∧ kept.Sublist got ∧
      (kept = got ↔ ∀ wire ∈ wires, ¬ net.Strays wire) := by
  induction spreads with
  | done => exact ⟨[], .done, .slnil, by simp⟩
  | @object wire rest more takes _ ih =>
    obtain ⟨rightRest, spreadsRest, partRest, sameRest⟩ := ih (forall_mem_cons.mp sub).2
    have step : ∀ more, net.Spreads Wire.isControl (controls rest) more →
        net.Spreads Wire.isControl (wire :: controls rest)
          ([⟨(net.node wire.target).identity, wire.inlet⟩] ++ more) := fun _ => .object takes
    refine kept_cons step (.refl _) ?_ ?_ spreadsRest partRest sameRest rfl
    · simp [delivers_iff wire, takes]
    · simp [takes.not_leads]
  | into e spreads _ ihs ih =>
    obtain ⟨here, post⟩ := forall_mem_cons.mp sub
    have conveys := addressed.conveys_into here e
    obtain ⟨rightRest, spreadsRest, partRest, sameRest⟩ := ih post
    obtain ⟨right, spreadsRight, part, eq⟩ := ihs conveys.hosted
    rw [controls_controls] at spreadsRight
    refine kept_cons (fun _ => .into e spreadsRight) part ?_ ?_ spreadsRest partRest sameRest rfl
    · rw [addressed.eq_nil_iff spreads conveys.hosted, conveys.not_delivers_iff]
    · simp only [eq, conveys.leads]
  | out leaves spreads _ outerIh ih =>
    obtain ⟨here, post⟩ := forall_mem_cons.mp sub
    have conveys := addressed.conveys_out here leaves
    rw [filter_true] at spreads outerIh
    obtain ⟨rightRest, spreadsRest, partRest, sameRest⟩ := ih post
    obtain ⟨right, spreadsRight, part, eq⟩ := outerIh conveys.hosted
    refine kept_cons (fun _ => .out leaves spreadsRight) part ?_ ?_ spreadsRest partRest sameRest
      rfl
    · rw [addressed.eq_nil_iff spreads conveys.hosted, conveys.not_delivers_iff]
    · simp only [eq, conveys.leads]

end Net

namespace Build

open Net

variable {net : Net} {root object : Ref}

theorem run_deliveries (addressed : net.Addressed root)
    (acyc : ∀ wire, ¬ TransGen net.Leads wire wire) (sub : net.Within root object)
    {wires : List Wire} (leaves : ∀ wire ∈ wires, wire ∈ (net.node object).outgoing) :
    ∃ lists, (wires.mapM fun wire => deliveries wire.target wire.inlet).run net = .ok lists net ∧
      net.Spreads (fun _ => true) wires lists.flatten := by
  apply run_mapM_spreads
  intro wire inWs
  exact run_deliveriesWithin addressed acyc (deliveryDepth net) [] object wire sub
    (leaves wire inWs) .nil (nil_subset _) nofun length_gates_lt

end Build

/-- The messages of an object that sends them are always delivered, at every outlet depth first and in
the order of the wires, inside graphs along wires for messages and behind the outlets of graphs along
all wires. Those to be delivered along wires for messages only are among the deliveries, and they are
all of them just if no message comes to an object behind another wire. -/
theorem Build.controlOf_right_iff {net : Net} {root object : Ref} {spec : Catalogue.IrSpec}
    (addressed : net.Addressed root)
    (acyclic : ∀ wire, ¬ Relation.TransGen net.Leads wire wire) (within : net.Within root object)
    (noSender : (net.node object).kind ≠ .sender)
    (described : Catalogue.irSpec? (net.node object).type = some spec)
    (sends : spec.control = true) :
    ∃ lists, (controlOf object).run net = .ok [⟨(net.node object).identity, lists, none⟩] net ∧
      lists.length = (net.node object).outlets.length ∧
      ∀ (place : Nat) (wires : List Wire), (net.node object).outlets[place]? = some wires →
        ∃ found right, lists[place]? = some found ∧
          net.Spreads (fun _ => true) (controls wires) found ∧
          (∀ list, net.Spreads Wire.isControl (controls wires) list ↔ list = right) ∧
          right.Sublist found ∧ (found = right ↔ ∀ wire ∈ controls wires, ¬ net.Strays wire) := by
  have each : ∀ wires ∈ (net.node object).outlets, ∃ found, (do
      return (← (controls wires).mapM fun wire => deliveries wire.target wire.inlet).flatten :
        Build (List Program.Delivery)).run net = .ok found net ∧
      net.Spreads (fun _ => true) (controls wires) found := by
    intro wires there
    have leaves : ∀ wire ∈ controls wires, wire ∈ (net.node object).outgoing :=
      fun wire inWires => mem_flatten.mpr ⟨wires, there, (Net.mem_controls.mp inWires).1⟩
    obtain ⟨lists, run, spreads⟩ := run_deliveries addressed acyclic within leaves
    refine ⟨lists.flatten, ?_, spreads⟩
    rw [EStateM.run_bind, run]
    rfl
  obtain ⟨lists, run, all⟩ := run_mapM each
  refine ⟨lists, ?_, all.length_eq.symm, ?_⟩
  · have lowered := (addressed.lowered.within within).not_language
    have look : (lowSpec object).run net = .ok spec net := by simp [lowSpec, described]
    unfold controls at run
    rw [controlOf, EStateM.run_bind, run_node]
    dsimp only
    rw [if_neg noSender, if_neg (by simp [lowered]), EStateM.run_bind, look]
    dsimp only
    rw [if_pos sends, EStateM.run_bind, run]
    rfl
  · intro place wires there
    obtain ⟨bound, rfl⟩ := List.getElem?_eq_some_iff.mp there
    have bound' : place < lists.length := all.length_eq ▸ bound
    have spreads : net.Spreads (fun _ => true) (controls (net.node object).outlets[place])
        lists[place] := all.get bound bound'
    have hosted : ∀ wire ∈ controls (net.node object).outlets[place],
        net.Within root wire.target := by
      intro wire inWires
      have leaves : wire ∈ (net.node object).outlets.getD place [] := by
        simpa [bound] using (Net.mem_controls.mp inWires).1
      exact addressed.hosted within wire leaves
    obtain ⟨right, only, part, same⟩ := addressed.exists_kept spreads hosted
    rw [Net.controls_controls] at only
    refine ⟨lists[place], right, by simp [bound'], spreads, fun list => ?_, part, eq_comm.trans same⟩
    exact ⟨fun other => addressed.spreads_unique other only hosted, fun equal => equal ▸ only⟩

namespace Mixed

/-- A graph that sends messages and a signal through one outlet. -/
def net : Net where
  nodes := #[
    .outermost [(.given "g", 1), (.given "ab", 5), (.given "pr", 6)],
    { type := "graph", kind := .graph, identity := 1, parent := some 0
      outlets := [[⟨1, 0, 6, 0, .control⟩, .signal 1 5 0]], outletBuffers := [.zero]
      body := {
        objects := [(.given "ms", 2), (.given "ph", 3), (.given "o", 4)], outletObjects := [4] } },
    .wired "__var" 2 1 [[], []] [[⟨2, 0, 4, 0, .control⟩]],
    .wired "__phasor_k~f" 3 1 [[], []] [[.signal 3 4 0]],
    { type := "__outlet", kind := .outlet, identity := 4, parent := some 1
      arguments := [("index", .int 0)]
      inlets := [[⟨2, 0, 4, 0, .control⟩, .signal 3 4 0]] },
    .wired "__abs~f" 5 0 [[.signal 1 5 0]] [[]],
    .wired "__print" 6 0 [[⟨1, 0, 6, 0, .control⟩]] []]

theorem contains : net.Contains 0 1 ∧ net.Contains 0 5 ∧ net.Contains 0 6 ∧ net.Contains 1 2 ∧
    net.Contains 1 4 :=
  ⟨⟨rfl, by decide⟩, ⟨rfl, by decide⟩, ⟨rfl, by decide⟩, ⟨rfl, by decide⟩, ⟨rfl, by decide⟩⟩

theorem lowered : net.Lowered 0 :=
  .of_isLowered (show net.isLowered 3 0 = true by decide +kernel)

theorem addressed : net.Addressed 0 where
  isGraph := rfl
  lowered := lowered
  parents := by
    have small : ∀ g < 7, ∀ object ∈ net.contents g, (net.node object).parent = some g := by decide
    intro g object mem
    exact small g (Net.lt_size_of_isGraph mem.1) object mem.2
  targets := by
    have small : ∀ object < 7, ∀ wire ∈ (net.node object).outgoing,
        (wire.target = 4 ∨ wire.target = 5 ∨ wire.target = 6) ∧
          place? (net.node wire.target).inlets.length wire.inlet = some 0 ∧
          (net.node wire.target).isGraph = false := by decide
    intro object sub wire leaves
    have lt := (lowered.within sub).lt_size
    obtain ⟨ends, arr, plain⟩ := small object lt wire leaves
    refine ⟨?_, 0, arr, fun isGraph => nomatch isGraph.symm.trans plain⟩
    obtain ⟨inner, first, snd, -, out⟩ := contains
    rcases ends with target | target | target
    · exact target ▸ .tail (.single inner) out
    · exact target ▸ .single first
    · exact target ▸ .single snd
  inlets := by
    have none : ∀ object < 7, (net.node object).kind ≠ .inlet := by decide
    intro g inlet sub mem kind
    exact absurd kind (none inlet (lowered.within (sub.tail mem)).lt_size)
  counted := by
    have small : ∀ g < 7, (net.node g).isGraph = true →
        (net.node g).inlets.length = (net.node g).body.inletObjects.length := by decide
    exact fun g _ isGraph => small g (Net.lt_size_of_isGraph isGraph) isGraph
  outlets := by
    have small : ∀ g < 7, ∀ out ∈ net.contents g, (net.node out).kind = .outlet →
        0 < (net.node g).outlets.length ∧ out = 4 := by decide
    intro g out _ mem kind
    obtain ⟨some, rfl⟩ := small g (Net.lt_size_of_isGraph mem.1) out mem.2 kind
    exact ⟨0, some, rfl⟩

theorem exit : net.Exit ⟨2, 0, 4, 0, .control⟩ 1 0 :=
  ⟨contains.2.2.2.2, rfl, rfl⟩

theorem target_of_leads {wire next : Wire} (leads : net.Leads wire next) :
    wire.target = 4 ∧ next.target ≠ 4 := by
  have kinds : ∀ object < 7, (net.node object).kind ≠ .inlet ∧
      ((net.node object).kind = .outlet → object = 4) := by decide
  have lt : ∀ {object}, (net.node object).kind ≠ (default : Node).kind → object < 7 :=
    Net.lt_size_of_look Node.kind
  have out : ∀ next ∈ (net.node 1).outlets.getD 0 [], next.target ≠ 4 := by decide
  rcases leads with @⟨inlet, e, -⟩ | @⟨g, place, leaves, inNext⟩
  · exact absurd e.kind (kinds inlet (lt (e.kind ▸ nofun))).1
  · have tgt := (kinds _ (lt (leaves.kind ▸ nofun))).2 leaves.kind
    have up := addressed.parents g wire.target leaves.inside
    rw [tgt] at up
    cases up
    have k := leaves.index
    rw [tgt] at k
    cases k.unique (show net.HasIndex 4 0 from rfl)
    exact ⟨tgt, out next inNext⟩

theorem acyclic (wire : Wire) : ¬ TransGen net.Leads wire wire := by
  intro path
  obtain ⟨_, first, -⟩ := TransGen.head'_iff.mp path
  obtain ⟨_, -, last⟩ := TransGen.tail'_iff.mp path
  exact (target_of_leads last).2 (target_of_leads first).1

/-- The messages of the variable, which go through the outlet of the graph. -/
theorem controlOf_var : net.Addressed 0 ∧ ∃ found right,
    (Build.controlOf 2).run net = .ok [⟨2, [found], none⟩] net ∧
      net.Spreads Wire.isControl [⟨2, 0, 4, 0, .control⟩] right ∧
      (found = right ↔ ¬ net.Strays ⟨2, 0, 4, 0, .control⟩) := by
  obtain ⟨lists, run, count, each⟩ := Build.controlOf_right_iff addressed acyclic
    (.tail (.single contains.1) contains.2.2.2.1 : net.Within 0 2) (by decide) rfl rfl
  obtain ⟨found, right, there, -, only, -, same⟩ := each 0 [⟨2, 0, 4, 0, .control⟩] rfl
  obtain ⟨list, rfl⟩ := length_eq_one_iff.mp count
  cases there
  refine ⟨addressed, found, right, run, (only right).mpr rfl, same.trans ?_⟩
  simp [controls, Wire.isControl]

/-- They come to the object behind the signal. -/
theorem not_right : net.Addressed 0 ∧
    (Build.controlOf 2).run net = .ok [⟨2, [[⟨6, 0⟩, ⟨5, 0⟩]], none⟩] net ∧
    net.Spreads Wire.isControl [⟨2, 0, 4, 0, .control⟩] [⟨6, 0⟩] ∧
    ¬ net.Spreads Wire.isControl [⟨2, 0, 4, 0, .control⟩] [⟨6, 0⟩, ⟨5, 0⟩] := by
  have behind : net.Spreads Wire.isControl [⟨1, 0, 6, 0, .control⟩] [⟨6, 0⟩] :=
    @Net.Spreads.object net _ ⟨1, 0, 6, 0, .control⟩ [] [] ⟨by decide, by decide⟩ .done
  have right : net.Spreads Wire.isControl [⟨2, 0, 4, 0, .control⟩] ([⟨6, 0⟩] ++ []) :=
    .out exit behind .done
  refine ⟨addressed, rfl, right, fun wrong => ?_⟩
  have within : ∀ wire ∈ [(⟨2, 0, 4, 0, .control⟩ : Wire)], net.Within 0 wire.target := by
    intro wire inWires
    rw [mem_singleton.mp inWires]
    exact .tail (.single contains.1) contains.2.2.2.2
  exact absurd (addressed.spreads_unique wrong right within) (by decide)

end Mixed

end PatchCompiler
