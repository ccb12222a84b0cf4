import PatchCompiler.Proofs.Membership

/-!
# New objects in a graph

A low-level object is made outside all graphs and then added to one. A graph that is fit for this is
a `Site`: it knows its objects by name or by an identity that is taken, and its inlets have numbers
for indices.
-/

namespace PatchCompiler

open List

def Node.plain (type : String) (arguments : Record) (inlets outlets identity : Nat) : Node where
  type := type
  kind := .plain
  identity := identity
  arguments := arguments
  inlets := List.replicate inlets []
  outlets := List.replicate outlets []
  inletBuffers := List.replicate inlets .zero
  outletBuffers := List.replicate outlets .zero

def Node.inGraph (g : Ref) (node : Node) : Node :=
  { node with parent := some g }

def Node.enter (o : Ref) (node : Node) : Node :=
  { node with
    body := { node.body with objects := node.body.objects ++ [(.own o, o)] } }

def Node.addInlet (node : Node) : Node :=
  { node with inlets := node.inlets ++ [[]], inletBuffers := node.inletBuffers ++ [.zero] }

def Node.withInlets (lets : List Ref) (node : Node) : Node :=
  { node with body := { node.body with inletObjects := lets } }

theorem getD_replicate_nil (n i : Nat) : (List.replicate n ([] : List Wire)).getD i [] = [] := by
  rw [getD_eq_getElem?_getD, getElem?_replicate]
  split <;> rfl

theorem Node.plain_silent {type : String} {args : Record} {ins outs ident : Nat}
    (s : Side) (i : Nat) : ((plain type args ins outs ident).lets s).getD i [] = [] := by
  cases s with
  | inlet => exact getD_replicate_nil ins i
  | outlet => exact getD_replicate_nil outs i

namespace Net

def push (net : Net) (node : Node) : Net :=
  { net with nodes := net.nodes.push node }

variable {net last third : Net} {g o : Ref} {ws : Multiset Wire} {node : Node}

@[simp]
theorem size_push : (net.push node).size = net.size + 1 := by
  simp [push, size]

theorem node_push_self : (net.push node).node net.size = node := by
  simp [push, Net.node, size]

theorem node_push_of_lt {ref : Ref} (mem : ref < net.size) :
    (net.push node).node ref = net.node ref := by
  have lt : ref < net.nodes.size := mem
  simp [push, Net.node, Array.getElem?_push_lt lt, lt]

structure Site (net : Net) (g : Ref) (ws : Multiset Wire) : Prop
    extends net.Strung g ws where
  isGraph : (net.node g).kind = .graph
  inside : g < net.size
  outside : g ∉ net.contents g
  parents : ∀ o ∈ net.contents g, (net.node o).parent = some g
  keys : ∀ entry ∈ (net.node g).body.objects, ∀ identity,
    entry.1 = .own identity → identity < net.size
  indices : ∀ o ∈ (net.node g).body.inletObjects, o < net.size ∧ o ≠ g ∧
    ((net.node o).arguments.getD "index" .null).isNumber = true

theorem Site.push (site : net.Site g ws) : (net.push node).Site g ws := by
  have eq : ∀ ref < net.size, (net.push node).node ref = net.node ref :=
    fun ref hm => node_push_of_lt hm
  have graphSame := eq g site.inside
  have cs : (net.push node).contents g = net.contents g := by
    rw [Net.contents, graphSame, Net.contents]
  refine ⟨?_, ?_, ?_, ?_, ?_, ?_, ?_⟩
  · apply site.toStrung.regroup (by simp)
    · intro o hm s
      rw [eq o (site.within o hm)]
    · intro w inWs s
      rw [cs]
      exact (site.fits w inWs).mem s
    · intro o hm notOld
      rw [cs] at hm
      exact absurd hm notOld
  · rw [graphSame]
    exact site.isGraph
  · rw [size_push]
    exact Nat.lt_succ_of_lt site.inside
  · rw [cs]
    exact site.outside
  · intro o hm
    rw [cs] at hm
    rw [eq o (site.within o hm)]
    exact site.parents o hm
  · rw [graphSame, size_push]
    exact fun e hm ident key => Nat.lt_succ_of_lt (site.keys e hm ident key)
  · rw [graphSame]
    intro o hm
    rcases site.indices o hm with ⟨lt, ne, q⟩
    rw [size_push, eq o lt]
    exact ⟨Nat.lt_succ_of_lt lt, ne, q⟩

/-- An object without wires that is not in the graph. -/
structure Loose (net : Net) (g o : Ref) : Prop where
  inside : o < net.size
  different : o ≠ g
  outside : o ∉ net.contents g
  unnamed : ∀ entry ∈ (net.node g).body.objects, entry.1 ≠ .own o
  identity : (net.node o).identity = o
  silent : ∀ side place, net.held side o place = []

structure Added (net : Net) (g o : Ref) (last : Net) : Prop where
  size : last.size = net.size
  others : ∀ ref, ref ≠ g → ref ≠ o → last.node ref = net.node ref
  own : last.node o = (net.node o).inGraph g
  kind : (last.node g).kind = (net.node g).kind
  objects : (last.node g).body.objects = (net.node g).body.objects ++ [(.own o, o)]

theorem Added.contents (added : Added net g o last) : last.contents g = net.contents g ++ [o] := by
  rw [Net.contents, added.objects, map_append, Net.contents]
  rfl

theorem Added.site (added : Added net g o last) (site : net.Site g ws) (loose : net.Loose g o)
    (lets : ∀ ref ∈ (last.node g).body.inletObjects, ref ∈ (net.node g).body.inletObjects ∨
        ref = o ∧ ((net.node o).arguments.getD "index" .null).isNumber = true) :
    last.Site g ws := by
  have old : ∀ ref ∈ net.contents g, last.node ref = net.node ref := by
    intro ref hm
    refine added.others ref ?_ ?_
    · rintro rfl
      exact site.outside hm
    · rintro rfl
      exact loose.outside hm
  refine ⟨?_, ?_, ?_, ?_, ?_, ?_, ?_⟩
  · apply site.toStrung.regroup added.size.ge
    · intro ref hm s
      rw [old ref hm]
    · intro w inWs s
      rw [added.contents]
      exact mem_append_left _ ((site.fits w inWs).mem s)
    · intro ref hm notOld
      rw [added.contents, mem_append, mem_singleton] at hm
      rcases hm with hin | rfl
      · exact absurd hin notOld
      · rw [added.size]
        refine ⟨loose.inside, ?_⟩
        intro s i
        have none := loose.silent s i
        rw [held] at none ⊢
        rw [added.own]
        cases s <;> exact none
  · rw [added.kind]
    exact site.isGraph
  · rw [added.size]
    exact site.inside
  · rw [added.contents, mem_append, mem_singleton]
    rintro (hm | same)
    · exact site.outside hm
    · exact loose.different same.symm
  · intro ref hm
    rw [added.contents, mem_append, mem_singleton] at hm
    rcases hm with hin | rfl
    · rw [old ref hin]
      exact site.parents ref hin
    · rw [added.own]
      rfl
  · rw [added.objects]
    intro e hm ident key
    rw [mem_append, mem_singleton] at hm
    rw [added.size]
    rcases hm with hin | rfl
    · exact site.keys e hin ident key
    · cases key
      exact loose.inside
  · intro ref hm
    rw [added.size]
    rcases lets ref hm with hin | ⟨rfl, q⟩
    · rcases site.indices ref hin with ⟨lt, ne, q⟩
      refine ⟨lt, ne, ?_⟩
      by_cases same : ref = o
      · subst same
        rw [added.own]
        exact q
      · rw [added.others ref ne same]
        exact q
    · refine ⟨loose.inside, loose.different, ?_⟩
      rw [added.own]
      exact q

/-- The net in which a graph has one more object and has not yet taken note of it. -/
def entered (net : Net) (g o : Ref) : Net :=
  (net.change o (Node.inGraph g)).change g (Node.enter o)

theorem node_entered_graph (site : net.Site g ws) (loose : net.Loose g o) :
    (net.entered g o).node g = (net.node g).enter o := by
  have mem : g < (net.change o (Node.inGraph g)).size := by
    rw [size_change]
    exact site.inside
  rw [entered, node_change_self mem, node_change_ne loose.different.symm]

theorem added_entered (site : net.Site g ws) (loose : net.Loose g o) :
    Added net g o (net.entered g o) where
  size := by rw [entered, size_change, size_change]
  others := by
    intro ref notG notObject
    rw [entered, node_change_ne notG, node_change_ne notObject]
  own := by rw [entered, node_change_ne loose.different, node_change_self loose.inside]
  kind := by rw [node_entered_graph site loose, Node.enter]
  objects := by rw [node_entered_graph site loose, Node.enter]

/-- Objects without wires have been made, and the objects of the graph are as before. -/
structure Stocked (net : Net) (g : Ref) (ws : Multiset Wire) (objects : List Ref)
    (made : Net) : Prop where
  size : net.size ≤ made.size
  old : ∀ ref < net.size, made.node ref = net.node ref
  site : made.Site g ws
  distinct : objects.Nodup
  fresh : ∀ o ∈ objects, net.size ≤ o ∧ o < made.size
  identity : ∀ o ∈ objects, (made.node o).identity = o
  silent : ∀ o ∈ objects, ∀ side place, made.held side o place = []

theorem Stocked.none (site : net.Site g ws) : Stocked net g ws [] net :=
  ⟨le_rfl, fun _ _ => rfl, site, .nil, nofun, nofun, nofun⟩

theorem Stocked.push {os : List Ref} {made : Net} (full : Stocked net g ws os made)
    (ident : node.identity = made.size) (mute : ∀ s i, (node.lets s).getD i [] = []) :
    Stocked net g ws (os ++ [made.size]) (made.push node) := by
  have old : ∀ ref ∈ os, (made.push node).node ref = made.node ref :=
    fun ref mem => node_push_of_lt (full.fresh ref mem).2
  refine ⟨?_, ?_, full.site.push, ?_, ?_, ?_, ?_⟩
  · rw [size_push]
    exact Nat.le_succ_of_le full.size
  · intro ref mem
    rw [node_push_of_lt (mem.trans_le full.size), full.old ref mem]
  · rw [← concat_eq_append, nodup_concat]
    exact ⟨fun mem => lt_irrefl _ (full.fresh _ mem).2, full.distinct⟩
  · intro ref mem
    rw [size_push]
    rw [mem_append, mem_singleton] at mem
    rcases mem with pre | rfl
    · exact ⟨(full.fresh ref pre).1, Nat.lt_succ_of_lt (full.fresh ref pre).2⟩
    · exact ⟨full.size, Nat.lt_succ_self _⟩
  · intro ref mem
    rw [mem_append, mem_singleton] at mem
    rcases mem with pre | rfl
    · rw [old ref pre]
      exact full.identity ref pre
    · rw [node_push_self]
      exact ident
  · intro ref mem s i
    rw [mem_append, mem_singleton] at mem
    rcases mem with pre | rfl
    · rw [held, old ref pre]
      exact full.silent ref pre s i
    · rw [held, node_push_self]
      exact mute s i

theorem Stocked.loose {os : List Ref} {made : Net} (full : Stocked net g ws os made)
    (site : net.Site g ws) : ∀ o ∈ os, made.Loose g o := by
  intro o mem
  obtain ⟨late, hm⟩ := full.fresh o mem
  have cs : made.contents g = net.contents g := by
    rw [Net.contents, full.old g site.inside, Net.contents]
  refine ⟨hm, ?_, ?_, ?_, full.identity o mem, full.silent o mem⟩
  · rintro rfl
    exact late.not_gt site.inside
  · rw [cs]
    exact fun old => late.not_gt (site.within o old)
  · rw [full.old g site.inside]
    exact fun e eq key => late.not_gt (site.keys e eq o key)

end Net

namespace Build

open Net

variable {net : Net} {g o : Ref} {ws : Multiset Wire}

theorem run_makePlain {type : String} {args settled : Record} {ins outs : Nat}
    {specs : List Catalogue.ArgumentSpec}
    (lets : declaredLets type args .plain = .ok none) (named : typeInNet type = type)
    (desc : (Catalogue.irSpec? type).map (fun spec =>
      (spec.inlets.length, spec.outlets.length, spec.arguments.getD [])) = some (ins, outs, specs))
    (settles : settleArguments type true specs args = (.ok (), settled)) (net : Net) :
    (makePlain type args).run net =
      .ok net.size (net.push (.plain type settled ins outs net.size)) := by
  obtain ⟨spec, got, eq⟩ := Option.map_eq_some_iff.mp desc
  cases eq
  have lookup : (describeLow type none).run net =
      .ok (spec.inlets.length, spec.outlets.length, spec.arguments.getD []) net := by
    simp [describeLow, got]
  simp only [makePlain, makeLow, lets, named, EStateM.run_bind, run_ofExcept_ok, lookup, settles]
  rfl

def quietTypes : List String :=
  ["__add~f", "__sub~f", "__mul~f", "__neg~f", "__var_k~f", "__fma~f", "__fms~f"]

theorem run_noteObject_quiet (quiet : (net.node o).type ∈ quietTypes) :
    (noteObject g o).run net = .ok () net := by
  unfold noteObject
  simp only [quietTypes, mem_cons, not_mem_nil, or_false] at quiet
  rcases quiet with type | type | type | type | type | type | type
  all_goals simp [type]

theorem ends_add (loose : net.Loose g o)
    {post : Unit → Net → Prop} (noted : Ends (noteObject g o) (net.entered g o) post) :
    Ends (add g o) net post := by
  have new : (net.node g).body.objects.lookup (.own o) = none := by
    rw [lookup_eq_none_iff]
    intro e mem
    rw [bne_iff_ne]
    exact (loose.unnamed e mem).symm
  apply Ends.at_node
  rw [loose.identity]
  apply Ends.at_node
  rw [new, if_neg (by simp)]
  apply Ends.bind_run (run_change _ _ _)
  apply Ends.bind_run (run_changeBody _ _ _)
  exact noted

theorem ends_add_quiet (site : net.Site g ws) (loose : net.Loose g o)
    (quiet : (net.node o).type ∈ quietTypes) : Ends (add g o) net fun _ last =>
      Added net g o last ∧ last.Site g ws := by
  have added := added_entered site loose
  apply ends_add loose
  have type : ((net.entered g o).node o).type = (net.node o).type := by
    rw [added.own, Node.inGraph]
  rw [← type] at quiet
  apply Ends.of_run (run_noteObject_quiet quiet)
  refine ⟨added, added.site site loose ?_⟩
  rw [node_entered_graph site loose]
  exact fun ref mem => .inl mem

theorem isIndexBefore_ok {first snd : Value} (q : first.isNumber = true)
    (num : snd.isNumber = true) : ∃ before, isIndexBefore first snd = .ok before := by
  unfold isIndexBefore
  split
  · cases q
  · rw [q, num]
    exact ⟨_, rfl⟩

theorem insertByIndex_ok (indexOf : Ref → Value) {o : Ref} {lets : List Ref}
    (q : (indexOf o).isNumber = true) (numbers : ∀ ref ∈ lets, (indexOf ref).isNumber = true) :
    ∃ sorted, insertByIndex indexOf o lets = .ok sorted ∧ ∀ ref ∈ sorted, ref ∈ lets ∨ ref = o := by
  induction lets with
  | nil => exact ⟨[o], rfl, fun ref mem => .inr (mem_singleton.mp mem)⟩
  | cons first rest ih =>
    obtain ⟨sorted, run, members⟩ :=
      ih (forall_mem_cons.mp numbers).2
    obtain ⟨pre, compared⟩ := isIndexBefore_ok q (numbers first mem_cons_self)
    cases pre with
    | true =>
      refine ⟨o :: first :: rest, ?_, ?_⟩
      · simp [insertByIndex, compared]
        rfl
      · intro ref mem
        rcases mem_cons.mp mem with rfl | there
        · exact .inr rfl
        · exact .inl there
    | false =>
      refine ⟨first :: sorted, ?_, ?_⟩
      · simp [insertByIndex, compared, run]
        rfl
      · intro ref mem
        rcases mem_cons.mp mem with rfl | there
        · exact .inl mem_cons_self
        · rcases members ref there with old | rfl
          · exact .inl (mem_cons_of_mem _ old)
          · exact .inr rfl

theorem ends_sortLets {lets : List Ref} {k : Value}
    (indexed : (net.node o).arguments.get? "index" = some k) (q : k.isNumber = true)
    (numbers : ∀ ref ∈ lets, ((net.node ref).arguments.getD "index" .null).isNumber = true) :
    Ends (sortLets o lets) net fun sorted last =>
      last = net ∧ ∀ ref ∈ sorted, ref ∈ lets ∨ ref = o := by
  have own : ((net.node o).arguments.getD "index" .null).isNumber = true := by
    rw [Record.getD, indexed]
    exact q
  obtain ⟨sorted, got, members⟩ := insertByIndex_ok
    (fun ref => (net.node ref).arguments.getD "index" .null) own numbers
  have run : (ofExcept (insertByIndex (fun ref => (net.node ref).arguments.getD "index" .null)
      o lets)).run net = .ok sorted net := by
    rw [got]
    rfl
  have start : (get : Build Net).run net = .ok net net := rfl
  apply Ends.bind_run start
  apply Ends.bind_run (run_argument indexed)
  exact .of_run run ⟨rfl, members⟩

theorem ends_add_inlet (site : net.Site g ws) (loose : net.Loose g o)
    (type : (net.node o).type = "__inlet") {index : Value}
    (indexed : (net.node o).arguments.get? "index" = some index)
    (q : index.isNumber = true) : Ends (add g o) net fun _ last =>
      Added net g o last ∧ last.Site g ws := by
  have added := added_entered site loose
  have graphInside : g < (net.entered g o).size := by
    rw [added.size]
    exact site.inside
  apply ends_add loose
  apply Ends.at_node
  rw [added.own, show ((net.node o).inGraph g).type = "__inlet" from type]
  apply Ends.bind_run (run_change _ _ _)
  generalize grown : (net.entered g o).change g Node.addInlet = cur
  change Ends _ ((net.entered g o).change g Node.addInlet) _
  rw [grown]
  have size : cur.size = net.size := by rw [← grown, size_change, added.size]
  have graphNode : cur.node g = ((net.node g).enter o).addInlet := by
    rw [← grown, node_change_self graphInside, node_entered_graph site loose]
  have ys : ∀ ref ≠ g, cur.node ref = (net.entered g o).node ref := by
    intro ref ne
    rw [← grown, node_change_ne ne]
  have ownNode : cur.node o = (net.node o).inGraph g := by
    rw [ys o loose.different, added.own]
  apply Ends.at_node
  have ownIndexed : (cur.node o).arguments.get? "index" = some index := by
    rw [ownNode]
    exact indexed
  apply Ends.bind (ends_sortLets ownIndexed q ?_)
  · rintro sorted cur ⟨rfl, members⟩
    have currentInside : g < cur.size := size ▸ site.inside
    have final := node_change_self currentInside (Node.withInlets sorted)
    have still : ∀ ref ≠ g, (cur.change g (Node.withInlets sorted)).node ref =
        (net.entered g o).node ref := by
      intro ref ne
      rw [node_change_ne ne, ys ref ne]
    have addedLast : Added net g o (cur.change g (Node.withInlets sorted)) := by
      refine ⟨by rw [size_change, size], ?_, ?_, ?_, ?_⟩
      · intro ref notG notObject
        rw [still ref notG, added.others ref notG notObject]
      · rw [still o loose.different, added.own]
      · rw [final, graphNode, Node.withInlets, Node.addInlet, Node.enter]
      · rw [final, graphNode, Node.withInlets, Node.addInlet, Node.enter]
    refine .of_run (run_changeBody _ _ _) ⟨addedLast, addedLast.site site loose ?_⟩
    intro ref mem
    have inSorted : ref ∈ sorted := by
      rw [show (cur.change g (Node.withInlets sorted)).node g = _ from final] at mem
      exact mem
    have lets : (cur.node g).body.inletObjects = (net.node g).body.inletObjects := by
      rw [graphNode]
      rfl
    rw [lets] at members
    rcases members ref inSorted with old | rfl
    · exact .inl old
    · refine .inr ⟨rfl, ?_⟩
      rw [Record.getD, indexed]
      exact q
  · intro ref mem
    rw [graphNode] at mem
    rcases site.indices ref mem with ⟨-, ne, numbered⟩
    by_cases eq : ref = o
    · subst eq
      rw [ownNode]
      exact numbered
    · rw [ys ref ne, added.others ref ne eq]
      exact numbered

end Build

end PatchCompiler
