import PatchCompiler.Proofs.Withdrawal

/-!
# Who sees whom

Named objects are added to the graphs of a tree. Each is registered with one level: its own graph,
the graph around that, or the outermost one. A name is looked up from a graph outwards, and what is
found are exactly the objects of that name that can be seen from there, the most local ones first.
-/

namespace PatchCompiler

open List Relation

/-- An object that is put into a graph under a key. -/
structure Addition where
  graph : Ref
  object : Ref
  key : Key

def Node.tag (node : Node) : Node :=
  { node with parent := none, body := {} }

theorem Node.unique_of_static {n : Node} {flags : Bool × Bool}
    (flagged : n.registration = some flags) (static : flags.1 = true) : flags.2 = true := by
  obtain ⟨_, unique⟩ := flags
  obtain rfl : _ = true := static
  unfold registration at flagged
  split at flagged
  case h_7 => split at flagged <;> simp_all
  all_goals simp_all

namespace Registry

variable {reg res : Registry} {view : View} {o : Ref} {name : Name} {static unique : Bool}

theorem register_eq_ok_iff (both : static = true → unique = true) :
    reg.register view o name static unique = .ok res ↔
      (unique = true → reg.ofTypes view.typeOf name [view.typeOf o] = []) ∧
        res = reg.change name (· ++ [o]) := by
  unfold register
  generalize reg.ofTypes view.typeOf name [view.typeOf o] = present
  cases present <;> cases static <;> cases unique <;> simp_all [eq_comm]

end Registry

namespace Net

def Under (net : Net) (g outer : Ref) : Prop :=
  ReflTransGen (fun inner around => (net.node inner).parent = some around) g outer

/-- All graphs are in one tree. -/
structure Tree (net : Net) (root : Ref) : Prop where
  isGraph : (net.node root).isGraph = true
  top : (net.node root).parent = none
  parents : ∀ ref outer, (net.node ref).parent = some outer → (net.node outer).isGraph = true
  under : ∀ g, (net.node g).isGraph = true → net.Under g root

/-- The levels from a graph to the outermost one. -/
inductive Lineage (net : Net) : Ref → List Ref → Prop
  | top {g : Ref} (top : (net.node g).parent = none) : Lineage net g [g]
  | step {g outer : Ref} {levels : List Ref} (parent : (net.node g).parent = some outer)
      (rest : Lineage net outer levels) : Lineage net g (g :: levels)

variable {net cur last : Net} {root g outer : Ref} {levels : List Ref}

namespace Lineage

theorem unique (first : net.Lineage g levels) {others : List Ref} (snd : net.Lineage g others) :
    levels = others := by
  induction first generalizing others with
  | top none =>
    cases snd with
    | top => rfl
    | step some => cases none.symm.trans some
  | step up _ ih =>
    cases snd with
    | top none => cases none.symm.trans up
    | step same rest =>
      cases up.symm.trans same
      rw [ih rest]

theorem of_mem (lineage : net.Lineage g levels) (mem : outer ∈ levels) :
    net.Under g outer ∧ ∃ rest, rest <:+ levels ∧ net.Lineage outer rest := by
  induction lineage with
  | top none =>
    cases mem_singleton.mp mem
    exact ⟨.refl, _, suffix_rfl, .top none⟩
  | step up rest ih =>
    rcases mem_cons.mp mem with rfl | later
    · exact ⟨.refl, _, suffix_rfl, .step up rest⟩
    · obtain ⟨under, tail, suffix, lineage⟩ := ih later
      exact ⟨.head up under, tail, suffix.trans (suffix_cons ..), lineage⟩

theorem mem_iff_under (lineage : net.Lineage g levels) : outer ∈ levels ↔ net.Under g outer := by
  refine ⟨fun mem => (lineage.of_mem mem).1, fun under => ?_⟩
  induction under using ReflTransGen.head_induction_on generalizing levels with
  | refl => cases lineage <;> exact mem_cons_self
  | head up _ ih =>
    cases lineage with
    | top none => cases none.symm.trans up
    | step same rest =>
      cases up.symm.trans same
      exact mem_cons_of_mem _ (ih rest)

theorem nodup (lineage : net.Lineage g levels) : levels.Nodup := by
  induction lineage with
  | top => exact nodup_singleton _
  | step up rest ih =>
    refine nodup_cons.mpr ⟨fun again => ?_, ih⟩
    obtain ⟨-, tail, suffix, lineage⟩ := rest.of_mem again
    have longer := suffix.length_le
    rw [lineage.unique (.step up rest), length_cons] at longer
    exact absurd longer (Nat.not_succ_le_self _)

end Lineage

namespace Tree

theorem lineage (tree : net.Tree root) (isGraph : (net.node g).isGraph = true) :
    ∃ levels, net.Lineage g levels ∧ levels.getLast? = some root := by
  induction tree.under g isGraph using ReflTransGen.head_induction_on with
  | refl => exact ⟨[root], .top tree.top, rfl⟩
  | head up _ ih =>
    obtain ⟨levels, lineage, last⟩ := ih (tree.parents _ _ up)
    exact ⟨_, .step up lineage, by simp [getLast?_cons, last]⟩

theorem isGraph_of_mem (tree : net.Tree root) (lineage : net.Lineage g levels)
    (isGraph : (net.node g).isGraph = true) : ∀ level ∈ levels, (net.node level).isGraph = true := by
  induction lineage with
  | top => simpa using isGraph
  | step up _ ih =>
    exact forall_mem_cons.mpr ⟨isGraph, ih (tree.parents _ _ up)⟩

section

variable (tree : net.Tree root) (size : cur.size = net.size)
  (graphs : ∀ ref, (net.node ref).isGraph = true → (cur.node ref).parent = (net.node ref).parent)
include tree size graphs

/-- As long as graphs stay where they are the way up from a graph is the same. -/
theorem enclosing_eq (lineage : net.Lineage g levels) (isGraph : (net.node g).isGraph = true) :
    cur.enclosing g = levels := by
  have bounded : levels.length ≤ net.size := by
    have inRange := lineage.nodup.subperm fun level mem =>
      mem_range.mpr (lt_size_of_isGraph (tree.isGraph_of_mem lineage isGraph level mem))
    simpa using inRange.length_le
  rw [enclosing, size]
  generalize net.size = d at bounded
  induction lineage generalizing d with
  | top none =>
    obtain ⟨d, rfl⟩ := Nat.exists_eq_add_one_of_ne_zero (Nat.ne_of_gt bounded)
    rw [enclosingWithin, graphs _ isGraph, none]
  | step up _ ih =>
    rw [length_cons] at bounded
    obtain ⟨d, rfl⟩ := Nat.exists_eq_add_one_of_ne_zero (Nat.ne_zero_of_lt bounded)
    rw [enclosingWithin, graphs _ isGraph, up]
    exact congrArg _ (ih (tree.parents _ _ up) d (Nat.le_of_succ_le_succ bounded))

theorem root_eq (isGraph : (net.node g).isGraph = true) : cur.root g = root := by
  obtain ⟨levels, lineage, top⟩ := tree.lineage isGraph
  rw [Net.root, tree.enclosing_eq size graphs lineage isGraph, top]
  rfl

end

theorem of_falling (isGraph : (net.node root).isGraph = true) (top : (net.node root).parent = none)
    (parents : ∀ ref < net.size, ∀ outer ∈ (net.node ref).parent,
      outer < ref ∧ (net.node outer).isGraph = true)
    (single : ∀ g < net.size, (net.node g).isGraph = true → g = root ∨ (net.node g).parent.isSome) :
    net.Tree root := by
  have falls : ∀ ref outer, (net.node ref).parent = some outer →
      outer < ref ∧ (net.node outer).isGraph = true := by
    exact fun ref outer up => parents ref (lt_size_of_look Node.parent (up ▸ nofun)) outer up
  refine ⟨isGraph, top, fun ref outer up => (falls ref outer up).2, fun g => ?_⟩
  induction g using Nat.strongRecOn with
  | ind g ih =>
    intro isGraph
    rcases single g (lt_size_of_isGraph isGraph) isGraph with rfl | inside
    · exact .refl
    · obtain ⟨outer, up⟩ := Option.isSome_iff_exists.mp inside
      obtain ⟨lt, near⟩ := falls g outer up
      exact .head up (ih outer lt near)

end Tree

def nameAt? (net : Net) (o : Ref) : Option Name :=
  (Name.ofValue (((net.node o).name?).getD .null)).toOption

def isStatic (net : Net) (o : Ref) : Bool :=
  ((net.node o).registration.map Prod.fst).getD false

def home (net : Net) (root : Ref) (a : Addition) : Ref :=
  match (net.node a.object).scope with
  | .text "private" => if net.isStatic a.object then root else a.graph
  | .text "protected" => ((net.node a.graph).parent).getD a.graph
  | _ => root

def isUnique (net : Net) (o : Ref) : Bool :=
  ((net.node o).registration.map Prod.snd).getD false

/-- Two objects are at home at the same level, with the same name and of the same type. -/
def Rivals (net : Net) (root : Ref) (a b : Addition) : Prop :=
  net.home root a = net.home root b ∧ net.nameAt? a.object = net.nameAt? b.object ∧
    (net.node a.object).type = (net.node b.object).type

/-- A named object with one of the three scopes. -/
structure Named (net : Net) (a : Addition) : Prop where
  inGraph : (net.node a.graph).isGraph = true
  notGraph : (net.node a.object).isGraph = false
  registered : (net.node a.object).registration.isSome
  scope : ∃ word ∈ ["public", "protected", "private"], (net.node a.object).scope = .text word

def Visible (net : Net) (g : Ref) (a : Addition) : Prop :=
  match (net.node a.object).scope with
  | .text "public" => True
  | .text "protected" => net.Under g (((net.node a.graph).parent).getD a.graph)
  | _ => g = a.graph

/-- Objects have been added: graphs are where they were, and every level lists what is at home
there, in the order in which it came. -/
structure Filed (net : Net) (root : Ref) (adds : List Addition) (cur : Net) : Prop where
  alike : Alike Node.tag net cur
  graphs : ∀ ref, (net.node ref).isGraph = true → (cur.node ref).parent = (net.node ref).parent
  entered : ∀ a ∈ adds, (cur.node a.object).parent = some a.graph
  registry : ∀ level name, (cur.node level).body.registry.get name =
    (adds.filter fun a => net.home root a = level ∧ net.nameAt? a.object = some name).map
      Addition.object
  apart : adds.Pairwise fun b a => net.isUnique a.object = true → ¬ net.Rivals root b a

variable {a : Addition} {adds : List Addition} {key : Key} {name : Name} {types : List String}

theorem Tree.home_isGraph (tree : net.Tree root) (named : net.Named a) :
    (net.node (net.home root a)).isGraph = true := by
  unfold home
  split
  · split
    · exact tree.isGraph
    · exact named.inGraph
  · cases up : (net.node a.graph).parent with
    | none => exact named.inGraph
    | some outer => exact tree.parents _ _ up
  · exact tree.isGraph

theorem get_eq_nil_of_blank (blank : ∀ g < net.size, (net.node g).body.registry = .empty) (g : Ref)
    (name : Name) : (net.node g).body.registry.get name = [] := by
  by_cases inside : g < net.size
  · rw [blank g inside]
    rfl
  · rw [node_of_size_le (not_lt.mp inside)]
    rfl

theorem Filed.refl (blank : ∀ g name, (net.node g).body.registry.get name = []) :
    net.Filed root [] net :=
  ⟨.refl _ _, fun _ _ => rfl, nofun, blank, .nil⟩

theorem alike_enteredAs (net : Net) (a : Addition) :
    Alike Node.tag net (net.enteredAs a.graph a.object a.key) :=
  (Alike.change (f := Node.inGraph a.graph) fun _ => rfl).trans (.change fun _ => rfl)

theorem parent_enteredAs {o : Ref} (inside : o < net.size) (ref : Ref) :
    ((net.enteredAs g o key).node ref).parent = if ref = o then some g else (net.node ref).parent := by
  have kept : ∀ n : Node, (n.enterAs key o).parent = n.parent := fun _ => rfl
  rw [enteredAs, node_change_keeps Node.parent kept]
  by_cases same : ref = o
  · rw [same, node_change_self inside, if_pos rfl]
    rfl
  · rw [node_change_ne same, if_neg same]

theorem registry_enteredAs {o : Ref} (ref : Ref) :
    ((net.enteredAs g o key).node ref).body.registry = (net.node ref).body.registry := by
  have kept : ∀ n : Node, (n.enterAs key o).body.registry = n.body.registry := fun _ => rfl
  rw [enteredAs, node_change_keeps (fun n => n.body.registry) kept, body_inGraph]

theorem lt_size_of_registration {o : Ref} (registered : (net.node o).registration.isSome) :
    o < net.size := by
  exact lt_size_of_look Node.registration fun eq => by rw [eq] at registered; cases registered

theorem ne_of_isGraph {o : Ref} (isGraph : (net.node g).isGraph = true)
    (no : (net.node o).isGraph = false) : g ≠ o := by
  rintro rfl
  cases isGraph.symm.trans no

theorem Filed.run_homeOf (tree : net.Tree root) (filed : net.Filed root adds cur)
    (named : net.Named a) : (Build.homeOf a.graph a.object (net.isStatic a.object)).run
      (cur.enteredAs a.graph a.object a.key) =
        .ok (net.home root a) (cur.enteredAs a.graph a.object a.key) := by
  have inside : a.object < cur.size := filed.alike.1 ▸ lt_size_of_registration named.registered
  have graphs : ∀ ref, (net.node ref).isGraph = true →
      ((cur.enteredAs a.graph a.object a.key).node ref).parent = (net.node ref).parent := by
    intro ref isGraph
    rw [parent_enteredAs inside, if_neg (ne_of_isGraph isGraph named.notGraph),
      filed.graphs ref isGraph]
  have alike := filed.alike.trans (alike_enteredAs cur a)
  have top := tree.root_eq alike.1 graphs named.inGraph
  obtain ⟨word, mem, eq⟩ := named.scope
  simp only [mem_cons, not_mem_nil, or_false] at mem
  rcases mem with rfl | rfl | rfl <;>
    simp [Build.homeOf, home, alike.look Node.scope rfl, eq, top, graphs _ named.inGraph]

theorem Filed.mem_registry (filed : net.Filed root adds cur) {level o : Ref} :
    o ∈ (cur.node level).body.registry.get name ↔
      ∃ a ∈ adds, a.object = o ∧ net.home root a = level ∧ net.nameAt? o = some name := by
  rw [filed.registry, mem_map]
  constructor
  · rintro ⟨a, mem, rfl⟩
    obtain ⟨inAdds, got⟩ := mem_filter.mp mem
    simp only [decide_eq_true_eq] at got
    exact ⟨a, inAdds, rfl, got⟩
  · rintro ⟨a, inAdds, rfl, got⟩
    exact ⟨a, mem_filter.mpr ⟨inAdds, by simpa using got⟩, rfl⟩

/-- An object that has to be the only one finds none of its type and name exactly if it has no
rival. -/
theorem Filed.ofTypes_eq_nil_iff (filed : net.Filed root adds cur)
    (called : net.nameAt? a.object = some name) : (cur.node (net.home root a)).body.registry.ofTypes
        (cur.enteredAs a.graph a.object a.key).view.typeOf name
        [(cur.enteredAs a.graph a.object a.key).view.typeOf a.object] = [] ↔
      ∀ b ∈ adds, ¬ net.Rivals root b a := by
  have alike := filed.alike.trans (alike_enteredAs cur a)
  simp only [Registry.ofTypes, filter_eq_nil_iff, filed.mem_registry, view, alike.look Node.type rfl]
  constructor
  · rintro none b hm ⟨atHome, sameName, sameType⟩
    exact none b.object ⟨b, hm, rfl, atHome, sameName.trans called⟩ (by simp [sameType])
  · rintro alone o ⟨b, hm, rfl, atHome, sameName⟩ ofType
    exact alone b hm ⟨atHome, sameName.trans called.symm, by simpa using ofType⟩

/-- What an addition does: the object comes last under its name at its home. If it has to be the
only one, it has no rival. -/
theorem Filed.entry (tree : net.Tree root) (filed : net.Filed root adds cur)
    (named : net.Named a) (ran : (Build.addAs a.graph a.object a.key).run cur = .ok () last) :
    ∃ name, net.nameAt? a.object = some name ∧
      (net.isUnique a.object = true → ∀ b ∈ adds, ¬ net.Rivals root b a) ∧
      last = (cur.enteredAs a.graph a.object a.key).change (net.home root a) (Node.withRegistry
        ((cur.node (net.home root a)).body.registry.change name (· ++ [a.object]))) := by
  obtain ⟨flags, flagged⟩ := Option.isSome_iff_exists.mp named.registered
  have alike := filed.alike.trans (alike_enteredAs cur a)
  obtain ⟨-, noted⟩ := Build.yields_addAs.of_ok ran
  have registered := noted.registry
  rw [alike.look Node.registration rfl, flagged] at registered
  obtain ⟨home, name, reg, homeRun, nameRun, done, rfl⟩ := registered
  have static : net.isStatic a.object = flags.1 := by rw [isStatic, flagged]; rfl
  have unique : net.isUnique a.object = flags.2 := by rw [isUnique, flagged]; rfl
  rw [← static, filed.run_homeOf tree named] at homeRun
  cases homeRun
  have eq := Build.nameIs_of_run nameRun
  rw [nameIs, alike.look Node.name? rfl] at eq
  have called : net.nameAt? a.object = some name := by rw [nameAt?, eq]; rfl
  obtain ⟨single, rfl⟩ := (Registry.register_eq_ok_iff (Node.unique_of_static flagged)).mp done
  rw [registry_enteredAs, filed.ofTypes_eq_nil_iff called, ← unique] at single
  exact ⟨name, called, single, by rw [registry_enteredAs]⟩

theorem Filed.snoc (tree : net.Tree root) (filed : net.Filed root adds cur)
    (named : net.Named a) (new : a.object ∉ adds.map Addition.object)
    (ran : (Build.addAs a.graph a.object a.key).run cur = .ok () last) :
    net.Filed root (adds ++ [a]) last := by
  obtain ⟨name, called, alone, rfl⟩ := filed.entry tree named ran
  have inside : a.object < cur.size := filed.alike.1 ▸ lt_size_of_registration named.registered
  have homeInside : net.home root a < (cur.enteredAs a.graph a.object a.key).size := by
    rw [(filed.alike.trans (alike_enteredAs cur a)).1]
    exact lt_size_of_isGraph (tree.home_isGraph named)
  have parents : ∀ reg ref, (((cur.enteredAs a.graph a.object a.key).change (net.home root a)
      (Node.withRegistry reg)).node ref).parent =
        if ref = a.object then some a.graph else (cur.node ref).parent := by
    intro reg ref
    have kept : ∀ n : Node, (n.withRegistry reg).parent = n.parent := fun _ => rfl
    rw [node_change_keeps Node.parent kept, parent_enteredAs inside]
  refine ⟨(filed.alike.trans (alike_enteredAs cur a)).trans (.change fun _ => rfl), ?_, ?_, ?_, ?_⟩
  · intro ref isGraph
    rw [parents, if_neg (ne_of_isGraph isGraph named.notGraph), filed.graphs ref isGraph]
  · intro b hm
    rw [parents]
    rcases mem_append.mp hm with old | isNew
    · rw [if_neg fun same : b.object = a.object => new (same ▸ mem_map_of_mem old),
        filed.entered b old]
    · rw [mem_singleton.mp isNew, if_pos rfl]
  · intro level y
    rw [filter_append, map_append, ← filed.registry]
    by_cases here : level = net.home root a
    · subst here
      rw [node_change_self homeInside]
      by_cases same : y = name
      · simp [Node.withRegistry, same, called]
      · simp [Node.withRegistry, Registry.get_change_ne same, called, Ne.symm same]
    · rw [node_change_ne here, registry_enteredAs]
      simp [Ne.symm here]
  · refine pairwise_append.mpr ⟨filed.apart, pairwise_singleton .., ?_⟩
    intro b hm _ isNew unique
    cases mem_singleton.mp isNew
    exact alone unique b hm

/-- The objects of a name that are at home at a level, without those that are passed over. -/
def listedAt (net : Net) (g : Ref) (name : Name) (types : List String) (level : Ref) : List Ref :=
  ((net.node level).body.registry.ofTypes net.view.typeOf name types).filter fun o =>
    !((net.node o).isPrivate && (net.node o).parent != some g)

theorem Filed.mem_listedAt (filed : net.Filed root adds cur) {level o : Ref} :
    o ∈ cur.listedAt g name types level ↔ ∃ a ∈ adds, a.object = o ∧ net.home root a = level ∧
      net.nameAt? o = some name ∧ (net.node o).type ∈ types ∧
      ((net.node o).isPrivate = true → a.graph = g) := by
  simp only [listedAt, Registry.ofTypes, view, mem_filter, filed.mem_registry,
    filed.alike.look Node.type rfl, filed.alike.look Node.isPrivate rfl]
  constructor
  · rintro ⟨⟨⟨a, hm, rfl, atHome, called⟩, ofType⟩, seen⟩
    rw [filed.entered a hm] at seen
    refine ⟨a, hm, rfl, atHome, called, by simpa using ofType, ?_⟩
    rintro isPrivate
    simpa [isPrivate] using seen
  · rintro ⟨a, hm, rfl, atHome, called, ofType, own⟩
    rw [filed.entered a hm]
    refine ⟨⟨⟨a, hm, rfl, atHome, called⟩, by simpa using ofType⟩, ?_⟩
    cases eq : (net.node a.object).isPrivate <;> simp_all

/-- An object is at home on the way up, and not private elsewhere, exactly if it can be seen. -/
theorem Tree.visible_iff (tree : net.Tree root) (named : net.Named a)
    (plain : net.isStatic a.object = false) (lineage : net.Lineage g levels)
    (isGraph : (net.node g).isGraph = true) : net.Visible g a ↔ net.home root a ∈ levels ∧
      ((net.node a.object).isPrivate = true → a.graph = g) := by
  obtain ⟨word, mem, eq⟩ := named.scope
  simp only [mem_cons, not_mem_nil, or_false] at mem
  rcases mem with rfl | rfl | rfl
  · simp [Visible, home, Node.isPrivate, eq, Value.text?, lineage.mem_iff_under,
      tree.under g isGraph]
  · simp [Visible, home, Node.isPrivate, eq, Value.text?, lineage.mem_iff_under]
  · simp only [Visible, home, Node.isPrivate, eq, plain, Value.text?, lineage.mem_iff_under]
    constructor
    · rintro rfl
      exact ⟨.refl, fun _ => rfl⟩
    · exact fun seen => (seen.2 rfl).symm

theorem flatMap_sublist {f h : Ref → List Ref} (each : ∀ level, (f level).Sublist (h level)) :
    (levels.flatMap f).Sublist (levels.flatMap h) := by
  induction levels with
  | nil => exact .slnil
  | cons level rest ih => exact (each level).append ih

end Net

namespace Build

open Net

def enterAll (adds : List Addition) : Build Unit :=
  adds.forM fun a => addAs a.graph a.object a.key

variable {net cur : Net} {root g : Ref} {adds : List Addition} {name : Name}
  {types : List String}

theorem filed_of_run (tree : net.Tree root)
    (blank : ∀ g name, (net.node g).body.registry.get name = [])
    (named : ∀ a ∈ adds, net.Named a) (once : (adds.map Addition.object).Nodup)
    (ran : (enterAll adds).run net = .ok () cur) : net.Filed root adds cur := by
  have yields : Yields (enterAll adds) net fun _ last => net.Filed root adds last := by
    refine Guarded.forM (net.Filed root) (.refl blank) fun done a rest now split filed => ?_
    refine yields_addAs.remember.mono fun _ last ent => ?_
    refine filed.snoc tree (named a (by simp [split])) ?_ ent.1
    rw [split, map_append, nodup_append] at once
    exact fun old => once.2.2 _ old _ (by simp) rfl
  exact yields.of_ok ran

theorem run_resolve : ∃ last, (resolve g name types).run net =
    .ok ((net.enclosing g).flatMap (net.listedAt g name types)) last := by
  have noted : Ends ((net.enclosing g).forM fun level => changeBody level fun body =>
      { body with registry := body.registry.mention name }) net fun _ _ => True :=
    Ends.forM (fun _ _ => True) trivial fun _ _ _ _ _ _ => .of_run (run_changeBody ..) trivial
  obtain ⟨_, last, run, -⟩ := noted
  refine ⟨last, ?_⟩
  rw [resolve, EStateM.run_bind, EStateM.run_get]
  simp only [EStateM.run_bind, run]
  rfl

/-- A look-up gives what is listed on the way up, each object once and the most local ones first. -/
theorem resolve_filed (tree : net.Tree root) (filed : net.Filed root adds cur)
    (once : (adds.map Addition.object).Nodup) {levels : List Ref} (lineage : net.Lineage g levels)
    (isGraph : (net.node g).isGraph = true) (name : Name) (types : List String) :
    ∃ got last, (resolve g name types).run cur = .ok got last ∧
      (resolveOne g name types).run cur = .ok got.head? last ∧ got.Nodup ∧
      (∀ o, o ∈ got ↔ ∃ a ∈ adds, a.object = o ∧ net.nameAt? o = some name ∧
        (net.node o).type ∈ types ∧ net.home root a ∈ levels ∧
        ((net.node o).isPrivate = true → a.graph = g)) ∧ got.Sublist (levels.flatMap fun level =>
        (adds.filter (net.home root · = level)).map Addition.object) := by
  obtain ⟨last, run⟩ := @run_resolve cur g name types
  rw [tree.enclosing_eq filed.alike.1 filed.graphs lineage isGraph] at run
  have order : ∀ level, (cur.listedAt g name types level).Sublist
      ((adds.filter (net.home root · = level)).map Addition.object) := by
    intro level
    refine (filter_sublist.trans filter_sublist).trans ?_
    rw [filed.registry]
    refine List.Sublist.map _ (monotone_filter_right adds fun a => ?_)
    simp +contextual
  refine ⟨_, last, run, ?_, ?_, ?_, flatMap_sublist order⟩
  · rw [resolveOne, EStateM.run_bind, run]
    rfl
  · rw [nodup_flatMap]
    refine ⟨fun level _ => (order level).nodup ((filter_sublist.map _).nodup once), ?_⟩
    refine lineage.nodup.imp fun ne o first snd => ne ?_
    obtain ⟨a, inAdds, same, rfl, -⟩ := filed.mem_listedAt.mp first
    obtain ⟨b, hm, equal, rfl, -⟩ := filed.mem_listedAt.mp snd
    rw [inj_on_of_nodup_map once inAdds hm (same.trans equal.symm)]
  · intro o
    rw [mem_flatMap]
    constructor
    · rintro ⟨level, onWay, hm⟩
      obtain ⟨a, inAdds, rfl, rfl, called, ofType, own⟩ := filed.mem_listedAt.mp hm
      exact ⟨a, inAdds, rfl, called, ofType, onWay, own⟩
    · rintro ⟨a, inAdds, rfl, called, ofType, onWay, own⟩
      exact ⟨_, onWay, filed.mem_listedAt.mpr ⟨a, inAdds, rfl, rfl, called, ofType, own⟩⟩

/-- If named objects have been added to the graphs of a tree, a look-up from any graph gives the
objects of the name and of the types that can be seen from it, each once, by the levels at which
they are registered from the graph to the outermost one and by their order at each level. -/
theorem resolve_visible (tree : net.Tree root)
    (blank : ∀ g name, (net.node g).body.registry.get name = [])
    (named : ∀ a ∈ adds, net.Named a ∧ net.isStatic a.object = false)
    (once : (adds.map Addition.object).Nodup) (ran : (enterAll adds).run net = .ok () cur)
    (isGraph : (net.node g).isGraph = true) (name : Name) (types : List String) :
    ∃ levels found last, net.Lineage g levels ∧ (resolve g name types).run cur = .ok found last ∧
      (resolveOne g name types).run cur = .ok found.head? last ∧ found.Nodup ∧
      (∀ o, o ∈ found ↔ ∃ a ∈ adds, a.object = o ∧ net.nameAt? o = some name ∧
        (net.node o).type ∈ types ∧ net.Visible g a) ∧ found.Sublist (levels.flatMap fun level =>
        (adds.filter (net.home root · = level)).map Addition.object) := by
  have filed := filed_of_run tree blank (fun a there => (named a there).1) once ran
  obtain ⟨levels, lineage, -⟩ := tree.lineage isGraph
  obtain ⟨found, last, run, first, nodup, members, order⟩ :=
    resolve_filed tree filed once lineage isGraph name types
  refine ⟨levels, found, last, lineage, run, first, nodup, fun o => ?_, order⟩
  rw [members]
  refine exists_congr fun a => and_congr_right fun there => and_congr_right ?_
  rintro rfl
  rw [tree.visible_iff (named a there).1 (named a there).2 lineage isGraph]

end Build

namespace House

/-- A graph in a graph in a graph, and receivers of the name `x` for them: a private one of the
innermost graph, two protected ones of the innermost and the middle graph, and a public one. -/
def house : Net :=
  let graph (identity : Nat) (parent : Option Ref) : Node :=
    { type := "__graph", kind := .graph, identity, parent }
  let receiver (identity : Nat) (scope : String) : Node :=
    { type := "receive", kind := .receive, identity, arguments := [("name", .text "x")]
      annotations := [("scope", .text scope)] }
  { nodes := #[graph 0 none, graph 1 (some 0), graph 2 (some 1), receiver 3 "public",
      receiver 4 "protected", receiver 5 "private", receiver 6 "protected"] }

def moves : List Addition :=
  [⟨2, 3, .own 3⟩, ⟨2, 4, .own 4⟩, ⟨2, 5, .own 5⟩, ⟨1, 6, .own 6⟩]

theorem tree_house : house.Tree 0 :=
  .of_falling rfl rfl (by decide) (by decide)

theorem house_blank : ∀ g name, (house.node g).body.registry.get name = [] :=
  Net.get_eq_nil_of_blank (by decide)

/-- From the middle graph everything can be seen but what is private to the innermost one. -/
theorem house_middle : ∃ cur, (Build.enterAll moves).run house = .ok () cur ∧
    ∃ levels found last, house.Lineage 1 levels ∧
      (Build.resolve 1 (.word "x") ["receive"]).run cur = .ok found last ∧
      (Build.resolveOne 1 (.word "x") ["receive"]).run cur = .ok found.head? last ∧ found.Nodup ∧
      (∀ o, o ∈ found ↔ ∃ a ∈ moves, a.object = o ∧ house.nameAt? o = some (.word "x") ∧
        (house.node o).type ∈ ["receive"] ∧ house.Visible 1 a) ∧
      found.Sublist (levels.flatMap fun level =>
        (moves.filter (house.home 0 · = level)).map Addition.object) := by
  obtain ⟨_, ran⟩ := @Build.run_of_finishes _ (Build.enterAll moves) house (by decide)
  refine ⟨_, ran, Build.resolve_visible tree_house house_blank ?_ (by decide) ran rfl _ _⟩
  simp only [moves, forall_mem_cons, not_mem_nil, false_imp_iff, implies_true, and_true]
  refine ⟨⟨?_, rfl⟩, ⟨?_, rfl⟩, ⟨?_, rfl⟩, ⟨?_, rfl⟩⟩ <;>
    exact ⟨rfl, rfl, rfl, _, by decide, rfl⟩

end House

end PatchCompiler
