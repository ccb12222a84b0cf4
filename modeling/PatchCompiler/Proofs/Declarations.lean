import Mathlib.Data.List.Pairwise
import PatchCompiler.Proofs.Scoping

/-!
# Static objects

A static object is meant to be there once for all graphs, however often it is declared. It is also
registered as one that has to be the only one of its name and type, and that is asked first: the
first declaration is found from every graph, and a second one is refused.
-/

namespace PatchCompiler

open List

namespace Net

variable {net cur : Net} {root : Ref} {a : Addition} {adds : List Addition} {name : Name}
  {type : String}

structure Declares (net : Net) (name : Name) (type : String) (a : Addition) : Prop
    extends Named net a where
  static : net.isStatic a.object = true
  isPublic : (net.node a.object).scope = .text "public"
  called : net.nameAt? a.object = some name
  ofType : (net.node a.object).type = type

theorem Declares.home_eq (decl : net.Declares name type a) : net.home root a = root := by
  simp [home, decl.isPublic]

theorem Declares.isUnique (decl : net.Declares name type a) : net.isUnique a.object = true := by
  obtain ⟨flags, flagged⟩ := Option.isSome_iff_exists.mp decl.registered
  have static := decl.static
  rw [isStatic, flagged] at static
  rw [Net.isUnique, flagged]
  exact Node.unique_of_static flagged static

theorem Declares.rivals {b : Addition} (first : net.Declares name type a)
    (snd : net.Declares name type b) : net.Rivals root a b :=
  ⟨first.home_eq.trans snd.home_eq.symm, first.called.trans snd.called.symm,
    first.ofType.trans snd.ofType.symm⟩

end Net

namespace Build

open Net

variable {net cur : Net} {root g o : Ref} {a : Addition} {adds : List Addition} {name : Name}
  {type : String} {key : Key}

theorem run_noteObject_named {flags : Bool × Bool}
    (flagged : (net.node o).registration = some flags) :
    (noteObject g o).run net = (register g o flags.1 flags.2).run net := by
  unfold noteObject
  rw [EStateM.run_bind, run_node]
  unfold Node.registration at flagged
  split at flagged
  case h_7 type =>
    split at flagged
    case h_3 value notNull name =>
      cases flagged
      simp only [type, name]
    all_goals cases flagged
  case h_8 => cases flagged
  all_goals
    next type =>
      cases flagged
      simp only [type]

theorem run_register {home : Ref} {reg : Registry} {static unique : Bool}
    (homeRun : (homeOf g o static).run net = .ok home net) (called : net.nameIs o name)
    (done : (net.node home).body.registry.register net.view o name static unique = .ok reg) :
    (register g o static unique).run net = .ok () (net.change home (Node.withRegistry reg)) := by
  have nameRun : (nameOf o).run net = .ok name net := by
    change (ofExcept (Name.ofValue (((net.node o).name?).getD .null))).run net = _
    rw [called]
    rfl
  rw [register, EStateM.run_bind, homeRun]
  simp only [EStateM.run_bind, nameRun, EStateM.run_get, done]
  rfl

theorem run_addAs (free : (net.node g).body.objects.lookup key = none) :
    (addAs g o key).run net = (noteObject g o).run (net.enteredAs g o key) := by
  rw [addAs, EStateM.run_bind, run_node]
  simp [free]
  rfl

theorem addAs_of_no_rival (tree : net.Tree root) (filed : net.Filed root adds cur)
    (named : net.Named a) (called : net.nameAt? a.object = some name)
    (free : (cur.node a.graph).body.objects.lookup a.key = none)
    (alone : ∀ b ∈ adds, ¬ net.Rivals root b a) :
    ∃ last, (addAs a.graph a.object a.key).run cur = .ok () last := by
  obtain ⟨flags, flagged⟩ := Option.isSome_iff_exists.mp named.registered
  have alike := filed.alike.trans (alike_enteredAs cur a)
  have homeRun := filed.run_homeOf tree named
  have static : net.isStatic a.object = flags.1 := by rw [isStatic, flagged]; rfl
  have known : (cur.enteredAs a.graph a.object a.key).nameIs a.object name := by
    rw [nameIs, alike.look Node.name? rfl]
    unfold nameAt? at called
    cases value : Name.ofValue (((net.node a.object).name?).getD .null) <;>
      simp_all [Except.toOption]
  rw [run_addAs free, run_noteObject_named ((alike.look Node.registration rfl).trans flagged)]
  refine ⟨_, run_register (static ▸ homeRun) known
    ((Registry.register_eq_ok_iff (Node.unique_of_static flagged)).mpr ⟨fun _ => ?_, rfl⟩)⟩
  rw [registry_enteredAs]
  exact (filed.ofTypes_eq_nil_iff called).mpr alone

theorem eq_singleton {got : List Ref} (nodup : got.Nodup) (only : ∀ r, r ∈ got ↔ r = o) :
    got = [o] :=
  perm_singleton.mp ((perm_ext_iff_of_nodup nodup (nodup_singleton o)).mpr fun r => by
    rw [only, mem_singleton])

section Filed

variable (filed : net.Filed root adds cur)
include filed

theorem mem_ofTypes_root : o ∈ (cur.node root).body.registry.ofTypes cur.view.typeOf name [type] ↔
    ∃ b ∈ adds, b.object = o ∧ net.home root b = root ∧ net.nameAt? o = some name ∧
      (net.node o).type = type := by
  simp only [Registry.ofTypes, mem_filter, filed.mem_registry, view, filed.alike.look Node.type rfl]
  simp only [contains_cons, contains_nil, Bool.or_false, beq_iff_eq]
  constructor
  · rintro ⟨⟨b, there, same, atHome, called⟩, ofType⟩
    exact ⟨b, there, same, atHome, called, ofType⟩
  · rintro ⟨b, there, same, atHome, called, ofType⟩
    exact ⟨⟨b, there, same, atHome, called⟩, ofType⟩

theorem declares_eq {b : Addition} (there : a ∈ adds) (here : b ∈ adds)
    (first : net.Declares name type a) (snd : net.Declares name type b) : a = b := by
  by_contra different
  have symmetric : Std.Symm fun a b => ¬ (net.Declares name type a ∧ net.Declares name type b) :=
    ⟨fun _ _ none both => none both.symm⟩
  have apart : adds.Pairwise fun a b => ¬ (net.Declares name type a ∧ net.Declares name type b) :=
    filed.apart.imp fun apart both => apart both.2.isUnique (both.1.rivals both.2)
  exact apart.forall there here different ⟨first, snd⟩

theorem ofTypes_root_eq_nil_iff (decl : net.Declares name type a) :
    (cur.node root).body.registry.ofTypes cur.view.typeOf name [type] = [] ↔
      ∀ b ∈ adds, ¬ net.Rivals root b a := by
  simp only [eq_nil_iff_forall_not_mem, mem_ofTypes_root filed]
  constructor
  · exact fun none b there ⟨atHome, sameName, sameType⟩ => none b.object ⟨b, there, rfl,
      atHome.trans decl.home_eq, sameName.trans decl.called, sameType.trans decl.ofType⟩
  · rintro alone _ ⟨b, there, rfl, atHome, sameName, sameType⟩
    exact alone b there ⟨atHome.trans decl.home_eq.symm, sameName.trans decl.called.symm,
      sameType.trans decl.ofType.symm⟩

theorem resolveOne_declared (tree : net.Tree root) (once : (adds.map Addition.object).Nodup)
    (there : a ∈ adds) (decl : net.Declares name type a) (alone : ∀ b ∈ adds,
      net.nameAt? b.object = some name → (net.node b.object).type = type → b = a)
    (isGraph : (net.node g).isGraph = true) :
    ∃ last, (resolveOne g name [type]).run cur = .ok (some a.object) last := by
  obtain ⟨levels, lineage, top⟩ := tree.lineage isGraph
  obtain ⟨found, last, -, run, nodup, members, -⟩ :=
    resolve_filed tree filed once lineage isGraph name [type]
  refine ⟨last, ?_⟩
  rw [run, eq_singleton nodup fun o => ?_]
  · rfl
  · rw [members]
    constructor
    · rintro ⟨b, here, rfl, called, ofType, -⟩
      rw [alone b here called (mem_singleton.mp ofType)]
    · rintro rfl
      refine ⟨a, there, rfl, decl.called, mem_singleton.mpr decl.ofType, ?_, ?_⟩
      · rw [decl.home_eq]
        exact mem_of_getLast? top
      · simp [Node.isPrivate, decl.isPublic, Value.text?]

end Filed

/-- Whatever has been added to the graphs of a tree, a static object was declared at most once. A
declaration succeeds exactly if there is no object of its name and type with the outermost graph yet.
If it is the only one, it is the one that is registered there and found from every graph. -/
theorem static_declared_once (tree : net.Tree root)
    (blank : ∀ g name, (net.node g).body.registry.get name = [])
    (named : ∀ a ∈ adds, net.Named a) (once : (adds.map Addition.object).Nodup)
    (ran : (enterAll adds).run net = .ok () cur) (name : Name) (type : String) :
    (∀ a ∈ adds, ∀ b ∈ adds, net.Declares name type a → net.Declares name type b → a = b) ∧
    (∀ a, net.Declares name type a → (cur.node a.graph).body.objects.lookup a.key = none →
      ((∃ last, (addAs a.graph a.object a.key).run cur = .ok () last) ↔
        (cur.node root).body.registry.ofTypes cur.view.typeOf name [type] = [])) ∧
    ∀ a ∈ adds, net.Declares name type a →
      (∀ b ∈ adds, net.nameAt? b.object = some name → (net.node b.object).type = type → b = a) →
      (cur.node root).body.registry.ofTypes cur.view.typeOf name [type] = [a.object] ∧
      ∀ g, (net.node g).isGraph = true →
        ∃ last, (resolveOne g name [type]).run cur = .ok (some a.object) last := by
  have filed := filed_of_run tree blank named once ran
  refine ⟨fun a there b here => declares_eq filed there here, fun a declares free => ?_,
    fun a there declares alone => ⟨eq_singleton ?_ fun o => ?_, fun g =>
      resolveOne_declared filed tree once there declares alone⟩⟩
  · rw [ofTypes_root_eq_nil_iff filed declares]
    constructor
    · rintro ⟨last, ran⟩
      obtain ⟨_, -, alone, -⟩ := filed.entry tree declares.toNamed ran
      exact alone declares.isUnique
    · exact addAs_of_no_rival tree filed declares.toNamed declares.called free
  · refine filter_sublist.nodup ?_
    rw [filed.registry]
    exact (filter_sublist.map _).nodup once
  · rw [mem_ofTypes_root filed]
    constructor
    · rintro ⟨b, here, rfl, -, called, ofType⟩
      rw [alone b here called ofType]
    · rintro rfl
      exact ⟨a, there, rfl, declares.home_eq, declares.called, declares.ofType⟩

end Build

namespace Twins

/-- A graph with two instances of a graph that has a static table of the name `x`. -/
def twins : Net :=
  let graph (identity : Nat) (parent : Option Ref) : Node :=
    { type := "__graph", kind := .graph, identity, parent }
  let table (identity : Nat) : Node :=
    { type := "table", kind := .table, identity, arguments := [("name", .text "x")]
      annotations := [("scope", .text "public"), ("static", .bool true)] }
  { nodes := #[graph 0 none, graph 1 (some 0), graph 2 (some 0), table 3, table 4] }

theorem tree_twins : twins.Tree 0 :=
  .of_falling rfl rfl (by decide) (by decide)

theorem twins_blank : ∀ g name, (twins.node g).body.registry.get name = [] :=
  Net.get_eq_nil_of_blank (by decide)

theorem declares_first : twins.Declares (.word "x") "table" ⟨1, 3, .given "t"⟩ :=
  ⟨⟨rfl, rfl, rfl, _, by decide, rfl⟩, rfl, rfl, rfl, rfl⟩

theorem declares_second : twins.Declares (.word "x") "table" ⟨2, 4, .given "t"⟩ :=
  ⟨⟨rfl, rfl, rfl, _, by decide, rfl⟩, rfl, rfl, rfl, rfl⟩

/-- The table of the first instance is found from both. -/
theorem first_declared : ∃ cur, (Build.enterAll [⟨1, 3, .given "t"⟩]).run twins = .ok () cur ∧
    ∀ g, (twins.node g).isGraph = true →
      ∃ last, (Build.resolveOne g (.word "x") ["table"]).run cur = .ok (some 3) last := by
  obtain ⟨_, ran⟩ := @Build.run_of_finishes _ (Build.enterAll [⟨1, 3, .given "t"⟩]) twins (by decide)
  have all := (Build.static_declared_once tree_twins twins_blank
    (by simpa using declares_first.toNamed) (by decide) ran (.word "x") "table").2.2
  exact ⟨_, ran, (all ⟨1, 3, .given "t"⟩ (by simp) declares_first (by simp)).2⟩

/-- The table of the second instance is refused. -/
theorem second_refused :
    twins.Declares (.word "x") "table" ⟨1, 3, .given "t"⟩ ∧
    twins.Declares (.word "x") "table" ⟨2, 4, .given "t"⟩ ∧
    ¬ ∃ cur, (Build.enterAll [⟨1, 3, .given "t"⟩, ⟨2, 4, .given "t"⟩]).run twins = .ok () cur := by
  refine ⟨declares_first, declares_second, ?_⟩
  rintro ⟨cur, ran⟩
  have fails : (Build.enterAll [⟨1, 3, .given "t"⟩, ⟨2, 4, .given "t"⟩]).finishes twins = false := by
    decide
  rw [Build.finishes, ran] at fails
  cases fails

end Twins

end PatchCompiler
