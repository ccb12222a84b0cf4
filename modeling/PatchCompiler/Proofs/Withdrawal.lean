import PatchCompiler.Proofs.Effects
import PatchCompiler.Proofs.Entering

/-!
# Receivers that are taken away

A public receiver is in one graph, is registered under its name with the outermost graph and has
wires that are noted at both their ends. When it is removed nothing is left of it, and all else
stays as it is and where it is.
-/

namespace PatchCompiler

open List

namespace Registry

variable {reg : Registry} {name y : Name} {f g : List Ref → List Ref} {o : Ref}

theorem lookup_changeEntry_self (es : List (Name × List Ref)) :
    ((changeEntry name f es).lookup name).getD [] = f ((es.lookup name).getD []) := by
  induction es with
  | nil => simp [changeEntry]
  | cons e rest ih =>
    obtain ⟨key, held⟩ := e
    by_cases eq : key = name
    · subst eq
      simp [changeEntry]
    · have ne : (name == key) = false := by simpa using Ne.symm eq
      simp only [changeEntry, if_neg eq, lookup_cons, ne]
      exact ih

theorem lookup_changeEntry_ne (ne : y ≠ name) (es : List (Name × List Ref)) :
    (changeEntry name f es).lookup y = es.lookup y := by
  have notSame : (y == name) = false := by simpa using ne
  induction es with
  | nil => simp [changeEntry, lookup_cons, notSame]
  | cons e rest ih =>
    obtain ⟨key, held⟩ := e
    by_cases eq : key = name
    · subst eq
      simp [changeEntry, lookup_cons, notSame]
    · simp only [changeEntry, if_neg eq, lookup_cons, ih]

@[simp]
theorem get_change_self : (reg.change name f).get name = f (reg.get name) :=
  lookup_changeEntry_self reg.entries

theorem get_change_ne (ne : y ≠ name) : (reg.change name f).get y = reg.get y :=
  congrArg (Option.getD · []) (lookup_changeEntry_ne ne reg.entries)

theorem changeEntry_changeEntry (entries : List (Name × List Ref)) :
    changeEntry name g (changeEntry name f entries) =
      changeEntry name (fun held => g (f held)) entries := by
  induction entries with
  | nil => simp [changeEntry]
  | cons e rest ih =>
    obtain ⟨key, held⟩ := e
    by_cases eq : key = name
    · simp [changeEntry, eq]
    · simp [changeEntry, eq, ih]

theorem change_change : (reg.change name f).change name g =
    reg.change name fun held => g (f held) :=
  congrArg Registry.mk (changeEntry_changeEntry reg.entries)

theorem get_of_mem (nodup : (reg.entries.map Prod.fst).Nodup) {held : List Ref}
    (mem : (name, held) ∈ reg.entries) : reg.get name = held := by
  have look : ∀ es : List (Name × List Ref), (es.map Prod.fst).Nodup →
      (name, held) ∈ es → es.lookup name = some held := by
    intro es
    induction es with
    | nil => exact fun _ => nofun
    | cons e rest ih =>
      intro nodup mem
      rw [map_cons, nodup_cons] at nodup
      rcases mem_cons.mp mem with rfl | later
      · simp
      · have ne : (name == e.1) = false := by
          rw [beq_eq_false_iff_ne]
          rintro rfl
          exact nodup.1 (mem_map.mpr ⟨_, later, rfl⟩)
        rw [lookup_cons, ne]
        exact ih nodup.2 later
  rw [get, look reg.entries nodup mem]
  rfl

theorem unregister_ok {res : Registry} (done : reg.unregister o name = (.ok (), res)) :
    res = reg.change name (·.erase o) := by
  have mentioned : (reg.mention name).get name = reg.get name := get_change_self
  rw [unregister, mentioned] at done
  split at done
  · cases done
    rw [mention, change_change]
    rfl
  · cases done

theorem register_plain {view : View} {res : Registry}
    (done : reg.register view o name false false = .ok res) : res = reg.change name (· ++ [o]) := by
  simpa [register] using done.symm

end Registry

/-- An object without its wires, its contents and its registry. -/
def Node.core (node : Node) : Node :=
  { node.unwired with body := { node.body with objects := [], registry := .empty } }

theorem Node.core_unwired (n : Node) : n.unwired.core = n.core := by
  simp [core, unwired]

/-- Taking away all wires of one kind, one by one, leaves the others in their order. -/
theorem diff_eq_filter {keep : Wire → Bool} {list gone : List Wire}
    (hit : ∀ w ∈ gone, keep w = false)
    (enough : ∀ w, keep w = false → list.count w ≤ gone.count w) :
    list.diff gone = list.filter keep := by
  have kept : ∀ gone list : List Wire, (∀ w ∈ gone, keep w = false) →
      (list.diff gone).filter keep = list.filter keep := by
    intro gone
    induction gone with
    | nil => exact fun list _ => rfl
    | cons first rest ih =>
      intro list hit
      rw [diff_cons, ih _ (forall_mem_cons.mp hit).2]
      exact Build.filter_erase_of_not (hit first mem_cons_self) list
  rw [← kept gone list hit]
  refine (filter_eq_self.mpr fun w mem => ?_).symm
  by_contra dropped
  have n := enough w (Bool.eq_false_of_not_eq_true dropped)
  have pres := count_pos_iff.mpr mem
  rw [count_diff] at pres
  omega

theorem filter_not_mem_singleton {list : List Ref} {o : Ref} (absent : o ∉ list) :
    list.filter (· ∉ [o]) = list :=
  filter_eq_self.mpr fun y mem => by
    simpa using fun equal : y = o => absent (equal ▸ mem)

theorem erase_eq_filter {list : List Ref} {o : Ref} (once : list.count o = 1) :
    list.erase o = list.filter (· ∉ [o]) := by
  induction list with
  | nil => cases once
  | cons first rest ih =>
    by_cases eq : first = o
    · subst eq
      have none : first ∉ rest := by
        rw [← count_eq_zero]
        simpa using once
      rw [erase_cons_head, filter_cons_of_neg (by simp), filter_not_mem_singleton none]
    · rw [count_cons_of_ne eq] at once
      rw [erase_cons_tail (by simpa using eq), filter_cons_of_pos (by simpa using eq),
        ih once]

namespace Net

def nameIs (net : Net) (object : Ref) (name : Name) : Prop :=
  Name.ofValue (((net.node object).name?).getD .null) = .ok name

/-- A public control receiver of the given name in the graphs of a root. -/
structure Receiver (net : Net) (root : Ref) (name : Name) (r : Ref) : Prop where
  type : (net.node r).type = "__receive"
  scope : (net.node r).scope = .text "public"
  named : net.nameIs r name
  inlets : ((net.node r).lets .inlet).length = 0
  outlets : ((net.node r).lets .outlet).length = 1
  housed : ∃ g, (net.node r).parent = some g ∧ net.root g = root ∧
    (net.contents g).count r = 1 ∧ ∀ other ≠ g, r ∉ net.contents other
  enrolled : ((net.node root).body.registry.get name).count r = 1
  nowhere : ∀ g other, r ∈ (net.node g).body.registry.get other → g = root ∧ other = name
  own : ∀ slot, ∀ wire ∈ net.held .outlet r slot, wire.source = r
  noted : ∀ side ref slot, ∀ wire ∈ net.held side ref slot, wire.source = r →
    net.Meets side ref slot wire
  agree : ∀ wire, wire.source = r → net.timesNoted .outlet wire = net.timesNoted .inlet wire

/-- What is seen of a receiver is the same in two nets. -/
structure SameFor (r : Ref) (net last : Net) : Prop where
  core : (last.node r).core = (net.node r).core
  contents : ∀ g, (last.contents g).count r = (net.contents g).count r
  registered : ∀ g name, ((last.node g).body.registry.get name).count r =
    ((net.node g).body.registry.get name).count r
  outlets : ∀ slot, last.held .outlet r slot = net.held .outlet r slot
  held : ∀ side ref slot, (last.held side ref slot).filter (·.source = r) =
    (net.held side ref slot).filter (·.source = r)
  letOf : ∀ side wire, wire.source = r → last.letOf side wire = net.letOf side wire

variable {net last : Net} {root r : Ref} {name : Name}

theorem SameFor.look {α : Type} (eq : SameFor r net last) (look : Node → α)
    (keeps : look ∘ Node.core = look) : look (last.node r) = look (net.node r) := by
  rw [← keeps]
  exact congrArg look eq.core

theorem Node.length_lets_core (s : Side) (n : Node) :
    (n.core.lets s).length = (n.lets s).length := by
  cases s <;> simp [Node.core, Node.unwired, Node.lets]

theorem timesNoted_eq_count_filter (wire : Wire) (s : Side) : net.timesNoted s wire =
    match net.letOf s wire with
    | none => 0
    | some j =>
      ((net.held s (wire.object s) j).filter (·.source = wire.source)).count wire := by
  unfold timesNoted
  cases net.letOf s wire with
  | none => rfl
  | some j =>
    dsimp only
    rw [count_filter]
    simp

theorem Receiver.same (isReceiver : net.Receiver root name r) (eq : SameFor r net last)
    (roots : ∀ g, net.root g = root → last.root g = root) : last.Receiver root name r where
  type := (eq.look Node.type rfl).trans isReceiver.type
  scope := (eq.look Node.scope rfl).trans isReceiver.scope
  named := by
    rw [nameIs, eq.look Node.name? rfl]
    exact isReceiver.named
  inlets := by
    rw [eq.look (fun n => (n.lets .inlet).length) (funext (Node.length_lets_core .inlet))]
    exact isReceiver.inlets
  outlets := by
    rw [eq.look (fun n => (n.lets .outlet).length) (funext (Node.length_lets_core .outlet))]
    exact isReceiver.outlets
  housed := by
    obtain ⟨g, up, lt, once, only⟩ := isReceiver.housed
    refine ⟨g, (eq.look Node.parent rfl).trans up, roots g lt, (eq.contents g).trans once, ?_⟩
    intro y ne
    rw [← count_eq_zero, eq.contents, count_eq_zero]
    exact only y ne
  enrolled := (eq.registered root name).trans isReceiver.enrolled
  nowhere := by
    intro g y mem
    rw [← count_pos_iff, eq.registered, count_pos_iff] at mem
    exact isReceiver.nowhere g y mem
  own := by
    intro j
    rw [eq.outlets]
    exact isReceiver.own j
  noted := by
    intro s ref j wire hm src
    have kept : wire ∈ (last.held s ref j).filter (·.source = r) := by
      simp [hm, src]
    rw [eq.held] at kept
    obtain ⟨here, met⟩ := isReceiver.noted s ref j wire (mem_of_mem_filter kept) src
    exact ⟨here, (eq.letOf s wire src).trans met⟩
  agree := by
    have times : ∀ wire : Wire, wire.source = r → ∀ s,
        last.timesNoted s wire = net.timesNoted s wire := by
      intro wire src s
      rw [timesNoted_eq_count_filter, timesNoted_eq_count_filter, eq.letOf s wire src, src]
      simp only [eq.held]
    intro wire src
    rw [times wire src, times wire src]
    exact isReceiver.agree wire src

section Wires

variable (isReceiver : net.Receiver root name r)
include isReceiver

theorem Receiver.lt_size : r < net.size :=
  lt_size_of_look Node.type (isReceiver.type ▸ by decide)

theorem Receiver.timesNoted_eq {s : Side} {ref : Ref} {j : Nat} {wire : Wire}
    (mem : wire ∈ net.held s ref j) (src : wire.source = r) :
    net.timesNoted s wire = (net.held s ref j).count wire := by
  obtain ⟨rfl, met⟩ := isReceiver.noted s ref j wire mem src
  rw [timesNoted, met]

theorem Receiver.count_eq {s : Side} {ref : Ref} {j : Nat} {wire : Wire}
    (mem : wire ∈ net.held s ref j) (src : wire.source = r) :
    (net.held s ref j).count wire = (net.held .outlet r 0).count wire := by
  have eq : net.timesNoted .outlet wire = (net.held s ref j).count wire := by
    rw [← isReceiver.timesNoted_eq mem src]
    cases s with
    | inlet => exact isReceiver.agree wire src
    | outlet => rfl
  have pres := count_pos_iff.mpr mem
  rw [← eq] at pres ⊢
  rw [timesNoted] at pres ⊢
  cases met : net.letOf .outlet wire with
  | none =>
    rw [met] at pres
    cases pres
  | some i =>
    have lt := bound_of_letOf met
    rw [Wire.object, src, isReceiver.outlets] at lt
    obtain rfl : i = 0 := by omega
    dsimp only
    rw [Wire.object, src]

theorem Receiver.exists_inlet {j : Nat} : ∀ w ∈ net.held .outlet r j,
    ∃ place, net.letOf .inlet w = some place := by
  intro w mem
  have src := isReceiver.own j w mem
  have pres := count_pos_iff.mpr mem
  rw [← isReceiver.timesNoted_eq mem src, isReceiver.agree w src, timesNoted] at pres
  cases met : net.letOf .inlet w with
  | none =>
    rw [met] at pres
    cases pres
  | some place => exact ⟨place, rfl⟩

theorem Receiver.apart {j : Nat} : ∀ w ∈ net.held .outlet r j, w.source ≠ w.target := by
  intro w mem eq
  obtain ⟨i, met⟩ := isReceiver.exists_inlet w mem
  have lt := bound_of_letOf met
  rw [Wire.object, ← eq, isReceiver.own j w mem, isReceiver.inlets] at lt
  cases lt

/-- What is left when every wire of the only outlet is taken away at both its ends. -/
theorem Receiver.diff_eq_filter (s : Side) (ref : Ref) (j : Nat) : (net.held s ref j).diff
        ((net.held .outlet r 0).filter (net.Meets s ref j)) =
      (net.held s ref j).filter (·.source ≠ r) := by
  apply PatchCompiler.diff_eq_filter
  · intro w hm
    simpa using isReceiver.own 0 w (mem_of_mem_filter hm)
  · intro w gone
    have src : w.source = r := by simpa using gone
    by_cases mem : w ∈ net.held s ref j
    · have meets := isReceiver.noted s ref j w mem src
      rw [isReceiver.count_eq mem src, count_filter (by simpa using meets)]
    · rw [count_eq_zero.mpr mem]
      exact Nat.zero_le _

end Wires

/-- Objects from which wires may leave are gone, with these wires. -/
structure Withdrawn (net : Net) (gone : List Ref) (last : Net) : Prop where
  alike : Alike Node.core net last
  held : ∀ side ref slot,
    last.held side ref slot = (net.held side ref slot).filter (·.source ∉ gone)
  contents : ∀ g, last.contents g = (net.contents g).filter (· ∉ gone)
  registered : ∀ g name, (last.node g).body.registry.get name =
    ((net.node g).body.registry.get name).filter (· ∉ gone)

theorem Withdrawn.refl (net : Net) : Withdrawn net [] net :=
  ⟨.refl _ _, by simp, by simp, by simp⟩

theorem Withdrawn.trans {third : Net} {gone more : List Ref} (first : Withdrawn net gone third)
    (snd : Withdrawn third more last) : Withdrawn net (gone ++ more) last where
  alike := first.alike.trans snd.alike
  held := by
    intro s ref j
    rw [snd.held, first.held, filter_filter]
    simp [Bool.and_comm]
  contents := by
    intro g
    rw [snd.contents, first.contents, filter_filter]
    simp [Bool.and_comm]
  registered := by
    intro g name
    rw [snd.registered, first.registered, filter_filter]
    simp [Bool.and_comm]

theorem Alike.core_letOf (alike : Alike Node.core net last) (s : Side) (wire : Wire) :
    last.letOf s wire = net.letOf s wire :=
  letOf_eq (alike.look (fun n => (n.lets s).length) (funext (Node.length_lets_core s)))

theorem enclosingWithin_congr (parents : ∀ ref, (last.node ref).parent = (net.node ref).parent)
    (d : Nat) (g : Ref) : last.enclosingWithin d g = net.enclosingWithin d g := by
  induction d generalizing g with
  | zero => rfl
  | succ d ih =>
    rw [enclosingWithin, enclosingWithin, parents]
    split
    · rw [ih]
    · rfl

theorem Alike.core_root (alike : Alike Node.core net last) (g : Ref) :
    last.root g = net.root g := by
  rw [root, enclosing, alike.1, enclosingWithin_congr fun _ => alike.look Node.parent rfl]
  rfl

theorem Withdrawn.isReceiver {gone : List Ref} (withdrawn : Withdrawn net gone last)
    (isReceiver : net.Receiver root name r) (stays : r ∉ gone) : last.Receiver root name r := by
  have counts : ∀ list : List Ref, (list.filter (· ∉ gone)).count r = list.count r :=
    fun list => count_filter (by simpa using stays)
  refine isReceiver.same ⟨withdrawn.alike.2 r, ?_, ?_, ?_, ?_, ?_⟩ ?_
  · intro g
    rw [withdrawn.contents, counts]
  · intro g y
    rw [withdrawn.registered, counts]
  · intro j
    rw [withdrawn.held]
    refine filter_eq_self.mpr fun w mem => ?_
    rw [isReceiver.own j w mem]
    simpa using stays
  · intro s ref j
    rw [withdrawn.held, filter_filter]
    apply filter_congr
    intro w _
    by_cases src : w.source = r <;> simp [src, stays]
  · exact fun s w _ => withdrawn.alike.core_letOf s w
  · intro g lt
    rw [withdrawn.alike.core_root]
    exact lt

end Net

namespace Build

open Net

variable {net : Net} {root g r : Ref} {name : Name}

theorem run_homeOf_public {o : Ref} {isStatic : Bool}
    (scope : (net.node o).scope = .text "public") :
    (homeOf g o isStatic).run net = .ok (net.root g) net := by
  simp [homeOf, scope]

theorem nameIs_of_run {o : Ref} {last : Net} (run : (nameOf o).run net = .ok name last) :
    net.nameIs o name := by
  change (ofExcept (Name.ofValue (((net.node o).name?).getD .null))).run net = _ at run
  unfold nameIs
  cases eq : Name.ofValue (((net.node o).name?).getD .null) with
  | ok v =>
    rw [eq] at run
    cases run
    rfl
  | error err =>
    rw [eq] at run
    cases run

theorem yields_remove_outlet (type : (net.node r).type = "__receive")
    (inlets : ((net.node r).lets .inlet).length = 0)
    (outlets : ((net.node r).lets .outlet).length = 1)
    (sep : ∀ w ∈ net.held .outlet r 0, w.source ≠ w.target) :
    Yields (remove g r) net fun _ last => ∃ bared, Stripped net (net.held .outlet r 0) bared ∧
        Unregistered (bared.change g (Node.dropEntry r)) g r last := by
  change (net.node r).inlets.length = 0 at inlets
  change (net.node r).outlets.length = 1 at outlets
  unfold remove
  apply Guarded.at_node
  rw [inlets]
  refine Guarded.bind_run (rfl : EStateM.run _ net = .ok PUnit.unit net) ?_
  apply Guarded.at_node
  have loop : Yields (forIn [0] PUnit.unit fun place _ => do
      let node ← node r
      (node.outlets.getD place []).forM disconnect
      pure (ForInStep.yield PUnit.unit)) net fun _ last =>
        Stripped net (net.held .outlet r 0) last := by
    apply Guarded.forIn fun done _ cur =>
      if done = [] then cur = net else Stripped net (net.held .outlet r 0) cur
    · rfl
    · intro done place rest _ cur split pre
      obtain ⟨rfl, rfl⟩ : done = [] ∧ place = 0 := by
        cases done <;> simp_all
      obtain rfl : cur = net := pre
      apply Guarded.at_node
      apply Guarded.bind (yields_disconnectAll_stripped sep)
      exact fun _ _ bare => .pure ⟨PUnit.unit, rfl, bare⟩
  rw [outlets, range_one]
  apply Guarded.bind loop
  intro _ bared bare
  apply Guarded.bind_run (run_changeBody _ _ _)
  change Yields _ (bared.change g (Node.dropEntry r)) _
  apply Guarded.at_node
  have mailbox : isMailbox ((bared.change g (Node.dropEntry r)).node r).type = true := by
    have kept : ∀ node : Node, (node.dropEntry r).type = node.type := fun _ => rfl
    rw [node_change_keeps Node.type kept, bare.alike.look Node.type rfl, type]
    decide
  rw [if_pos mailbox]
  exact yields_unregister.mono fun _ last unreg => ⟨bared, bare, unreg⟩

theorem yields_withdraw (isReceiver : net.Receiver root name r)
    (parent : (net.node r).parent = some g) :
    Yields (remove g r) net fun _ last => Withdrawn net [r] last := by
  apply (yields_remove_outlet isReceiver.type isReceiver.inlets isReceiver.outlets
    isReceiver.apart).mono
  rintro _ last ⟨bared, stripped, home, known, reg, homeRun, nameRun, done, rfl⟩
  obtain ⟨_, parent', below, once, only⟩ := isReceiver.housed
  cases parent.symm.trans parent'
  have alike : Alike Node.core net (bared.change g (Node.dropEntry r)) :=
    Alike.trans ⟨stripped.alike.1, fun _ => stripped.alike.look Node.core (funext Node.core_unwired)⟩
      (.change fun _ => rfl)
  have scope : ((bared.change g (Node.dropEntry r)).node r).scope =
      .text "public" := (alike.look Node.scope rfl).trans isReceiver.scope
  rw [run_homeOf_public scope, alike.core_root, below] at homeRun
  obtain rfl : home = root := by
    cases homeRun
    rfl
  have named := nameIs_of_run nameRun
  rw [nameIs, alike.look Node.name? rfl, isReceiver.named] at named
  obtain rfl : name = known := Except.ok.inj named
  have bodies : ∀ ref, (bared.node ref).body = (net.node ref).body :=
    fun _ => stripped.alike.look Node.body rfl
  have registries : ∀ ref, ((bared.change g (Node.dropEntry r)).node ref).body.registry =
      (net.node ref).body.registry := by
    have kept : ∀ n : Node, (n.dropEntry r).body.registry = n.body.registry := fun _ => rfl
    intro ref
    rw [node_change_keeps (fun n => n.body.registry) kept, bodies]
  obtain rfl := Registry.unregister_ok done
  rw [registries]
  have graphInside : g < net.size := lt_size_of_mem_contents (count_pos_iff.mp (once ▸ Nat.one_pos))
  have homeInside : home < net.size :=
    lt_size_of_look (fun n => (n.body.registry.get name).count r) (isReceiver.enrolled ▸ nofun)
  refine ⟨alike.trans (.change fun _ => rfl), ?_, ?_, ?_⟩
  · intro s ref j
    rw [held, node_change_keeps (fun n => n.lets s) (Node.withRegistry_lets _ s),
      node_change_keeps (fun n => n.lets s) (Node.dropEntry_lets r s), ← held,
      stripped.held, isReceiver.diff_eq_filter]
    simp
  · intro y
    have kept : ∀ reg : Registry, ∀ n : Node,
        (n.withRegistry reg).body.objects = n.body.objects := fun _ _ => rfl
    rw [Net.contents, node_change_keeps (fun n => n.body.objects) (kept _)]
    by_cases same : y = g
    · subst same
      rw [node_change_self (by rwa [stripped.alike.1]), Node.objects_dropEntry, bodies]
      exact erase_eq_filter once
    · rw [node_change_ne same, bodies]
      exact (filter_not_mem_singleton (only y same)).symm
  · intro y called
    by_cases same : y = home
    · subst same
      rw [node_change_self (by rwa [alike.1])]
      by_cases equal : called = name
      · subst equal
        exact Registry.get_change_self.trans (erase_eq_filter isReceiver.enrolled)
      · refine (Registry.get_change_ne equal).trans (filter_not_mem_singleton fun listed => ?_).symm
        exact equal (isReceiver.nowhere _ _ listed).2
    · rw [node_change_ne same, registries]
      refine (filter_not_mem_singleton fun listed => ?_).symm
      exact same (isReceiver.nowhere _ _ listed).1

end Build

end PatchCompiler
