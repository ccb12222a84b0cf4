import PatchCompiler.Proofs.Priority
import PatchCompiler.Proofs.Withdrawal

/-!
# One receiver for every name

The receivers of a name become one: a new receiver takes all their wires, those of the most urgent
receiver first, and the old ones are withdrawn.
-/

namespace PatchCompiler

open List

def Node.receiver (arguments : Record) (identity : Nat) : Node where
  type := "__receive"
  kind := .plain
  identity := identity
  arguments := arguments
  annotations := [("scope", .text "public")]
  outlets := [[]]
  outletBuffers := [.zero]

def Wire.startAt (source : Ref) (wire : Wire) : Wire :=
  { wire with source }

namespace Net

/-- The wires of receivers, one receiver after the other, when they leave a new one. -/
def moved (net : Net) (new : Ref) (rs : List Ref) : List Wire :=
  rs.flatMap fun r => (net.held .outlet r 0).map (Wire.startAt new)

theorem source_of_mem_moved {net : Net} {new : Ref} {rs : List Ref} {w : Wire}
    (inside : w ∈ net.moved new rs) : w.source = new := by
  obtain ⟨r, -, mem⟩ := mem_flatMap.mp inside
  obtain ⟨old, -, rfl⟩ := mem_map.mp mem
  rfl

def priority (net : Net) (r : Ref) : Value :=
  (net.node r).arguments.getD "priority" .null

/-- A new receiver of a name has come into a graph. -/
structure Opened (net : Net) (root : Ref) (name : Name) (last : Net) : Prop where
  size : last.size = net.size + 1
  type : (last.node net.size).type = "__receive"
  inlets : (last.node net.size).inlets = []
  outlets : (last.node net.size).outlets = [[]]
  body : (last.node net.size).body = {}
  others : ∀ ref < net.size, ref ≠ root → last.node ref = net.node ref
  top : last.node root = ((net.node root).enterAs (.own net.size) net.size).withRegistry
    ((net.node root).body.registry.change name (· ++ [net.size]))

end Net

namespace Build

open Net

variable {net : Net} {root : Ref} {name : Name} {rs : List Ref}

theorem yields_argument_getD {o : Ref} {field : String} :
    Yields (argument o field) net fun v last =>
      last = net ∧ v = (net.node o).arguments.getD field .null := by
  refine yields_argument.mono fun v last got => ⟨got.1, ?_⟩
  rw [Record.getD, got.2]
  rfl

theorem yields_argumentsOf {field : String} : Yields (argumentsOf rs field) net fun values last =>
      last = net ∧ values = rs.map fun r =>
        (net.node r).arguments.getD field .null :=
  .mapM_reads fun _ _ => yields_argument_getD

theorem distinctSorted_replicate (text : String) (n : Nat) :
    distinctSorted (List.replicate (n + 1) (.text text)) = .ok [.text text] := by
  have more : ∀ n, (List.replicate n (Value.text text)).foldlM (fun all v => do
      let _ ← Name.ofValue v
      return if all.any (·.equals v) then all else insertByText v all)
        [Value.text text] = (.ok [Value.text text] : Except Fault (List Value)) := by
    intro n
    induction n with
    | zero => rfl
    | succ n ih =>
      rw [replicate_succ, foldlM_cons]
      simp only [Name.ofValue, any_cons, Value.equals, beq_self_eq_true, Bool.true_or, if_true]
      exact ih
  rw [distinctSorted, replicate_succ, foldlM_cons]
  exact more n

theorem yields_groupArguments (some : rs ≠ [])
    (scopes : ∀ r ∈ rs, (net.node r).scope = .text "public") :
    Yields (groupArguments root name rs) net fun made last => last = net ∧
      made.1.get? "name" = name.toValue ∧ made.2 = [("scope", .text "public")] := by
  unfold groupArguments
  apply Guarded.bind yields_argumentsOf
  rintro values _ ⟨rfl, -⟩
  apply Guarded.bind yields_ofExcept
  rintro nodup current ⟨rfl, -⟩
  dsimp only
  generalize nodup.filter _ = exports
  apply Guarded.bind yields_argumentsOf
  rintro all current ⟨rfl, -⟩
  have attributed : Yields (forIn all ([] : List Value) fun v attributes => do
      let n ← ofExcept (countOf v)
      if 0 < n then pure (ForInStep.yield (attributes ++ [v]))
      else pure (ForInStep.yield attributes)) current fun _ last => last = current := by
    apply Guarded.forIn fun _ _ last => last = current
    · rfl
    · rintro done v rest attributes _ - rfl
      apply Guarded.bind yields_ofExcept
      rintro n _ ⟨rfl, -⟩
      split
      · exact .pure ⟨_, rfl, rfl⟩
      · exact .pure ⟨_, rfl, rfl⟩
  apply Guarded.bind attributed
  rintro attributes current rfl
  refine .bind (.mapM_reads (f := fun _ => Value.text "public") fun r inside => ?_) ?_
  · apply Guarded.at_node
    have scope := scopes r inside
    rw [Node.scope, Record.getD] at scope
    split
    · next v eq =>
        rw [eq] at scope
        exact .pure ⟨rfl, scope⟩
    · exact .throw trivial
  rintro _ current ⟨rfl, rfl⟩
  obtain ⟨n, length⟩ : ∃ n, rs.length = n + 1 :=
    Nat.exists_eq_succ_of_ne_zero (by simpa using some)
  rw [map_const', length, distinctSorted_replicate]
  apply Guarded.bind_run (run_ofExcept_ok _ _)
  split
  · exact .bind yields_reject fun _ _ (impossible : False) => impossible.elim
  · split
    · exact .bind yields_reject fun _ _ (impossible : False) => impossible.elim
    · exact .pure ⟨rfl, rfl, rfl⟩

theorem root_of_top {graph : Ref} (top : (net.node graph).parent = none) : net.root graph = graph := by
  unfold Net.root enclosing
  cases net.size with
  | zero => rfl
  | succ size => simp [enclosingWithin, top]

theorem ofValue_toValue {v : Value} {name : Name} (eq : Name.ofValue v = .ok name) :
    Name.ofValue name.toValue = .ok name := by
  cases v with
  | real x =>
    rw [Name.ofValue] at eq
    split at eq
    · next whole truncated =>
        split at eq
        · cases eq
          rfl
        · next notWhole =>
            cases eq
            simp [Name.toValue, Name.ofValue, truncated, notWhole]
    · next notFinite =>
        cases eq
        simp [Name.toValue, Name.ofValue, notFinite]
  | bool b => cases eq; rfl
  | int n => cases eq; rfl
  | null => cases eq; rfl
  | text s => cases eq; rfl
  | object ident => cases eq; rfl
  | list xs => cases eq
  | record fields => cases eq

theorem opened_of_noted {pushed last : Net} {args : Record} (inside : root < net.size)
    (top : (net.node root).parent = none) (size : pushed.size = net.size + 1)
    (own : pushed.node net.size = .receiver args net.size)
    (old : ∀ ref < net.size, pushed.node ref = net.node ref)
    (called : args.get? "name" = some name.toValue)
    (readable : Name.ofValue name.toValue = .ok name)
    (noted : Noted (pushed.enteredAs root net.size (.own net.size)) root net.size last) :
    Opened net root name last := by
  have ne : net.size ≠ root := inside.ne'
  have newInside : net.size < pushed.size := by omega
  have topInside : root < (pushed.change net.size (Node.inGraph root)).size := by
    rw [size_change, size]
    exact Nat.lt_succ_of_lt inside
  generalize entered : pushed.enteredAs root net.size (.own net.size) = current at noted
  have enteredSize : current.size = net.size + 1 := by
    rw [← entered, enteredAs, size_change, size_change, size]
  have enteredOwn : current.node net.size = (Node.receiver args net.size).inGraph root := by
    rw [← entered, enteredAs, node_change_ne ne, node_change_self newInside, own]
  have enteredTop : current.node root = (net.node root).enterAs (.own net.size) net.size := by
    rw [← entered, enteredAs, node_change_self topInside, node_change_ne ne.symm, old root inside]
  have enteredOld : ∀ ref < net.size, ref ≠ root → current.node ref = net.node ref := by
    intro ref below notRoot
    rw [← entered, enteredAs, node_change_ne notRoot, node_change_ne below.ne, old ref below]
  have registered := noted.registry
  have flagged : (current.node net.size).registration = some (false, false) := by
    rw [enteredOwn]
    rfl
  rw [flagged] at registered
  obtain ⟨home, known, reg, homeRun, nameRun, done, rfl⟩ := registered
  have scope : (current.node net.size).scope = .text "public" := by
    rw [enteredOwn]
    rfl
  have enteredRoot : current.root root = root := by
    apply root_of_top
    rw [enteredTop]
    exact top
  rw [run_homeOf_public scope, enteredRoot] at homeRun
  obtain rfl : home = root := by
    cases homeRun
    rfl
  have named := nameIs_of_run nameRun
  have itsName : (current.node net.size).name? = some name.toValue := by
    rw [enteredOwn]
    exact called
  rw [nameIs, itsName, Option.getD_some, readable] at named
  obtain rfl : name = known := Except.ok.inj named
  rw [Registry.register_plain done]
  have homeInside : home < current.size := by
    rw [enteredSize]
    exact Nat.lt_succ_of_lt inside
  refine ⟨?_, ?_, ?_, ?_, ?_, ?_, ?_⟩
  · rw [size_change, enteredSize]
  · rw [node_change_ne ne, enteredOwn]
    rfl
  · rw [node_change_ne ne, enteredOwn]
    rfl
  · rw [node_change_ne ne, enteredOwn]
    rfl
  · rw [node_change_ne ne, enteredOwn]
    rfl
  · intro ref below notRoot
    rw [node_change_ne notRoot, enteredOld ref below notRoot]
  · rw [node_change_self homeInside, enteredTop]
    rfl

theorem yields_openReceiver (top : (net.node root).parent = none) (inside : root < net.size)
    (some : rs ≠ []) (all : ∀ r ∈ rs, net.Receiver root name r) :
    Yields (openReceiver root name rs) net fun r last =>
      r = net.size ∧ Opened net root name last := by
  apply Guarded.bind (yields_groupArguments some fun r hm => (all r hm).scope)
  rintro ⟨args, _⟩ cur ⟨rfl, called, rfl⟩
  have made : (makeLow "__receive" .plain args [("scope", .text "public")] none).run cur =
      .ok cur.size (cur.push (.receiver args cur.size)) := rfl
  apply Guarded.bind_run made
  apply Guarded.bind yields_checkMailboxName
  rintro _ _ rfl
  have own : (cur.push (.receiver args cur.size)).node cur.size =
      .receiver args cur.size := node_push_self
  obtain ⟨first, hm⟩ := exists_mem_of_ne_nil rs some
  have entered : Yields (add root cur.size) (cur.push (.receiver args cur.size))
      fun _ last => Opened cur root name last := by
    apply Guarded.at_node
    rw [own]
    apply yields_addAs.mono
    rintro _ last ⟨-, noted⟩
    exact opened_of_noted inside top size_push own (fun _ => node_push_of_lt) called
      (ofValue_toValue (all first hm).named) noted
  apply Guarded.bind entered
  exact fun _ _ opened => .pure ⟨rfl, opened⟩

theorem held_of_at? {o : Ref} {ws : List Wire}
    (got : at? (net.node o).outlets 0 = some ws) : ws = net.held .outlet o 0 := by
  obtain ⟨i, eq, mem⟩ := Option.bind_eq_some_iff.mp got
  have lt : 0 < (net.node o).outlets.length := (Nat.zero_le _).trans_lt (place?_lt eq)
  have first : place? (net.node o).outlets.length 0 = some 0 := place?_ofNat lt
  cases eq.symm.trans first
  change ws = (net.node o).outlets.getD 0 []
  rw [getD_eq_getElem?_getD, mem]
  rfl

theorem yields_takeWires {new : Ref} (sep : ∀ r ∈ rs, r ≠ new ∧
      ∀ w ∈ net.held .outlet r 0, w.target ≠ new) : Yields (takeWires new rs) net fun _ last =>
      Extended net (net.moved new rs) last := by
  unfold takeWires
  refine Guarded.bind (Guarded.forIn (fun done _ cur =>
    Extended net (net.moved new done) cur) (.refl net) ?_) fun _ _ extended => .pure extended
  intro done r rest _ cur split pre
  obtain ⟨notNew, targets⟩ := sep r (by simp [split])
  apply Guarded.at_node
  apply Guarded.bind yields_fetch
  rintro ws cur ⟨rfl, got⟩
  -- the wires that were moved before leave the new receiver, not this one
  have kept : ws = net.held .outlet r 0 := by
    rw [held_of_at? got, pre.held, filter_eq_nil_iff.mpr, append_nil]
    intro w inside
    simpa using fun meets => notNew (meets.1.symm.trans (source_of_mem_moved inside))
  have taken : Yields (forIn ws PUnit.unit fun w _ => do
      connectAny { w with source := new }
      pure (ForInStep.yield PUnit.unit)) cur fun _ last =>
        Extended cur (ws.map (Wire.startAt new)) last := by
    apply Guarded.forIn (fun done _ last =>
      Extended cur (done.map (Wire.startAt new)) last) (.refl cur)
    intro done w rest _ third split before
    have mem : w ∈ net.held .outlet r 0 := by
      rw [← kept, split]
      simp
    apply Guarded.bind (yields_connectAny_extended fun eq => targets w mem eq.symm)
    intro _ last after
    refine .pure ⟨PUnit.unit, rfl, ?_⟩
    rw [map_append]
    exact before.trans after
  apply Guarded.bind taken
  intro _ last post
  refine .pure ⟨PUnit.unit, rfl, ?_⟩
  have more : net.moved new (done ++ [r]) = net.moved new done ++ ws.map (Wire.startAt new) := by
    rw [Net.moved, flatMap_append, kept, Net.moved]
    simp
  rw [more]
  exact pre.trans post

theorem yields_removeAll (all : ∀ r ∈ rs, net.Receiver root name r) (nodup : rs.Nodup) :
    Yields (removeAll rs) net fun _ last => Withdrawn net rs last := by
  refine Guarded.bind (Guarded.forIn (fun done _ cur => Withdrawn net done cur)
    (.refl net) ?_) fun _ _ withdrawn => .pure withdrawn
  intro done r rest _ cur split pre
  have new : r ∉ done := by
    rw [split, nodup_append] at nodup
    exact fun mem => nodup.2.2 r mem r mem_cons_self rfl
  have isR := pre.isReceiver (all r (by simp [split])) new
  apply Guarded.at_node
  split
  · next up eq =>
      apply Guarded.bind (yields_withdraw isR eq)
      exact fun _ _ post => .pure ⟨PUnit.unit, rfl, pre.trans post⟩
  · exact .bind (.throw trivial) fun _ _ (impossible : False) => impossible.elim

end Build

namespace Net

variable {net last : Net} {root r : Ref} {name other : Name}

section

variable (inside : root < net.size) (top : (net.node root).parent = none)
  (parents : ∀ ref < net.size, (last.node ref).parent = (net.node ref).parent)
include inside top parents

/-- More levels change nothing once a graph without a parent has been reached. -/
theorem enclosingWithin_grows
    {d : Nat} {graph : Ref} (got : (net.enclosingWithin d graph).getLast? = some root)
    {more : Nat} (enough : d ≤ more) :
    last.enclosingWithin more graph = net.enclosingWithin d graph := by
  induction d generalizing graph more with
  | zero => cases got
  | succ d ih =>
    obtain ⟨more, rfl⟩ : ∃ less, more = less + 1 := Nat.exists_eq_succ_of_ne_zero (by omega)
    rw [enclosingWithin] at got ⊢
    rw [enclosingWithin]
    cases up : (net.node graph).parent with
    | none =>
      rw [up] at got
      have here : graph = root := by simpa using got
      rw [parents graph (here ▸ inside), up]
    | some outer =>
      have lt : graph < net.size := lt_size_of_look Node.parent (up ▸ Option.some_ne_none _)
      rw [up] at got
      dsimp only at got
      rw [parents graph lt, up]
      refine congrArg (graph :: ·) (ih ?_ (Nat.le_of_succ_le_succ enough))
      cases rest : net.enclosingWithin d outer with
      | nil =>
        rw [rest] at got
        have here : graph = root := by simpa using got
        rw [here, top] at up
        cases up
      | cons first ys =>
        rw [rest] at got
        simpa using got

theorem root_grows
    (more : net.size ≤ last.size) {g : Ref} (lt : net.root g = root) : last.root g = root := by
  have reached : (net.enclosing g).getLast? = some root := by
    cases got : (net.enclosing g).getLast? with
    | some outer =>
      rw [Net.root, got] at lt
      exact congrArg some lt
    | none =>
      rw [getLast?_eq_none_iff, enclosing] at got
      obtain ⟨less, size⟩ := Nat.exists_eq_succ_of_ne_zero ((Nat.zero_le _).trans_lt inside).ne'
      rw [size, enclosingWithin] at got
      cases got
  rw [Net.root, enclosing, enclosingWithin_grows inside top parents reached more]
  exact lt

end

namespace Opened

variable (opened : Opened net root name last) (inside : root < net.size)
include opened

theorem core {ref : Ref} (lt : ref < net.size) : (last.node ref).core = (net.node ref).core := by
  by_cases eq : ref = root
  · rw [eq, opened.top]
    rfl
  · rw [opened.others ref lt eq]

theorem lets {ref : Ref} (lt : ref < net.size) (side : Side) :
    (last.node ref).lets side = (net.node ref).lets side := by
  by_cases eq : ref = root
  · rw [eq, opened.top, Node.withRegistry_lets]
    cases side <;> rfl
  · rw [opened.others ref lt eq]

theorem held (s : Side) (ref : Ref) (slot : Nat) : last.held s ref slot = net.held s ref slot := by
  refine look_grown (fun n => (n.lets s).getD slot []) opened.size
    (fun lt => by rw [opened.lets lt]) ?_
  cases s with
  | inlet =>
    rw [Node.lets, opened.inlets]
    rfl
  | outlet =>
    rw [Node.lets, opened.outlets]
    cases slot <;> rfl

theorem letOf {s : Side} {wire : Wire} (old : s = .outlet → wire.object s < net.size) :
    last.letOf s wire = net.letOf s wire := by
  apply letOf_eq
  cases s with
  | inlet =>
    refine look_grown (fun n => (n.lets .inlet).length) opened.size
      (fun lt => by rw [opened.lets lt]) ?_
    rw [Node.lets, opened.inlets]
    rfl
  | outlet => rw [opened.lets (old rfl)]

/-- What changes of the bodies is the list of objects and the registry of the root. -/
theorem body_ne {ref : Ref} (ne : ref ≠ root) : (last.node ref).body = (net.node ref).body :=
  look_grown Node.body opened.size (fun lt => by rw [opened.others ref lt ne]) opened.body

theorem contents (g : Ref) : last.contents g =
    net.contents g ++ if g = root then [net.size] else [] := by
  unfold Net.contents
  by_cases eq : g = root
  · rw [eq, opened.top, if_pos rfl]
    simp [Node.withRegistry, Node.enterAs]
  · rw [opened.body_ne eq, if_neg eq, append_nil]

theorem registered (g : Ref) (called : Name) : (last.node g).body.registry.get called =
    (net.node g).body.registry.get called ++
      if g = root ∧ called = name then [net.size] else [] := by
  by_cases same : g = root
  · rw [same, opened.top]
    by_cases equal : called = name
    · rw [equal, if_pos ⟨rfl, rfl⟩]
      exact Registry.get_change_self
    · rw [if_neg fun both => equal both.2, append_nil]
      exact Registry.get_change_ne equal
  · rw [opened.body_ne same, if_neg fun both => same both.1, append_nil]

include inside

theorem root_eq (top : (net.node root).parent = none) {g : Ref}
    (lt : net.root g = root) : last.root g = root := by
  have parents : ∀ ref < net.size, (last.node ref).parent = (net.node ref).parent := by
    intro ref mem
    have eq : (last.node ref).core.parent = (net.node ref).core.parent := by
      rw [opened.core mem]
    exact eq
  refine root_grows inside top parents ?_ lt
  rw [opened.size]
  exact Nat.le_succ _

theorem isReceiver (isReceiver : net.Receiver root other r)
    (top : (net.node root).parent = none) : last.Receiver root other r := by
  have below := isReceiver.lt_size
  have notNew : r ≠ net.size := below.ne
  refine isReceiver.same ⟨opened.core below, ?_, ?_, ?_, ?_, ?_⟩
    (fun g => opened.root_eq inside top)
  · intro g
    rw [opened.contents, count_append]
    split <;> simp [notNew.symm]
  · intro g called
    rw [opened.registered, count_append]
    split <;> simp [notNew.symm]
  · exact fun j => opened.held .outlet r j
  · intro s ref j
    rw [opened.held]
  · intro s w src
    refine opened.letOf fun isOutlet => ?_
    rw [isOutlet, Wire.object, src]
    exact below

end Opened

theorem Extended.isReceiver {new : List Wire} (extended : Extended net new last)
    (isReceiver : net.Receiver root name r) (others : ∀ w ∈ new, w.source ≠ r) :
    last.Receiver root name r := by
  have alike : Alike Node.core net last :=
    ⟨extended.alike.1, fun _ => extended.alike.look Node.core (funext Node.core_unwired)⟩
  have bodies : ∀ ref, (last.node ref).body = (net.node ref).body :=
    fun _ => extended.alike.look Node.body rfl
  refine isReceiver.same ⟨alike.2 r, ?_, ?_, ?_, ?_, ?_⟩ ?_
  · intro g
    rw [extended.alike.unwired_contents]
  · intro g called
    rw [bodies]
  · intro j
    rw [extended.held, filter_eq_nil_iff.mpr, append_nil]
    intro w inside
    simpa using fun meets => others w inside meets.1
  · intro s ref j
    have none : (new.filter (net.Meets s ref j)).filter (·.source = r) = [] := by
      rw [filter_filter, filter_eq_nil_iff]
      intro w inside
      simp [others w inside]
    rw [extended.held, filter_append, none, append_nil]
  · exact fun s w _ => extended.alike.letOf s w
  · intro g below
    rw [alike.core_root]
    exact below

/-- Receivers in the order of falling priority, those of one priority as they were. -/
structure ByPriority (net : Net) (rs ordered : List Ref) : Prop where
  perm : ordered.Perm rs
  falling : ordered.Pairwise fun a b => ¬ (net.priority a).Precedes (net.priority b)
  stable : ∀ a b, [a, b].Sublist rs →
    (net.priority a).equals (net.priority b) = true → [a, b].Sublist ordered

theorem ByPriority.of_prioritized {rs : List Ref} {sorted : List (Value × Ref)}
    (prio : Build.Prioritized (rs.map fun r => (net.priority r, r))
      sorted) : net.ByPriority rs (sorted.map Prod.snd) := by
  have own : ∀ x ∈ sorted, x.1 = net.priority x.2 := by
    intro x inside
    obtain ⟨r, -, rfl⟩ := mem_map.mp (prio.perm.mem_iff.mp inside)
    rfl
  refine ⟨?_, ?_, ?_⟩
  · have perm := prio.perm.map Prod.snd
    rw [map_map] at perm
    simpa [Function.comp_def] using perm
  · rw [pairwise_map]
    refine prio.falling.imp_of_mem fun first two notLower => ?_
    rw [← own _ first, ← own _ two]
    exact notLower
  · intro a b pair eq
    have pre := pair.map fun r => (net.priority r, r)
    have after := (prio.stable _ _ pre eq).map Prod.snd
    exact after

/-- One receiver has taken the place of all receivers of a name. -/
structure Grouped (net : Net) (root : Ref) (name : Name) (rs ordered : List Ref) (last : Net) :
    Prop where
  sorted : net.ByPriority rs ordered
  size : last.size = net.size + 1
  core : ∀ ref < net.size, (last.node ref).core = (net.node ref).core
  type : (last.node net.size).type = "__receive"
  lets : ((last.node net.size).lets .inlet).length = 0 ∧
    ((last.node net.size).lets .outlet).length = 1
  placed : ∀ wire ∈ net.moved net.size ordered, ∀ side, (last.letOf side wire).isSome
  held : ∀ side ref slot, last.held side ref slot =
    (net.held side ref slot).filter (·.source ∉ rs) ++
      (net.moved net.size ordered).filter (last.Meets side ref slot)
  contents : ∀ graph, last.contents graph =
    (net.contents graph).filter (· ∉ rs) ++ if graph = root then [net.size] else []
  registered : ∀ graph called, (last.node graph).body.registry.get called =
    ((net.node graph).body.registry.get called).filter (· ∉ rs) ++
      if graph = root ∧ called = name then [net.size] else []
  others : ∀ other r, net.Receiver root other r → r ∉ rs → last.Receiver root other r

end Net

namespace Build

open Net

variable {net : Net} {root : Ref} {name : Name} {rs : List Ref}

theorem grouped_of_steps {ordered : List Ref} {opened taken last : Net}
    (sorted : net.ByPriority rs ordered) (below : ∀ r ∈ rs, r < net.size)
    (inside : root < net.size) (top : (net.node root).parent = none)
    (first : Opened net root name opened)
    (snd : Extended opened (opened.moved net.size ordered) taken)
    (third : Withdrawn taken ordered last) : Grouped net root name rs ordered last := by
  have moved : opened.moved net.size ordered = net.moved net.size ordered := by
    simp only [Net.moved, first.held]
  rw [moved] at snd
  have mem : ∀ ref, ref ∈ ordered ↔ ref ∈ rs := fun ref => sorted.perm.mem_iff
  have notNew : net.size ∉ rs := fun hm => lt_irrefl _ (below _ hm)
  have alike : Alike Node.core opened last :=
    Alike.trans ⟨snd.alike.1, fun _ => snd.alike.look Node.core (funext Node.core_unwired)⟩ third.alike
  refine ⟨sorted, alike.1.trans first.size, ?_, ?_, ?_, ?_, ?_, ?_, ?_, ?_⟩
  · exact fun ref hm => (alike.2 ref).trans (first.core hm)
  · exact (alike.look Node.type rfl).trans first.type
  · constructor
    · rw [alike.look (fun n => (n.lets .inlet).length) (funext (Node.length_lets_core .inlet)), Node.lets,
        first.inlets]
      rfl
    · rw [alike.look (fun n => (n.lets .outlet).length) (funext (Node.length_lets_core .outlet)),
        Node.lets, first.outlets]
      rfl
  · intro wire inside s
    rw [alike.core_letOf]
    exact snd.placed wire inside s
  · intro s ref j
    have kept : ((net.moved net.size ordered).filter (opened.Meets s ref j)).filter
        (·.source ∉ ordered) = (net.moved net.size ordered).filter (last.Meets s ref j) := by
      rw [filter_filter]
      apply filter_congr
      intro wire inside
      have stays : wire.source ∉ ordered := by
        rw [source_of_mem_moved inside, mem]
        exact notNew
      have same : last.Meets s ref j wire ↔ opened.Meets s ref j wire := by
        simp only [Meets, alike.core_letOf]
      simp [stays, same]
    rw [third.held, snd.held, first.held, filter_append, kept]
    simp only [mem]
  · intro g
    rw [third.contents, snd.alike.unwired_contents, first.contents, filter_append]
    simp only [mem]
    split <;> simp [notNew]
  · intro g called
    rw [third.registered, snd.alike.look Node.body rfl, first.registered, filter_append]
    simp only [mem]
    split <;> simp [notNew]
  · intro other r isReceiver stays
    refine third.isReceiver (snd.isReceiver (first.isReceiver inside isReceiver top) ?_) ?_
    · intro wire hm same
      rw [source_of_mem_moved hm] at same
      exact lt_irrefl _ (same ▸ isReceiver.lt_size)
    · exact fun hm => stays ((mem r).mp hm)

theorem yields_groupName (top : (net.node root).parent = none) (inside : root < net.size)
    (some : rs ≠ []) (nodup : rs.Nodup) (all : ∀ r ∈ rs, net.Receiver root name r) :
    Yields (groupName root name rs) net fun _ last =>
      ∃ ord, Grouped net root name rs ord last := by
  have lt : ∀ r ∈ rs, r < net.size := fun r mem => (all r mem).lt_size
  apply Guarded.bind (yields_openReceiver top inside some all)
  rintro _ opened ⟨rfl, first⟩
  apply Guarded.bind yields_argumentsOf
  rintro priorities opened ⟨rfl, rfl⟩
  apply Guarded.bind yields_ofExcept
  rintro sorted opened ⟨rfl, done⟩
  have priorities : (rs.map fun r =>
      (opened.node r).arguments.getD "priority" .null) = rs.map net.priority := by
    apply map_congr_left
    intro r mem
    have same : (opened.node r).core.arguments = (net.node r).core.arguments := by
      rw [first.core (lt r mem)]
    change (opened.node r).core.arguments.getD _ _ = _
    rw [same]
    rfl
  rw [priorities, ← map_prod_right_eq_zip] at done
  have order := ByPriority.of_prioritized (byPriority_ok done)
  have members : ∀ r ∈ sorted.map Prod.snd, r ∈ rs := fun r mem => order.perm.mem_iff.mp mem
  have still : ∀ r ∈ sorted.map Prod.snd, opened.Receiver root name r :=
    fun r mem => first.isReceiver inside (all r (members r mem)) top
  apply Guarded.bind (yields_takeWires fun r mem => ?_)
  · intro _ taken two
    have last : ∀ r ∈ sorted.map Prod.snd, taken.Receiver root name r := by
      intro r mem
      refine two.isReceiver (still r mem) fun w inside same => ?_
      rw [source_of_mem_moved inside] at same
      exact lt_irrefl _ (same ▸ lt r (members r mem))
    apply (yields_removeAll last (order.perm.nodup_iff.mpr nodup)).mono
    exact fun _ last third => ⟨_, grouped_of_steps order lt inside top first two third⟩
  · have isReceiver := all r (members r mem)
    refine ⟨isReceiver.lt_size.ne, fun w held => ?_⟩
    rw [first.held] at held
    obtain ⟨i, met⟩ := isReceiver.exists_inlet w held
    exact (lt_size_of_letOf met).ne

end Build

end PatchCompiler
