import PatchCompiler.Proofs.Creation

/-!
# What a graph takes note of

A graph that gets an object may get a let or an audio channel by it, and the object may be
registered under its name with the graph or a graph around it. Nothing else changes.
-/

namespace PatchCompiler

open List

/-- An object without its lets and without what a graph notes about its objects. -/
def Node.face (node : Node) : Node :=
  { node with
    inlets := [], outlets := [], inletBuffers := [], outletBuffers := []
    body := { node.body with
      registry := .empty, inletObjects := [], outletObjects := []
      inputChannels := [], outputChannels := [] } }

def Node.withRegistry (registry : Registry) (node : Node) : Node :=
  { node with body := { node.body with registry } }

theorem Node.withRegistry_lets (reg : Registry) (side : Side) (n : Node) :
    (n.withRegistry reg).lets side = n.lets side := by
  cases side <;> rfl

def Node.enterAs (key : Key) (o : Ref) (node : Node) : Node :=
  { node with body := { node.body with objects := node.body.objects ++ [(key, o)] } }

/-- Whether an object is registered when it comes into a graph, and then whether as a static one and
whether as the only one of its name. -/
def Node.registration (node : Node) : Option (Bool × Bool) :=
  match node.type with
  | "receive" | "__receive" | "send" | "__send" => some (false, false)
  | "table" | "__table" => some (node.static.isTrue, true)
  | "var" =>
    match node.name? with
    | none | some .null => none
    | some _ => some (node.static.isTrue, true)
  | _ => none

namespace Net

theorem change_change (net : Net) (ref : Ref) (f g : Node → Node) :
    (net.change ref f).change ref g = net.change ref fun n => g (f n) := by
  unfold change
  congr 1
  apply Array.ext_getElem?
  intro i
  simp only [Array.getElem?_modify]
  split <;> simp [Function.comp_def]

def Registered (net : Net) (graph o : Ref) (flags : Bool × Bool) (last : Net) : Prop :=
  ∃ home name registry, (Build.homeOf graph o flags.1).run net = .ok home net ∧
    (Build.nameOf o).run net = .ok name net ∧
    (net.node home).body.registry.register net.view o name flags.1 flags.2 = .ok registry ∧
    last = net.change home (Node.withRegistry registry)

def Unregistered (net : Net) (graph o : Ref) (last : Net) : Prop :=
  ∃ home name registry, (Build.homeOf graph o false).run net = .ok home net ∧
    (Build.nameOf o).run net = .ok name net ∧
    (net.node home).body.registry.unregister o name = (.ok (), registry) ∧
    last = net.change home (Node.withRegistry registry)

/-- The net in which a graph has one more object and has not yet taken note of it. -/
def enteredAs (net : Net) (graph o : Ref) (key : Key) : Net :=
  (net.change o (Node.inGraph graph)).change graph (Node.enterAs key o)

structure Noted (net : Net) (graph o : Ref) (last : Net) : Prop where
  alike : Alike Node.face net last
  lets : ∀ ref side, (last.node ref).lets side = (net.node ref).lets side ∨
    ref = graph ∧ (last.node ref).lets side = (net.node ref).lets side ++ [[]]
  registry : match (net.node o).registration with
    | none => ∀ ref, (last.node ref).body.registry = (net.node ref).body.registry
    | some flags => Registered net graph o flags last

variable {net last : Net} {gr o : Ref} {key : Key}

theorem lets_enteredAs (ref : Ref) (side : Side) :
    ((net.enteredAs gr o key).node ref).lets side = (net.node ref).lets side := by
  have kept : ∀ n : Node, (n.enterAs key o).lets side = n.lets side := by
    intro n
    cases side <;> rfl
  have keptInside : ∀ n : Node, (n.inGraph gr).lets side = n.lets side := by
    intro n
    cases side <;> rfl
  rw [enteredAs, node_change_keeps (fun n => n.lets side) kept,
    node_change_keeps (fun n => n.lets side) keptInside]

theorem body_inGraph (ref : Ref) :
    ((net.change o (Node.inGraph gr)).node ref).body = (net.node ref).body := by
  have kept : ∀ n : Node, (n.inGraph gr).body = n.body := fun _ => rfl
  exact node_change_keeps Node.body kept ref

theorem contents_enteredAs (mem : gr < net.size) :
    (net.enteredAs gr o key).contents gr = net.contents gr ++ [o] := by
  have lt : gr < (net.change o (Node.inGraph gr)).size := by
    rwa [size_change]
  unfold contents
  rw [enteredAs, node_change_self lt, Node.enterAs, body_inGraph, map_append]
  rfl

theorem Noted.of_change {f : Node → Node} (unreg : (net.node o).registration = none)
    (face : ∀ n, (f n).face = n.face) (lets : ∀ n s, (f n).lets s = n.lets s ∨
      (f n).lets s = n.lets s ++ [[]]) (registry : ∀ n, (f n).body.registry = n.body.registry) :
    Noted net gr o (net.change gr f) where
  alike := .change face
  lets := by
    intro ref s
    rcases node_change net gr f ref with same | ⟨rfl, changed⟩
    · exact .inl (by rw [same])
    · rw [changed]
      exact (lets (net.node ref) s).imp_right fun grown => ⟨rfl, grown⟩
  registry := by
    rw [unreg]
    exact node_change_keeps (fun n => n.body.registry) registry

theorem Noted.of_registered {flags : Bool × Bool} (flagged : (net.node o).registration = some flags)
    (registered : Registered net gr o flags last) : Noted net gr o last := by
  obtain ⟨home, name, reg, homeRun, nameRun, done, rfl⟩ := registered
  refine ⟨.change fun _ => rfl, fun ref s => .inl ?_, ?_⟩
  · exact node_change_keeps (fun n => n.lets s) (Node.withRegistry_lets reg s) ref
  · rw [flagged]
    exact ⟨home, name, reg, homeRun, nameRun, done, rfl⟩

theorem Noted.held {s : Side} {ref : Ref} {slot : Nat} (noted : Noted net gr o last) :
    last.held s ref slot = net.held s ref slot := by
  unfold Net.held
  rcases noted.lets ref s with eq | ⟨-, grown⟩
  · rw [eq]
  · rw [grown, getD_eq_getElem?_getD, getD_eq_getElem?_getD, getElem?_append]
    split
    · rfl
    · rw [getElem?_singleton]
      split <;> simp_all

theorem Noted.contents (noted : Noted net gr o last) (ref : Ref) :
    last.contents ref = net.contents ref :=
  noted.alike.look (fun n => n.body.objects.map Prod.snd) rfl

theorem Noted.refl (unreg : (net.node o).registration = none) : Noted net gr o net :=
  ⟨.refl _ _, fun _ _ => .inl rfl, by rw [unreg]; simp⟩

end Net

namespace Build

open Net

variable {net : Net} {gr o : Ref}

theorem yields_homeOf {isStatic : Bool} :
    Yields (homeOf gr o isStatic) net fun _ last => last = net := by
  unfold homeOf
  apply Guarded.bind_run (EStateM.run_get _)
  dsimp only
  split
  · exact .pure rfl
  · exact .pure rfl
  · exact .pure rfl
  · split
    · exact .pure rfl
    · exact .throw trivial

theorem yields_nameOf : Yields (nameOf o) net fun _ last => last = net := by
  apply Guarded.at_node
  exact .ofExcept (fun _ _ => trivial) fun _ _ => rfl

theorem yields_register {isStatic unique : Bool} :
    Yields (register gr o isStatic unique) net fun _ last =>
      Registered net gr o (isStatic, unique) last := by
  apply Guarded.bind yields_homeOf.remember
  rintro home _ ⟨homeRun, rfl⟩
  apply Guarded.bind yields_nameOf.remember
  rintro name cur ⟨nameRun, rfl⟩
  apply Guarded.bind_run (EStateM.run_get _)
  apply Guarded.bind yields_ofExcept
  rintro reg _ ⟨rfl, done⟩
  exact .of_run (run_changeBody _ _ _) ⟨home, name, reg, homeRun, nameRun, done, rfl⟩

theorem yields_sortLets {lets : List Ref} :
    Yields (sortLets o lets) net fun _ last => last = net := by
  apply Guarded.bind_run (EStateM.run_get _)
  have indexed : Yields (indexOf o) net fun _ last => last = net := by
    apply Guarded.at_node
    split
    · exact .pure rfl
    · exact .throw trivial
  apply Guarded.bind indexed
  rintro _ _ rfl
  exact .ofExcept (fun _ _ => trivial) fun _ _ => rfl

theorem yields_noteLet {grow : Node → Node} {held : Node → List Ref}
    {keep : List Ref → Body → Body} (unreg : (net.node o).registration = none)
    (face : ∀ os n, ({ grow n with body := keep os (grow n).body } : Node).face = n.face)
    (lets : ∀ os n s, ({ grow n with body := keep os (grow n).body } : Node).lets s = n.lets s ∨
      ({ grow n with body := keep os (grow n).body } : Node).lets s = n.lets s ++ [[]])
    (registry : ∀ os n, (keep os (grow n).body).registry = n.body.registry) :
    Yields (do
      change gr grow
      let os ← sortLets o (held (← node gr))
      changeBody gr (keep os)) net fun _ last => Noted net gr o last := by
  apply Guarded.bind_run (run_change _ _ _)
  apply Guarded.at_node
  apply Guarded.bind yields_sortLets
  rintro os _ rfl
  apply Guarded.of_run (run_changeBody _ _ _)
  rw [change_change]
  exact .of_change unreg (face os) (lets os) (registry os)

theorem yields_noteChannels {f : List Int → Body → Body} (unreg : (net.node o).registration = none)
    (face : ∀ cs (n : Node), ({ n with body := f cs n.body } : Node).face = n.face)
    (eq : ∀ cs body, (f cs body).registry = body.registry) :
    Yields (do
      let cs ← channelsOf o
      changeBody gr (f cs)) net fun _ last => Noted net gr o last := by
  apply Guarded.bind_run (rfl : (channelsOf o).run net = .ok _ net)
  apply Guarded.of_run (run_changeBody _ _ _)
  refine .of_change unreg (face _) (fun n s => .inl ?_) fun n => eq _ _
  cases s <;> rfl

theorem yields_noteObject : Yields (noteObject gr o) net fun _ last =>
    Noted net gr o last := by
  unfold noteObject
  apply Guarded.at_node
  have reg : ∀ flags : Bool × Bool, (net.node o).registration = some flags →
      Yields (register gr o flags.1 flags.2) net fun _ last =>
        Noted net gr o last :=
    fun flags flagged => yields_register.mono fun _ _ done => .of_registered flagged done
  split
  case h_1 type | h_2 type | h_3 type | h_4 type =>
    refine yields_noteLet (by simp [Node.registration, type]) (fun _ _ => rfl) (fun _ _ s => ?_)
      fun _ _ => rfl
    cases s <;> simp [Node.lets]
  case h_5 type | h_6 type =>
    exact yields_noteChannels (by simp [Node.registration, type]) (fun _ _ => rfl) fun _ _ => rfl
  case h_7 type | h_8 type | h_9 type | h_10 type =>
    exact reg (false, false) (by simp [Node.registration, type])
  case h_11 type | h_12 type =>
    exact reg ((net.node o).static.isTrue, true) (by simp [Node.registration, type])
  case h_13 type =>
    split
    case h_1 name | h_2 name => exact .pure (.refl (by simp [Node.registration, type, name]))
    case h_3 value notNull name =>
      refine reg ((net.node o).static.isTrue, true) ?_
      unfold Node.registration
      rw [type, name]
      cases value <;> first | rfl | exact absurd rfl notNull
  case h_14 => 
    refine .pure (.refl ?_)
    unfold Node.registration
    split <;> simp_all

theorem yields_addAs {key : Key} : Yields (addAs gr o key) net fun _ last =>
    (net.node gr).body.objects.lookup key = none ∧ Noted (net.enteredAs gr o key) gr o last := by
  apply Guarded.at_node
  split
  · exact yields_reject
  case isFalse absent =>
    apply Guarded.bind_run (run_change _ _ _)
    apply Guarded.bind_run (run_changeBody _ _ _)
    apply yields_noteObject.mono
    intro _ last noted
    exact ⟨Option.not_isSome_iff_eq_none.mp absent, noted⟩

theorem yields_unregister : Yields (unregister gr o) net fun _ last =>
    Unregistered net gr o last := by
  apply Guarded.bind yields_homeOf.remember
  rintro home _ ⟨homeRun, rfl⟩
  apply Guarded.bind yields_nameOf.remember
  rintro name cur ⟨nameRun, rfl⟩
  apply Guarded.at_node
  cases done : (cur.node home).body.registry.unregister o name with
  | mk res reg =>
    apply Guarded.bind_run (run_changeBody _ _ _)
    refine .ofExcept (fun _ _ => trivial) ?_
    rintro ⟨⟩ rfl
    exact ⟨home, name, reg, homeRun, nameRun, done, rfl⟩

theorem yields_argument {o : Ref} {name : String} : Yields (argument o name) net fun value last =>
      last = net ∧ (net.node o).arguments.get? name = some value := by
  apply Guarded.at_node
  split
  next eq => exact .pure ⟨rfl, eq⟩
  next => exact .throw trivial

theorem yields_checkMailboxName {o : Ref} {args : Record} {complaint : String} :
    Yields (checkMailboxName o args complaint) net fun _ last => last = net := by
  unfold checkMailboxName
  split
  · exact .throw trivial
  · split
    · split
      · apply Guarded.bind yields_ofExcept
        rintro foreign _ ⟨rfl, -⟩
        split
        · exact yields_reject
        · exact .pure rfl
      · exact .throw trivial
    · exact .pure rfl

end Build

end PatchCompiler
