import PatchCompiler.Net.Basic

/-!
# Runs of steps

A step on a net is described by how it ends: with a result and in a net of which something is known,
or else with a fault that may be. Most steps end without a fault. Loops are described by an invariant
of the part that has been gone through.

The second half says what a change of one object leaves as it is.
-/

namespace PatchCompiler.Build

open List

variable {α β : Type} {blame : Fault → Prop} {step : Build α} {net last : Net} {res : α}
  {post : α → Net → Prop} {xs : List α} {ref : Ref}

theorem run_bind_ok {next : α → Build β} (run : step.run net = .ok res last) :
    (step >>= next).run net = (next res).run last := by
  rw [EStateM.run_bind, run]

/-- The step ends with a result and in a net as described, or with a fault that may be. -/
def Guarded (blame : Fault → Prop) (step : Build α) (net : Net) (post : α → Net → Prop) : Prop :=
  match step.run net with
  | .ok result last => post result last
  | .error fault _ => blame fault

namespace Guarded

theorem of_run
    (run : step.run net = .ok res last) (holds : post res last) : Guarded blame step net post := by
  rw [Guarded, run]
  exact holds

theorem imp {other : Fault → Prop} {first second : α → Net → Prop}
    (guarded : Guarded blame step net first) (may : ∀ err, blame err → other err)
    (weaker : ∀ res last, step.run net = .ok res last → first res last → second res last) :
    Guarded other step net second := by
  unfold Guarded at guarded ⊢
  split
  next res last run =>
    rw [run] at guarded
    exact weaker res last run guarded
  next err last run =>
    rw [run] at guarded
    exact may err guarded

theorem mono {first second : α → Net → Prop} (guarded : Guarded blame step net first)
    (weaker : ∀ res last, first res last → second res last) : Guarded blame step net second :=
  guarded.imp (fun _ => id) fun res last _ => weaker res last

theorem remember (guarded : Guarded blame step net post) : Guarded blame step net fun res last =>
      step.run net = .ok res last ∧ post res last :=
  guarded.imp (fun _ => id) fun _ _ => And.intro

theorem of_ok (guarded : Guarded blame step net post) (run : step.run net = .ok res last) :
    post res last := by
  rw [Guarded, run] at guarded
  exact guarded

theorem bind {next : α → Build β} {mid : α → Net → Prop}
    {post : β → Net → Prop} (guarded : Guarded blame step net mid)
    (rest : ∀ res last, mid res last → Guarded blame (next res) last post) :
    Guarded blame (step >>= next) net post := by
  unfold Guarded at guarded
  unfold Guarded
  rw [EStateM.run_bind]
  cases run : step.run net with
  | ok res last =>
    rw [run] at guarded
    exact rest res last guarded
  | error err last =>
    rw [run] at guarded
    exact guarded

theorem bind_run {next : α → Build β} {post : β → Net → Prop} (run : step.run net = .ok res last)
    (rest : Guarded blame (next res) last post) : Guarded blame (step >>= next) net post := by
  unfold Guarded
  rw [EStateM.run_bind, run]
  exact rest

theorem at_node {next : Node → Build β} {post : β → Net → Prop}
    (rest : Guarded blame (next (net.node ref)) net post) :
    Guarded blame (node ref >>= next) net post :=
  rest

theorem pure (ok : post res net) : Guarded blame (pure res) net post :=
  ok

theorem throw {err : Fault} (may : blame err) : Guarded blame (throw err) net post :=
  may

theorem ofExcept {arg : Except Fault α}
    (may : ∀ err, arg = .error err → blame err) (holds : ∀ res, arg = .ok res → post res net) :
    Guarded blame (ofExcept arg) net post := by
  cases arg with
  | ok res => exact holds res rfl
  | error err => exact may err rfl

/-- A loop with a result that is passed from turn to turn keeps an invariant of the items that have
been gone through. -/
theorem forIn {step : α → β → Build (ForInStep β)} (inv : List α → β → Net → Prop)
    {init : β} (start : inv [] init net)
    (turn : ∀ done x rest v cur, xs = done ++ x :: rest → inv done v cur →
      Guarded blame (step x v) cur fun next last =>
        ∃ res, next = .yield res ∧ inv (done ++ [x]) res last) :
    Guarded blame (ForIn.forIn xs init step) net fun v last =>
      inv xs v last := by
  have go : ∀ rest done v cur, xs = done ++ rest → inv done v cur →
      Guarded blame (ForIn.forIn rest v step) cur fun next last =>
        inv xs next last := by
    intro rest
    induction rest with
    | nil =>
      intro done v cur split ok
      rw [append_nil] at split
      subst split
      exact .pure ok
    | cons x rest ih =>
      intro done v cur split ok
      rw [forIn_cons]
      apply Guarded.bind (turn done x rest v cur split ok)
      rintro _ last ⟨res, rfl, post⟩
      apply ih (done ++ [x]) res last _ post
      rw [split, append_assoc, singleton_append]
  exact go xs [] init net rfl start

theorem foldlM {step : β → α → Build β} (inv : List α → β → Net → Prop)
    {init : β} (start : inv [] init net)
    (turn : ∀ done x rest v cur, xs = done ++ x :: rest → inv done v cur →
      Guarded blame (step v x) cur fun next last => inv (done ++ [x]) next last) :
    Guarded blame (xs.foldlM step init) net fun v last => inv xs v last := by
  have same : xs.foldlM step init =
      ForIn.forIn xs init fun x v => step v x >>= fun next => Pure.pure (.yield next) := by
    simp
  rw [same]
  exact .forIn inv start fun done x rest v cur split ok =>
    .bind (turn done x rest v cur split ok) fun next _ ok => .pure ⟨next, rfl, ok⟩

theorem forM {step : α → Build Unit} (inv : List α → Net → Prop) (start : inv [] net)
    (turn : ∀ done x rest cur, xs = done ++ x :: rest → inv done cur →
      Guarded blame (step x) cur fun _ last => inv (done ++ [x]) last) :
    Guarded blame (xs.forM step) net fun _ last => inv xs last := by
  have same : xs.forM step = xs.foldlM (fun _ x => step x) () := by
    clear turn
    induction xs with
    | nil => rfl
    | cons x rest ih => exact congrArg (step x >>= ·) (funext fun _ => ih)
  rw [same]
  exact .foldlM (fun done _ => inv done) start fun done x rest _ => turn done x rest

theorem mapM_reads {step : α → Build β} {f : α → β}
    (each : ∀ x ∈ xs, Guarded blame (step x) net fun v last => last = net ∧ v = f x) :
    Guarded blame (xs.mapM step) net fun values last => last = net ∧ values = xs.map f := by
  induction xs with
  | nil => exact .pure ⟨rfl, rfl⟩
  | cons x rest ih =>
    rw [mapM_cons]
    apply Guarded.bind (each x mem_cons_self)
    rintro v _ ⟨rfl, eq⟩
    apply Guarded.bind (ih (forall_mem_cons.mp each).2)
    rintro values _ ⟨rfl, ys⟩
    refine .pure ⟨rfl, ?_⟩
    rw [eq, ys, map_cons]

end Guarded

/-- The step ends without a fault, with a result and in a net as described. -/
def Ends (step : Build α) (net : Net) (post : α → Net → Prop) : Prop :=
  ∃ result last, step.run net = .ok result last ∧ post result last

theorem ends_iff : Ends step net post ↔ Guarded (fun _ => False) step net post := by
  unfold Guarded
  constructor
  · rintro ⟨res, last, run, ok⟩
    rwa [run]
  · intro ok
    split at ok
    · next res last run => exact ⟨res, last, run, ok⟩
    · exact ok.elim

theorem run_mapM_map {step : α → Build β} {f : α → β}
    (runs : ∀ x ∈ xs, (step x).run net = .ok (f x) net) :
    (xs.mapM step).run net = .ok (xs.map f) net := by
  obtain ⟨_, _, run, rfl, rfl⟩ := ends_iff.mpr (.mapM_reads fun x mem =>
    .of_run (runs x mem) ⟨rfl, rfl⟩)
  exact run

theorem Ends.of_run
    (run : step.run net = .ok res last) (holds : post res last) : Ends step net post :=
  ⟨res, last, run, holds⟩

theorem Ends.mono {first second : α → Net → Prop}
    (ends : Ends step net first) (weaker : ∀ res last, first res last → second res last) :
    Ends step net second := by
  rcases ends with ⟨res, last, run, ok⟩
  exact ⟨res, last, run, weaker res last ok⟩

theorem Ends.bind_run {next : α → Build β}
    {post : β → Net → Prop} (run : step.run net = .ok res last)
    (rest : Ends (next res) last post) : Ends (step >>= next) net post := by
  rcases rest with ⟨final, finalNet, finalRun, holds⟩
  refine ⟨final, finalNet, ?_, holds⟩
  rw [EStateM.run_bind, run]
  exact finalRun

theorem Ends.bind {next : α → Build β} {mid : α → Net → Prop}
    {post : β → Net → Prop} (ends : Ends step net mid)
    (rest : ∀ res last, mid res last → Ends (next res) last post) :
    Ends (step >>= next) net post := by
  rcases ends with ⟨res, last, run, ok⟩
  exact .bind_run run (rest res last ok)

theorem Ends.at_node {next : Node → Build β} {post : β → Net → Prop}
    (rest : Ends (next (net.node ref)) net post) : Ends (node ref >>= next) net post :=
  rest

theorem Ends.pure (ok : post res net) : Ends (pure res) net post :=
  .of_run rfl ok

theorem Ends.discard {post : Unit → Net → Prop}
    (ends : Ends step net fun _ last => post () last) : Ends (discard step) net post := by
  rcases ends with ⟨res, last, run, ok⟩
  refine ⟨(), last, ?_, ok⟩
  change (step >>= fun _ => Pure.pure ()).run net = _
  rw [EStateM.run_bind, run]
  rfl

theorem Ends.forM_append {step : α → Build Unit} {first snd : List α}
    {mid post : Unit → Net → Prop} (ends : Ends (first.forM step) net mid)
    (rest : ∀ last, mid () last → Ends (snd.forM step) last post) :
    Ends ((first ++ snd).forM step) net post := by
  have split : (first ++ snd).forM step = first.forM step >>= fun _ => snd.forM step :=
    List.forM_append
  rw [split]
  exact ends.bind fun _ last => rest last

theorem Ends.forM {step : α → Build Unit} (inv : List α → Net → Prop) (start : inv [] net)
    (turn : ∀ done x rest cur, xs = done ++ x :: rest → inv done cur →
      Ends (step x) cur fun _ last => inv (done ++ [x]) last) :
    Ends (xs.forM step) net fun _ last => inv xs last :=
  ends_iff.mpr (.forM inv start fun done x rest cur split ok =>
    ends_iff.mp (turn done x rest cur split ok))

theorem Ends.foldlM {step : β → α → Build β} (inv : List α → β → Net → Prop)
    {init : β} (start : inv [] init net)
    (turn : ∀ done x rest v cur, xs = done ++ x :: rest → inv done v cur →
      Ends (step v x) cur fun next last => inv (done ++ [x]) next last) :
    Ends (xs.foldlM step init) net fun v last => inv xs v last :=
  ends_iff.mpr (.foldlM inv start fun done x rest v cur split ok =>
    ends_iff.mp (turn done x rest v cur split ok))

theorem Ends.forIn {step : α → β → Build (ForInStep β)} (inv : List α → β → Net → Prop)
    {init : β} (start : inv [] init net)
    (turn : ∀ done x rest v cur, xs = done ++ x :: rest → inv done v cur →
      Ends (step x v) cur fun next last =>
        ∃ res, next = .yield res ∧ inv (done ++ [x]) res last) :
    Ends (ForIn.forIn xs init step) net fun v last => inv xs v last :=
  ends_iff.mpr (.forIn inv start fun done x rest v cur split ok =>
    ends_iff.mp (turn done x rest v cur split ok))

@[simp] theorem run_node (ref : Ref) (net : Net) : (node ref).run net = .ok (net.node ref) net :=
  rfl

@[simp] theorem run_change (ref : Ref) (f : Node → Node) (net : Net) :
    (change ref f).run net = .ok () (net.change ref f) := rfl

@[simp] theorem run_changeBody (g : Ref) (f : Body → Body) (net : Net) : (changeBody g f).run net =
      .ok () (net.change g fun n => { n with body := f n.body }) := rfl

@[simp] theorem run_ofExcept_ok (a : α) (net : Net) : (ofExcept (.ok a)).run net = .ok a net := rfl

/-- If the step ends without a fault, its result and the net are as described. -/
abbrev Yields (step : Build α) (net : Net) (post : α → Net → Prop) : Prop :=
  Guarded (fun _ => True) step net post

theorem Guarded.of_yields {first second : α → Net → Prop} (yields : Yields step net first)
    (may : ∀ err, blame err) (weaker : ∀ res last, first res last → second res last) :
    Guarded blame step net second :=
  yields.imp (fun err _ => may err) fun res last _ => weaker res last

def netAfter (step : Build α) (net : Net) : Net :=
  match step.run net with
  | .ok _ last => last
  | .error _ last => last

def finishes (step : Build α) (net : Net) : Bool :=
  match step.run net with
  | .ok _ _ => true
  | .error _ _ => false

theorem run_of_finishes (done : step.finishes net = true) :
    ∃ res, step.run net = .ok res (step.netAfter net) := by
  unfold finishes at done
  unfold netAfter
  split at done
  · next res last run =>
      rw [run]
      exact ⟨res, rfl⟩
  · cases done

theorem yields_ofExcept {arg : Except Fault α} :
    Yields (Build.ofExcept arg) net fun result last => last = net ∧ arg = .ok result :=
  .ofExcept (fun _ _ => trivial) fun _ eq => ⟨rfl, eq⟩

theorem yields_fetch {xs : List α} {k : Int} :
    Yields (fetch xs k) net fun item last => last = net ∧ at? xs k = some item := by
  refine .ofExcept (fun _ _ => trivial) fun item eq => ⟨rfl, ?_⟩
  unfold PatchCompiler.fetch at eq
  split at eq
  · next got =>
      cases eq
      exact got
  · cases eq

theorem yields_reject {ref : Ref} {reason : String} : Yields (reject ref reason) net post :=
  .bind_run (run_change _ _ _) (.throw trivial)

theorem Ends.guarded (ends : Ends step net post) : Guarded blame step net post := by
  rcases ends with ⟨res, last, run, ok⟩
  exact .of_run run ok

/-- In a loop over numbers a number tells how many turns were before its own. -/
theorem eq_length_of_range {n i : Nat} {done later : List Nat}
    (split : List.range n = done ++ i :: later) : i = done.length ∧ i < n ∧ i ∉ done := by
  have look : (List.range n)[done.length]? = some i := by
    rw [split, List.getElem?_append_right (Nat.le_refl _), Nat.sub_self, List.getElem?_cons_zero]
  obtain ⟨lt, eq⟩ := List.getElem?_eq_some_iff.mp look
  rw [List.getElem_range] at eq
  rw [List.length_range] at lt
  have once : (done ++ i :: later).Nodup := split ▸ List.nodup_range
  exact ⟨eq.symm, eq ▸ lt, fun old => (List.nodup_append.mp once).2.2 i old i (.head _) rfl⟩

theorem run_fetch {k : Int} {x : α} (got : at? xs k = some x)
    (net : Net) : (fetch xs k).run net = .ok x net := by
  simp [fetch, PatchCompiler.fetch, got]

theorem run_argument {name : String} {v : Value}
    (got : (net.node ref).arguments.get? name = some v) :
    (argument ref name).run net = .ok v net := by
  simp [argument, got]

end PatchCompiler.Build

namespace PatchCompiler.Net

variable {net : Net} {ref : Ref}

@[simp] theorem size_change (net : Net) (ref : Ref) (f : Node → Node) :
    (net.change ref f).size = net.size := by
  simp [change, size]

theorem node_change_self (mem : ref < net.size) (f : Node → Node) :
    (net.change ref f).node ref = f (net.node ref) := by
  have lt : ref < net.nodes.size := mem
  simp [change, node, lt, Array.getD, Array.getElem_modify_self]

theorem node_change_ne {other : Ref} (ne : other ≠ ref)
    (f : Node → Node) : (net.change ref f).node other = net.node other := by
  simp [change, node, Array.getD_eq_getD_getElem?, Array.getElem?_modify, Ne.symm ne]

theorem change_of_size_le (out : net.size ≤ ref) (f : Node → Node) : net.change ref f = net := by
  have same : net.nodes.modify ref f = net.nodes := by
    apply Array.ext_getElem?
    grind [size]
  rw [change, same]

theorem node_change (net : Net) (ref : Ref) (f : Node → Node) (other : Ref) :
    (net.change ref f).node other = net.node other ∨
      other = ref ∧ (net.change ref f).node other = f (net.node other) := by
  by_cases eq : other = ref
  · subst eq
    by_cases sub : other < net.size
    · exact .inr ⟨rfl, node_change_self sub f⟩
    · rw [change_of_size_le (Nat.le_of_not_lt sub)]
      exact .inl rfl
  · exact .inl (node_change_ne eq f)

/-- What a function that `f` leaves alone says of an object is the same after a change. -/
theorem node_change_keeps {f : Node → Node} {β : Type} (view : Node → β)
    (kept : ∀ node, view (f node) = view node) (other : Ref) :
    view ((net.change ref f).node other) = view (net.node other) := by
  rcases node_change net ref f other with same | ⟨-, changed⟩
  · rw [same]
  · rw [changed, kept]

theorem node_of_size_le (out : net.size ≤ ref) : net.node ref = default := by
  have lt : net.nodes.size ≤ ref := out
  simp [node, lt]

/-- One more object that looks like a missing one changes nothing of what is seen. -/
theorem look_grown {last : Net} {β : Type} (look : Node → β) (size : last.size = net.size + 1)
    (old : ref < net.size → look (last.node ref) = look (net.node ref))
    (new : look (last.node net.size) = look default) :
    look (last.node ref) = look (net.node ref) := by
  rcases Nat.lt_trichotomy ref net.size with lt | rfl | above
  · exact old lt
  · rw [new, node_of_size_le (Nat.le_refl _)]
  · rw [node_of_size_le (size ▸ above), node_of_size_le (Nat.le_of_lt above)]

theorem lt_size_of_look {β : Type} (look : Node → β) (ne : look (net.node ref) ≠ look default) :
    ref < net.size :=
  Nat.lt_of_not_le fun out => ne (by rw [node_of_size_le out])

theorem lt_size_of_mem_contents {o : Ref} (mem : o ∈ net.contents ref) : ref < net.size :=
  lt_size_of_look (fun n => n.body.objects.map Prod.snd) (List.ne_nil_of_mem mem)

end PatchCompiler.Net
