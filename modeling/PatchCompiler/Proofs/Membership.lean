import Mathlib.Data.Multiset.MapFold
import PatchCompiler.Net.Creation
import PatchCompiler.Proofs.Wiring

/-!
# Objects that come and go

What making an object, adding it to a graph and removing one leave of the objects and the wires of
the graph.
-/

namespace PatchCompiler

open List Multiset

/-- An object without its wires and without its contents. -/
def Node.bare (node : Node) : Node :=
  { node.unwired with body := { node.body with objects := [] } }

theorem Node.bare_unwired (n : Node) : n.unwired.bare = n.bare := by
  simp [bare, unwired]

theorem Node.look_of_bare {α : Type} {n other : Node} (eq : n.bare = other.bare)
    (look : Node → α) (keeps : look ∘ Node.bare = look) : look n = look other := by
  rw [← keeps]
  exact congrArg look eq

def Node.dropEntry (o : Ref) (node : Node) : Node :=
  { node with
    body := { node.body with
      objects := node.body.objects.eraseP fun entry => entry.2 == o } }

theorem Node.dropEntry_bare (o : Ref) (n : Node) : (n.dropEntry o).bare = n.bare :=
  rfl

theorem Node.dropEntry_lets (o : Ref) (s : Side) (n : Node) :
    (n.dropEntry o).lets s = n.lets s := by
  cases s <;> rfl

theorem Node.objects_dropEntry (o : Ref) (n : Node) : (n.dropEntry o).body.objects.map Prod.snd =
      (n.body.objects.map Prod.snd).erase o := by
  have eq : ∀ e : Key × Ref, (e.2 == o) = (o == e.2) := fun _ => BEq.comm
  rw [erase_eq_eraseP, eraseP_map]
  simp only [dropEntry, eq, Function.comp_def]

def Wire.Avoids (o : Ref) (w : Wire) : Prop :=
  w.source ≠ o ∧ w.target ≠ o

instance (o : Ref) : DecidablePred (Wire.Avoids o) :=
  fun _ => inferInstanceAs (Decidable (_ ∧ _))

def Wire.Below (s : Side) (o : Ref) (count : Nat) (w : Wire) : Prop :=
  w.object s = o ∧ w.index s < count

instance (s : Side) (o : Ref) (count : Nat) : DecidablePred (Wire.Below s o count) :=
  fun _ => inferInstanceAs (Decidable (_ ∧ _))

theorem Wire.below_succ_iff {s : Side} {o : Ref} {count : Nat} {w : Wire} :
    w.Below s o (count + 1) ↔ w.Below s o count ∨ w.At s o count := by
  unfold Below At
  push_cast
  constructor
  · rintro ⟨eq, lt⟩
    rcases Int.lt_or_eq_of_le (Int.le_of_lt_add_one lt) with less | equal
    · exact .inl ⟨eq, less⟩
    · exact .inr ⟨eq, equal⟩
  · rintro (⟨eq, less⟩ | ⟨eq, equal⟩)
    · exact ⟨eq, by omega⟩
    · exact ⟨eq, by omega⟩

theorem Wire.not_below_and_at {s : Side} {o : Ref} {n : Nat} {w : Wire} :
    ¬ (w.Below s o n ∧ w.At s o n) := by
  rintro ⟨⟨-, less⟩, -, eq⟩
  omega

namespace Net

variable {net last third : Net} {g o : Ref} {objects : List Ref} {s : Side}
  {ws : Multiset Wire} {besides : Side → Multiset Wire}

/-- Wires stay when objects without wires come and objects without wires go. -/
theorem Threaded.regroup {ys : List Ref} (threaded : net.Threaded objects ws besides)
    (size : net.size ≤ last.size) (eq : ∀ o ∈ objects, ∀ s,
      (last.node o).lets s = (net.node o).lets s) (kept : ∀ w ∈ ws, ∀ s, w.object s ∈ ys)
    (near : ∀ s, ∀ w ∈ besides s, w.object s ∈ objects) (new : ∀ o ∈ ys, o ∉ objects →
      o < last.size ∧ ∀ s i, last.held s o i = []) : last.Threaded ys ws besides where
  within := by
    intro o inside
    by_cases old : o ∈ objects
    · exact (threaded.within o old).trans_le size
    · exact (new o inside old).1
  fits := by
    intro w inside
    have fits := threaded.fits w inside
    refine ⟨fits.apart, kept w inside, ?_⟩
    intro s
    rw [eq _ (fits.mem s)]
    exact fits.bound s
  holds := by
    intro s o inside i
    by_cases old : o ∈ objects
    · rw [held, eq o old s]
      exact threaded.holds s o old i
    · rw [(new o inside old).2 s i]
      refine (filter_eq_nil.mpr ?_).symm
      rintro w inWs ⟨rfl, -⟩
      rcases mem_add.mp inWs with there | there
      · exact old ((threaded.fits w there).mem s)
      · exact old (near s w there)

theorem Strung.regroup (strung : net.Strung g ws) (size : net.size ≤ last.size)
    (eq : ∀ o ∈ net.contents g, ∀ s, (last.node o).lets s = (net.node o).lets s)
    (kept : ∀ w ∈ ws, ∀ s, w.object s ∈ last.contents g)
    (new : ∀ o ∈ last.contents g, o ∉ net.contents g →
      o < last.size ∧ ∀ s i, last.held s o i = []) : last.Strung g ws :=
  (strung.threaded.regroup size eq kept (by simp) new).strung

theorem filter_add_filter_of_disjoint {first second both : Wire → Prop} [DecidablePred first]
    [DecidablePred second] [DecidablePred both] {ws : Multiset Wire}
    (split : ∀ w ∈ ws, both w ↔ first w ∨ second w) (disjoint : ∀ w ∈ ws, ¬ (first w ∧ second w)) :
    ws.filter both = ws.filter first + ws.filter second := by
  rw [Multiset.filter_add_filter, Multiset.filter_congr split,
    Multiset.filter_eq_nil.mpr disjoint, Multiset.add_zero]

namespace Threaded

variable (threaded : net.Threaded objects ws besides)
include threaded

theorem not_below_zero : ∀ w ∈ ws, ¬ w.Below s o 0 := by
  rintro w inside ⟨-, lt⟩
  rcases (threaded.fits w inside).bound s with ⟨i, -, k⟩
  omega

theorem below_length_iff : ∀ w ∈ ws, w.Below s o ((net.node o).lets s).length ↔ w.object s = o := by
  intro w inside
  constructor
  · exact And.left
  · rintro rfl
    rcases (threaded.fits w inside).bound s with ⟨i, lt, k⟩
    exact ⟨rfl, by omega⟩

variable (inside : o ∈ objects)
  (free : ∀ s, ∀ w ∈ besides s, w.object s ≠ o)
include inside free

theorem coe_held (s : Side) (i : Nat) :
    (net.held s o i : Multiset Wire) = ws.filter (Wire.At s o i) := by
  have none : (besides s).filter (Wire.At s o i) = 0 :=
    Multiset.filter_eq_nil.mpr fun w mem put => free s w mem put.1
  rw [threaded.holds s o inside i, Multiset.filter_add, none, Multiset.add_zero]

theorem coe_flatten (s : Side) : (((net.node o).lets s).flatten : Multiset Wire) =
    ws.filter fun w => w.object s = o := by
  -- the lets are gone through from the first on
  have go : ∀ n ≤ ((net.node o).lets s).length,
      ((((net.node o).lets s).take n).flatten : Multiset Wire) = ws.filter (Wire.Below s o n) := by
    intro n
    induction n with
    | zero =>
      intro _
      exact (filter_eq_nil.mpr threaded.not_below_zero).symm
    | succ n ih =>
      intro lt
      have here := threaded.coe_held inside free s n
      rw [held, getD_eq_getElem?_getD, List.getElem?_eq_getElem lt, Option.getD_some] at here
      rw [take_succ_eq_append_getElem lt, flatten_append, ← coe_add,
        ih (Nat.le_of_succ_le lt), flatten_singleton, here]
      exact (filter_add_filter_of_disjoint (fun _ _ => Wire.below_succ_iff)
        fun _ _ => Wire.not_below_and_at).symm
  have all := go _ le_rfl
  rw [take_length] at all
  rw [all]
  exact filter_congr threaded.below_length_iff

end Threaded

theorem Strung.coe_flatten (strung : net.Strung g ws) (inside : o ∈ net.contents g)
    (s : Side) : (((net.node o).lets s).flatten : Multiset Wire) =
      ws.filter fun w => w.object s = o :=
  strung.threaded.coe_flatten inside (by simp) s

end Net

namespace Build

open Net

variable {net : Net} {g o : Ref} {objects : List Ref} {ws : Multiset Wire}
  {besides : Side → Multiset Wire}

theorem ends_clear (s : Side) (threaded : net.Threaded objects ws besides) (inside : o ∈ objects)
    (free : ∀ s, ∀ w ∈ besides s, w.object s ≠ o) :
    Ends (forIn (List.range ((net.node o).lets s).length) PUnit.unit fun place _ => do
      let node ← node o
      ((node.lets s).getD place []).forM disconnect
      pure (ForInStep.yield PUnit.unit)) net fun _ last =>
        Rethreaded net objects (ws.filter fun w => w.object s ≠ o) besides
          (·.object s = o) last := by
  have rest : ∀ n, ws.filter (¬ Wire.Below s o (n + 1) ·) =
      (ws.filter (¬ Wire.Below s o n ·)).filter (¬ Wire.At s o n ·) := by
    intro n
    rw [Multiset.filter_filter]
    apply Multiset.filter_congr
    intro w _
    rw [Wire.below_succ_iff, not_or, and_comm]
  apply Ends.mono (Ends.forIn (fun done _ cur => Rethreaded net objects
    (ws.filter (¬ Wire.Below s o done.length ·)) besides (·.object s = o) cur)
    ?_ ?_)
  · intro _ last cleared
    rw [length_range, filter_congr fun w inWs =>
      not_congr (threaded.below_length_iff w inWs)] at cleared
    exact cleared
  · refine ⟨.refl _ _, ?_, .refl _ _⟩
    rw [length_nil, filter_eq_self.mpr threaded.not_below_zero]
    exact threaded
  · intro done place _ _ cur split pre
    obtain ⟨rfl, -⟩ := eq_length_of_range split
    apply Ends.at_node
    have ownWires : ∀ w ∈ cur.held s o done.length, w.object s = o := by
      intro w mem
      rw [← mem_coe, pre.threaded.coe_held inside free s done.length] at mem
      exact (mem_filter.mp mem).2.1
    have here := pre.threaded
    rw [← filter_add_not (Wire.At s o done.length) (ws.filter (¬ Wire.Below s o done.length ·)),
      ← pre.threaded.coe_held inside free s done.length] at here
    apply Ends.bind (here.ends_disconnectAll)
    intro _ last cleared
    refine .pure ⟨PUnit.unit, rfl, pre.alike.trans cleared.alike, ?_,
      pre.spares.trans (cleared.spares.mono ownWires)⟩
    rw [length_append, length_singleton, rest]
    exact cleared.threaded

/-- An object has lost all its wires and its entry in a graph. -/
structure Dropped (net : Net) (g o : Ref) (objects : List Ref) (ws : Multiset Wire)
    (besides : Side → Multiset Wire) (last : Net) : Prop where
  alike : Alike Node.bare net last
  body : (last.node g).body = ((net.node g).dropEntry o).body
  bodies : ∀ ref ≠ g, (last.node ref).body = (net.node ref).body
  threaded : last.Threaded objects (ws.filter (Wire.Avoids o)) besides
  spares : Spares (¬ Wire.Avoids o ·) net last

theorem ends_drop (threaded : net.Threaded objects ws besides) (inside : o ∈ objects)
    (free : ∀ s, ∀ w ∈ besides s, w.object s ≠ o)
    (near : ∀ s, ∀ w ∈ besides s, w.object s ∈ objects)
    (graphInside : g < net.size) (mute : isMailbox (net.node o).type = false) :
    Ends (remove g o) net fun _ last =>
      Dropped net g o objects ws besides last := by
  apply Ends.at_node
  apply Ends.bind (ends_clear .inlet threaded inside free)
  intro _ snd first
  apply Ends.at_node
  apply Ends.bind (ends_clear .outlet first.threaded inside free)
  intro _ third next
  have alike := first.alike.trans next.alike
  apply Ends.bind_run (run_changeBody _ _ _)
  change Ends _ (third.change g (Node.dropEntry o)) _
  have lets : ∀ ref s, ((third.change g (Node.dropEntry o)).node ref).lets s =
      (third.node ref).lets s := fun ref s =>
    node_change_keeps (fun n => n.lets s) (Node.dropEntry_lets o s) ref
  have bareAlike : Alike Node.bare net (third.change g (Node.dropEntry o)) :=
    Alike.trans ⟨alike.1, fun _ => alike.look Node.bare (funext Node.bare_unwired)⟩
      (.change (Node.dropEntry_bare o))
  have bodies : ∀ ref, (third.node ref).body = (net.node ref).body := fun _ => alike.look Node.body rfl
  have cleared : third.Threaded objects (ws.filter (Wire.Avoids o)) besides := by
    have here := next.threaded
    rw [Multiset.filter_filter] at here
    exact here
  apply Ends.at_node
  have quiet : isMailbox ((third.change g (Node.dropEntry o)).node o).type = false := by
    rw [bareAlike.look Node.type rfl]
    exact mute
  rw [quiet]
  refine .pure ⟨bareAlike, ?_, ?_, ?_, ?_⟩
  · rw [node_change_self (alike.1 ▸ graphInside)]
    simp only [Node.dropEntry, bodies]
  · intro ref ne
    rw [node_change_ne ne, bodies]
  · exact cleared.regroup (by rw [size_change]) (fun ref _ s => lets ref s)
      (fun w inWs => (cleared.fits w inWs).mem) near
      (fun ref there notOld => absurd there notOld)
  · have eq : ∀ s ref slot,
        (third.change g (Node.dropEntry o)).held s ref slot = third.held s ref slot := by
      intro s ref slot
      rw [held, lets, held]
    intro keep blind s ref slot
    rw [eq]
    refine ((first.spares.mono ?_).trans (next.spares.mono ?_)) keep blind s ref slot
    · exact fun w here avoids => avoids.2 here
    · exact fun w here avoids => avoids.1 here

/-- What is left of a graph when an object is removed from it. -/
structure Removed (net : Net) (g o : Ref) (ws : Multiset Wire) (last : Net) : Prop where
  alike : Alike Node.bare net last
  body : (last.node g).body = ((net.node g).dropEntry o).body
  strung : last.Strung g (ws.filter (Wire.Avoids o))

theorem ends_remove (strung : net.Strung g ws) (inside : o ∈ net.contents g)
    (graphInside : g < net.size) (mute : isMailbox (net.node o).type = false) :
    Ends (remove g o) net fun _ last => Removed net g o ws last := by
  apply Ends.mono (ends_drop strung.threaded inside (by simp) (by simp) graphInside mute)
  intro _ last gone
  have cs : last.contents g = (net.contents g).erase o := by
    rw [Net.contents, gone.body, Node.objects_dropEntry, Net.contents]
  refine ⟨gone.alike, gone.body, Threaded.strung ?_⟩
  apply gone.threaded.regroup le_rfl (fun _ _ _ => rfl) ?_ (by simp) ?_
  · intro w inWs s
    rw [cs]
    refine (List.mem_erase_of_ne ?_).mpr ((gone.threaded.fits w inWs).mem s)
    cases s with
    | inlet => exact (mem_filter.mp inWs).2.2
    | outlet => exact (mem_filter.mp inWs).2.1
  · intro ref inLast notOld
    rw [cs] at inLast
    exact absurd (mem_of_mem_erase inLast) notOld

end Build

end PatchCompiler
