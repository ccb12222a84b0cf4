import PatchCompiler.Net.Reduction
import PatchCompiler.Proofs.Sparing

/-!
# Objects that feed themselves

An object gives way to another one by moving its wires, first those at its inlets, then those at its
outlets. A wire from the object back to it is moved once for each place where it is noted, and every
move takes it away at both ends. So there is a move too many, and it fails.
-/

namespace PatchCompiler

open List

namespace Net

/-- How often a wire is noted at the lets of one side of an object. -/
def notes (net : Net) (s : Side) (o : Ref) (w : Wire) : Nat :=
  ((net.node o).lets s).flatten.count w

variable {net last : Net} {s : Side} {o : Ref} {w : Wire} {i : Nat}

theorem count_flatten_modify {lets : List (List Wire)} {f : List Wire → List Wire}
    (lt : i < lets.length) : (lets.modify i f).flatten.count w + (lets.getD i []).count w =
      lets.flatten.count w + (f (lets.getD i [])).count w := by
  induction lets generalizing i with
  | nil => cases lt
  | cons first rest ih =>
    cases i with
    | zero => simp; omega
    | succ i =>
      have := ih (Nat.lt_of_succ_lt_succ lt)
      simp at this ⊢
      omega

/-- Editing a let that notes a wire counts as much for the object as for the let. -/
theorem notes_changeLets {f : List Wire → List Wire} (mem : w ∈ net.held s o i) (third : Side) :
    (net.changeLets s o i f).notes third o w + (if third = s then (net.held s o i).count w else 0) =
      net.notes third o w + if third = s then (f (net.held s o i)).count w else 0 := by
  obtain ⟨inside, bound⟩ := lt_of_mem_held mem
  rw [notes, changeLets, node_change_self inside, notes]
  split
  case isTrue eq =>
    subst eq
    rw [Node.lets_changeLets_self]
    exact count_flatten_modify bound
  case isFalse ne => rw [Node.lets_changeLets_ne ne]

theorem Rewired.notes_eq {touched : Wire → Prop} (rewired : Rewired touched net last)
    (left : ¬ touched w) : last.notes s o w = net.notes s o w := by
  rw [notes, notes, count_flatten, count_flatten]
  congr 1
  refine ext_getElem (by simp [rewired.alike.unwired_length]) fun i inLast inNet => ?_
  have kept := rewired.spares (· == w) (fun y isTouched => by
    simpa using fun equal : y = w => left (equal ▸ isTouched)) s o i
  rw [length_map] at inLast inNet
  simp only [held, getD_eq_getElem?_getD, getElem?_eq_getElem inLast, getElem?_eq_getElem inNet,
    Option.getD_some] at kept
  rw [getElem_map, getElem_map, count_eq_length_filter, kept, count_eq_length_filter]

end Net

namespace Build

open Net

variable {net : Net} {g o x : Ref} {w y : Wire}

/-- A wire is exchanged for another one at one end, and moved at the other. -/
theorem yields_rewire_single {post : Unit → Net → Prop} (moved : ∀ a b (at' : Wire → Ref),
      (∃ s, a = w.object s) → (∃ s, b = w.object s) → Yields (do
        substitute a w [y]
        detach b w
        [y].forM fun n => attach (at' n) n) net post) : Yields (rewire (some w) [y]) net post := by
  unfold rewire
  dsimp only
  rw [if_neg (by simp)]
  split
  · exact moved _ _ _ ⟨.outlet, rfl⟩ ⟨.inlet, rfl⟩
  · split
    · exact moved _ _ _ ⟨.inlet, rfl⟩ ⟨.outlet, rfl⟩
    · exact .bind_run rfl (.bind_run rfl (.throw trivial))

/-- Moving a wire from an object back to it takes the wire away at both ends. -/
theorem yields_rewire_loop (loop : ∀ s, w.object s = o) (ne : y ≠ w) :
    Yields (rewire (some w) [y]) net fun _ last => ∀ s, last.notes s o w + 1 = net.notes s o w := by
  apply yields_rewire_single
  rintro _ _ at' ⟨s, rfl⟩ ⟨t, rfl⟩
  rw [loop, loop]
  apply Guarded.bind yields_substitute
  rintro _ _ ⟨_, i, got, mem, rfl⟩
  obtain rfl := got.preferred.resolve_right (not_not.mpr (loop _))
  apply Guarded.bind yields_detach
  rintro _ _ ⟨_, j, found, also, rfl⟩
  obtain rfl := found.preferred.resolve_right (not_not.mpr (loop _))
  apply yields_attachAll_rewired.mono
  intro _ last rest third
  rw [rest.notes_eq (by simpa using ne.symm)]
  have outs := notes_changeLets (f := replaceAt w [y] .outlet) mem third
  have ins := notes_changeLets (f := (·.erase w)) also third
  have held := count_pos_iff.mpr mem
  have heldToo := count_pos_iff.mpr also
  have fewer := congrArg (Multiset.count w) (@coe_replaceAt _ _ .outlet [y] mem)
  simp [Multiset.coe_count, ne] at fewer
  rw [count_erase_self] at ins
  cases third <;> simp at outs ins <;> omega

theorem yields_rewire_other {v : Wire} (other : v ≠ w) (ne : y ≠ w) :
    Yields (rewire (some v) [y]) net fun _ last => ∀ s, last.notes s o w = net.notes s o w := by
  apply yields_rewire_single
  intro a b at' _ _
  apply Guarded.bind yields_substitute_rewired
  rintro _ mid ⟨first, -⟩
  apply Guarded.bind yields_detach_rewired
  intro _ third next
  apply yields_attachAll_rewired.mono
  intro _ last rest s
  rw [rest.notes_eq (by simpa using ne.symm), next.notes_eq other.symm,
    first.notes_eq (by simpa using ⟨other.symm, ne.symm⟩)]

theorem yields_add_notes : Yields (add g x) net fun _ last =>
    ∀ s, last.notes s o w = net.notes s o w := by
  apply Guarded.at_node
  apply yields_addAs.mono
  rintro _ last ⟨-, noted⟩ s
  have same := @lets_enteredAs net g x (.own (net.node x).identity) o s
  obtain eq | ⟨-, eq⟩ := noted.lets o s <;> rw [notes, eq, same, notes]
  simp

/-- An object cannot give way to another one while a wire leads from it back to it, wherever the
wire is noted and whatever other wires there are. -/
theorem not_ends_replacedBy_of_loop (new : x ≠ o) (loop : ∀ s, w.object s = o)
    (noted : w ∈ (net.node o).incoming ++ (net.node o).outgoing) :
    ¬ Ends (replacedBy o x >>= applyReduction g o) net fun _ _ => True := by
  have moved : ∀ move ∈ (net.node o).incoming.map (moveTo x) ++
      (net.node o).outgoing.map (moveFrom x), ∃ v y, move = (some v, [y]) ∧ y ≠ w := by
    intro move mem
    rw [mem_append, mem_map, mem_map] at mem
    rcases mem with ⟨v, -, rfl⟩ | ⟨v, -, rfl⟩
    · exact ⟨v, _, rfl, fun eq => new ((congrArg Wire.target eq).trans (loop .inlet))⟩
    · exact ⟨v, _, rfl, fun eq => new ((congrArg Wire.source eq).trans (loop .outlet))⟩
  have many : ((net.node o).incoming.map (moveTo x) ++
      (net.node o).outgoing.map (moveFrom x)).countP (·.1 = some w) =
      net.notes .inlet o w + net.notes .outlet o w := by
    rw [countP_append, countP_map, countP_map]
    congr 1 <;> exact countP_congr fun v _ => by simp [moveTo, moveFrom]
  have loops : 0 < net.notes .inlet o w + net.notes .outlet o w := by
    rw [← count_pos_iff, count_append] at noted
    exact noted
  have fails : Yields (replacedBy o x >>= applyReduction g o) net fun _ _ => False := by
    refine Guarded.bind_run (show (replacedBy o x).run net = .ok ⟨[x], _⟩ net from rfl) ?_
    rw [applyReduction, if_neg (by simpa using new)]
    -- the new object comes without wires
    apply Guarded.bind (Guarded.forM (fun _ cur => ∀ s, cur.notes s o w = net.notes s o w)
      (fun _ => rfl) fun done y rest cur split kept => yields_add_notes.mono fun _ last same s =>
        (same s).trans (kept s))
    intro _ begun kept
    -- each move of the wire uses up a note on either side
    apply Guarded.bind (Guarded.forM (fun done cur => ∀ s, cur.notes s o w +
      done.countP (·.1 = some w) = net.notes s o w) (by simpa using kept) ?_)
    · intro _ fin all
      have ins := all .inlet
      have outs := all .outlet
      rw [many] at ins outs
      omega
    · intro done move rest cur split soFar
      have among : move ∈ done ++ move :: rest := by simp
      rw [← split] at among
      obtain ⟨v, y, rfl, ne⟩ := moved move among
      by_cases eq : v = w
      · subst eq
        apply (yields_rewire_loop loop ne).mono
        intro _ last fewer s
        have := fewer s
        have := soFar s
        simp
        omega
      · apply (yields_rewire_other (o := o) eq ne).mono
        intro _ last same s
        have := same s
        have := soFar s
        simp [eq]
        omega
  rintro ⟨_, last, run, -⟩
  exact fails.of_ok run

end Build

namespace Echo

/-- A delay that is fed by itself through a trigger, with its objects in the given order. -/
def net (objects : List (Key × Ref)) : Net where
  nodes := #[
    { type := "__graph", kind := .graph, identity := 0, body := { objects } },
    { type := "delay", kind := .delay, identity := 1, parent := some 0
      arguments := [("delay", .int 5)], inlets := [[⟨2, 0, 1, 0, .control⟩], []]
      outlets := [[⟨1, 0, 2, 0, .control⟩]] },
    { type := "sequence", kind := .sequence, identity := 2, parent := some 0
      arguments := [("casts", .list [.text "a"])], inlets := [[⟨1, 0, 2, 0, .control⟩]]
      outlets := [[⟨2, 0, 1, 0, .control⟩]] }]

/-- The delay when the trigger has gone, and the object that is to take its place. -/
def looped : Net :=
  (do Build.applyReduction 0 2 (← Build.reductionOf 2); Build.makeLower 1 "__delay" []).netAfter
    (net [(.given "trigger", 2), (.given "delay", 1)])

theorem not_ends_replacedBy_looped :
    ⟨1, 0, 1, 0, .control⟩ ∈ (looped.node 1).incoming ++ (looped.node 1).outgoing ∧
      ¬ Build.Ends (Build.replacedBy 1 3 >>= Build.applyReduction 0 1) looped fun _ _ => True := by
  have noted : ⟨1, 0, 1, 0, .control⟩ ∈ (looped.node 1).incoming ++ (looped.node 1).outgoing := by
    decide +kernel
  exact ⟨noted, Build.not_ends_replacedBy_of_loop (by decide) (fun s => by cases s <;> rfl) noted⟩

/-- Whether the graph can be reduced depends on which of the two objects comes first. -/
theorem not_reduce_trigger_first :
    (Build.reduce 0).finishes (net [(.given "delay", 1), (.given "trigger", 2)]) = true ∧
    (Build.reduce 0).finishes (net [(.given "trigger", 2), (.given "delay", 1)]) = false := by
  decide +kernel

end Echo

end PatchCompiler
