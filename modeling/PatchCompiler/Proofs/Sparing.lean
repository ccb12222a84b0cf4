import PatchCompiler.Proofs.Effects
import PatchCompiler.Proofs.Entering

/-!
# The wires that a step leaves alone

A step on wires, if it ends, has changed nothing but the wires that it is about. Whether other wires
are noted properly does not matter for this.
-/

namespace PatchCompiler

namespace Net

variable {net middle last : Net} {touched more : Wire → Prop}

/-- Only wires have changed, and only some of them. -/
structure Rewired (touched : Wire → Prop) (net last : Net) : Prop where
  alike : Alike Node.unwired net last
  spares : Spares touched net last

namespace Rewired

theorem refl (touched : Wire → Prop) (net : Net) : Rewired touched net net :=
  ⟨.refl _ _, .refl _ _⟩

theorem trans (first : Rewired touched net middle) (snd : Rewired touched middle last) :
    Rewired touched net last :=
  ⟨first.alike.trans snd.alike, first.spares.trans snd.spares⟩

theorem mono (rewired : Rewired touched net last) (weaker : ∀ w, touched w → more w) :
    Rewired more net last :=
  ⟨rewired.alike, rewired.spares.mono weaker⟩

theorem mem_held_iff (rewired : Rewired touched net last) {w : Wire} (left : ¬ touched w)
    (s : Side) (ref : Ref) (slot : Nat) : w ∈ last.held s ref slot ↔ w ∈ net.held s ref slot := by
  have eq := rewired.spares (· = w) (fun y isTouched => by
    simpa using fun equal : y = w => left (equal ▸ isTouched)) s ref slot
  have first : w ∈ (last.held s ref slot).filter (· = w) ↔
      w ∈ (net.held s ref slot).filter (· = w) := by rw [eq]
  simpa using first

end Rewired

end Net

namespace Build

open Net

variable {net : Net} {g o ref : Ref} {w : Wire} {new : List Wire}

theorem yields_attach_rewired : Yields (attach ref w) net fun _ last =>
    Rewired (· = w) net last := by
  apply yields_attach.mono
  rintro _ last ⟨s, i, -, rfl⟩
  refine ⟨alike_changeLets, .changeLets fun keep blind list => ?_⟩
  simp [List.filter_append, blind w rfl]

theorem yields_detach_rewired : Yields (detach ref w) net fun _ last =>
    Rewired (· = w) net last := by
  apply yields_detach.mono
  rintro _ last ⟨s, i, -, -, rfl⟩
  exact ⟨alike_changeLets, .changeLets fun keep blind => filter_erase_of_not (blind w rfl)⟩

theorem yields_substitute_rewired : Yields (substitute ref w new) net fun _ last =>
    Rewired (fun y => y = w ∨ y ∈ new) net last ∧
      (ref = w.source → ∃ j, w ∈ net.held .outlet w.source j) := by
  apply yields_substitute.mono
  rintro _ last ⟨s, i, got, present, rfl⟩
  refine ⟨⟨alike_changeLets, .changeLets fun keep blind => filter_replaceAt_of_not s
    (blind w (.inl rfl)) fun y mem => blind y (.inr mem)⟩, ?_⟩
  rintro rfl
  rcases got.preferred with rfl | away
  · exact ⟨i, present⟩
  · exact absurd rfl away

theorem yields_attachAll_rewired {at' : Wire → Ref} :
    Yields (new.forM fun w => attach (at' w) w) net fun _ last =>
      Rewired (· ∈ new) net last := by
  refine Guarded.forM (fun _ cur => Rewired (· ∈ new) net cur) (.refl _ _) ?_
  intro done w rest cur split pre
  apply yields_attach_rewired.mono
  intro _ last post
  refine pre.trans (post.mono ?_)
  rintro _ rfl
  simp [split]

theorem yields_connectAny_rewired : Yields (connectAny w) net fun _ last =>
    Rewired (· = w) net last := by
  apply Guarded.bind yields_attach_rewired
  intro _ middle first
  apply yields_attach_rewired.mono
  exact fun _ last snd => first.trans snd

theorem yields_connect_rewired : Yields (connect w) net fun _ last =>
    Rewired (· = w) net last := by
  apply Guarded.at_node
  apply Guarded.at_node
  split
  · exact yields_connectAny_rewired
  · exact .bind_run rfl (.throw trivial)

theorem yields_rewire_from (some : new ≠ []) (shared : ∀ y ∈ new, y.source = w.source) :
    Yields (rewire (.some w) new) net fun _ last =>
      Rewired (fun y => y = w ∨ y ∈ new) net last ∧ ∃ slot, w ∈ net.held .outlet w.source slot := by
  have notEmpty : ¬ new.isEmpty = true := by simpa using some
  have all : (new.all fun y => decide (y.source = w.source)) = true := by
    simpa using shared
  unfold rewire
  dsimp only
  rw [if_neg notEmpty, if_pos all]
  apply Guarded.bind yields_substitute_rewired
  rintro _ snd ⟨first, mem⟩
  apply Guarded.bind yields_detach_rewired
  intro _ third next
  apply yields_attachAll_rewired.mono
  intro _ last rest
  exact ⟨(first.trans (next.mono fun _ => .inl)).trans (rest.mono fun _ => .inr), mem rfl⟩

theorem yields_add_held : Yields (add g o) net fun _ last => last.size = net.size ∧
    ∀ s ref slot, last.held s ref slot = net.held s ref slot := by
  apply Guarded.at_node
  apply yields_addAs.mono
  rintro _ last ⟨-, noted⟩
  refine ⟨?_, fun s ref slot => ?_⟩
  · rw [noted.alike.1, enteredAs, size_change, size_change]
  · rw [noted.held, held, lets_enteredAs, held]

end Build

end PatchCompiler
