import PatchCompiler.Proofs.Wiring

/-!
# What single wiring steps do

A step that adds, removes or replaces a wire at an end of it either fails or changes the wires at
one let. A wire is given a let by an index, and a negative index counts from the end of the lets.
-/

namespace PatchCompiler

open List

namespace Net

/-- The let at which a wire ends, as far as its object has it. A negative index counts from the end
of the lets. -/
def letOf (net : Net) (s : Side) (w : Wire) : Option Nat :=
  place? ((net.node (w.object s)).lets s).length (w.index s)

def Meets (net : Net) (s : Side) (ref : Ref) (slot : Nat) (w : Wire) : Prop :=
  w.object s = ref ∧ net.letOf s w = some slot

instance (net : Net) (s : Side) (ref : Ref) (slot : Nat) : DecidablePred (net.Meets s ref slot) :=
  fun _ => inferInstanceAs (Decidable (_ ∧ _))

def timesNoted (net : Net) (s : Side) (w : Wire) : Nat :=
  match net.letOf s w with
  | none => 0
  | some slot => (net.held s (w.object s) slot).count w

variable {net last third : Net} {s : Side} {w : Wire} {i : Nat}
  {f : List Wire → List Wire}

theorem letOf_eq (eq : ((last.node (w.object s)).lets s).length =
    ((net.node (w.object s)).lets s).length) : last.letOf s w = net.letOf s w := by
  rw [letOf, eq, letOf]

theorem Alike.letOf (alike : Alike Node.unwired net last) (s : Side) (w : Wire) :
    last.letOf s w = net.letOf s w :=
  letOf_eq (alike.unwired_length _ s)

theorem bound_of_letOf (met : net.letOf s w = some i) :
    i < ((net.node (w.object s)).lets s).length :=
  place?_lt met

theorem lt_size_of_letOf (met : net.letOf s w = some i) : w.object s < net.size := by
  have some := (Nat.zero_lt_of_lt (bound_of_letOf met)).ne'
  cases s <;> exact lt_size_of_look (fun n => (n.lets _).length) some

theorem Alike.meets (alike : Alike Node.unwired net last) {s : Side} {ref : Ref} {slot : Nat} :
    last.Meets s ref slot = net.Meets s ref slot := by
  funext w
  rw [Meets, Meets, alike.letOf]

/-- One end of a wire has been edited, and nothing else. -/
structure Edited (net : Net) (s : Side) (w : Wire) (f : List Wire → List Wire) (last : Net) :
    Prop where
  alike : Alike Node.unwired net last
  placed : (net.letOf s w).isSome
  held : ∀ third ref slot, last.held third ref slot =
    if third = s ∧ net.Meets s ref slot w then f (net.held third ref slot)
    else net.held third ref slot

theorem edited_changeLets (met : net.letOf s w = some i) :
    Edited net s w f (net.changeLets s (w.object s) i f) where
  alike := alike_changeLets
  placed := by
    rw [met]
    rfl
  held := by
    intro third ref j
    by_cases sameSide : third = s
    · subst sameSide
      by_cases eq : ref = w.object third ∧ j = i
      · obtain ⟨rfl, rfl⟩ := eq
        have meets : net.Meets third (w.object third) j w := ⟨rfl, met⟩
        rw [held_changeLets_self (lt_size_of_letOf met) (bound_of_letOf met), if_pos ⟨rfl, meets⟩]
      · have misses : ¬ net.Meets third ref j w := by
          rintro ⟨rfl, y⟩
          rw [met] at y
          exact eq ⟨rfl, (Option.some.inj y).symm⟩
        rw [held_changeLets_ne eq, if_neg fun both => misses both.2]
    · rw [held_changeLets_side sameSide, if_neg fun both => sameSide both.1]

/-- Wires have been added at one end of them, behind the others there. -/
structure Appended (net : Net) (s : Side) (new : List Wire) (last : Net) : Prop where
  alike : Alike Node.unwired net last
  placed : ∀ w ∈ new, (net.letOf s w).isSome
  here : ∀ ref slot, last.held s ref slot = net.held s ref slot ++ new.filter (net.Meets s ref slot)
  there : ∀ third ≠ s, ∀ ref slot, last.held third ref slot = net.held third ref slot

/-- Wires have been added at both their ends, behind the others there. -/
structure Extended (net : Net) (new : List Wire) (last : Net) : Prop where
  alike : Alike Node.unwired net last
  placed : ∀ w ∈ new, ∀ s, (net.letOf s w).isSome
  held : ∀ s ref slot, last.held s ref slot =
    net.held s ref slot ++ new.filter (net.Meets s ref slot)

theorem Extended.refl (net : Net) : Extended net [] net :=
  ⟨.refl _ _, nofun, fun _ _ _ => (append_nil _).symm⟩

theorem Extended.trans {new more : List Wire} (first : Extended net new third)
    (snd : Extended third more last) : Extended net (new ++ more) last where
  alike := first.alike.trans snd.alike
  placed := by
    intro w mem s
    rcases mem_append.mp mem with inN | inMore
    · exact first.placed w inN s
    · rw [← first.alike.letOf]
      exact snd.placed w inMore s
  held := by
    intro s ref j
    rw [snd.held, first.held, filter_append, append_assoc]
    simp only [first.alike.meets]

/-- Wires have been taken away at both their ends. -/
structure Stripped (net : Net) (gone : List Wire) (last : Net) : Prop where
  alike : Alike Node.unwired net last
  held : ∀ s ref slot, last.held s ref slot =
    (net.held s ref slot).diff (gone.filter (net.Meets s ref slot))

theorem Stripped.refl (net : Net) : Stripped net [] net :=
  ⟨.refl _ _, fun _ _ _ => rfl⟩

theorem Stripped.trans {gone more : List Wire} (first : Stripped net gone third)
    (snd : Stripped third more last) : Stripped net (gone ++ more) last where
  alike := first.alike.trans snd.alike
  held := by
    intro s ref j
    rw [snd.held, first.held, filter_append, diff_append]
    simp only [first.alike.meets]

end Net

namespace Build

open Net

variable {net : Net} {ref : Ref} {w : Wire}

/-- The let of an object at which a step finds a wire, when the step looks at one side first. -/
structure Found (net : Net) (ref : Ref) (w : Wire) (first s : Side) (i : Nat) : Prop where
  object : w.object s = ref
  preferred : s = first ∨ w.object first ≠ ref
  met : net.letOf s w = some i

theorem yields_attach : Yields (attach ref w) net fun _ last => ∃ s i,
    Found net ref w .inlet s i ∧ last = net.changeLets s ref i (· ++ [w]) := by
  unfold attach
  apply Guarded.at_node
  dsimp only
  split
  case isTrue here =>
    split
    case h_1 i got =>
      refine .of_run (run_change _ _ _) ⟨.inlet, i, ⟨here, .inl rfl, ?_⟩, rfl⟩
      rw [letOf, Wire.object, here]
      exact got
    case h_2 => exact .bind_run rfl (.throw trivial)
  case isFalse notTarget =>
    split
    case isTrue here =>
      split
      case h_1 i got =>
        refine .of_run (run_change _ _ _) ⟨.outlet, i, ⟨here, .inr notTarget, ?_⟩, rfl⟩
        rw [letOf, Wire.object, here]
        exact got
      case h_2 => exact .bind_run rfl (.throw trivial)
    case isFalse => exact .bind_run rfl (.throw trivial)

theorem yields_placeOfWire {s : Side} (here : w.object s = ref) :
    Yields (ofExcept (placeOfWire ((net.node ref).lets s) (w.index s) w)) net
      fun i last => last = net ∧ net.letOf s w = some i ∧ w ∈ net.held s ref i := by
  refine .ofExcept (fun _ _ => trivial) ?_
  intro i got
  unfold placeOfWire at got
  split at got
  · cases got
  case h_2 j met =>
    split at got
    case isTrue present =>
      cases got
      refine ⟨rfl, ?_, by simpa [held] using present⟩
      rw [letOf, here]
      exact met
    case isFalse => cases got

theorem yields_detach : Yields (detach ref w) net fun _ last => ∃ s i,
    Found net ref w .inlet s i ∧ w ∈ net.held s ref i ∧
      last = net.changeLets s ref i (·.erase w) := by
  unfold detach
  apply Guarded.at_node
  split
  case isTrue here =>
    apply Guarded.bind (@yields_placeOfWire _ _ _ .inlet here)
    rintro i _ ⟨rfl, met, present⟩
    exact .of_run (run_change _ _ _) ⟨.inlet, i, ⟨here, .inl rfl, met⟩, present, rfl⟩
  case isFalse notTarget =>
    split
    case isTrue here =>
      apply Guarded.bind (@yields_placeOfWire _ _ _ .outlet here)
      rintro i _ ⟨rfl, met, present⟩
      exact .of_run (run_change _ _ _) ⟨.outlet, i, ⟨here, .inr notTarget, met⟩, present, rfl⟩
    case isFalse => exact .bind_run rfl (.bind_run rfl (.throw trivial))

theorem yields_substitute {new : List Wire} : Yields (substitute ref w new) net fun _ last => ∃ s i,
      Found net ref w .outlet s i ∧ w ∈ net.held s ref i ∧
        last = net.changeLets s ref i (replaceAt w new s) := by
  unfold substitute
  apply Guarded.at_node
  split
  case isTrue here =>
    apply Guarded.bind (@yields_placeOfWire _ _ _ .outlet here)
    rintro i _ ⟨rfl, met, present⟩
    exact .of_run (run_change _ _ _) ⟨.outlet, i, ⟨here, .inl rfl, met⟩, present, rfl⟩
  case isFalse notSource =>
    split
    case isTrue here =>
      apply Guarded.bind (@yields_placeOfWire _ _ _ .inlet here)
      rintro i _ ⟨rfl, met, present⟩
      exact .of_run (run_change _ _ _) ⟨.inlet, i, ⟨here, .inr notSource, met⟩, present, rfl⟩
    case isFalse => exact .bind_run rfl (.bind_run rfl (.throw trivial))

theorem Found.side_eq {s first third : Side} {i : Nat} (apart : w.source ≠ w.target)
    (got : Found net (w.object s) w first third i) : third = s := by
  have differ : ∀ a b : Side, w.object a = w.object b → a = b := by
    intro a b eq
    cases a <;> cases b <;>
      first | rfl | exact absurd eq apart | exact absurd eq.symm apart
  exact differ third s got.object

section OneEnd

variable {s : Side} (apart : w.source ≠ w.target)
include apart

theorem yields_attach_end : Yields (attach (w.object s) w) net fun _ last =>
    Edited net s w (· ++ [w]) last := by
  apply yields_attach.mono
  rintro _ _ ⟨third, i, got, rfl⟩
  obtain rfl := got.side_eq apart
  exact edited_changeLets got.met

theorem yields_detach_end : Yields (detach (w.object s) w) net fun _ last =>
    (∃ i, w ∈ net.held s (w.object s) i) ∧ Edited net s w (·.erase w) last := by
  apply yields_detach.mono
  rintro _ _ ⟨third, i, got, present, rfl⟩
  obtain rfl := got.side_eq apart
  exact ⟨⟨i, present⟩, edited_changeLets got.met⟩

theorem yields_substitute_end {new : List Wire} :
    Yields (substitute (w.object s) w new) net fun _ last =>
      (∃ i, net.letOf s w = some i ∧ w ∈ net.held s (w.object s) i) ∧
        Edited net s w (replaceAt w new s) last := by
  apply yields_substitute.mono
  rintro _ _ ⟨third, i, got, present, rfl⟩
  obtain rfl := got.side_eq apart
  exact ⟨⟨i, got.met, present⟩, edited_changeLets got.met⟩

end OneEnd

theorem yields_connectAny_extended (apart : w.source ≠ w.target) :
    Yields (connectAny w) net fun _ last => Extended net [w] last := by
  apply Guarded.bind (@yields_attach_end _ _ .outlet apart)
  intro _ mid first
  apply (@yields_attach_end _ _ .inlet apart).mono
  intro _ last snd
  refine ⟨first.alike.trans snd.alike, ?_, ?_⟩
  · intro y mem s
    rw [mem_singleton.mp mem]
    cases s with
    | inlet =>
      rw [← first.alike.letOf]
      exact snd.placed
    | outlet => exact first.placed
  · intro s ref j
    rw [snd.held, first.held]
    simp only [first.alike.meets]
    cases s with
    | inlet => by_cases meets : net.Meets .inlet ref j w <;> simp [meets]
    | outlet => by_cases meets : net.Meets .outlet ref j w <;> simp [meets]

theorem yields_disconnect_stripped (apart : w.source ≠ w.target) :
    Yields (disconnect w) net fun _ last => Stripped net [w] last := by
  apply Guarded.bind (@yields_detach_end _ _ .outlet apart)
  rintro _ mid ⟨-, first⟩
  apply (@yields_detach_end _ _ .inlet apart).mono
  rintro _ last ⟨-, snd⟩
  refine ⟨first.alike.trans snd.alike, ?_⟩
  intro s ref j
  rw [snd.held, first.held]
  simp only [first.alike.meets]
  cases s with
  | inlet => by_cases meets : net.Meets .inlet ref j w <;> simp [meets]
  | outlet => by_cases meets : net.Meets .outlet ref j w <;> simp [meets]

theorem yields_connect_extended (apart : w.source ≠ w.target) :
    Yields (connect w) net fun _ last => Extended net [w] last := by
  apply Guarded.at_node
  apply Guarded.at_node
  split
  · exact yields_connectAny_extended apart
  · exact .bind_run rfl (.throw trivial)

theorem yields_attachAll {s : Side} {new : List Wire} (apart : ∀ w ∈ new, w.source ≠ w.target) :
    Yields (new.forM fun w => attach (w.object s) w) net fun _ last =>
      Appended net s new last := by
  apply Guarded.forM fun done last => Appended net s done last
  · exact ⟨.refl _ _, nofun, fun _ _ => (append_nil _).symm, fun _ _ _ _ => rfl⟩
  · intro done w rest cur split pre
    apply (yields_attach_end (apart w (by simp [split]))).mono
    intro _ last post
    refine ⟨pre.alike.trans post.alike, ?_, ?_, ?_⟩
    · intro y mem
      rcases mem_append.mp mem with old | new
      · exact pre.placed y old
      · rw [mem_singleton.mp new, ← pre.alike.letOf]
        exact post.placed
    · intro ref j
      rw [post.held, pre.here, filter_append]
      simp only [pre.alike.meets]
      by_cases meets : net.Meets s ref j w <;> simp [meets]
    · intro third ne ref j
      rw [post.held, if_neg fun both => ne both.1, pre.there third ne]

theorem yields_connectAll_extended {new : List Wire} (apart : ∀ w ∈ new, w.source ≠ w.target) :
    Yields (new.forM connect) net fun _ last => Extended net new last := by
  apply Guarded.forM fun done last => Extended net done last
  · exact .refl net
  · intro done w rest cur split pre
    exact (yields_connect_extended (apart w (by simp [split]))).mono
      fun _ _ post => pre.trans post

theorem yields_disconnectAll_stripped {gone : List Wire} (apart : ∀ w ∈ gone, w.source ≠ w.target) :
    Yields (gone.forM disconnect) net fun _ last => Stripped net gone last := by
  apply Guarded.forM fun done last => Stripped net done last
  · exact .refl net
  · intro done w rest cur split pre
    exact (yields_disconnect_stripped (apart w (by simp [split]))).mono
      fun _ _ post => pre.trans post

end Build

end PatchCompiler
