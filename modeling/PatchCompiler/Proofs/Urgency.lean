import PatchCompiler.Patch.Graph
import PatchCompiler.Proofs.Chains
import PatchCompiler.Proofs.Merging

/-!
# The priorities of receivers

Receivers are numbered in the order in which they are made. A receiver that was given no priority
gets a thousand for each canvas around it, less its number. So a deeper receiver comes first as long
as fewer than a thousand receivers for each canvas between them were made before it.
-/

namespace PatchCompiler

open List

namespace Patch

def receiving? (patch : Patch) (ref : Ref) : Option Receiving :=
  match (patch.box ref).role with
  | .receive receiving => if receiving.priority = none then some receiving else none
  | _ => none

def depthOf (patch : Patch) (ref : Ref) : Nat :=
  ((patch.box ref).parent.map patch.depth).getD 0

def priorityOf (patch : Patch) (ref : Ref) : Option Value :=
  match patch.objectOf (patch.box ref) with
  | .ok (.record fields) =>
    match Record.get? fields "args" with
    | some (.record arguments) => Record.get? arguments "priority"
    | _ => none
  | _ => none

variable {patch : Patch} {a b : Ref} {first second : Receiving}

theorem receiving?_eq_some (isA : patch.receiving? a = some first) :
    (patch.box a).role = .receive first ∧ first.priority = none := by
  unfold receiving? at isA
  split at isA
  · next role =>
    split at isA
    · next bare => exact Option.some.inj isA ▸ ⟨role, bare⟩
    · cases isA
  · cases isA

theorem priorityOf_eq (isA : patch.receiving? a = some first) :
    patch.priorityOf a = some (.int (patch.depthOf a * 1000 - first.number)) := by
  obtain ⟨role, bare⟩ := receiving?_eq_some isA
  unfold priorityOf objectOf depthOf
  simp only [role, bare]
  rfl

/-- Making a receiver gives it the next number. -/
theorem run_makeReceive (type : String) (words : List String) (x y : Int) :
    ∃ made last receiving, (Drawing.makeReceive type words x y).run patch = .ok made last ∧
      (last.box made).role = .receive receiving ∧ receiving.number = patch.receivers + 1 ∧
      last.receivers = patch.receivers + 1 := by
  have numbered : ∃ receiving, (Made.receive (patch.receivers + 1) type words).role =
      .receive receiving ∧ receiving.number = patch.receivers + 1 := by
    unfold Made.receive
    dsimp only
    repeat' split
    all_goals exact ⟨_, rfl, rfl⟩
  obtain ⟨receiving, role, number⟩ := numbered
  refine ⟨_, _, receiving, rfl, ?_, number, rfl⟩
  rw [← role, Patch.box, Array.getD_eq_getD_getElem?]
  simp [Patch.size]

open Drawing

/-- No step of a reading takes numbers back: receivers made later have larger ones. -/
theorem receivers_le_readRecords {files : Files} {path outer : String} {isRoot : Bool} {top : Open}
    {opened : List Open} {records : List (List Char)} (depth : Nat) (lines : DeclarationLines)
    (own : isRoot = true → outer = path) (all : ∀ record ∈ records, record ∈ files.recordsOf outer)
    (held : Reads (Looks files path) outer isRoot top patch)
    (near : ∀ out ∈ opened, Reads (Looks files path) outer isRoot out patch) :
    patch.receivers ≤ (left ((readRecords files (readNested files depth) lines top opened
      records).run patch)).receivers :=
  (readRecords_same (fun _ given => given.2) records
    (fun _ _ sub _ => readNested_agree depth sub trivial)
    (fun record among => steady_declare_places own (all record among)) opened held near).kept.receivers

end Patch

namespace Build

open Net

variable {net last : Net} {root : Ref}

/-- The wires of the receiver that takes over are in the order of the priorities. -/
theorem held_groupReceivers (posted : net.Posted root)
    (done : (groupReceivers root).run net = .ok () last) {name : Name}
    (some : net.receivers root name ≠ []) :
    ∃ single ordered, last.receivers root name = [single] ∧
      net.ByPriority (net.receivers root name) ordered ∧
      last.held .outlet single 0 = net.moved single ordered := by
  obtain ⟨groups, merged, names⟩ := Guarded.of_ok (yields_groupReceivers posted) done
  have covers := Covers.of_byType posted.names names
  obtain ⟨group, among, rfl, equal⟩ := covers.complete name some
  refine ⟨group.single, group.ordered, ?_, equal ▸ merged.sorted group among,
    merged.held_single_outlet among⟩
  rw [merged.receivers_eq posted.known _ fun receiver there => covers.mem_gone.mpr ⟨_, there⟩,
    covers.filter_name among, map_singleton]

end Build

theorem Value.precedes_int {m n : Int} (less : m < n) : (Value.int m).Precedes (.int n) :=
  precedes_iff.mpr (.inr ⟨level m, level n, rfl, rfl,
    (WithBot.coe_strictMono.comp WithTop.coe_strictMono) (Int.cast_lt.mpr less)⟩)

/-- Of two receivers of one depth the one made first is the more urgent one. A deeper receiver is if
its number is not too large. If the numbers are less than a thousand apart, the wires of deeper
receivers come first when the receivers of a name are merged. -/
theorem receivers_deepest_first (patch : Patch) :
    (∀ type words x y, ∃ made last receiving,
      (Drawing.makeReceive type words x y).run patch = .ok made last ∧
      (last.box made).role = .receive receiving ∧ receiving.number = patch.receivers + 1 ∧
      last.receivers = patch.receivers + 1) ∧
    (∀ a b first second, patch.receiving? a = some first → patch.receiving? b = some second →
      ∃ x y : Int, patch.priorityOf a = some (.int x) ∧ patch.priorityOf b = some (.int y) ∧
        (patch.depthOf a = patch.depthOf b → (y < x ↔ first.number < second.number)) ∧
        (patch.depthOf b < patch.depthOf a → (y < x ↔
          first.number < second.number + 1000 * (patch.depthOf a - patch.depthOf b)))) ∧
    ∀ net last top name, ∀ boxOf : Ref → Ref, ∀ receivingOf : Ref → Receiving,
      net.Posted top → (Build.groupReceivers top).run net = .ok () last →
      net.receivers top name ≠ [] →
      (∀ r ∈ net.receivers top name, patch.receiving? (boxOf r) = some (receivingOf r) ∧
        patch.priorityOf (boxOf r) = some (net.priority r)) →
      (∀ r ∈ net.receivers top name, ∀ s ∈ net.receivers top name,
        (receivingOf r).number < (receivingOf s).number + 1000) →
      ∃ single ordered, last.receivers top name = [single] ∧
        ordered.Perm (net.receivers top name) ∧
        last.held .outlet single 0 = net.moved single ordered ∧
        ordered.Pairwise fun r s => patch.depthOf (boxOf s) ≤ patch.depthOf (boxOf r) := by
  refine ⟨Patch.run_makeReceive, ?_, ?_⟩
  · intro a b first second isA isB
    exact ⟨_, _, Patch.priorityOf_eq isA, Patch.priorityOf_eq isB, fun same => by omega,
      fun deep => by omega⟩
  · intro net last top name boxOf receivingOf posted grouped some given near
    obtain ⟨single, ordered, one, sorted, held⟩ := Build.held_groupReceivers posted grouped some
    refine ⟨single, ordered, one, sorted.perm, held, sorted.falling.imp_of_mem ?_⟩
    intro r s inR inS notLower
    rw [sorted.perm.mem_iff] at inR inS
    obtain ⟨isR, priorityR⟩ := given r inR
    obtain ⟨isS, priorityS⟩ := given s inS
    rw [← Option.some.inj ((Patch.priorityOf_eq isR).symm.trans priorityR),
      ← Option.some.inj ((Patch.priorityOf_eq isS).symm.trans priorityS)] at notLower
    have close := near s inS r inR
    exact Nat.le_of_not_lt fun deep => notLower (Value.precedes_int (by omega))

namespace Rooms

/-- A receiver and, in a canvas beside it, another one. -/
def rooms (outer inner : Nat) : Patch where
  boxes := #[{ type := "graph", role := .canvas, arguments := .list [] },
    { type := "r", role := .receive { number := outer }, arguments := .list [], parent := some 0 },
    { type := "graph", role := .canvas, arguments := .list [], parent := some 0 },
    { type := "r", role := .receive { number := inner }, arguments := .list [], parent := some 2 }]
  receivers := inner

theorem priorityOf_rooms (outer inner : Nat) :
    (rooms outer inner).priorityOf 1 = some (.int (1000 - outer)) ∧
      (rooms outer inner).priorityOf 3 = some (.int (2000 - inner)) := by
  have isOuter : (rooms outer inner).receiving? 1 = some { number := outer } := rfl
  have isInner : (rooms outer inner).receiving? 3 = some { number := inner } := rfl
  rw [Patch.priorityOf_eq isOuter, Patch.priorityOf_eq isInner,
    show (rooms outer inner).depthOf 1 = 1 from rfl, show (rooms outer inner).depthOf 3 = 2 from rfl]
  exact ⟨rfl, rfl⟩

/-- The boxes of the receivers that are merged, the urgent one being the inner one. -/
def boxOf (r : Ref) : Ref :=
  if r = 4 then 3 else 1

theorem receivers_deepest_first_tune : ∃ single, ∃ ordered : List Ref,
    ((Build.groupReceivers 0).netAfter Tuning.start).receivers 0 (.word "tune") = [single] ∧
      ordered.Perm [1, 4, 5] ∧ ordered.Pairwise fun r s =>
        (rooms 1000 1995).depthOf (boxOf s) ≤ (rooms 1000 1995).depthOf (boxOf r) := by
  obtain ⟨_, run⟩ := Build.run_of_finishes
    (show (Build.groupReceivers 0).finishes Tuning.start = true by decide +kernel)
  have all : Tuning.start.receivers 0 (.word "tune") = [1, 4, 5] := by decide
  have priorities := priorityOf_rooms 1000 1995
  obtain ⟨single, ordered, one, perm, -, deep⟩ := (receivers_deepest_first (rooms 1000 1995)).2.2
    _ _ 0 (.word "tune") boxOf (fun r => { number := if r = 4 then 1995 else 1000 })
    Tuning.posted run (by decide) (by
      simp only [all, forall_mem_cons]
      exact ⟨⟨rfl, priorities.1⟩, ⟨rfl, priorities.2⟩, ⟨rfl, priorities.1⟩, by simp⟩) (by decide)
  exact ⟨single, ordered, one, all ▸ perm, deep⟩

/-- The inner receiver was made a thousand receivers later. -/
def crowded : Patch :=
  rooms 1 1002

theorem deeper_less_urgent : crowded.depthOf 1 < crowded.depthOf 3 ∧
    crowded.priorityOf 1 = some (.int 999) ∧ crowded.priorityOf 3 = some (.int 998) :=
  ⟨by decide, priorityOf_rooms 1 1002⟩

end Rooms

end PatchCompiler
