import Mathlib.Data.Fintype.Card
import PatchCompiler.Stage

/-!
# Errors of a patch

A canvas reports its errors and those of the boxes on it, and on the way out each canvas leaves out
that reading was given up if it has other errors. This hides no error for good, however deep it is.
-/

namespace PatchCompiler

open List

namespace Patch

abbrev tells (error : Notice) : Bool :=
  error.code != some NoticeCode.givenUp.number

theorem telling_eq (all : List Notice) :
    telling all = if all.filter tells = [] then all else all.filter tells := by
  grind [telling, filter_eq_nil_iff]

theorem filter_telling (all : List Notice) : (telling all).filter tells = all.filter tells := by
  rw [telling_eq]
  split
  · rfl
  · simp [filter_filter]

theorem telling_telling (all : List Notice) : telling (telling all) = telling all := by
  rw [telling_eq (telling all), filter_telling, telling_eq]
  split <;> rfl

theorem telling_eq_nil {all : List Notice} : telling all = [] ↔ all = [] := by
  grind [telling_eq]

theorem telling_append {a b c d : List Notice} (first : telling a = telling b)
    (rest : telling c = telling d) : telling (a ++ c) = telling (b ++ d) := by
  have front : a.filter tells = b.filter tells := by rw [← filter_telling, first, filter_telling]
  have back : c.filter tells = d.filter tells := by rw [← filter_telling, rest, filter_telling]
  simp only [telling_eq, filter_append, append_eq_nil_iff, front, back] at first rest ⊢
  split
  next none => simpa only [none.1, none.2, if_true] using congrArg₂ _ first rest
  next => rfl

variable (patch : Patch)

/-- A box and what is on it to some depth, each canvas before its boxes. -/
def orderWithin : Nat → Ref → List Ref
  | 0, _ => []
  | depth + 1, ref =>
    ref :: if (patch.box ref).isCanvas then
      (patch.box ref).canvas.boxes.flatMap (orderWithin depth) else []

abbrev order (root : Ref) : List Ref :=
  patch.orderWithin (patch.size + 1) root

def Has (root ref : Ref) : Prop :=
  ∃ depth, ref ∈ patch.orderWithin depth root

/-- Each canvas of the library was given words. It cannot be shown if it was not. -/
def Worded : Prop :=
  ∀ ref, (patch.box ref).role = .signalCanvas →
    ∀ value ∈ (patch.box ref).items.tail, value.text?.isSome

def located (ref : Ref) (notice : Notice) : Notice :=
  (patch.locate ref notice).toOption.getD notice

abbrev errorsOf (refs : List Ref) : List Notice :=
  refs.flatMap fun ref => (patch.box ref).errors.map (patch.located ref)

variable {patch : Patch} {root ref : Ref}

theorem mem_orderWithin_succ {depth : Nat} : ref ∈ patch.orderWithin (depth + 1) root ↔
    ref = root ∨ (patch.box root).isCanvas = true ∧
      ∃ inner ∈ (patch.box root).canvas.boxes, ref ∈ patch.orderWithin depth inner := by
  rw [orderWithin, mem_cons]
  split <;> simp [*]

theorem mem_orderWithin_of_le {d e : Nat} (le : d ≤ e) (mem : ref ∈ patch.orderWithin d root) :
    ref ∈ patch.orderWithin e root := by
  induction d generalizing e root with
  | zero => nomatch mem
  | succ d ih =>
    obtain _ | e := e
    · omega
    rw [mem_orderWithin_succ] at mem ⊢
    exact mem.imp_right <| .imp_right fun ⟨inner, on, mem⟩ => ⟨inner, on, ih (by omega) mem⟩

theorem exists_at_distance {n : Nat} (mem : ref ∈ patch.orderWithin (n + 1) root)
    (first : ref ∉ patch.orderWithin n root) : ∀ k < n, ∃ canvas < patch.size,
      ref ∈ patch.orderWithin (k + 2) canvas ∧ ref ∉ patch.orderWithin (k + 1) canvas := by
  induction n generalizing root with
  | zero => nofun
  | succ n ih =>
    intro k lt
    have ⟨ne, other⟩ := not_or.mp (mem_orderWithin_succ.not.mp first)
    obtain ⟨canvas, inner, on, there⟩ := (mem_orderWithin_succ.mp mem).resolve_left ne
    obtain less | rfl := Nat.lt_succ_iff_lt_or_eq.mp lt
    · exact ih there (fun mem => other ⟨canvas, inner, on, mem⟩) k less
    · refine ⟨root, ?_, mem, first⟩
      by_contra ge
      rw [box, Array.getD, dif_neg (by exact ge)] at canvas
      exact absurd canvas (by decide)

theorem mem_order_iff : ref ∈ patch.order root ↔ patch.Has root ref := by
  refine ⟨fun mem => ⟨_, mem⟩, fun has => ?_⟩
  classical
  cases least : Nat.find has with
  | zero => nomatch least ▸ Nat.find_spec has
  | succ n =>
    have mem := least ▸ Nat.find_spec has
    choose canvas lt near far using exists_at_distance mem (Nat.find_min has (by omega))
    have apart (k l : Fin n) (same : canvas k k.2 = canvas l l.2) : ¬k < l := fun less =>
      far l l.2 (mem_orderWithin_of_le (Nat.succ_le_succ less) (same ▸ near k k.2))
    have le := Fintype.card_le_of_injective
      (fun k : Fin n => (⟨canvas k k.2, lt k k.2⟩ : Fin patch.size)) fun k l same =>
        le_antisymm (not_lt.mp (apart l k (Fin.mk.inj same).symm))
          (not_lt.mp (apart k l (Fin.mk.inj same)))
    exact mem_orderWithin_of_le (by simpa using le) mem

theorem mapM_ok {α β : Type} {f : α → Except Fault β} {g : α → β} (eq : ∀ x, f x = .ok (g x))
    (xs : List α) : xs.mapM f = .ok (xs.map g) := by
  rw [funext eq]
  exact mapM_pure

theorem mapM_wordOf {given : List Value} (words : ∀ value ∈ given, value.text?.isSome) :
    ∃ texts, given.mapM Box.wordOf = .ok texts := by
  induction given with
  | nil => exact ⟨_, rfl⟩
  | cons value rest ih =>
    obtain ⟨texts, eq⟩ := ih (forall_mem_cons.mp words).2
    cases value with
    | text => exact ⟨_, by rw [mapM_cons, eq]; rfl⟩
    | _ => nomatch words _ (.head _)

variable (worded : patch.Worded)
include worded

theorem exists_display (ref : Ref) : ∃ shown, (patch.box ref).display = .ok shown := by
  unfold Box.display
  split
  · split <;> exact ⟨_, rfl⟩
  next canvas =>
    obtain ⟨texts, eq⟩ := mapM_wordOf (worded ref canvas)
    exact ⟨_, by rw [eq]; rfl⟩
  · split <;> exact ⟨_, rfl⟩

theorem locate_eq (ref : Ref) (notice : Notice) :
    patch.locate ref notice = .ok (patch.located ref notice) := by
  choose shown shows using exists_display worded
  have ⟨names, known⟩ : ∃ names, patch.hierarchy ref = .ok names := by
    unfold hierarchy
    extract_lets canvases
    split
    · exact ⟨_, rfl⟩
    · exact ⟨_, mapM_ok shows _⟩
  obtain ⟨told, is⟩ : ∃ told, patch.locate ref notice = .ok told := by
    rw [locate, known, shows]
    exact ⟨_, rfl⟩
  rw [located, is]
  rfl

theorem noticesWithin_eq (depth : Nat) (ref : Ref) : ∃ warnings errors,
    patch.noticesWithin depth ref = .ok (warnings, errors) ∧
      telling errors = telling (patch.errorsOf (patch.orderWithin depth ref)) ∧
      ((patch.box ref).isCanvas = true → errors = telling errors) := by
  induction depth generalizing ref with
  | zero => exact ⟨_, _, rfl, rfl, fun _ => rfl⟩
  | succ depth ih =>
    choose warnings errors eq same _ using ih
    have inner (boxes : List Ref) : telling (boxes.flatMap errors) =
        telling (patch.errorsOf (boxes.flatMap (patch.orderWithin depth))) := by
      induction boxes with
      | nil => rfl
      | cons box rest ih =>
        rw [flatMap_cons, flatMap_cons, errorsOf, flatMap_append]
        exact telling_append (same box) ih
    rw [noticesWithin, mapM_ok (locate_eq worded ref), mapM_ok (locate_eq worded ref), orderWithin,
      errorsOf, flatMap_cons]
    split
    · rw [mapM_ok eq]
      refine ⟨_, _, rfl, ?_, fun _ => (telling_telling _).symm⟩
      rw [telling_telling, flatMap_map]
      exact telling_append rfl (inner _)
    · exact ⟨_, _, rfl, by rw [flatMap_nil, append_nil], by simp [*]⟩

end Patch

open Patch Drawing

/-- A canvas reports all errors on it that say more than that reading was given up, in the order of
the boxes, and all errors if there are none of them. The stage that reads a patch then has an error
exactly if a box has one, and writes nothing. -/
theorem Patch.errors_reported {patch : Patch} (worded : patch.Worded) :
    (∀ root, (patch.box root).isCanvas = true → ∃ warnings, patch.notices root = .ok (warnings,
        let all := patch.errorsOf (patch.order root)
        if all.any tells then all.filter tells else all)) ∧
    (∀ root ref, ref ∈ patch.order root ↔ patch.Has root ref) ∧
    ∀ files path directory search exporting root, (do
        for place in search do
          let _ ← addSearchPath files place
        readPatch files path : Drawing Ref).run .empty = .ok root patch →
      ((∃ ref, patch.Has root ref ∧ (patch.box ref).errors ≠ []) →
        ∃ stage, readPatchStage files path directory search exporting = .ok (stage, none) ∧
          stage.hasError = some true ∧ stage.output = some none) ∧
      ∀ stage graph, readPatchStage files path directory search exporting = .ok (stage, graph) →
        stage.hasError = some true → ∃ ref, patch.Has root ref ∧ (patch.box ref).errors ≠ [] := by
  refine ⟨fun root canvas => ?_, fun _ _ => mem_order_iff,
    fun files path directory search exporting root read => ?_⟩
  · obtain ⟨warnings, errors, eq, same, self⟩ := noticesWithin_eq worded (patch.size + 1) root
    exact ⟨warnings, by rw [notices, eq, self canvas, same]; rfl⟩
  · obtain ⟨warnings, errors, eq, same, -⟩ := noticesWithin_eq worded (patch.size + 1) root
    have some : errors ≠ [] ↔ ∃ ref, patch.Has root ref ∧ (patch.box ref).errors ≠ [] := by
      rw [Ne, ← telling_eq_nil, same, telling_eq_nil, flatMap_eq_nil_iff]
      simp [mem_order_iff]
    rw [← some, readPatchStage, read]
    simp only [notices, eq, bind, Except.bind]
    constructor
    · intro has
      obtain ⟨error, rest, rfl⟩ := exists_cons_of_ne_nil has
      exact ⟨_, rfl, rfl, rfl⟩
    · rintro stage graph done error rfl
      revert done
      simp only [isEmpty_nil, Bool.not_true, Bool.false_eq_true, if_false]
      repeat' split
      all_goals rintro ⟨⟩
      all_goals nomatch error

/-- A canvas on which reading was given up, beside a box with an error. -/
def Patch.halfRead : Patch :=
  { boxes := #[
    { type := "graph", role := .canvas, arguments := .list [], canvas := { boxes := [1, 2] } },
    { type := "graph", role := .canvas, arguments := .list []
      errors := [{ message := "", code := some NoticeCode.givenUp.number }] },
    { type := "pow", role := .operator, arguments := .list [], errors := [{ message := "lost" }] }] }

theorem Patch.errors_reported_halfRead : halfRead.Worded ∧ ∃ warnings,
    halfRead.notices 0 = .ok (warnings, [halfRead.located 2 { message := "lost" }]) := by
  have worded : halfRead.Worded := fun
    | 0 | 1 | 2 | _ + 3 => nofun
  exact ⟨worded, (errors_reported worded).1 0 rfl⟩

end PatchCompiler
