import PatchCompiler.Patch.Reader

/-!
# Steps that leave canvases in their files

Reading makes boxes and changes them, but a canvas stays in the file it was made for, also when
reading fails. Sequences, choices and loops of such steps are such steps again.
-/

namespace PatchCompiler

/-- Boxes and receivers may have been added, no canvas has got into another file, and the places to
look for patches in are still such as they were. -/
structure Patch.Extends (look : List String → Prop) (old new : Patch) : Prop where
  size : old.size ≤ new.size
  path : ∀ ref < old.size, (new.box ref).canvas.path = (old.box ref).canvas.path
  look : look old.searchPaths → look new.searchPaths
  receivers : old.receivers ≤ new.receivers

variable {α β : Type} {look : List String → Prop}

namespace Patch.Extends

theorem of_boxes {old new : Patch} (eq : new.boxes = old.boxes)
    (more : old.receivers ≤ new.receivers)
    (kept : look old.searchPaths → look new.searchPaths) : old.Extends look new where
  size := Nat.le_of_eq (congrArg Array.size eq.symm)
  path ref _ := by simp only [Patch.box, eq]
  look := kept
  receivers := more

theorem refl (patch : Patch) : patch.Extends look patch :=
  of_boxes rfl (Nat.le_refl _) id

theorem trans {first snd third : Patch} (pre : first.Extends look snd)
    (after : snd.Extends look third) : first.Extends look third where
  size := Nat.le_trans pre.size after.size
  path ref there :=
    (after.path ref (Nat.lt_of_lt_of_le there pre.size)).trans (pre.path ref there)
  look given := after.look (pre.look given)
  receivers := Nat.le_trans pre.receivers after.receivers

theorem push (pt : Patch) (box : Box) : pt.Extends look { pt with boxes := pt.boxes.push box } where
  size := by simp [Patch.size]
  path ref there := by
    have pre : ref ≠ pt.boxes.size := Nat.ne_of_lt there
    simp [Patch.box, Array.getD_eq_getD_getElem?, Array.getElem?_push, pre]
  look := id
  receivers := Nat.le_refl _

theorem change (pt : Patch) (ref : Ref) {f : Box → Box}
    (eq : ∀ box, (f box).canvas.path = box.canvas.path) : pt.Extends look (pt.change ref f) where
  size := by simp [Patch.size, Patch.change]
  path other there := by
    simp only [Patch.box, Patch.change, Array.getD_eq_getD_getElem?, Array.getElem?_modify]
    split
    · cases pt.boxes[other]? with
      | none => rfl
      | some box => exact eq box
    · rfl
  look := id
  receivers := Nat.le_refl _

end Patch.Extends

namespace Drawing

def left : EStateM.Result Fault Patch α → Patch
  | .ok _ patch => patch
  | .error _ patch => patch

/-- Whether the step fails or not, it leaves every canvas in its file. -/
def Steady (look : List String → Prop) (step : Drawing α) : Prop :=
  ∀ patch : Patch, patch.Extends look (left (step.run patch))

namespace Steady

@[grind ←]
theorem pure (a : α) : Steady look (Pure.pure a) :=
  fun pt => .refl pt

@[grind ←]
theorem throw (err : Fault) : Steady look (MonadExcept.throw err : Drawing α) :=
  fun pt => .refl pt

@[grind ←]
theorem get : Steady look (MonadState.get : Drawing Patch) :=
  fun pt => .refl pt

@[grind ←]
theorem bind {step : Drawing α} {next : α → Drawing β} (first : Steady look step)
    (rest : ∀ a, Steady look (next a)) : Steady look (step >>= next) := by
  intro pt
  have kept := first pt
  change pt.Extends look (left (EStateM.bind step next pt))
  unfold EStateM.bind
  simp only [EStateM.run] at kept
  cases ran : step pt with
  | ok a post =>
    rw [ran] at kept
    exact kept.trans (rest a post)
  | error err post =>
    rw [ran] at kept
    exact kept

@[grind ←]
theorem andThen {step : Drawing PUnit} {next : PUnit → Drawing β} (first : Steady look step)
    (rest : Steady look (next ⟨⟩)) : Steady look (step >>= next) :=
  first.bind fun _ => rest

@[grind ←]
theorem tryCatch {step : Drawing α} {handle : Fault → Drawing α} (first : Steady look step)
    (rest : ∀ err, Steady look (handle err)) : Steady look (MonadExcept.tryCatch step handle) := by
  intro pt
  have kept := first pt
  change pt.Extends look (left (EStateM.tryCatch step handle pt))
  unfold EStateM.tryCatch
  simp only [EStateM.run] at kept
  cases ran : step pt with
  | ok a post =>
    rw [ran] at kept
    exact kept
  | error err post =>
    rw [ran] at kept
    exact kept.trans (rest err post)

theorem update {f : Patch → Patch} {next : Patch → Drawing α} (first : Steady look (modify f))
    (rest : ∀ pt, Steady look (next pt)) :
    Steady look (do let pt ← MonadState.get; set (f pt); next pt) :=
  fun pt => (first pt).trans (rest pt (f pt))

@[grind ←]
theorem modify {f : Patch → Patch} (eq : ∀ pt, (f pt).boxes = pt.boxes)
    (more : ∀ pt, pt.receivers ≤ (f pt).receivers)
    (kept : ∀ pt, (f pt).searchPaths = pt.searchPaths) : Steady look (modify f) :=
  fun pt => .of_boxes (eq pt) (more pt) fun arg => (kept pt).symm ▸ arg

@[grind ←]
theorem insert (box : Box) : Steady look (insert box) :=
  fun pt => .push pt box

@[grind ←]
theorem change {ref : Ref} {f : Box → Box} (eq : ∀ box, (f box).canvas.path = box.canvas.path) :
    Steady look (change ref f) :=
  fun pt => .change pt ref eq

@[grind ←]
theorem ofExcept (arg : Except Fault α) : Steady look (ofExcept arg) := by
  cases arg with
  | ok a => exact pure a
  | error err => exact throw err

@[grind ←]
theorem mapM {step : α → Drawing β} (each : ∀ a, Steady look (step a)) (xs : List α) :
    Steady look (xs.mapM step) := by
  induction xs with
  | nil => exact pure []
  | cons a rest ih =>
    rw [List.mapM_cons]
    exact (each a).bind fun b => ih.bind fun bs => pure _

@[grind ←]
theorem foldlM {step : β → α → Drawing β} (each : ∀ b a, Steady look (step b a)) (xs : List α) (b : β) :
    Steady look (xs.foldlM step b) := by
  induction xs generalizing b with
  | nil => exact pure b
  | cons a rest ih =>
    rw [List.foldlM_cons]
    exact (each b a).bind fun b => ih b

@[grind ←]
theorem forM {step : α → Drawing PUnit} (each : ∀ a, Steady look (step a)) (xs : List α) :
    Steady look (xs.forM step) := by
  induction xs with
  | nil => exact pure _
  | cons a rest ih => exact (each a).bind fun _ => ih

@[grind ←]
theorem forIn {step : α → β → Drawing (ForInStep β)} (each : ∀ a b, Steady look (step a b))
    (xs : List α) (b : β) : Steady look (ForIn.forIn xs b step) := by
  induction xs generalizing b with
  | nil => exact pure b
  | cons a rest ih =>
    rw [List.forIn_cons]
    refine (each a b).bind fun next => ?_
    cases next with
    | done b => exact pure b
    | yield b => exact ih b

end Steady

attribute [grind] fetch changeCanvas makeGate makeReadymade numberGates resolveWord attach gateAt
  outletType inletType integerAt link findPatch makeComment makeMessage makeCanvas
  openCanvas finishArray readRestore readValues warn

section Steps

variable (canvas ref : Ref) (type : String) (words : List String) (x y : Int) (top : Open)

@[grind ←]
theorem steady_box : Steady look (box ref) := by
  grind [box]

@[grind ←]
theorem steady_warnAs (code : NoticeCode) (message : String) : Steady look (warnAs ref code message) := by
  grind [warnAs]

@[grind ←]
theorem steady_failAs (code : NoticeCode) (message : String) : Steady look (failAs ref code message) := by
  grind [failAs]

@[grind ←]
theorem steady_count : Steady look (count type) := by
  exact .modify (fun _ => rfl) (fun _ => Nat.le_refl _) fun _ => rfl

@[grind ←]
theorem steady_insertMade (made : Made) : Steady look (insertMade type made x y) := by
  grind [insertMade]

@[grind ←]
theorem steady_makeDirect (arg : List Value) : Steady look (makeDirect type arg x y) := by
  grind [makeDirect]

@[grind ←]
theorem steady_makeReceive : Steady look (makeReceive type words x y) := by
  exact .update (.modify (fun _ => rfl) (fun _ => Nat.le_succ _) fun _ => rfl) fun _ =>
    steady_insertMade _ _ _ _

@[grind ←]
theorem steady_makeSpecial : Steady look (makeSpecial type words x y) := by
  unfold makeSpecial
  grind

@[grind ←]
theorem steady_declare (k : Int) (declaration : Declaration) :
    Steady look (declare canvas k declaration) := by
  grind [declare]

@[grind ←]
theorem steady_replaceReference (digits v : String) (text : Option String) :
    Steady look (replaceReference digits v text) := by
  cases text <;> grind [replaceReference]

@[grind ←]
theorem steady_resolveReference (isRoot lenient : Bool) (text : Option String) (digits : String) :
    Steady look (resolveReference canvas isRoot lenient text digits) := by
  grind [resolveReference]

@[grind ←]
theorem steady_resolveText (isRoot lenient : Bool) (s : String) :
    Steady look (resolveText canvas isRoot lenient s) := by
  grind [resolveText]

@[grind ←]
theorem steady_add : Steady look (add canvas ref) := by
  refine .andThen (by grind) (.andThen (by grind) (.bind (by grind) fun box => ?_))
  unfold arrange
  split <;> grind [sortIn]

@[grind ←]
theorem steady_makeLink (src tgt : Ref) (out i : Int) (kind : WireType) :
    Steady look (makeLink src out tgt i kind) := by
  exact .update (.modify (fun _ => rfl) (fun _ => Nat.le_refl _) fun _ => rfl) fun _ => .pure _

@[grind ←]
theorem steady_join (src out tgt i : Int) : Steady look (join canvas src out tgt i) := by
  unfold join
  repeat' first | with_reducible refine .bind ?_ fun _ => ?_ | split | grind

@[grind ←]
theorem steady_wordAt (i : Nat) : Steady look (wordAt words i) := by
  grind [wordAt]

@[grind ←]
theorem steady_position : Steady look (position words) := by
  grind [position]

@[grind ←]
theorem steady_declareFrom : Steady look (declareFrom canvas words) := by
  unfold declareFrom
  repeat' first | with_reducible refine .bind ?_ fun _ => ?_ | split | grind

@[grind ←]
theorem steady_readDirect : Steady look (readDirect top words) := by
  unfold readDirect
  refine .bind (steady_wordAt _ _) fun type => .bind (.mapM (fun _ =>
    .bind (steady_resolveText _ _ _ _) fun text => by cases text <;> grind) _) fun given => ?_
  grind [makeSwitchcase]

@[grind ←]
theorem steady_readArray : Steady look (readArray top words) := by
  unfold readArray
  repeat' first | with_reducible refine .bind ?_ fun _ => ?_ | split | grind

/-- The step changes the places to look in only where it is on the first canvas. -/
theorem steady_readDeclare (files : Files)
    (told : top.isRoot = true → words[2]? = some "-path" → ∀ places home i, look places →
      places[0]? = some home → words[3]? = some i →
      look (places ++ [Path.absolute "/" (Path.join home i)])) :
    Steady look (readDeclare files top words) := by
  have warned (message : String) : Steady look (warn top.canvas message) := steady_warnAs _ _ _
  unfold readDeclare
  split
  · exact warned _
  split
  · intro pt
    cases third : words[3]? with
    | none =>
      rw [show wordAt words 3 = throw .outOfRange by simp only [wordAt, third]]
      exact .refl pt
    | some i =>
      rw [show wordAt words 3 = pure i by simp only [wordAt, third]]
      change pt.Extends look (left (EStateM.bind (wordAt pt.searchPaths 0) _ pt))
      cases first : pt.searchPaths[0]? with
      | none =>
        rw [show wordAt pt.searchPaths 0 = throw .outOfRange by simp only [wordAt, first]]
        exact .refl pt
      | some home =>
        rw [show wordAt pt.searchPaths 0 = pure home by simp only [wordAt, first]]
        change pt.Extends look (left (EStateM.bind (addSearchPath files _) _ pt))
        unfold addSearchPath
        split
        · exact .of_boxes rfl (Nat.le_refl _) fun arg =>
            told (by simp_all) (by simp_all) _ _ _ arg first third
        · exact warned _ pt
  · grind

end Steps

end Drawing

end PatchCompiler
