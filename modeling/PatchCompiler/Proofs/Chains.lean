import PatchCompiler.Proofs.Steadiness

/-!
# Chains of patches

A box may stand for a patch in a file of its own, and a box in that file for another one. Reading
goes into a file unless it is the file of the canvas that the box is on. The canvases around that
canvas would be looked at too, but a canvas knows the one around it only when it is complete. So a
patch may be read within itself, by way of another one, and reading comes to an end only if the
chains of patches do.
-/

namespace PatchCompiler

open List

variable {last p : Patch} {word path outer : String} {declarations : DeclarationLines}
  {record : List Char} {n : Nat} {load : Loader}

namespace Files

def recordsOf (files : Files) (path : String) : List (List Char) :=
  ((patchLines? files path).map Record.ofLines).getD []

/-- Where patches are looked for when a file is read first: in its directory and in the places that
it declares. -/
def placesOf (files : Files) (path : String) : List String :=
  Path.directory path :: (files.recordsOf path).filterMap fun record =>
    match Record.wordsOf record with
    | _ :: "declare" :: "-path" :: place :: _ =>
      some (Path.absolute "/" (Path.join (Path.directory path) place))
    | _ => none

/-- The files that a box of a type may be read from: one in a place to look in, but not the file
that the box is in, or one of the library. -/
inductive Stands (files : Files) (places : List String) (outer type : String) : String → Prop
  | found {place : String} (there : place ∈ Path.absolute "/" (Path.directory outer) :: places)
      (isFile : (patchLines? files (Path.join place (type ++ ".pd"))).isSome)
      (other : Path.join place (type ++ ".pd") ≠ outer) :
      Stands files places outer type (Path.join place (type ++ ".pd"))
  | known (isKnown : (Library.patch? type).isSome) :
      Stands files places outer type (Library.directory ++ "/" ++ type ++ ".pd")
  | further (isKnown : (Library.furtherPatch? type).isSome) :
      Stands files places outer type (Library.furtherDirectory ++ "/" ++ type ++ ".pd")

/-- The word may become the type of a box when arguments are put in for its dollars. -/
def Becomes (word type : String) : Prop :=
  ∃ canvas isRoot patch last, (Drawing.resolveWord canvas isRoot word).run patch = .ok type last

/-- A record may make reading go from one file into another. -/
inductive Refers (files : Files) (places : List String) (outer : String) (words : List String) :
    String → Prop
  | box {word type inner : String} (kind : words[1]? = some "obj") (fifth : words[4]? = some word)
      (becomes : Becomes word type) (stands : Stands files places outer type inner) :
      Refers files places outer words inner
  | atom {kind : String} (isAtom : kind ∈ ["floatatom", "symbolatom"])
      (second : words[1]? = some kind) :
      Refers files places outer words (Library.directory ++ "/" ++ kind ++ ".pd")

/-- No chain of patches from a file has more than the given number of them. -/
def ChainsWithin (files : Files) (places : List String) : Nat → String → Prop
  | 0, _ => False
  | n + 1, outer => ∀ record ∈ files.recordsOf outer, ∀ inner,
      files.Refers places outer (Record.wordsOf record) inner → ChainsWithin files places n inner

end Files

namespace Drawing

variable {α β : Type} {look : List String → Prop} {p : Patch}

/-- Two steps do the same to a patch, and leave its canvases in their files. -/
structure Same (look : List String → Prop) (first second : Drawing α) (patch : Patch)
    (post : α → Patch → Prop) : Prop where
  eq : first.run patch = second.run patch
  kept : patch.Extends look (left (first.run patch))
  post : ∀ a last, first.run patch = .ok a last → post a last

namespace Same

variable {first second : Drawing α} {post : α → Patch → Prop}

theorem of_steady {step : Drawing α} (steady : Steady look step) :
    Same look step step p fun a last => step.run p = .ok a last :=
  ⟨rfl, steady p, fun _ _ ran => ran⟩

theorem free {step : Drawing α} (steady : Steady look step) :
    Same look step step p fun _ _ => True :=
  ⟨rfl, steady p, fun _ _ _ => trivial⟩

theorem done {a : α} (holds : post a p) : Same look (pure a) (pure a) p post where
  eq := rfl
  kept := .refl p
  post b last ran := by
    obtain ⟨rfl, rfl⟩ := EStateM.Result.ok.inj ran
    exact holds

theorem mono {weaker : α → Patch → Prop} (same : Same look first second p post)
    (weaken : ∀ a last, p.Extends look last → post a last → weaker a last) :
    Same look first second p weaker where
  eq := same.eq
  kept := same.kept
  post a last ran := by
    have kept := same.kept
    rw [ran] at kept
    exact weaken a last kept (same.post a last ran)

theorem bind {next other : α → Drawing β} {goal : β → Patch → Prop}
    (same : Same look first second p post) (rest : ∀ a later, p.Extends look later → post a later →
      Same look (next a) (other a) later goal) :
    Same look (first >>= next) (second >>= other) p goal := by
  obtain ⟨eq, kept, post⟩ := same
  cases ran : first.run p with
  | ok a later =>
    rw [ran] at eq kept
    have after := rest a later kept (post a later ran)
    constructor <;> simp only [EStateM.run_bind, ran, ← eq]
    · exact after.eq
    · exact kept.trans after.kept
    · exact after.post
  | error err later =>
    rw [ran] at eq kept
    constructor <;> simp only [EStateM.run_bind, ran, ← eq]
    · exact kept
    · exact nofun

theorem skip {step : Drawing α} {next other : α → Drawing β} {goal : β → Patch → Prop}
    (steady : Steady look step) (rest : ∀ a later, p.Extends look later →
      Same look (next a) (other a) later goal) :
    Same look (step >>= next) (step >>= other) p goal :=
  .bind (.free steady) fun a later kept _ => rest a later kept

theorem run_tryCatch (step : Drawing α) (handle : Fault → Drawing α) :
    (MonadExcept.tryCatch step handle).run p =
      match step.run p with
      | .ok a later => .ok a later
      | .error err later => (handle err).run later := by
  change EStateM.tryCatch step handle p = _
  unfold EStateM.tryCatch EStateM.run
  cases step p <;> rfl

theorem tryCatch {handle : Fault → Drawing α} (same : Same look first second p post)
    (rest : ∀ err later, p.Extends look later → Same look (handle err) (handle err) later post) :
    Same look (MonadExcept.tryCatch first handle) (MonadExcept.tryCatch second handle) p post := by
  obtain ⟨eq, kept, post⟩ := same
  cases ran : first.run p with
  | ok a later =>
    rw [ran] at eq kept post
    constructor <;> simp only [run_tryCatch, ran, ← eq]
    · exact kept
    · exact post
  | error err later =>
    rw [ran] at eq kept
    have after := rest err later kept
    constructor <;> simp only [run_tryCatch, ran, ← eq]
    · exact kept.trans after.kept
    · exact after.post

end Same

/-- The canvas is there and belongs to the file, and patches are looked for in the right places. -/
def Held (look : List String → Prop) (file : String) (canvas : Ref) (patch : Patch) : Prop :=
  look patch.searchPaths ∧ canvas < patch.size ∧ (patch.box canvas).canvas.path = file

variable {files : Files} {places : List String} {outer type : String} {canvas : Ref}
  {load other : Loader} {words line : List String} {top : Open}

theorem Held.later (held : Held look outer canvas p)
    (kept : p.Extends look last) : Held look outer canvas last :=
  ⟨kept.look held.1, Nat.lt_of_lt_of_le held.2.1 kept.size,
    (kept.path canvas held.2.1).trans held.2.2⟩

theorem Held.isBeingRead (held : Held look outer canvas p) : p.isBeingRead canvas outer = true := by
  obtain ⟨-, mem, path⟩ := held
  unfold Patch.isBeingRead Patch.around
  obtain ⟨n, size⟩ := Nat.exists_eq_succ_of_ne_zero (Nat.ne_of_gt (Nat.zero_lt_of_lt mem))
  rw [size, Patch.aroundWithin, any_cons, path]
  simp

theorem Held.path_of_ran {own : Box} (held : Held look outer canvas p)
    (ran : (box canvas).run p = .ok own last) : own.canvas.path = outer := by
  injection ran with same
  rw [← same]
  exact held.2.2

def Agree (look : List String → Prop) (load other : Loader) (may : String → Prop) : Prop :=
  ∀ inner, may inner → ∀ arguments x y role patch, look patch.searchPaths →
    Same look (load inner arguments x y role) (other inner arguments x y role) patch fun _ _ => True

theorem wordAt_ran {place : Nat}
    (ran : (wordAt words place).run p = .ok word last) : words[place]? = some word := by
  unfold wordAt at ran
  split at ran
  · injection ran with same
    rwa [← same]
  · cases ran

theorem run_findPatch (directory : String) : (findPatch files directory type).run p =
    .ok (((Path.absolute "/" directory :: p.searchPaths.reverse).map fun place =>
      Path.join place (type ++ ".pd")).find? fun path => (patchLines? files path).isSome) p :=
  rfl

theorem mem_places_of_findPatch {directory : String}
    (ran : (findPatch files directory type).run p = .ok (some path) last) :
    ∃ place ∈ Path.absolute "/" directory :: p.searchPaths,
      path = Path.join place (type ++ ".pd") ∧ (patchLines? files path).isSome = true := by
  have got := (EStateM.Result.ok.inj ((run_findPatch directory).symm.trans ran)).1
  have isFile := find?_some got
  obtain ⟨place, mem, eq⟩ := mem_map.mp (mem_of_find?_eq_some got)
  refine ⟨place, ?_, eq.symm, isFile⟩
  simpa using mem

theorem readKnown_same (agree : Agree look load other (files.Stands places outer type))
    (arg : look p.searchPaths) :
    Same look (readKnown load canvas type words line) (readKnown other canvas type words line)
      p fun _ _ => True := by
  unfold readKnown
  split
  · exact .free (by grind)
  split
  · refine .skip (by grind) fun _ _ kept => .skip (by grind) fun _ _ more => ?_
    refine .bind (agree _ (.known ‹_›) _ _ _ _ _ (more.look (kept.look arg))) fun _ _ _ _ => ?_
    exact .free (by unfold warn; grind)
  split
  · refine .skip (by grind) fun _ _ kept => .skip (by grind) fun _ _ more => ?_
    exact agree _ (.further ‹_›) _ _ _ _ _ (more.look (kept.look arg))
  · exact .free (by grind)

theorem readBox_same (sub : ∀ xs, look xs → ∀ place ∈ xs, place ∈ places)
    (held : Held look outer top.canvas p) (kind : words[1]? = some "obj")
    (agree : Agree look load other (files.Refers places outer words)) :
    Same look (readBox files load top words) (readBox files other top words) p fun _ _ => True := by
  unfold readBox
  split
  · exact .free (by grind)
  refine .bind (.of_steady (by grind)) fun word _ kept ran => ?_
  have fifth := wordAt_ran ran
  replace held := held.later kept
  refine .bind (.of_steady (by grind)) fun type _ kept ran => ?_
  have becomes : Files.Becomes word type := ⟨_, _, _, _, ran⟩
  replace held := held.later kept
  have agree : Agree look load other (files.Stands places outer type) :=
    fun inner stands => agree inner (.box kind fifth becomes stands)
  refine .skip (by grind) fun resolved _ kept => ?_
  replace held := held.later kept
  refine .bind (.of_steady (by grind)) fun own later kept ran => ?_
  have path : own.canvas.path = outer := held.path_of_ran ran
  replace held := held.later kept
  rw [path]
  refine .bind (.of_steady (by grind)) fun got _ kept ran => ?_
  have eq (now : Patch) (arg : look now.searchPaths) : Same look
      (do add top.canvas (← readKnown load top.canvas type resolved words))
      (do add top.canvas (← readKnown other top.canvas type resolved words)) now
      fun _ _ => True :=
    .bind (readKnown_same agree arg) fun _ _ _ _ => .free (by grind)
  cases got with
  | none => exact eq _ (kept.look held.1)
  | some path =>
    obtain ⟨place, mem, same, isFile⟩ := mem_places_of_findPatch ran
    subst same
    have mem : place ∈ Path.absolute "/" (Path.directory outer) :: places :=
      mem_cons.mpr ((mem_cons.mp mem).imp_right (sub _ held.1 place))
    replace held := held.later kept
    refine .bind (.of_steady .get) fun now _ kept ran => ?_
    obtain ⟨rfl, rfl⟩ := EStateM.Result.ok.inj ran
    split
    · exact eq _ held.1
    · -- the canvas is the first of those around it, so its own file is told apart
      have isOther : Path.join place (type ++ ".pd") ≠ outer := by
        rintro same
        exact ‹¬ _› (same ▸ held.isBeingRead)
      refine .skip (steady_position _) fun _ _ kept => ?_
      refine .bind (agree _ (.found mem isFile isOther) _ _ _ _ _ (kept.look held.1)) ?_
      exact fun _ _ _ _ => .free (steady_add _ _)

/-- Where a file is read, the canvas is one of that file. It is the first of all canvases only where
the file is the first one. -/
def Reads (look : List String → Prop) (file : String) (isRoot : Bool) (top : Open)
    (patch : Patch) : Prop :=
  Held look file top.canvas patch ∧ (top.isRoot = true → isRoot = true)

def GoesOn (look : List String → Prop) (file : String) (isRoot : Bool) (progress : Progress)
    (patch : Patch) : Prop :=
  match progress with
  | .next top => Reads look file isRoot top patch
  | .opened top inner => Reads look file isRoot top patch ∧ Reads look file isRoot inner patch
  | .closed _ => True

variable {isRoot : Bool}

theorem Reads.later (held : Reads look outer isRoot top p)
    (kept : p.Extends look last) : Reads look outer isRoot top last :=
  ⟨held.1.later kept, held.2⟩

theorem ran_bind {step : Drawing α} {next : α → Drawing β} {b : β}
    (ran : (step >>= next).run p = .ok b last) :
    ∃ a later, step.run p = .ok a later ∧ (next a).run later = .ok b last := by
  rw [EStateM.run_bind] at ran
  split at ran
  · exact ⟨_, _, ‹_›, ran⟩
  · cases ran

theorem Steady.of_ran {step : Drawing α} {a : α} (steady : Steady look step)
    (ran : step.run p = .ok a last) : p.Extends look last := by
  have kept := steady p
  rwa [ran] at kept

theorem readArray_ran {next : Open} (ran : (readArray top words).run p = .ok next last) :
    next.canvas = top.canvas ∧ next.isRoot = top.isRoot := by
  unfold readArray at ran
  split at ran
  · obtain ⟨_, _, failed, -⟩ := ran_bind ran
    cases failed
  · iterate 6 obtain ⟨_, _, -, ran⟩ := ran_bind ran
    obtain ⟨rfl, -⟩ := EStateM.Result.ok.inj ran
    exact ⟨rfl, rfl⟩

theorem makeCanvas_held {role : Role} {args : List Value} {x y : Int}
    (arg : look p.searchPaths) (ran : (makeCanvas role args outer x y).run p = .ok canvas last) :
    Held look outer canvas last := by
  unfold makeCanvas at ran
  split at ran
  · obtain ⟨_, _, failed, -⟩ := ran_bind ran
    cases failed
  · obtain ⟨rfl, rfl⟩ := EStateM.Result.ok.inj ran
    exact ⟨arg, by simp [Patch.size],
      by simp [Patch.box, Patch.size, Array.getD_eq_getD_getElem?]⟩

theorem openCanvas_held {role : Role} {args : List Value} {x y : Int} (arg : look p.searchPaths)
    (ran : (openCanvas declarations record role args outer x y).run p =
      .ok canvas last) : Held look outer canvas last := by
  obtain ⟨made, later, first, ran⟩ := ran_bind ran
  split at ran
  · cases ran
  · obtain ⟨_, now, loop, ran⟩ := ran_bind ran
    obtain ⟨rfl, rfl⟩ := EStateM.Result.ok.inj ran
    exact (makeCanvas_held arg first).later (Steady.of_ran (.forIn (by grind) _ _) loop)

theorem readRestore_closed {progress : Progress}
    (ran : (readRestore top words).run p = .ok progress last) : ∃ ref, progress = .closed ref := by
  unfold readRestore at ran
  cases array : top.array <;> simp only [array] at ran <;> split at ran
  all_goals
    repeat obtain ⟨_, _, -, ran⟩ := ran_bind ran
    exact ⟨_, (EStateM.Result.ok.inj ran).1.symm⟩

theorem readElement_same (sub : ∀ xs, look xs → ∀ place ∈ xs, place ∈ places)
    (held : Reads look outer isRoot top p)
    (agree : Agree look load other (files.Refers places outer words))
    (told : words[1]? = some "declare" → Steady look (readDeclare files top words)) :
    Same look (readElement files load top words) (readElement files other top words) p
      (GoesOn look outer isRoot) := by
  unfold readElement
  refine .bind (.of_steady (by grind)) fun kind _ kept ran => ?_
  have second := wordAt_ran ran
  replace held := held.later kept
  split
  · refine (Same.of_steady (by grind)).mono fun progress _ _ ran => ?_
    obtain ⟨_, rfl⟩ := readRestore_closed ran
    trivial
  · repeat
      with_reducible refine .skip (by grind) fun _ _ kept => ?_
      replace held := held.later kept
    exact .done held
  · exact .bind (readBox_same sub held.1 second agree) fun _ _ kept _ => .done (held.later kept)
  · refine .bind (.of_steady (by grind)) fun next _ kept ran => ?_
    obtain ⟨canvas, eq⟩ := readArray_ran ran
    exact .done ⟨canvas ▸ held.1.later kept, eq ▸ held.2⟩
  · repeat
      with_reducible refine .skip (by grind) fun _ _ kept => ?_
      replace held := held.later kept
    exact .done held
  · repeat
      with_reducible refine .skip (by grind) fun _ _ kept => ?_
      replace held := held.later kept
    exact .done held
  · exact .skip (told second) fun _ _ kept => .done (held.later kept)
  · exact .done held
  · split
    · have isAtom : kind ∈ ["floatatom", "symbolatom"] := contains_iff_mem.mp ‹_›
      refine .skip (by grind) fun _ _ kept => ?_
      replace held := held.later kept
      refine .skip (by grind) fun _ _ kept => ?_
      replace held := held.later kept
      refine .bind (agree _ (.atom isAtom second) _ _ _ _ _ held.1.1) fun _ _ kept _ => ?_
      replace held := held.later kept
      exact .skip (steady_add _ _) fun _ _ kept => .done (held.later kept)
    · exact .skip (steady_failAs _ _ _) fun _ _ kept => .done (held.later kept)

theorem readRecord_same
    (sub : ∀ xs, look xs → ∀ place ∈ xs, place ∈ places) (held : Reads look outer isRoot top p)
    (agree : Agree look load other (files.Refers places outer (Record.wordsOf record)))
    (told : (Record.wordsOf record)[1]? = some "declare" →
      Steady look (readDeclare files top (Record.wordsOf record))) :
    Same look (readRecord files load declarations top record)
      (readRecord files other declarations top record) p (GoesOn look outer isRoot) := by
  unfold readRecord
  refine .bind (.of_steady (by grind)) fun kind _ kept _ => ?_
  replace held := held.later kept
  split
  · refine .skip (by grind) fun _ _ kept => ?_
    replace held := held.later kept
    split
    · refine .skip (by grind) fun _ _ kept => ?_
      replace held := held.later kept
      refine .bind (.of_steady (by grind)) fun node _ kept ran => ?_
      have path : node.canvas.path = outer := held.1.path_of_ran ran
      replace held := held.later kept
      rw [path]
      refine .bind (.of_steady (by grind)) fun inner _ kept ran => ?_
      exact .done ⟨held.later kept, openCanvas_held held.1.1 ran, nofun⟩
    · exact .done held
  · exact readElement_same sub held agree told
  · exact .skip (by grind) fun _ _ kept => .done (held.later kept)
  · exact .skip (by unfold fail; grind) fun _ _ kept => .done (held.later kept)

@[grind ←]
theorem steady_closeAll (ref : Ref) (opened : List Open) : Steady look (closeAll ref opened) := by
  induction opened generalizing ref with
  | nil => exact .pure ref
  | cons top rest ih => exact .bind (steady_add _ _) fun _ => ih _

theorem readRecords_same
    (sub : ∀ xs, look xs → ∀ place ∈ xs, place ∈ places) (records : List (List Char))
    (agree : ∀ record ∈ records,
      Agree look load other (files.Refers places outer (Record.wordsOf record)))
    (told : ∀ record ∈ records, ∀ top : Open, (top.isRoot = true → isRoot = true) →
      (Record.wordsOf record)[1]? = some "declare" →
      Steady look (readDeclare files top (Record.wordsOf record)))
    (opened : List Open) (held : Reads look outer isRoot top p)
    (near : ∀ out ∈ opened, Reads look outer isRoot out p) :
    Same look (readRecords files load declarations top opened records)
      (readRecords files other declarations top opened records) p fun _ _ => True := by
  -- on the records: what one of them leaves is again a stack of canvases of this file
  induction records generalizing top opened p with
  | nil => exact .free (steady_closeAll _ _)
  | cons record rest ih =>
    have further (now : Patch) (top : Open) := @ih now top
      (forall_mem_cons.mp agree).2
      (forall_mem_cons.mp told).2
    refine .bind (.tryCatch (readRecord_same sub held (agree _ mem_cons_self)
      (told _ mem_cons_self top held.2)) fun err now _ => ?_) fun progress now kept goes => ?_
    · exact .skip (steady_failAs _ _ _) fun _ _ _ => .done trivial
    have near out there := (near out there).later kept
    cases progress with
    | next top => exact further _ _ opened goes near
    | opened top inner =>
      exact further _ _ (top :: opened) goes.2 (forall_mem_cons.mpr ⟨goes.1, near⟩)
    | closed ref =>
      cases opened with
      | nil => exact .free (.pure ref)
      | cons next opened =>
        obtain ⟨held, near⟩ := forall_mem_cons.mp near
        refine .skip (steady_add _ _) fun _ _ kept => ?_
        exact further _ _ opened (held.later kept) fun out there =>
          (near out there).later kept

theorem readPatchWith_same (sub : ∀ xs, look xs → ∀ place ∈ xs, place ∈ places)
    (agree : ∀ record ∈ files.recordsOf outer,
      Agree look load other (files.Refers places outer (Record.wordsOf record)))
    (told : ∀ record ∈ files.recordsOf outer, ∀ top : Open, (top.isRoot = true → isRoot = true) →
      (Record.wordsOf record)[1]? = some "declare" →
      Steady look (readDeclare files top (Record.wordsOf record)))
    (args : List Value) (x y : Int) (role : Role) (given : look p.searchPaths) :
    Same look (readPatchWith files load isRoot outer args x y role)
      (readPatchWith files other isRoot outer args x y role) p fun _ _ => True := by
  unfold readPatchWith
  cases read : patchLines? files outer with
  | none => exact .free (.throw _)
  | some lines =>
    have records : files.recordsOf outer = Record.ofLines lines := by
      simp only [Files.recordsOf, read, Option.map_some, Option.getD_some]
    rw [records] at agree told
    refine .skip (.ofExcept _) fun declarations _ kept => ?_
    replace given := kept.look given
    cases all : Record.ofLines lines with
    | nil => exact .free (.throw _)
    | cons first rest =>
      rw [all] at agree told
      refine .skip (.modify (fun _ => rfl) (fun _ => Nat.le_refl _) fun _ => rfl) fun _ _ kept => ?_
      replace given := kept.look given
      refine .skip .get fun now _ kept => ?_
      replace given := kept.look given
      dsimp only
      split
      · refine .bind (.of_steady (by grind)) fun canvas _ kept ran => ?_
        exact readRecords_same sub rest (forall_mem_cons.mp agree).2
          (forall_mem_cons.mp told).2 []
          ⟨openCanvas_held given ran, id⟩ nofun
      · exact .free (by unfold fail; grind)

/-- Reads a patch inside another. Where patches lie too deep in one another, `bottom` takes over. -/
def nested (files : Files) (bottom : Loader) : Nat → Loader
  | 0 => bottom
  | depth + 1 => readPatchWith files (nested files bottom depth) false

theorem readNested_eq (files : Files) (depth : Nat) :
    readNested files depth = nested files (fun _ _ _ _ _ => throw .tooDeep) depth := by
  induction depth with
  | zero => rfl
  | succ depth ih => rw [readNested, nested, ih]

theorem nested_agree (within : ∀ xs, look xs → ∀ place ∈ xs, place ∈ places)
    (bottom ground : Loader) {d further : Nat} (enough : n ≤ d) (more : n ≤ further) :
    Agree look (nested files bottom d) (nested files ground further)
      (files.ChainsWithin places n) := by
  induction n generalizing d further with
  | zero => exact fun _ none => none.elim
  | succ n ih =>
    -- a file with chains of `n + 1` files leads only to files with chains of `n`
    obtain ⟨d, rfl⟩ := Nat.exists_eq_add_of_lt enough
    obtain ⟨further, rfl⟩ := Nat.exists_eq_add_of_lt more
    intro outer short args x y role p arg
    refine readPatchWith_same within (fun record mem sub refers => ?_) ?_ _ _ _ _ arg
    · exact ih (Nat.le_of_succ_le_succ enough) (Nat.le_of_succ_le_succ more) sub
        (short record mem sub refers)
    · exact fun _ _ top isRoot _ => steady_readDeclare _ _ _ fun isFirst => nomatch isRoot isFirst

/-- What the first file gives when the files in it are read by `load`. -/
def reading (files : Files) (load : Loader) (path : String) : EStateM.Result Fault Patch Ref :=
  (readPatchWith files load true path [] 0 0 .canvas).run { searchPaths := [Path.directory path] }

/-- Where patches are looked for while a file and the files in it are read. -/
def Looks (files : Files) (path : String) (xs : List String) : Prop :=
  xs[0]? = some (Path.directory path) ∧ ∀ place ∈ xs, place ∈ files.placesOf path

theorem Looks.append {place : String} {xs : List String} (arg : Looks files path xs)
    (among : place ∈ files.placesOf path) : Looks files path (xs ++ [place]) := by
  obtain ⟨first, all⟩ := arg
  refine ⟨by rw [List.getElem?_append_left (List.getElem?_eq_some_iff.mp first).1, first], ?_⟩
  intro other mem
  rcases mem_append.mp mem with old | new
  · exact all other old
  · exact mem_singleton.mp new ▸ among

theorem mem_placesOf {place : String}
    (mem : record ∈ files.recordsOf path) (kind : (Record.wordsOf record)[1]? = some "declare")
    (flag : (Record.wordsOf record)[2]? = some "-path")
    (third : (Record.wordsOf record)[3]? = some place) :
    Path.absolute "/" (Path.join (Path.directory path) place) ∈ files.placesOf path := by
  refine mem_cons_of_mem _ (mem_filterMap.mpr ⟨record, mem, ?_⟩)
  match words : Record.wordsOf record, kind, flag, third with
  | _ :: _ :: _ :: _ :: _, kind, flag, third => simp_all

/-- What the first file declares is one of the places that are known beforehand. -/
theorem steady_declare_places (own : isRoot = true → outer = path)
    (there : record ∈ files.recordsOf outer) (top : Open) (isTop : top.isRoot = true → isRoot = true)
    (kind : (Record.wordsOf record)[1]? = some "declare") :
    Steady (Looks files path) (readDeclare files top (Record.wordsOf record)) := by
  refine steady_readDeclare _ _ _ fun first flag xs home place given start third => ?_
  obtain rfl := own (isTop first)
  have same : home = Path.directory outer := Option.some.inj (start.symm.trans given.1)
  rw [same]
  exact given.append (mem_placesOf there kind flag third)

theorem readNested_agree (depth : Nat) : Agree (Looks files path) (readNested files depth)
    (readNested files depth) fun _ => True := by
  induction depth with
  | zero => exact fun _ _ _ _ _ _ _ _ => .free (.throw _)
  | succ depth ih =>
    intro outer _ args x y role p given
    refine readPatchWith_same (fun _ given => given.2) (fun _ _ sub _ => ih sub trivial) ?_ args x y
      role given
    exact fun _ there => steady_declare_places nofun there

/-- Reading comes to an end if the chains of patches do, and then it does not matter how often
patches may lie in one another or what is done where there are too many. -/
theorem reading_ends {path : String} {n depth : Nat}
    (short : files.ChainsWithin (files.placesOf path) (n + 1) path) (bottom : Loader)
    (enough : n ≤ depth) :
    reading files (nested files bottom depth) path = reading files (readNested files n) path := by
  have within (xs : List String) (given : Looks files path xs) := given.2
  rw [readNested_eq]
  have agree : Agree (Looks files path) (nested files bottom depth) (nested files _ n)
      (files.ChainsWithin (files.placesOf path) n) :=
    nested_agree within bottom (fun _ _ _ _ _ => throw .tooDeep) enough (Nat.le_refl n)
  refine (readPatchWith_same within (fun record there inner refers =>
    agree inner (short record there inner refers)) (fun _ there => steady_declare_places
    (fun _ => rfl) there) [] 0 0 .canvas ?_).eq
  exact ⟨rfl, by simp [Files.placesOf]⟩

end Drawing

theorem Files.Becomes.eq_of_plain {type : String} (plain : sortedReferences word = [])
    (becomes : Files.Becomes word type) : type = word := by
  obtain ⟨canvas, isRoot, p, last, ran⟩ := becomes
  unfold Drawing.resolveWord Drawing.resolveText at ran
  rw [plain] at ran
  exact (EStateM.Result.ok.inj ran).1.symm

namespace Pages

open Drawing

def page (type : String) : Content :=
  .text ("#N canvas 0 0 10 10 10;\n#X obj 10 10 " ++ type ++ ";\n")

/-- The first patch has the second one in it, which has a box of its own name. -/
def pair : Files := ⟨[("/p/main.pd", page "a"), ("/p/a.pd", page "a")]⟩

/-- Both patches have a canvas and one box, which is the second patch and none of the library. -/
theorem read_pair : (∀ outer ∈ ["/p/main.pd", "/p/a.pd"],
      (pair.recordsOf outer).map Record.wordsOf =
        [["#N", "canvas", "0", "0", "10", "10", "10"], ["#X", "obj", "10", "10", "a"]] ∧
      Path.absolute "/" (Path.directory outer) = "/p") ∧
    pair.placesOf "/p/main.pd" = ["/p"] ∧ Path.join "/p" ("a" ++ ".pd") = "/p/a.pd" ∧
    ¬ (Library.patch? "a").isSome ∧ ¬ (Library.furtherPatch? "a").isSome := by
  decide +kernel

theorem refers_pair {sub : String}
    (known : outer ∈ ["/p/main.pd", "/p/a.pd"]) (mem : record ∈ pair.recordsOf outer)
    (refers : pair.Refers ["/p"] outer (Record.wordsOf record) sub) :
    sub = "/p/a.pd" ∧ sub ≠ outer := by
  obtain ⟨both, -, path, notKnown, notFurther⟩ := read_pair
  have among := mem_map_of_mem (f := Record.wordsOf) mem
  rw [(both outer known).1] at among
  generalize Record.wordsOf record = words at among refers
  simp only [mem_cons, not_mem_nil, or_false] at among
  cases refers with
  | box kind fifth becomes stands =>
    obtain rfl := among.resolve_left (by rintro rfl; simp at kind)
    obtain rfl := Option.some.inj fifth
    obtain rfl := becomes.eq_of_plain (by simp [sortedReferences, references])
    cases stands with
    | found mem _ other =>
      rw [(both outer known).2] at mem
      simp only [mem_cons, not_mem_nil, or_false, or_self] at mem
      subst mem
      exact ⟨path, other⟩
    | known isKnown => exact absurd isKnown notKnown
    | further isKnown => exact absurd isKnown notFurther
  | atom isAtom second =>
    rcases among with rfl | rfl
    · obtain rfl := Option.some.inj second
      simp at isAtom
    · obtain rfl := Option.some.inj second
      simp at isAtom

/-- The patch that has a box of its own name is read once. -/
theorem pair_ends : pair.ChainsWithin (pair.placesOf "/p/main.pd") 2 "/p/main.pd" ∧
    ∀ bottom, reading pair (nested pair bottom 1) "/p/main.pd" =
      reading pair (readNested pair 1) "/p/main.pd" := by
  have short : pair.ChainsWithin (pair.placesOf "/p/main.pd") 2 "/p/main.pd" := by
    rw [read_pair.2.1]
    intro record there inner refers
    obtain ⟨rfl, -⟩ := refers_pair (by simp) there refers
    intro record there inner refers
    obtain ⟨rfl, other⟩ := refers_pair (by simp) there refers
    exact other rfl
  exact ⟨short, fun bottom => reading_ends short bottom (Nat.le_refl 1)⟩

end Pages

namespace Drawing

variable {α β : Type}

def Grows (size : Nat) (step : Drawing α) (patch : Patch) : Prop :=
  size ≤ (left (step.run patch)).size

namespace Grows

variable {size : Nat} {step : Drawing α} {next : α → Drawing β} {p : Patch}

theorem of_ran {a : α} {later : Patch} (ran : step.run p = .ok a later)
    (rest : Grows size (next a) later) : Grows size (step >>= next) p := by
  have eq : (step >>= next).run p = (next a).run later := by simp [ran]
  rwa [Grows, eq]

theorem before (grown : Grows size step p) (steady : ∀ a, Steady (fun _ => True) (next a)) :
    Grows size (step >>= next) p := by
  unfold Grows at grown ⊢
  rw [EStateM.run_bind]
  cases ran : step.run p <;> rw [ran] at grown
  · exact Nat.le_trans grown (steady _ _).size
  · exact grown

theorem tryCatch {handle : Fault → Drawing α} (grown : Grows size step p)
    (steady : ∀ err, Steady (fun _ => True) (handle err)) :
    Grows size (MonadExcept.tryCatch step handle) p := by
  unfold Grows at grown ⊢
  rw [Same.run_tryCatch]
  cases ran : step.run p <;> rw [ran] at grown
  · exact grown
  · exact Nat.le_trans grown (steady _ _).size

end Grows

theorem run_wordAt {words : List String} {place : Nat}
    (mem : words[place]? = some word) : (wordAt words place).run p = .ok word p := by
  unfold wordAt
  rw [mem]
  rfl

theorem run_resolveWord {canvas : Ref} {isRoot : Bool} (plain : sortedReferences word = []) :
    (resolveWord canvas isRoot word).run p = .ok word p := by
  unfold resolveWord resolveText
  rw [plain]
  rfl

theorem grows_box {files : Files} {top : Open} {inner : String}
    (alone : (p.box top.canvas).parent = none) (plain : sortedReferences word = [])
    (got : Path.join (Path.absolute "/" (Path.directory (p.box top.canvas).canvas.path))
      (word ++ ".pd") = inner) (isFile : (patchLines? files inner).isSome = true)
    (isOther : (p.box top.canvas).canvas.path ≠ inner)
    (more : Grows n (load inner [] 10 10 .canvas) p) :
    Grows n (readBox files load top ["#X", "obj", "10", "10", word]) p := by
  have new : p.isBeingRead top.canvas inner = false := by
    unfold Patch.isBeingRead Patch.around
    cases p.size with
    | zero => rfl
    | succ m => simp [Patch.aroundWithin, alone, isOther]
  have mem : ((Path.absolute "/" (Path.directory (p.box top.canvas).canvas.path) ::
      p.searchPaths.reverse).map fun place => Path.join place (word ++ ".pd")).find?
        (fun path => (patchLines? files path).isSome) = some inner := by
    simp only [map_cons, got, find?_cons, isFile]
  refine .of_ran (run_wordAt rfl) (.of_ran (run_resolveWord plain) (.of_ran rfl (.of_ran rfl ?_)))
  refine .of_ran (run_findPatch _) ?_
  rw [mem]
  refine .of_ran rfl ?_
  rw [if_neg (by simp [new])]
  have ten : (Value.text "10").toInteger = .ok 10 := rfl
  have put : (position ["#X", "obj", "10", "10", word]).run p = .ok (10, 10) p := by
    simp [position, integerAt, run_wordAt, ten, ofExcept]
  refine .of_ran put ?_
  exact more.before fun ref => steady_add _ _

/-- A patch with a single box for another file has that file read on a canvas of its own. -/
theorem grows_page {files : Files} {isRoot : Bool} {lines : List (List Char)}
    {opening : List Char} (read : patchLines? files path = some lines)
    (declared : DeclarationLines.ofLines lines = .ok [(opening, [])])
    (records : Record.ofLines lines = [opening, record])
    (opens : "#N canvas".toList.isPrefixOf opening = true)
    (words : Record.wordsOf record = ["#X", "obj", "10", "10", word])
    (plain : sortedReferences word = []) {sub : String}
    (got : Path.join (Path.absolute "/" (Path.directory path)) (word ++ ".pd") = sub)
    (isFile : (patchLines? files sub).isSome = true) (isOther : sub ≠ path)
    (more : ∀ p : Patch, Grows (p.size + n) (load sub [] 10 10 .canvas) p)
    (arguments : List Value) (x y : Int) (role : Role) (p : Patch) :
    Grows (p.size + (n + 1)) (readPatchWith files load isRoot path arguments x y role) p := by
  unfold readPatchWith
  rw [read]
  have told : (ofExcept (DeclarationLines.ofLines lines)).run p = .ok [(opening, [])] p := by
    rw [declared]
    rfl
  refine .of_ran told ?_
  rw [records]
  refine .of_ran rfl (.of_ran rfl ?_)
  dsimp only
  rw [if_pos opens]
  have opened : (openCanvas [(opening, [])] opening role (.int (p.serial + 1) :: arguments) path
      x y).run { p with serial := p.serial + 1 } = .ok p.size
        { p with
          serial := p.serial + 1
          boxes := p.boxes.push
            { type := "graph", role, arguments := .list (.int (p.serial + 1) :: arguments), x, y
              canvas := { path } } } := by
    have eq : List.lookup opening [(opening, ([] : List (List Char)))] = some [] := by simp
    unfold openCanvas
    rw [eq]
    rfl
  refine .of_ran opened ?_
  rw [readRecords]
  refine .before (.tryCatch ?_ fun _ => by grind) fun progress => ?_
  · unfold readRecord
    rw [words]
    refine .of_ran (run_wordAt rfl) (.of_ran (run_wordAt rfl) (.before ?_ fun _ => .pure _))
    refine grows_box ?_ plain ?_ isFile ?_ ?_
    · simp [Patch.box, Patch.size, Array.getD_eq_getD_getElem?]
    · simpa [Patch.box, Patch.size, Array.getD_eq_getD_getElem?] using got
    · simpa [Patch.box, Patch.size, Array.getD_eq_getD_getElem?] using isOther.symm
    · refine Nat.le_trans ?_ (more _)
      simp [Patch.size]
      omega
  · cases progress <;> simp only [readRecords] <;> grind

end Drawing

namespace Pages

open Drawing

def ring : Files := ⟨[("/p/a.pd", page "b"), ("/p/b.pd", page "a")]⟩

def linesOf (type : String) : List (List Char) :=
  ["#N canvas 0 0 10 10 10;\n".toList, ("#X obj 10 10 " ++ type ++ ";\n").toList]

theorem grows_ring (eq : path ∈ ["/p/a.pd", "/p/b.pd"])
    (more : ∀ sub ∈ ["/p/a.pd", "/p/b.pd"], ∀ p : Patch,
      Grows (p.size + n) (load sub [] 10 10 .canvas) p)
    (isRoot : Bool) (args : List Value) (x y : Int) (role : Role) (p : Patch) :
    Grows (p.size + (n + 1)) (readPatchWith ring load isRoot path args x y role) p := by
  simp only [mem_cons, not_mem_nil, or_false] at eq
  rcases eq with rfl | rfl
  · have read : patchLines? ring "/p/a.pd" = some (linesOf "b") := by decide +kernel
    exact grows_page read rfl rfl rfl rfl (by simp [sortedReferences, references]) rfl
      (by decide +kernel) (by decide) (more "/p/b.pd" (by simp)) _ _ _ _ _
  · have read : patchLines? ring "/p/b.pd" = some (linesOf "a") := by decide +kernel
    exact grows_page read rfl rfl rfl rfl (by simp [sortedReferences, references]) rfl
      (by decide +kernel) (by decide) (more "/p/a.pd" (by simp)) _ _ _ _ _

theorem grows_nested (d : Nat) : ∀ path ∈ ["/p/a.pd", "/p/b.pd"], ∀ p : Patch,
    Grows (p.size + d) (readNested ring d path [] 10 10 .canvas) p := by
  induction d with
  | zero => exact fun _ _ p => Nat.le_refl p.size
  | succ d ih => exact fun path eq p => grows_ring eq ih false [] 10 10 .canvas p

/-- Two patches that have one another in them are read within one another as often as they may. -/
theorem ring_goes_on : ¬ ∃ bound, ∀ depth, bound ≤ depth →
    reading ring (readNested ring depth) "/p/a.pd" =
      reading ring (readNested ring bound) "/p/a.pd" := by
  rintro ⟨bound, ends⟩
  have same := ends (bound + (left (reading ring (readNested ring bound) "/p/a.pd")).size)
    (Nat.le_add_right _ _)
  have grown : Grows _ _ _ := grows_ring (mem_cons_self) (grows_nested
    (bound + (left (reading ring (readNested ring bound) "/p/a.pd")).size)) true [] 0 0 .canvas
    { searchPaths := [Path.directory "/p/a.pd"] }
  unfold Grows at grown
  change _ ≤ (left (reading ring _ "/p/a.pd")).size at grown
  rw [same] at grown
  omega

end Pages

end PatchCompiler
