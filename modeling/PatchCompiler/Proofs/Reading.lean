import PatchCompiler.Net.Reader
import PatchCompiler.Proofs.Run

/-!
# Files that are being read

The reader keeps one set of files for all graphs it reads. A file is put into it when its reading
starts and taken out when its graph is finished. A graph that is written in place leaves the set
alone, which is told from the file of the graph around it: the file of a graph is fixed when it is
made. The set is looked at in two places, with paths as they are found and with absolute ones.

Here the reader is written with that set as a part of the state, beside a record of the files whose
reading has started and has not ended. Its depth is bounded by a number. It agrees with the reader
that is told the files from outside, with every bound from a certain one on.
-/

namespace PatchCompiler

open List Build

variable {file path : String} {value : Value}

/-- The set of files, the files whose reading has started and has not ended, and what both were at
every moment so far. -/
structure Trail where
  stack : List String
  started : List String
  moments : List (List String × List String) := []

def Trail.Faithful (trail : Trail) : Prop :=
  ∀ moment ∈ trail.moments, moment.1 = moment.2

/-- Steps of the reader. A step that fails leaves the state as it was at the failure. -/
abbrev Tracked := EStateM Fault (Net × Trail)

namespace Tracked

variable {α β : Type}

/-- What a step on the net does, with a trail beside it. -/
def beside (trail : Trail) : EStateM.Result Fault Net α → EStateM.Result Fault (Net × Trail) α
  | .ok result net => .ok result (net, trail)
  | .error fault net => .error fault (net, trail)

def lift (step : Build α) : Tracked α := fun state => beside state.2 (step state.1)

def mark (f : Trail → Trail) : Tracked Unit :=
  modify fun state => (state.1, f state.2)

def look : Tracked Unit :=
  mark fun trail => { trail with moments := (trail.stack, trail.started) :: trail.moments }

def start (path : String) : Tracked Unit := do
  mark fun trail =>
    { trail with stack := trail.stack.insert path, started := path :: trail.started }
  look

def finish : Tracked Unit := do
  mark fun trail => { trail with started := trail.started.tail }
  look

/-- The file of a finished graph leaves the set, unless the graph around is of that file. -/
def leave (outer : Option String) (file : String) : Tracked Unit := do
  if outer ≠ some file then
    if (← get).2.stack.contains file then
      mark fun trail => { trail with stack := trail.stack.erase file }
    else throw (.missingField file)

/-- Reads a graph of a file and takes the file out of the set. -/
def finished (outer : Option String) (file : String) (read : Tracked Ref) : Tracked Ref := do
  let graph ← read
  leave outer file
  return graph

mutual

/-- Reads the graph of a file. `outer` is the file of the graph around it. -/
def load (files : Files) (home : String) (parent : Option Ref) (outer : Option String)
    (env : Record) (name : Option String) (path : String) : Nat → Tracked Ref
  | 0 => throw .tooDeep
  | depth + 1 => do
      let stack := (← get).2.stack
      let file := Path.absolute home path
      if stack.contains file then throw (repeatedFile file stack)
      else
        start file
        let graph ← finished outer file (do
          match files.find? file with
          | none => throw (.fileMissing file)
          | some content =>
            let value ← lift (Build.ofExcept content.value)
            read files home parent env name file value depth)
        finish
        return graph

def read (files : Files) (home : String) (parent : Option Ref) (env : Record)
    (name : Option String) (file : String) (value : Value) : Nat → Tracked Ref
  | 0 => throw .tooDeep
  | depth + 1 => do
      let env ← lift (declareArguments env (← lift (listField value "args")))
      let graph ← lift (makeGraph parent env file
        (← lift (Build.ofExcept (graphName value name))))
      let imports ← lift (Build.ofExcept (importsOf value home))
      lift (changeBody graph fun body =>
        { body with imports := "./" :: imports ++ [Path.directory file] })
      match value.field? "objects" with
      | none => throw (.missingField "objects")
      | some (.record entries) => readEach files home graph name file entries depth
      | some _ => throw (.noMember "objects have no names")
      lift ((← lift (listField value "connections")).forM (readWire graph))
      return graph

def readEach (files : Files) (home : String) (graph : Ref) (name : Option String) (file : String)
    (entries : Record) : Nat → Tracked Unit
  | 0 => throw .tooDeep
  | depth + 1 =>
    match entries with
    | [] => return
    | (key, value) :: rest => do
        look
        match ← lift (fieldOf value "type") with
        | .text "comment" => pure ()
        | .text "graph" =>
          let env := (← lift (Build.node graph)).arguments
          let inner ← finished (some file) file
            (read files home (some graph) env name file value depth)
          if !env.isEmpty then
            let shared := (← lift (Build.node inner)).arguments
            lift (Build.change graph fun node => { node with arguments := shared })
          lift (addNamed graph inner key)
        | given =>
          let type := given.display
          let arguments ← lift (resolveArguments graph
            (← lift (Build.ofExcept (recordOf (← lift (fieldOf value "args"))))))
          let annotations := annotationsOf value
          let stack := (← get).2.stack
          match (← lift (findAbstraction files graph type home)).filter fun path =>
              !stack.contains path with
          | some path =>
            let inner ← load files home (some graph) (some file) arguments none path depth
            lift (addNamed graph inner key)
          | none =>
            if given matches .list _ ∨ given matches .record _ then
              throw (.badType s!"unhashable type: '{given.kindName}'")
            match kindOf? type with
            | some kind =>
              lift (addNamed graph
                (← lift (makeKind type kind arguments annotations (some graph))) key)
            | none =>
              if Catalogue.isIr type then
                lift (addNamed graph
                  (← lift (makeLow type .plain arguments annotations (some graph))) key)
              else lift (Build.reject graph s!"Object type \"{type}\" cannot be found.")
        readEach files home graph name file rest depth

end

/-- With the given set, the step does what a step on the net does. The set is right at every moment,
and in the end, unless there is a fault, it is what it was. -/
def Follows (stack : List String) (net : Net) (step : Tracked α) (plain : Build α) : Prop :=
  ∀ moments, (Trail.mk stack stack moments).Faithful → ∃ trail : Trail, trail.Faithful ∧
    step.run (net, ⟨stack, stack, moments⟩) = beside trail (plain.run net) ∧
    ∀ result last, plain.run net = .ok result last → ∃ later, trail = ⟨stack, stack, later⟩

namespace Follows

variable {stack : List String} {net : Net} {step : Tracked α} {plain : Build α}

theorem lift : Follows stack net (lift plain) plain :=
  fun _ faithful => ⟨_, faithful, rfl, fun _ _ _ => ⟨_, rfl⟩⟩

theorem bind {next : α → Tracked β} {rest : α → Build β} (first : Follows stack net step plain)
    (then_ : ∀ result last, plain.run net = .ok result last →
      Follows stack last (next result) (rest result)) :
    Follows stack net (step >>= next) (plain >>= rest) := by
  intro moments faithful
  obtain ⟨trail, still, run, kept⟩ := first moments faithful
  rw [EStateM.run_bind, EStateM.run_bind, run]
  cases done : plain.run net with
  | ok result last =>
    obtain ⟨post, rfl⟩ := kept result last done
    exact then_ result last done post still
  | error err last => exact ⟨_, still, rfl, nofun⟩

theorem throw {err : Fault} :
    Follows stack net (MonadExcept.throw err : Tracked α) (MonadExcept.throw err) :=
  fun _ faithful => ⟨_, faithful, rfl, nofun⟩

theorem pure {result : α} : Follows stack net (Pure.pure result) (Pure.pure result) :=
  fun _ faithful => ⟨_, faithful, rfl, fun _ _ _ => ⟨_, rfl⟩⟩

theorem get {next : Net × Trail → Tracked α}
    (rest : ∀ trail : Trail, trail.stack = stack → Follows stack net (next (net, trail)) plain) :
    Follows stack net (MonadState.get >>= next) plain :=
  fun moments faithful => rest ⟨stack, stack, moments⟩ rfl moments faithful

theorem look (rest : Follows stack net step plain) :
    Follows stack net (look >>= fun _ => step) plain := by
  intro moments faithful
  refine rest ((stack, stack) :: moments) fun moment sub => ?_
  rcases mem_cons.mp sub with rfl | old
  · rfl
  · exact faithful moment old

theorem ite {condition : Prop} [Decidable condition] {first snd : Tracked α}
    {first' second' : Build α} (yes : Follows stack net first first')
    (no : Follows stack net snd second') : Follows stack net (if condition then first else snd)
      (if condition then first' else second') := by
  split
  · exact yes
  · exact no

theorem byType {given : Value} {comment g : Tracked α} {y : Value → Tracked α}
    {comment' graph' : Build α} {other' : Value → Build α}
    (first : Follows stack net comment comment') (snd : Follows stack net g graph')
    (third : ∀ given, Follows stack net (y given) (other' given)) : Follows stack net
      (match given with
        | .text "comment" => comment
        | .text "graph" => g
        | given => y given)
      (match given with
        | .text "comment" => comment'
        | .text "graph" => graph'
        | given => other' given) := by
  split
  · exact first
  · exact snd
  · exact third _

theorem inline {read : Tracked Ref} {plain : Build Ref} (sub : Follows stack net read plain) :
    Follows stack net (finished (some file) file read) plain := by
  rw [← bind_pure plain]
  refine sub.bind fun g last _ => ?_
  have stay : leave (some file) file = Pure.pure () := if_neg (by simp)
  rw [stay, pure_bind]
  exact pure

/-- The reading of a file that is not being read puts it into the set and takes it out again. -/
theorem enter {read : Tracked Ref} {plain : Build Ref} {outer : Option String}
    (new : path ∉ stack) (sep : outer ≠ some path)
    (inner : Follows (path :: stack) net read plain) :
    Follows stack net (do start path; let g ← finished outer path read; finish; return g)
      plain := by
  intro moments faithful
  have begun : (Trail.mk (path :: stack) (path :: stack)
      ((path :: stack, path :: stack) :: moments)).Faithful := by
    intro moment sub
    rcases mem_cons.mp sub with rfl | old
    · rfl
    · exact faithful moment old
  obtain ⟨trail, still, run, kept⟩ := inner _ begun
  have opened : (start path).run (net, ⟨stack, stack, moments⟩) = .ok () (net,
      ⟨path :: stack, path :: stack, (path :: stack, path :: stack) :: moments⟩) := by
    change EStateM.Result.ok () (net, Trail.mk (stack.insert path) (path :: stack)
      ((stack.insert path, path :: stack) :: moments)) = _
    rw [insert_of_not_mem new]
  rw [EStateM.run_bind, opened]
  dsimp only
  rw [EStateM.run_bind, finished, EStateM.run_bind, run]
  cases done : plain.run net with
  | error err last => exact ⟨_, still, rfl, nofun⟩
  | ok g last =>
    obtain ⟨post, rfl⟩ := kept g last done
    have left : (leave outer path).run (last, ⟨path :: stack, path :: stack, post⟩) =
        .ok () (last, ⟨stack, path :: stack, post⟩) := by
      simp [leave, sep, mark, EStateM.run_bind]
    refine ⟨⟨stack, stack, (stack, stack) :: post⟩, ?_, ?_, fun _ _ _ => ⟨_, rfl⟩⟩
    · intro moment sub
      rcases mem_cons.mp sub with rfl | old
      · rfl
      · exact still moment old
    · simp only [beside, EStateM.run_bind, left]
      rfl

end Follows

end Tracked

/-- The size of the largest value that is in a file. -/
noncomputable def Files.largest (files : Files) : Nat :=
  (files.entries.map fun entry => match entry.2.value with
    | .ok value => sizeOf value
    | .error _ => 0).foldr max 0

theorem Files.le_largest {files : Files} {content : Content}
    (got : files.find? path = some content) (eq : content.value = .ok value) :
    sizeOf value ≤ files.largest := by
  have member := mem_map_of_mem (f := fun e : String × Content =>
    match e.2.value with
    | .ok value => sizeOf value
    | .error _ => 0) (mem_of_find? got)
  simp only [eq] at member
  unfold largest
  generalize map _ files.entries = sizes at member ⊢
  induction sizes with
  | nil => cases member
  | cons size rest ih =>
    rw [foldr_cons]
    rcases mem_cons.mp member with rfl | later
    · exact Nat.le_max_left _ _
    · exact Nat.le_trans (ih later) (Nat.le_max_right _ _)

/-- What the files that are not being read may still cost. -/
noncomputable def Files.room (files : Files) (stack : List String) : Nat :=
  files.unread stack * (files.largest + 3)

theorem Files.room_cons {files : Files} {content : Content} {stack : List String}
    (got : files.find? path = some content) (eq : content.value = .ok value)
    (fresh : path ∉ stack) : files.room (path :: stack) + sizeOf value + 2 < files.room stack := by
  have new : ¬ stack.contains path := by simpa using fresh
  have fewer := unread_cons_lt got new
  have small := le_largest got eq
  have p := Nat.mul_le_mul_right (files.largest + 3) (Nat.succ_le_of_lt fewer)
  rw [Nat.succ_mul] at p
  unfold room
  omega

namespace Tracked

variable {files : Files} {home : String} {stack : List String}

/-- With a bound, reading follows the reader that is told the files from outside, wherever the bound
leaves room. -/
structure Follow (files : Files) (home : String) (depth : Nat) : Prop where
  load : ∀ stack net parent outer env name path, files.room stack < depth →
    (∀ file, outer = some file → file ∈ stack) →
    Follows stack net (load files home parent outer env name path depth)
      (loadGraph files parent env stack name path home)
  read : ∀ stack net parent env name file value, files.room stack + sizeOf value + 1 < depth →
    file ∈ stack → Follows stack net (read files home parent env name file value depth)
      (readGraph files parent env stack name file value home)
  each : ∀ stack net graph name file entries, files.room stack + sizeOf entries < depth →
    file ∈ stack → Follows stack net (readEach files home graph name file entries depth)
      (readObjects files graph stack name file entries home)

namespace Follow

variable {depth : Nat} {net : Net} {parent : Option Ref} {env : Record} {name : Option String}
  (follow : Follow files home depth)

include follow

theorem load_succ {outer : Option String} (enough : files.room stack < depth + 1)
    (near : ∀ file, outer = some file → file ∈ stack) :
    Follows stack net (Tracked.load files home parent outer env name path (depth + 1))
      (loadGraph files parent env stack name path home) := by
  rw [Tracked.load, loadGraph]
  refine .get fun trail eq => ?_
  dsimp only
  rw [eq]
  split
  · exact .throw
  next new =>
    have absent : Path.absolute home path ∉ stack := by simpa using new
    refine .enter absent (fun same => absent (near _ same)) ?_
    split
    next none =>
      split
      · exact .throw
      next got =>
        rw [none] at got
        cases got
    next content got =>
      split
      next none =>
        rw [none] at got
        cases got
      next y same =>
        rw [got, Option.some.injEq] at same
        subst same
        refine Follows.lift.bind fun value last done => ?_
        have eq : content.value = .ok value := by
          cases value? : content.value with
          | ok _ =>
            rw [value?] at done
            cases done
            rfl
          | error _ =>
            rw [value?] at done
            cases done
        have less := Files.room_cons got eq absent
        exact follow.read _ _ _ _ _ _ _ (by omega) mem_cons_self

theorem read_succ (enough : files.room stack + sizeOf value + 1 < depth + 1) (sub : file ∈ stack) :
    Follows stack net (Tracked.read files home parent env name file value (depth + 1))
      (readGraph files parent env stack name file value home) := by
  rw [Tracked.read, readGraph]
  refine Follows.lift.bind fun declared _ _ => ?_
  refine Follows.lift.bind fun env _ _ => ?_
  refine Follows.lift.bind fun title _ _ => ?_
  refine Follows.lift.bind fun g _ _ => ?_
  refine Follows.lift.bind fun imports _ _ => ?_
  refine Follows.lift.bind fun _ last _ => ?_
  dsimp only
  split
  next none =>
    split
    · exact Follows.throw.bind (by rintro _ _ ⟨⟩)
    · next got => simp [none] at got
    · next got => simp [none] at got
  next entries got =>
    split
    · next none => simp [got] at none
    next ys eq =>
      rw [got, Option.some.injEq, Value.record.injEq] at eq
      subst eq
      have less := sizeOf_field?_lt got
      rw [Value.record.sizeOf_spec] at less
      exact (follow.each _ _ _ _ _ _ (by omega) sub).bind fun _ _ _ =>
        Follows.lift.bind fun _ _ _ => Follows.lift.bind fun _ _ _ => .pure
    · next y _ eq => exact absurd got (by simp_all)
  next y notRecord got =>
    split
    · next none => simp [got] at none
    · next entries eq => exact absurd (got.symm.trans eq) (by simpa using notRecord entries)
    · exact Follows.throw.bind (by rintro _ _ ⟨⟩)

theorem each_succ {g : Ref} {entries : Record}
    (enough : files.room stack + sizeOf entries < depth + 1) (ins : file ∈ stack) :
    Follows stack net (readEach files home g name file entries (depth + 1))
      (readObjects files g stack name file entries home) := by
  cases entries with
  | nil =>
    rw [readEach, readObjects]
    exact .pure
  | cons e rest =>
    obtain ⟨key, value⟩ := e
    rw [readEach, readObjects]
    simp only [cons.sizeOf_spec, Prod.mk.sizeOf_spec] at enough
    refine Follows.look (Follows.lift.bind fun arg last _ => ?_)
    have after (last : Net) : Follows stack last (readEach files home g name file rest depth)
        (readObjects files g stack name file rest home) :=
      follow.each _ _ _ _ _ _ (by omega) ins
    have added (last : Net) (sub : Ref) : Follows stack last
        (do lift (addNamed g sub key); readEach files home g name file rest depth)
        (do
          addNamed g sub key
          readObjects files g stack name file rest home) :=
      Follows.lift.bind fun _ last _ => after last
    refine .byType (after last) ?_ fun arg => ?_
    · refine Follows.lift.bind fun node last _ => ?_
      refine (follow.read _ _ _ _ _ _ _ (by omega) ins).inline.bind fun sub last _ => ?_
      exact .ite (Follows.lift.bind fun _ _ _ => Follows.lift.bind fun _ last _ => added last sub)
        (added last sub)
    · refine Follows.lift.bind fun _ _ _ => ?_
      refine Follows.lift.bind fun _ _ _ => ?_
      refine Follows.lift.bind fun args last _ => ?_
      refine .get fun trail eq => ?_
      dsimp only
      rw [eq]
      refine Follows.lift.bind fun got last _ => ?_
      generalize got.filter (fun path => !stack.contains path) = chosen
      cases chosen with
      | some path =>
        refine (follow.load _ _ _ _ _ _ _ (by omega) ?_).bind fun sub last _ =>
          added last sub
        intro y same
        cases same
        exact ins
      | none =>
        refine .ite (Follows.throw.bind (by rintro _ _ ⟨⟩)) ?_
        cases kindOf? arg.display with
        | some kind => exact Follows.lift.bind fun sub last _ => added last sub
        | none =>
          exact .ite (Follows.lift.bind fun sub last _ => added last sub)
            (Follows.lift.bind fun _ last _ => after last)

end Follow

theorem follow (files : Files) (home : String) (depth : Nat) : Follow files home depth := by
  induction depth with
  | zero => exact ⟨nofun, nofun, nofun⟩
  | succ depth ih =>
    exact ⟨fun _ _ _ _ _ _ _ => ih.load_succ, fun _ _ _ _ _ _ _ => ih.read_succ,
      fun _ _ _ _ _ _ => ih.each_succ⟩

theorem exists_run_load {env : Record} {name : Option String} {depth : Nat}
    (enough : files.room stack < depth) (net : Net) :
    ∃ trail, (load files home none none env name path depth).run (net, ⟨stack, stack, []⟩) =
      beside trail ((loadGraph files none env stack name path home).run net) := by
  obtain ⟨trail, -, run, -⟩ :=
    (follow files home depth).load stack net none none env name path enough nofun [] nofun
  exact ⟨trail, run⟩

/-- Reading a file ends on every finite set of files and in every directory: from some bound on, the
bound on the depth does not matter. Until there is a fault, the set holds the files whose reading
has started and has not ended, and when the file has been read the set is what it was. -/
theorem load_ends (files : Files) (home : String) (env : Record) (name : Option String)
    (path : String) (stack : List String) (net : Net) :
    ∃ bound, ∀ depth, bound ≤ depth → ∃ trail : Trail, trail.Faithful ∧
      (load files home none none env name path depth).run (net, ⟨stack, stack, []⟩) =
        beside trail ((loadGraph files none env stack name path home).run net) ∧
      ∀ graph last, (loadGraph files none env stack name path home).run net = .ok graph last →
        trail.stack = stack ∧ trail.started = stack := by
  refine ⟨files.room stack + 1, fun depth enough => ?_⟩
  obtain ⟨trail, faithful, run, kept⟩ :=
    (follow files home depth).load stack net none none env name path (by omega) nofun [] nofun
  refine ⟨trail, faithful, run, fun graph last done => ?_⟩
  obtain ⟨later, rfl⟩ := kept graph last done
  exact ⟨rfl, rfl⟩

end Tracked

namespace Duet

def page (type : String) : Content :=
  .json (.record [("args", .list []), ("imports", .list [.text "p"]), ("connections", .list []),
    ("objects", .record [("x", .record [("type", .text type), ("args", .record [])])])])

/-- Two files, each with an object of the type of the other. -/
def files : Files :=
  ⟨[("/p/print.hv.json", page "message"), ("/p/message.hv.json", page "print")]⟩

theorem room : files.room [] < 20000 := by
  decide +kernel

/-- The second file finds the first one being read and makes an object of the catalogue instead. -/
theorem load_ends_duet : ∃ bound, ∀ depth, bound ≤ depth → ∃ graph net trail,
    trail.Faithful ∧ trail.stack = [] ∧ trail.started = [] ∧
      (Tracked.load files "/" none none [] none "p/print.hv.json" depth).run (.empty, ⟨[], [], []⟩) =
        .ok graph (net, trail) := by
  have reads : ((Tracked.load files "/" none none [] none "p/print.hv.json" 20000).run
      (.empty, ⟨[], [], []⟩) matches .ok ..) = true := by decide +kernel
  obtain ⟨trail, eq⟩ := Tracked.exists_run_load room .empty
  rw [eq] at reads
  obtain ⟨bound, ends⟩ := Tracked.load_ends files "/" [] none "p/print.hv.json" [] .empty
  refine ⟨bound, fun depth le => ?_⟩
  obtain ⟨trail, faithful, run, kept⟩ := ends depth le
  cases done : (loadGraph files none [] [] none "p/print.hv.json" "/").run .empty with
  | ok graph net =>
    rw [done] at run
    exact ⟨graph, net, trail, faithful, (kept graph net done).1, (kept graph net done).2, run⟩
  | error =>
    rw [done] at reads
    cases reads

end Duet

end PatchCompiler
