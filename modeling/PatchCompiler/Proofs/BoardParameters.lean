import PatchCompiler.Board.Glue
import PatchCompiler.Proofs.Addresses

/-!
# Parameters on a board

Components of a board that no parameter reaches are dropped, from the last to the first, while the
others are searched for the parameters. No removal changes what a parameter reaches.

The parameters of either direction are kept by the names of what they reach, so that one of two
parameters that go by one name is lost.
-/

namespace PatchCompiler

open List

variable {name : Value} {component : Component} {called text : String} {components : Components}
  {used : List (Value × String)} {rootOf : Value × String → String}

/-- The component is described by a record in which its name is a text. -/
def Component.Named (component : Component) (text : String) : Prop :=
  ∃ fields : Record, component = .ofValue (.record fields) ∧ fields.get? "name" = some (.text text)

namespace Component.Named

variable (named : component.Named text)
include named

theorem name_eq : component.name = .ok (.text text) := by
  obtain ⟨fields, rfl, is⟩ := named
  simp [ofValue, Value.need, is]

theorem has_name (other : String) : component.has "name" (.text other) = .ok (text == other) := by
  obtain ⟨fields, rfl, is⟩ := named
  simp only [has, ofValue, Value.fieldOr, Record.getD, is, Option.getD_some]
  rfl

theorem exists_isParent : ∃ isParent, component.isParent = .ok isParent := by
  obtain ⟨fields, rfl, -⟩ := named
  exact ⟨_, rfl⟩

end Component.Named

namespace Components

/-- Whether a component is a parent, or has one of the given names. -/
def isNeeded (roots : List String) (component : Component) : Bool :=
  (component.isParent matches .ok true) ||
    (component.name.toOption.bind Value.text?).any (· ∈ roots)

theorem reached?_cons {first : Component} {rest : Components} :
    reached? (first :: rest) name = .ok (some component) ↔
      first.answers name = .ok true ∧ first = component ∨
      first.answers name = .ok false ∧ reached? rest name = .ok (some component) := by
  rw [reached?, findM?]
  cases asked : first.answers name with
  | error fault => simp [bind, Except.bind]
  | ok answer => cases answer <;> simp [bind, Except.bind, pure, Except.pure, reached?]

/-- A name reaches the same component when others behind some place are dropped. -/
theorem reached?_append_filter {keep : Component → Bool} (kept : keep component)
    {front back : Components} (found : reached? (front ++ back) name = .ok (some component)) :
    reached? (front ++ back.filter keep) name = .ok (some component) := by
  induction front with
  | nil =>
    induction back with
    | nil => exact found
    | cons first back ih =>
      rcases reached?_cons.mp found with ⟨asked, rfl⟩ | ⟨asked, found⟩
      · rw [filter_cons_of_pos kept]
        exact reached?_cons.mpr (.inl ⟨asked, rfl⟩)
      · rw [filter_cons]
        split
        · exact reached?_cons.mpr (.inr ⟨asked, ih found⟩)
        · exact ih found
  | cons first front ih =>
    rw [cons_append, reached?_cons] at found ⊢
    exact found.imp_right (And.imp_right ih)

theorem mem_of_reached? (found : components.reached? name = .ok (some component)) :
    component ∈ components ∧ component.answers name = .ok true := by
  induction components with
  | nil => nomatch found
  | cons first rest ih =>
    rcases reached?_cons.mp found with ⟨asked, rfl⟩ | ⟨-, found⟩
    · exact ⟨mem_cons_self, asked⟩
    · exact (ih found).imp_left (mem_cons_of_mem _)

theorem eq_of_equals_text {value : Value} (eq : value.equals (.text text)) :
    value = .text text := by
  cases value <;> simp_all [Value.equals, Value.compareNumbers]

theorem root_eq (is : component.name = .ok (.text text))
    (found : components.reached? name = .ok (some component)) :
    components.root name called = .ok (.text text) := by
  obtain ⟨converter, asked, answer⟩ := Except.bind_eq_ok.mp (mem_of_reached? found).2
  rw [root, found]
  change (component.isConverter >>= _) = _
  rw [asked]
  cases converter with
  | false => exact is
  | true =>
    rw [is] at answer
    exact congrArg Except.ok (eq_of_equals_text (Except.ok.inj answer))

def Rooted (components : Components) (used : List (Value × String))
    (rootOf : Value × String → String) : Prop :=
  ∀ entry ∈ used, components.root entry.1 entry.2 = .ok (.text (rootOf entry))

theorem Rooted.anyM_eq (rooted : components.Rooted used rootOf)
    (is : component.name = .ok (.text text)) :
    used.anyM (fun (name, called) => do
      return (← components.root name called).equals (← component.name)) =
        .ok (decide (text ∈ used.map rootOf)) := by
  induction used with
  | nil => rfl
  | cons entry used ih =>
    have got := rooted entry (.head _)
    rw [anyM_cons, ih (forall_mem_cons.mp rooted).2]
    simp only [got, is]
    change (if (rootOf entry == text) = true then Except.ok true else _) = _
    by_cases same : rootOf entry = text <;> simp [same, Ne.symm]

/-- Whether a component is used can be told from the roots of the parameters. -/
theorem Rooted.isUsed_eq (rooted : components.Rooted used rootOf) (named : component.Named text) :
    components.isUsed used component = .ok (isNeeded (used.map rootOf) component) := by
  obtain ⟨isParent, told⟩ := named.exists_isParent
  rw [isUsed, isNeeded, told, rooted.anyM_eq named.name_eq, named.name_eq]
  cases isParent <;> rfl

theorem filterM_eq {α : Type} {f : α → Except Fault Bool} {g : α → Bool} {xs : List α}
    (eq : ∀ x ∈ xs, f x = .ok (g x)) : xs.filterM f = .ok (xs.filter g) := by
  have aux (held : List α) : xs.filterAuxM f held = .ok ((xs.filter g).reverse ++ held) := by
    induction xs generalizing held with
    | nil => rfl
    | cons x xs ih =>
      rw [filterAuxM, eq x (.head _)]
      change filterAuxM f xs (cond (g x) (x :: held) held) = _
      rw [ih (forall_mem_cons.mp eq).2, filter_cons]
      cases g x <;> simp
  simp [filterM, aux]

theorem exists_having (named : ∀ c ∈ components, ∃ text, c.Named text)
    (mem : component ∈ components) (is : component.Named text) :
    ∃ first rest, components.having "name" (.text text) = .ok (first :: rest) := by
  have ⟨found, eq, there⟩ : ∃ found, components.having "name" (.text text) = .ok found ∧
      component ∈ found := by
    refine ⟨_, filterM_eq (g := fun c => c.name.toOption.bind Value.text? == some text)
      fun c mem => ?_, mem_filter.mpr ⟨mem, ?_⟩⟩
    · obtain ⟨other, is⟩ := named c mem
      rw [is.has_name, is.name_eq]
      simp [Except.toOption, Value.text?]
    · rw [is.name_eq]
      exact beq_self_eq_true _
  obtain ⟨first, rest, rfl⟩ := exists_cons_of_ne_nil (ne_nil_of_mem there)
  exact ⟨first, rest, eq⟩

/-- Every parameter reaches a component of the name that is its root. -/
def Reaches (components : Components) (used : List (Value × String))
    (rootOf : Value × String → String) : Prop :=
  ∀ entry ∈ used, ∃ component, components.reached? entry.1 = .ok (some component) ∧
    component.Named (rootOf entry)

theorem exists_reaches (named : ∀ c ∈ components, ∃ text, c.Named text)
    (taken : ∀ entry ∈ used, ∃ isInput, components.checkUse isInput entry.1 entry.2 = .ok ()) :
    ∃ rootOf, Reaches components used rootOf := by
  have each (entry) (mem : entry ∈ used) : ∃ text component,
      components.reached? entry.1 = .ok (some component) ∧ component.Named text := by
    obtain ⟨isInput, accepted⟩ := taken entry mem
    obtain ⟨found, reached, rest⟩ := Except.bind_eq_ok.mp accepted
    cases found with
    | none => nomatch rest
    | some component =>
      obtain ⟨text, is⟩ := named component (mem_of_reached? reached).1
      exact ⟨text, component, reached, is⟩
  choose! rootOf reaches using each
  exact ⟨rootOf, reaches⟩

theorem isNeeded_of_mem {entry : Value × String} (mem : entry ∈ used)
    (is : component.Named (rootOf entry)) : isNeeded (used.map rootOf) component := by
  rw [isNeeded, is.name_eq, Bool.or_eq_true]
  exact .inr (decide_eq_true (mem_map_of_mem mem))

/-- Dropping components that are not needed keeps the root of every parameter. -/
theorem Reaches.rooted {front back : Components} (reaches : Reaches (front ++ back) used rootOf) :
    Rooted (front ++ back.filter (isNeeded (used.map rootOf))) used rootOf := by
  intro entry mem
  obtain ⟨component, found, is⟩ := reaches entry mem
  exact root_eq is.name_eq (reached?_append_filter (isNeeded_of_mem mem is) found)

/-- The loop comes to each place of the list with the needed ones of the components behind it. -/
theorem Reaches.pruned_eq (named : ∀ c ∈ components, ∃ text, c.Named text)
    (reaches : Reaches components used rootOf) {front back : Components}
    (split : components = front ++ back) : pruned components used =
      prunedFrom used front.reverse (back.filter (isNeeded (used.map rootOf))) := by
  induction back generalizing front with
  | nil => rw [split, append_nil]; rfl
  | cons component back ih =>
    have before := split.trans (append_cons front component back)
    obtain ⟨text, is⟩ := named component (by simp [split])
    have used_eq := (Reaches.rooted (before ▸ reaches)).isUsed_eq is
    rw [ih before, filter_cons, reverse_append, reverse_singleton, singleton_append, prunedFrom,
      reverse_cons, reverse_reverse, used_eq]
    cases isNeeded (used.map rootOf) component <;> rfl

/-- Parameters that a board takes have roots. While components are dropped and after it, each
parameter has the root it had, exactly the parents and the components whose names are roots are
kept, and a component is found for each root. -/
theorem pruned_needed (named : ∀ component ∈ components, ∃ text, component.Named text)
    (taken : ∀ entry ∈ used, ∃ isInput, components.checkUse isInput entry.1 entry.2 = .ok ()) :
    ∃ rootOf, let needed := isNeeded (used.map rootOf)
      (∀ front back, components = front ++ back →
        pruned components used = prunedFrom used front.reverse (back.filter needed) ∧
        Rooted (front ++ back.filter needed) used rootOf) ∧
      pruned components used = .ok (components.filter needed) ∧
      ∀ entry ∈ used, ∃ component, Glue.target (components.filter needed) entry.1 entry.2 =
        .ok (.text (rootOf entry), component) := by
  obtain ⟨rootOf, reaches⟩ := exists_reaches named taken
  refine ⟨rootOf, fun front back split => ⟨reaches.pruned_eq named split, (split ▸ reaches).rooted⟩,
    reaches.pruned_eq named (nil_append _).symm, fun entry mem => ?_⟩
  have rooted := Reaches.rooted (show Reaches ([] ++ components) _ _ from reaches) entry mem
  obtain ⟨component, found, is⟩ := reaches entry mem
  have kept := mem_filter.mpr ⟨(mem_of_reached? found).1, isNeeded_of_mem mem is⟩
  obtain ⟨first, rest, having⟩ := exists_having (fun c mem => named c (mem_filter.mp mem).1) kept is
  refine ⟨first, ?_⟩
  rw [nil_append] at rooted
  simp only [Glue.target, rooted, bind, Except.bind, having]
  rfl

end Components

/-- A board with a parent, knobs that can also be read as switches, and an output. -/
def stompBox : Components :=
  let knob (name : String) : Value := .record [("name", .text name), ("component", .text "Knob"),
    ("direction", .text "input"), ("mapping", .list
      [.record [("name", .text "\x7bname\x7d"), ("get", .text "value")],
        .record [("name", .text "\x7bname\x7d_on"), ("get", .text "isOn")]])]
  [knob "gain", .record [("name", .text "som"), ("component", .text "Seed"), ("mapping", .list []),
    ("is_parent", .bool true)], knob "tone", .record [("name", .text "cv"),
    ("component", .text "CVOuts"), ("direction", .text "output"), ("mapping", .list
      [.record [("name", .text "\x7bname\x7d"), ("set", .text "write")]])]].map .ofValue

namespace Components

theorem eq_ok {α : Type} {result : Except Fault α} {a : α} (is : result.toOption = some a) :
    result = .ok a := by
  cases result with
  | ok => exact congrArg _ (Option.some.inj is)
  | error => nomatch is

/-- Of two knobs the one stays that is read. -/
theorem pruned_stompBox : ∃ rootOf, let used := [(.text "tone_on", "Tone_On"), (.text "cv", "cv")]
    let left := stompBox.filter (isNeeded (used.map rootOf))
    stompBox.pruned used = .ok left ∧ left.map (·.name.toOption.map Value.display) =
      [some "som", some "tone", some "cv"] := by
  have named : ∀ component ∈ stompBox, ∃ text, component.Named text := by
    simp only [stompBox, map_cons, map_nil, forall_mem_cons]
    exact ⟨⟨_, _, rfl, rfl⟩, ⟨_, _, rfl, rfl⟩, ⟨_, _, rfl, rfl⟩, ⟨_, _, rfl, rfl⟩, by simp⟩
  have taken : ∀ entry ∈ [(.text "tone_on", "Tone_On"), (.text "cv", "cv")],
      ∃ isInput, stompBox.checkUse isInput entry.1 entry.2 = .ok () := by
    simp only [forall_mem_cons]
    exact ⟨⟨true, eq_ok (by decide +kernel)⟩, ⟨false, eq_ok (by decide +kernel)⟩, by simp⟩
  obtain ⟨rootOf, -, eq, -⟩ := pruned_needed named taken
  have names : (stompBox.pruned [(.text "tone_on", "Tone_On"), (.text "cv", "cv")]).toOption.map
      (·.map (·.name.toOption.map Value.display)) =
        some [some "som", some "tone", some "cv"] := by decide +kernel
  rw [eq] at names
  exact ⟨rootOf, eq, Option.some.inj names⟩

end Components

namespace Glue

variable {object : String} {glue made : Glue} {entry : Value × String}

/-- Steps that succeed keep an invariant of the part that has been gone through. -/
theorem foldlM_ok {α β : Type} {step : β → α → Except Fault β} {xs : List α} {init last : β}
    (inv : List α → β → Prop) (start : inv [] init)
    (turn : ∀ done x v next, inv done v → step v x = .ok next → inv (done ++ [x]) next)
    (ok : xs.foldlM step init = .ok last) : inv xs last := by
  induction xs using reverseRecOn generalizing last with
  | nil => exact Except.ok.inj ok ▸ start
  | append_singleton xs x ih =>
    rw [foldlM_append] at ok
    obtain ⟨mid, first, snd⟩ := Except.bind_eq_ok.mp ok
    exact turn xs x mid last (ih first) (by simpa using snd)

/-- A step adds an input of its parameter. -/
theorem addInput_ok (ok : addInput components object glue entry = .ok made) :
    made.inputs.map (·.parameter) = glue.inputs.map (·.parameter) ++ [entry.2] ∧
      made.outputs = glue.outputs := by
  simp only [addInput, Except.bind_eq_ok] at ok
  obtain ⟨⟨root, component⟩, -, kind, -, way, -, text, -, opening, -, pattern, -, ok⟩ := ok
  split at ok <;> obtain ⟨wording, -, code, -, ok⟩ := ok <;> obtain rfl := Except.ok.inj ok <;> simp

/-- A step adds an output of its parameter, with the number of outputs before it. -/
theorem addOutput_ok (ok : addOutput components object glue entry = .ok made) :
    made.inputs = glue.inputs ∧
      made.outputs.map (·.parameter) = glue.outputs.map (·.parameter) ++ [entry.2] ∧
      made.outputs.map (·.index) = glue.outputs.map (·.index) ++ [glue.outputs.length] := by
  simp only [addOutput, Except.bind_eq_ok] at ok
  obtain ⟨⟨root, component⟩, -, way, -, opening, -, place, -, pattern, -, code, -, ok⟩ := ok
  cases place <;> obtain rfl := Except.ok.inj ok <;> simp

/-- Setting an entry adds one if no entry has its name, and has no more entries otherwise. -/
theorem setNamed_ok {name : Value} {parameter : String} {all next : List (Value × String)}
    (ok : setNamed name parameter all = .ok next) :
    (∀ entry ∈ all, entry.1.equals name = false) ∧ next = all ++ [(name, parameter)] ∨
      (∃ entry ∈ all, entry.1.equals name = true) ∧ next.length = all.length := by
  induction all generalizing next with
  | nil =>
    unfold setNamed at ok
    split at ok
    · nomatch ok
    · nomatch ok
    · exact .inl ⟨nofun, (Except.ok.inj ok).symm⟩
  | cons entry all ih =>
    rw [setNamed] at ok
    split at ok
    · next same =>
      obtain rfl := Except.ok.inj ok
      exact .inr ⟨⟨_, mem_cons_self, same⟩, rfl⟩
    · next other =>
      obtain ⟨rest, later, eq⟩ := Except.bind_eq_ok.mp ok
      obtain rfl := Except.ok.inj eq
      obtain ⟨fresh, rfl⟩ | ⟨⟨entry, mem, same⟩, length⟩ := ih later
      · exact .inl ⟨forall_mem_cons.mpr ⟨by simpa using other, fresh⟩, rfl⟩
      · exact .inr ⟨⟨entry, .tail _ mem, same⟩, congrArg (· + 1) length⟩

theorem foldlM_setNamed_ok {aliases : Value} {parameters : List String}
    {all entries : List (Value × String)} (ok : parameters.foldlM (fun all parameter => do
      setNamed (← components.dealiased aliases parameter) parameter all) all = .ok entries) :
    ∃ names, parameters.mapM (components.dealiased aliases) = .ok names ∧
      entries.length ≤ all.length + parameters.length ∧
      (entries.map (·.2) = all.map (·.2) ++ parameters ↔
        names.Pairwise (fun a b => a.equals b = false) ∧
        ∀ entry ∈ all, ∀ name ∈ names, entry.1.equals name = false) := by
  induction parameters generalizing all with
  | nil =>
    obtain rfl := Except.ok.inj ok
    exact ⟨[], rfl, le_rfl, by simp⟩
  | cons parameter parameters ih =>
    rw [foldlM_cons] at ok
    obtain ⟨next, first, rest⟩ := Except.bind_eq_ok.mp ok
    obtain ⟨name, asked, set⟩ := Except.bind_eq_ok.mp first
    obtain ⟨names, mapped, le, iff⟩ := ih rest
    refine ⟨name :: names, by rw [mapM_cons, asked, mapped]; rfl, ?_⟩
    obtain ⟨fresh, rfl⟩ | ⟨⟨entry, mem, same⟩, length⟩ := setNamed_ok set
    · refine ⟨by simp at le ⊢; omega, ?_⟩
      simp only [map_append, map_cons, map_nil, append_assoc, singleton_append] at iff
      rw [iff, pairwise_cons, forall_mem_append, forall_mem_singleton]
      simp only [forall_mem_cons]
      exact ⟨fun ⟨pairs, old, new⟩ => ⟨⟨new, pairs⟩, fun e mem => ⟨fresh e mem, old e mem⟩⟩,
        fun ⟨⟨new, pairs⟩, old⟩ => ⟨pairs, fun e mem => (old e mem).2, new⟩⟩
    · refine ⟨by simp; omega, fun eq => ?_, fun ⟨_, apart⟩ => ?_⟩
      · have := congrArg List.length eq
        simp at this
        omega
      · simp [apart entry mem name mem_cons_self] at same

/-- Each parameter has an entry of its own exactly if no two of a direction go by one name. The
entries of outputs are numbered from zero, and are as many as the glue says. -/
theorem all_listed_iff {inputs outputs : List String} {aliases : Value} {left : Components}
    (ok : ofParameters inputs outputs components aliases object = .ok (glue, left)) :
    ∃ read written, inputs.mapM (components.dealiased aliases) = .ok read ∧
      outputs.mapM (components.dealiased aliases) = .ok written ∧
      (glue.inputs.map (·.parameter) = inputs ↔ read.Pairwise fun a b => a.equals b = false) ∧
      (glue.outputs.map (·.parameter) = outputs ↔ written.Pairwise fun a b => a.equals b = false) ∧
      glue.outputs.map (·.index) = range glue.outputs.length ∧
      glue.toRecord.get? "output_comps" = some (.int glue.outputs.length) := by
  simp only [ofParameters, Except.bind_eq_ok] at ok
  obtain ⟨ins, readNames, outs, writtenNames, -, -, -, -, kept, -, first, added, last, finished,
    eq⟩ := ok
  obtain ⟨rfl, rfl⟩ := Prod.mk.inj (Except.ok.inj eq)
  obtain ⟨read, reads, -, reading⟩ := foldlM_setNamed_ok readNames
  obtain ⟨written, writes, -, writing⟩ := foldlM_setNamed_ok writtenNames
  have afterInputs := foldlM_ok (fun done glue =>
    glue.inputs.map (·.parameter) = done.map (·.2) ∧ glue.outputs = []) ⟨rfl, rfl⟩
    (fun done entry glue next ⟨names, empty⟩ ok => by simp [addInput_ok ok, names, empty]) added
  have afterOutputs := foldlM_ok (fun done glue => glue.inputs = first.inputs ∧
    glue.outputs.map (·.parameter) = done.map (·.2) ∧
    glue.outputs.map (·.index) = range glue.outputs.length) (by simp [afterInputs.2])
    (fun done entry glue next ⟨same, names, indices⟩ ok => by
      have length := congrArg List.length (addOutput_ok ok).2.1
      simp only [length_map, length_append, length_singleton] at length
      simp [addOutput_ok ok, same, names, indices, length, range_succ]) finished
  refine ⟨read, written, reads, writes, ?_, ?_, afterOutputs.2.2, rfl⟩
  · rw [afterOutputs.1, afterInputs.1]
    simpa using reading
  · rw [afterOutputs.2.1]
    simpa using writing

theorem listed_stompBox : ∃ glue left, ofParameters ["Gain", "Tone_On"] ["cv"] stompBox
    (.record [("level", .text "gain")]) "hardware" = .ok (glue, left) ∧
      glue.inputs.map (·.parameter) = ["Gain", "Tone_On"] ∧
      glue.outputs.map (·.parameter) = ["cv"] ∧
      glue.outputs.map (·.index) = range glue.outputs.length := by
  obtain ⟨⟨glue, left⟩, made⟩ := Option.isSome_iff_exists.mp (show (ofParameters
    ["Gain", "Tone_On"] ["cv"] stompBox (.record [("level", .text "gain")])
    "hardware").toOption.isSome by decide +kernel)
  obtain ⟨read, written, reads, writes, ins, outs, indices, -⟩ :=
    all_listed_iff (Components.eq_ok made)
  have apart : ∀ names ∈ [["Gain", "Tone_On"], ["cv"]], (names.mapM (stompBox.dealiased
      (.record [("level", .text "gain")]))).toOption.all fun values =>
        values.Pairwise fun a b => a.equals b = false := by decide +kernel
  simp only [forall_mem_cons, reads, writes, Except.toOption, Option.all_some,
    decide_eq_true_eq] at apart
  exact ⟨glue, left, Components.eq_ok made, ins.mpr apart.1, outs.mpr apart.2.1, indices⟩

/-- A parameter that goes by an alias takes the entry of the one that goes by the name. -/
theorem listed_level : ∃ glue left, ofParameters ["gain", "level"] [] stompBox
    (.record [("level", .text "gain")]) "hardware" = .ok (glue, left) ∧
      glue.inputs.map (·.parameter) = ["level"] := by
  obtain ⟨⟨glue, left⟩, ok, eq⟩ := Option.map_eq_some_iff.mp (show (ofParameters
    ["gain", "level"] [] stompBox (.record [("level", .text "gain")]) "hardware").toOption.map
    (·.1.inputs.map (·.parameter)) = some ["level"] by decide +kernel)
  exact ⟨glue, left, Components.eq_ok ok, eq⟩

end Glue

end PatchCompiler
