import Mathlib.Data.List.MinMax
import PatchCompiler.Net.Reader
import PatchCompiler.Proofs.Run
import PatchCompiler.Proofs.Substitution

/-!
# Arguments of a graph in the arguments of its objects

A text may refer to arguments of the graph. The references are replaced one after the other, in the
order in which the graph lists its arguments. Where the order cannot matter all of them are replaced
at once. A text with a reference to something else stops the reading.
-/

namespace PatchCompiler

open List Text

namespace Text

variable {mark : Char} {refs done : List (List Char × List Char)} {ref : List Char × List Char}
  {cs : List Char}

theorem exists_of_pick (eq : pick refs cs = some ref) :
    ref ∈ refs ∧ ∃ rest, cs = ref.1 ++ rest := by
  have start : ref.1.isPrefixOf cs = true := by simpa using find?_some eq
  obtain ⟨rest, whole⟩ := isPrefixOf_iff_prefix.mp start
  exact ⟨mem_of_find?_eq_some eq, rest, whole.symm⟩

theorem eq_nil_of_substitute (filled : ∀ ref ∈ refs, ref.2 ≠ [])
    (eq : substitute mark (pick refs) cs = []) : cs = [] := by
  cases cs with
  | nil => rfl
  | cons c cs =>
    by_cases marked : c = mark
    · subst marked
      cases found : pick refs cs with
      | none => simp [substitute_missing found] at eq
      | some ref =>
        obtain ⟨mem, rest, rfl⟩ := exists_of_pick found
        rw [substitute_found found, append_eq_nil_iff] at eq
        exact absurd eq.1 (filled ref mem)
    · simp [substitute_other marked] at eq

theorem Apart.substitute_eq_cons_iff (apart : Apart mark refs) (sub : done ⊆ refs)
    (firm : Firm mark refs cs) (filled : ∀ ref ∈ refs, ref.2 ≠ []) (mem : ref ∈ refs)
    (new : ref ∉ done) : substitute mark (pick done) cs = mark :: ref.1 ↔ cs = mark :: ref.1 := by
  constructor
  · intro eq
    cases cs with
    | nil => cases eq
    | cons c cs =>
      by_cases marked : c = mark
      · subst marked
        cases found : pick done cs with
        | none =>
          rw [substitute_missing found, cons_inj_right] at eq
          obtain ⟨rest, rfl⟩ := apart.prefix_of_prefix_substitute firm mem
            ⟨[], by rw [eq, append_nil]⟩
          rw [substitute_append (apart.unmarked ref mem).1, append_right_eq_self] at eq
          rw [eq_nil_of_substitute (fun ref mem => filled ref (sub mem)) eq, append_nil]
        | some other =>
          obtain ⟨old, rest, rfl⟩ := exists_of_pick found
          rw [substitute_found found, append_eq_cons_iff] at eq
          rcases eq with ⟨none, -⟩ | ⟨tail, some, -⟩
          · exact absurd none (filled other (sub old))
          · exact absurd (some ▸ mem_cons_self) (apart.unmarked other (sub old)).2
      · rw [substitute_other marked, List.cons.injEq] at eq
        exact absurd eq.1 marked
  · rintro rfl
    rw [substitute_missing, substitute_of_not_mem (apart.unmarked ref mem).1]
    exact pick_eq_none_iff.mpr fun other old start =>
      new (apart.unlike other (sub old) ref mem start ▸ old)

end Text

namespace Record

def references (env : Record) : List (List Char × List Char) :=
  env.map fun argument => (argument.1.toList, argument.2.display.toList)

/-- The longest name with which a text begins, and the text of the argument. -/
def longest (env : Record) (cs : List Char) : Option (List Char × List Char) :=
  (env.references.filter fun ref => ref.1.isPrefixOf cs).argmax fun ref => ref.1.length

/-- What a text stands for: an argument if it is just a reference, and else the text with the texts
of arguments in the place of all references. -/
def meaning (env : Record) (s : String) : Value :=
  match env.find? fun argument => s == "$" ++ argument.1 with
  | some argument => argument.2
  | none => .text (.ofList (substitute '$' env.longest s.toList))

def Resolves (env : Record) (s : String) : Prop :=
  '$' ∉ substitute '$' env.longest s.toList

/-- No name is the beginning of another, and texts of arguments cannot be taken for references. -/
structure Unmixed (env : Record) : Prop where
  nodup : env.Nodup
  unlike : ∀ a ∈ env, ∀ b ∈ env, a.1.toList <+: b.1.toList → a = b
  plain : ∀ argument ∈ env, '$' ∉ argument.1.toList ∧ '$' ∉ argument.2.display.toList ∧
    argument.2.display ≠ ""

theorem Unmixed.apart {env : Record} (unmixed : env.Unmixed) : Apart '$' env.references where
  unmarked := by
    intro ref mem
    obtain ⟨argument, known, rfl⟩ := mem_map.mp mem
    exact ⟨(unmixed.plain argument known).1, (unmixed.plain argument known).2.1⟩
  unlike := by
    intro a memA b memB le
    obtain ⟨x, knownX, rfl⟩ := mem_map.mp memA
    obtain ⟨y, knownY, rfl⟩ := mem_map.mp memB
    rw [unmixed.unlike x knownX y knownY le]

theorem Unmixed.longest_eq {env : Record} (unmixed : env.Unmixed) :
    env.longest = pick env.references := by
  funext cs
  cases eq : env.longest cs with
  | none =>
    rw [longest, argmax_eq_none, filter_eq_nil_iff] at eq
    exact (pick_eq_none_iff.mpr fun ref mem start =>
      eq ref mem <| isPrefixOf_iff_prefix.mpr start).symm
  | some ref =>
    obtain ⟨mem, start⟩ := mem_filter.mp (argmax_mem eq)
    have begins := isPrefixOf_iff_prefix.mp start
    exact (unmixed.apart.pick_eq (List.Subset.refl _) mem begins).symm

theorem toList_reference (name : String) : ("$" ++ name).toList = '$' :: name.toList := by
  rw [String.toList_append]
  rfl

theorem resolveText_cons (argument : String × Value) (rest : Record) (s : String) :
    resolveText (argument :: rest) s = if s = "$" ++ argument.1 then argument.2 else
      resolveText rest (replaceText ("$" ++ argument.1) argument.2.display s) := by
  rw [resolveText]
  by_cases found : hasText ("$" ++ argument.1) s = true
  · simp only [found, if_true, beq_iff_eq]
  · have ne : s ≠ "$" ++ argument.1 := by
      rintro rfl
      exact found (hasPart_iff.mpr infix_rfl)
    have same : replaceText ("$" ++ argument.1) argument.2.display s = s := by
      rw [replaceText, replaceAll_of_not_hasPart (Bool.eq_false_of_not_eq_true found),
        String.ofList_toList]
    rw [if_neg found, if_neg ne, same]

theorem Unmixed.resolveText_substitute {env done order : Record} (unmixed : env.Unmixed)
    (perm : (order ++ done).Perm env) {s : String} (firm : Firm '$' env.references s.toList) :
    resolveText order (.ofList (substitute '$' (pick done.references) s.toList)) =
      match order.find? fun argument => s == "$" ++ argument.1 with
      | some argument => argument.2
      | none => .text (.ofList (substitute '$' env.longest s.toList)) := by
  induction order generalizing done with
  | nil =>
    have same := unmixed.apart.pick_congr
      fun ref => (perm.map _ : done.references.Perm env.references).mem_iff
    rw [unmixed.longest_eq, ← funext same]
    rfl
  | cons argument order ih =>
    have mem : argument ∈ env := perm.subset mem_cons_self
    have sub : done.references ⊆ env.references :=
      map_subset _ fun old mem => perm.subset (mem_append_right _ mem)
    have new : (argument.1.toList, argument.2.display.toList) ∉ done.references := by
      intro old
      obtain ⟨other, isOld, eq⟩ := mem_map.mp old
      have known := perm.subset (mem_append_right _ isOld)
      have same := unmixed.unlike other known argument mem ⟨[], by simpa using congrArg Prod.fst eq⟩
      have nodup := nodup_append.mp (perm.nodup_iff.mpr unmixed.nodup)
      exact nodup.2.2 _ mem_cons_self _ isOld same.symm
    have filled : ∀ ref ∈ env.references, ref.2 ≠ [] := by
      intro ref isRef
      obtain ⟨other, known, rfl⟩ := mem_map.mp isRef
      simpa using (unmixed.plain other known).2.2
    have next := @ih (argument :: done) (perm_middle.trans perm)
    have step := unmixed.apart.replaceAll_substitute sub (mem_map_of_mem mem) firm
    have exact : String.ofList (substitute '$' (pick done.references) s.toList) =
        "$" ++ argument.1 ↔ s = "$" ++ argument.1 := by
      have one := unmixed.apart.substitute_eq_cons_iff sub firm filled (mem_map_of_mem mem) new
      rwa [← String.toList_inj, String.toList_ofList, ← String.toList_inj, toList_reference]
    have replaced : replaceText ("$" ++ argument.1) argument.2.display
        (.ofList (substitute '$' (pick done.references) s.toList)) =
          .ofList (substitute '$' (pick (references (argument :: done))) s.toList) := by
      rw [replaceText, String.toList_ofList, toList_reference]
      exact congrArg _ step
    rw [resolveText_cons, replaced, next, find?_cons]
    by_cases same : s = "$" ++ argument.1
    · rw [if_pos (exact.mpr same), beq_iff_eq.mpr same]
    · rw [if_neg fun eq => same (exact.mp eq), beq_eq_false_iff_ne.mpr same]

theorem find?_perm {α : Type} {p : α → Bool} {xs ys : List α} (perm : xs.Perm ys)
    (unique : ∀ a ∈ ys, ∀ b ∈ ys, p a = true → p b = true → a = b) : xs.find? p = ys.find? p := by
  cases found : ys.find? p with
  | none =>
    rw [find?_eq_none] at found ⊢
    exact fun a mem => found a (perm.mem_iff.mp mem)
  | some a =>
    have mem := mem_of_find?_eq_some found
    cases other : xs.find? p with
    | none =>
      exact absurd (find?_some found) (find?_eq_none.mp other a (perm.mem_iff.mpr mem))
    | some b =>
      have known := perm.mem_iff.mp (mem_of_find?_eq_some other)
      rw [unique a mem b known (find?_some found) (find?_some other)]

theorem Unmixed.resolveText_perm {env order : Record} (unmixed : env.Unmixed)
    (perm : order.Perm env) {s : String} (firm : Firm '$' env.references s.toList) :
    resolveText order s = env.meaning s := by
  have all := @resolveText_substitute env [] order unmixed (by simpa using perm) s firm
  have start : pick (references []) = pick [] := rfl
  rw [start, substitute_pick_nil, String.ofList_toList] at all
  have same : order.find? (fun argument => s == "$" ++ argument.1) =
      env.find? fun argument => s == "$" ++ argument.1 := by
    refine find?_perm perm fun a memA b memB isA isB => unmixed.unlike a memA b memB ?_
    rw [beq_iff_eq, ← String.toList_inj, toList_reference] at isA isB
    rw [cons_injective (isA.symm.trans isB)]
  rw [all, same]
  rfl

theorem hasText_dollar (s : String) : hasText "$" s = true ↔ '$' ∈ s.toList :=
  hasPart_iff.trans (singleton_infix_iff '$' s.toList)

theorem Unmixed.isUnresolved_iff {env : Record} (unmixed : env.Unmixed) {s : String} :
    isUnresolved (env.meaning s) = true ↔ ¬ env.Resolves s := by
  unfold meaning
  cases found : env.find? fun argument => s == "$" ++ argument.1 with
  | none =>
    simp only [isUnresolved, hasText_dollar, String.toList_ofList, Resolves, not_not]
  | some argument =>
    have mem := mem_of_find?_eq_some found
    have eq : s = "$" ++ argument.1 := by simpa using find?_some found
    have plain := (unmixed.plain argument mem).2.1
    have settled : isUnresolved argument.2 = false := by
      cases value : argument.2 <;> simp only [isUnresolved]
      rw [← Bool.not_eq_true, hasText_dollar]
      rwa [value] at plain
    have text : substitute '$' env.longest s.toList = argument.2.display.toList := by
      have picked := unmixed.apart.pick_eq (List.Subset.refl _) (mem_map_of_mem mem)
        (prefix_append _ [])
      rw [unmixed.longest_eq, eq, toList_reference, ← append_nil argument.1.toList,
        substitute_found picked, substitute_nil, append_nil]
    simp [settled, Resolves, text, plain]

theorem meaning_of_not_mem {env : Record} {s : String} (plain : '$' ∉ s.toList) :
    env.meaning s = .text s ∧ env.Resolves s := by
  have same : substitute '$' env.longest s.toList = s.toList := substitute_of_not_mem plain
  have none : env.find? (fun argument => s == "$" ++ argument.1) = none := by
    refine find?_eq_none.mpr fun argument _ eq => plain ?_
    rw [beq_iff_eq.mp eq, toList_reference]
    exact mem_cons_self
  rw [Resolves, meaning, none, same]
  exact ⟨congrArg _ String.ofList_toList, plain⟩

def valueOf (env : Record) : Value → Value
  | .text s => env.meaning s
  | value => value

theorem set_append {first rest : Record} {name : String} {old new : Value}
    (free : name ∉ first.map Prod.fst) :
    Record.set (first ++ (name, old) :: rest) name new = first ++ (name, new) :: rest := by
  induction first with
  | nil => simp [Record.set]
  | cons field first ih =>
    rw [map_cons, mem_cons, not_or] at free
    rw [cons_append, Record.set, if_neg fun eq => free.1 eq.symm, ih free.2, cons_append]

/-- The fields that have been gone through have the values that they stand for. -/
structure Treated (env fields done resolved : Record) : Prop where
  eq : resolved = (done.map fun field => (field.1, env.valueOf field.2)) ++ fields.drop done.length
  settled : ∀ name s, (name, Value.text s) ∈ done → env.Resolves s

section Treated

variable {env fields done rest resolved : Record} {name : String} {value : Value}

theorem Treated.set_eq (treated : Treated env fields done resolved)
    (distinct : (fields.map Prod.fst).Nodup) (split : fields = done ++ (name, value) :: rest)
    (new : Value) : resolved.set name new =
      (done.map fun field => (field.1, env.valueOf field.2)) ++ (name, new) :: rest := by
  have free : name ∉ (done.map fun field => (field.1, env.valueOf field.2)).map Prod.fst := by
    rw [split, map_append, nodup_append] at distinct
    intro old
    rw [map_map] at old
    exact distinct.2.2 name old name mem_cons_self rfl
  rw [treated.eq, split, drop_left, set_append free]

theorem Treated.next (treated : Treated env fields done resolved)
    (distinct : (fields.map Prod.fst).Nodup) (split : fields = done ++ (name, value) :: rest)
    (settled : ∀ s, value = .text s → env.Resolves s) :
    Treated env fields (done ++ [(name, value)]) (resolved.set name (env.valueOf value)) where
  eq := by
    rw [treated.set_eq distinct split, split, map_append, length_append,
      ← drop_drop, drop_left, append_assoc]
    rfl
  settled := by
    intro field s mem
    rcases mem_append.mp mem with old | new
    · exact treated.settled field s old
    · obtain ⟨-, eq⟩ := Prod.ext_iff.mp (mem_singleton.mp new)
      exact settled s eq.symm

end Treated

end Record

namespace Build

open Record

theorem guarded_resolveArguments {net : Net} {graph : Ref} {env arguments : Record}
    (listed : (net.node graph).arguments.Perm env) (unmixed : env.Unmixed)
    (distinct : (arguments.map Prod.fst).Nodup)
    (firm : ∀ name s, (name, Value.text s) ∈ arguments → Firm '$' env.references s.toList) :
    Guarded (fun fault => fault = .changedWhileReading ∧
        ∃ name s, (name, Value.text s) ∈ arguments ∧ ¬ env.Resolves s)
      (resolveArguments graph arguments) net fun result last => last = net ∧
        result = (arguments.map fun field => (field.1, env.valueOf field.2)) ∧
        ∀ name s, (name, Value.text s) ∈ arguments → env.Resolves s := by
  unfold resolveArguments
  apply Guarded.bind_run (run_node graph net)
  apply Guarded.bind (Guarded.forIn (fun done resolved cur =>
    cur = net ∧ Treated env arguments done resolved) ⟨rfl, rfl, nofun⟩ ?_)
  · rintro resolved _ ⟨rfl, treated⟩
    exact .pure ⟨rfl, by simpa using treated.eq, treated.settled⟩
  · rintro done ⟨name, value⟩ rest resolved _ split ⟨rfl, treated⟩
    have mem : (name, value) ∈ arguments := split ▸ mem_append_right _ mem_cons_self
    have next := treated.next distinct split
    have kept : env.valueOf value = value → (∀ s, value = .text s → env.Resolves s) →
        Treated env arguments (done ++ [(name, value)]) resolved := by
      intro same settled
      have set := next settled
      have tail := treated.eq
      rw [split, drop_left] at tail
      rwa [same, treated.set_eq distinct split, ← tail] at set
    cases value with
    | text s =>
      by_cases dollar : hasText "$" s = true
      · have meant := unmixed.resolveText_perm listed (firm name s mem)
        simp only [dollar, if_true, meant]
        by_cases unresolved : isUnresolved (env.meaning s) = true
        · rw [if_pos unresolved]
          exact Guarded.bind_run (run_change _ _ _)
            (.throw ⟨rfl, name, s, mem, unmixed.isUnresolved_iff.mp unresolved⟩)
        · rw [if_neg unresolved]
          refine .pure ⟨_, rfl, rfl, next fun t eq => ?_⟩
          rw [unmixed.isUnresolved_iff, not_not] at unresolved
          cases eq
          exact unresolved
      · simp only [dollar]
        obtain ⟨same, settled⟩ := meaning_of_not_mem fun here =>
          dollar ((hasText_dollar s).mpr here)
        exact .pure ⟨_, rfl, rfl, kept same fun t eq => by cases eq; exact settled⟩
    | _ => exact .pure ⟨_, rfl, rfl, kept rfl nofun⟩

/-- Where the arguments of a graph cannot be mixed up, the arguments of an object get the values
that they stand for, whatever the order of the arguments of the graph, if every text resolves. If
one does not, there is no result. -/
theorem resolveArguments_valueOf {net : Net} {graph : Ref} {env arguments : Record}
    (listed : (net.node graph).arguments.Perm env) (unmixed : env.Unmixed)
    (distinct : (arguments.map Prod.fst).Nodup)
    (firm : ∀ name s, (name, Value.text s) ∈ arguments → Firm '$' env.references s.toList) :
    ((∀ name s, (name, Value.text s) ∈ arguments → env.Resolves s) →
      (resolveArguments graph arguments).run net =
        .ok (arguments.map fun field => (field.1, env.valueOf field.2)) net) ∧
    ((∃ name s, (name, Value.text s) ∈ arguments ∧ ¬ env.Resolves s) →
      ∃ last, (resolveArguments graph arguments).run net = .error .changedWhileReading last) := by
  have guarded := guarded_resolveArguments listed unmixed distinct firm
  unfold Guarded at guarded
  split at guarded
  next result last run =>
    obtain ⟨rfl, rfl, all⟩ := guarded
    exact ⟨fun _ => run, fun ⟨name, s, mem, not⟩ => absurd (all name s mem) not⟩
  next fault last run =>
    obtain ⟨rfl, name, s, mem, not⟩ := guarded
    exact ⟨fun all => absurd (all name s mem) not, fun _ => ⟨last, run⟩⟩

end Build

namespace Dial

def env : Record := [("rate", .int 5), ("gain", .text "low")]

def net : Net where
  nodes := #[{ (default : Node) with arguments := [("gain", .text "low"), ("rate", .int 5)] }]

def fields : Record := [("k", .text "$rate"), ("name", .text "$gain-$rate"), ("size", .int 2)]

theorem unmixed : env.Unmixed where
  nodup := by simp [env]
  unlike := by simp [env]
  plain := by decide

theorem texts {name s : String} (mem : (name, Value.text s) ∈ fields) :
    s = "$rate" ∨ s = "$gain-$rate" := by
  simp only [fields, mem_cons, Prod.mk.injEq, Value.text.injEq, reduceCtorEq, and_false,
    not_mem_nil, or_false] at mem
  exact mem.imp And.right And.right

theorem firm : ∀ name s, (name, Value.text s) ∈ fields → Firm '$' env.references s.toList := by
  intro name s mem
  unfold Firm
  rcases texts mem with rfl | rfl <;> decide

theorem resolves : ∀ name s, (name, Value.text s) ∈ fields → env.Resolves s := by
  intro name s mem
  unfold Record.Resolves
  rcases texts mem with rfl | rfl <;> decide

theorem dial_resolved : (net.node 0).arguments.Perm env ∧
    (Build.resolveArguments 0 fields).run net =
      .ok [("k", .int 5), ("name", .text "low-5"), ("size", .int 2)] net := by
  have listed : (net.node 0).arguments.Perm env := List.Perm.swap _ _ _
  exact ⟨listed, (Build.resolveArguments_valueOf listed unmixed (by decide) firm).1 resolves⟩

/-- A graph without arguments, and an object with a reference among its arguments: there is no
result, although the other argument needs no graph. -/
theorem not_resolved : ¬ ∃ result last, (Build.resolveArguments 0
    [("k", .text "$rate"), ("size", .int 2)]).run Net.empty = .ok result last := by
  rintro ⟨result, last, ⟨⟩⟩

end Dial

end PatchCompiler
