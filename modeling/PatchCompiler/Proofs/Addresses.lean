import PatchCompiler.Platform.Owl
import PatchCompiler.Proofs.Labels
import PatchCompiler.Proofs.Senders

/-!
# The table of a pedal

The table of channels gives every receiver and sender a hash, which is computed anew from the name
that stands in the program. For a sender that is the name it has. For a receiver it is its name in
code, so the hash is another one than the program has if the name starts with a digit.
-/

namespace PatchCompiler

open List Build

theorem Except.bind_eq_ok {α β : Type} {first : Except Fault α} {next : α → Except Fault β} {b : β} :
    first >>= next = .ok b ↔ ∃ a, first = .ok a ∧ next a = .ok b := by
  cases first <;> simp [bind, Except.bind]

theorem exists_of_mem_mapM {α β : Type} {f : α → Except Fault β} {xs : List α} {ys : List β}
    (done : xs.mapM f = .ok ys) {y : β} (mem : y ∈ ys) : ∃ x ∈ xs, f x = .ok y := by
  induction xs generalizing ys with
  | nil =>
    cases done
    cases mem
  | cons x rest ih =>
    simp only [mapM_cons, Except.bind_eq_ok] at done
    obtain ⟨z, first, zs, post, eq⟩ := done
    cases eq
    rcases mem_cons.mp mem with rfl | inRest
    · exact ⟨x, mem_cons_self, first⟩
    · obtain ⟨other, inXs, got⟩ := ih post inRest
      exact ⟨other, mem_cons_of_mem _ inXs, got⟩

namespace Channel

theorem find_eq_some {side : ChannelSide} {name attributes : Value} {row : Channel}
    (got : find side name attributes = .ok (some row)) : row.side = side ∧ row.name = name.display ∧
      ∃ hash, Hash.ofValue name = .ok hash ∧ row.hash = Hash.literal hash := by
  obtain ⟨raw, -, got⟩ := Except.bind_eq_ok.mp got
  split at got
  · simp only [Except.bind_eq_ok] at got
    obtain ⟨hash, hashed, least, -, greatest, -, standard, -, eq⟩ := got
    cases eq
    exact ⟨rfl, rfl, hash, hashed, rfl⟩
  · obtain ⟨text, isText, made⟩ := Except.bind_eq_ok.mp got
    obtain rfl : name = .text text := by
      cases name <;> simp_all [Value.needText]
    split at made
    · obtain ⟨hash, hashed, eq⟩ := Except.bind_eq_ok.mp made
      cases eq
      exact ⟨rfl, rfl, hash, hashed, rfl⟩
    · cases made

theorem mem_ofReceivers {program : Program} {rows : List Channel} {row : Channel}
    (done : ofReceivers program.toValue = .ok rows) (mem : row ∈ rows) :
    ∃ e ∈ program.receivers, row.side = .receiver ∧ row.name = e.1 ∧
      ∃ hash, Hash.ofText e.1 = .ok hash ∧ row.hash = Hash.literal hash := by
  obtain ⟨got, mapped, eq⟩ := Except.bind_eq_ok.mp
    (show (program.receivers.map fun e => (e.1, Value.record
      [("display", .text e.2.display), ("hash", .text e.2.hash),
        ("extern", e.2.exported), ("attributes", e.2.attributes),
        ("ids", .list [.text (program.label e.2.identity)])])).mapM _ >>= _ = _ from done)
  cases eq
  obtain ⟨_, inFound, rfl⟩ := mem_filterMap.mp mem
  obtain ⟨pair, inPairs, made⟩ := exists_of_mem_mapM mapped inFound
  obtain ⟨e, listed, rfl⟩ := mem_map.mp inPairs
  refine ⟨e, listed, ?_⟩
  dsimp only at made
  split at made
  · cases made
  · exact find_eq_some made

theorem mem_ofSenders {program : Program} {rows : List Channel} {row : Channel}
    (done : ofSenders program.toValue = .ok rows) (mem : row ∈ rows) :
    ∃ o ∈ program.objects, o.type = "__send" ∧ ∃ name,
      Record.get? (Program.relabelFields program.label o.arguments) "name" = some name ∧
      row.side = .sender ∧ row.name = name.display ∧
      ∃ hash, Hash.ofValue name = .ok hash ∧ row.hash = Hash.literal hash := by
  obtain rfl : (program.objects.map fun o => (program.label o.identity, Value.record
      [("args", .record (Program.relabelFields program.label o.arguments)),
        ("type", .text o.type)])).filterMap _ = rows := Except.ok.inj done
  obtain ⟨_, inPairs, made⟩ := mem_filterMap.mp mem
  obtain ⟨o, listed, rfl⟩ := mem_map.mp inPairs
  dsimp only at made
  split at made
  case h_2 => cases made
  next channel got =>
    subst made
    change (if (!(Value.text o.type).equals (.text "__send")) = true then pure none else _) = _ at got
    split at got
    · cases got
    next isSend =>
      obtain ⟨args, eq, got⟩ := Except.bind_eq_ok.mp got
      cases eq
      simp only [Except.bind_eq_ok] at got
      obtain ⟨name, called, attributes, -, got⟩ := got
      refine ⟨o, listed, by simpa [Value.equals] using isSend, name, ?_, find_eq_some got⟩
      unfold Value.need at called
      dsimp only at called
      split at called
      · next eq => cases called; exact eq
      · cases called

end Channel

namespace Hash

theorem literal_inj {a b : Nat} : literal a = literal b ↔ a = b := by
  refine ⟨fun eq => ?_, congrArg literal⟩
  have digits : (Nat.toDigits 16 a).map Char.toUpper = (Nat.toDigits 16 b).map Char.toUpper := by
    have tail : Text.hexadecimal a = Text.hexadecimal b := by simpa [literal] using eq
    exact String.ofList_injective tail
  clear eq
  have one : ∀ c < 16, ∀ d < 16,
      (Nat.digitChar c).toUpper = (Nat.digitChar d).toUpper → c = d := by decide
  induction a using Nat.strongRecOn generalizing b with
  | ind a ih =>
    rw [Nat.toDigits_eq_if (by decide), Nat.toDigits_eq_if (n := b) (by decide)] at digits
    split at digits <;> split at digits
    next small less => exact one a small b less (by simpa using digits)
    next => simp [Nat.toDigits_ne_nil, singleton_eq_append_iff] at digits
    next => simp [Nat.toDigits_ne_nil, append_eq_singleton_iff] at digits
    next large more =>
      rw [map_append, map_append] at digits
      obtain ⟨front, last⟩ := append_inj' digits rfl
      have quotients := ih (a / 16) (by omega) front
      have rests := one (a % 16) (by omega) (b % 16) (by omega) (by simpa using last)
      omega

end Hash

namespace Build

variable {net : Net} {g : Ref}

/-- A receiver stands under its name in code, with the hash of its own name. -/
def IsAddressed (entry : String × Program.Receiver) : Prop :=
  entry.1 = codeName entry.2.display ∧
    ∃ hash, Hash.ofText entry.2.display = .ok hash ∧ entry.2.hash = Hash.literal hash

theorem yields_any {α : Type} (step : Build α) : Yields step net fun _ _ => True := by
  cases run : step.run net <;> simp [Guarded, run]

theorem yields_nameHash {name : String} : Yields (nameHash name) net fun hash _ =>
    ∃ h, Hash.ofText name = .ok h ∧ hash = Hash.literal h :=
  .bind yields_ofExcept fun h _ eq => .pure ⟨h, eq.2, rfl⟩

theorem yields_receiverList : Yields (receiverList g) net fun receivers _ =>
    ∀ entry ∈ receivers, IsAddressed entry := by
  apply Guarded.bind_run (EStateM.run_get _)
  refine Guarded.bind (Guarded.forIn (fun _ receivers _ => ∀ entry ∈ receivers, IsAddressed entry)
    nofun ?_) fun _ _ all => .pure all
  rintro _ ⟨name, _ | ⟨o, os⟩⟩ _ all cur - addr
  · exact .pure ⟨all, rfl, addr⟩
  · refine .bind (yields_any _) fun _ _ _ => .bind (yields_any _) fun text _ _ =>
      .bind yields_nameHash fun hash _ hashed => .bind (yields_any _) fun _ _ _ =>
        .bind (yields_any _) fun _ _ _ => .pure ⟨_, rfl, fun entry mem => ?_⟩
    rcases mem_setEntry mem with rfl | old
    · exact ⟨rfl, hashed⟩
    · exact addr entry old

theorem yields_program {good : List Program.Object → Prop}
    (listed : ∀ depth, Yields (objectsWithin depth g) net fun objects _ => good objects) :
    Yields (program g) net fun program _ =>
      good program.objects ∧ ∀ entry ∈ program.receivers, IsAddressed entry := by
  apply Guarded.bind_run (EStateM.run_get _)
  exact .bind (listed _) fun _ _ fine => .bind (yields_any _) fun _ _ _ =>
    .bind (yields_any _) fun _ _ _ => .bind yields_receiverList fun _ _ addr =>
      .bind (yields_any _) fun _ _ _ => .bind (yields_any _) fun _ _ _ => .pure ⟨fine, addr⟩

end Build

namespace Record

theorem get?_relabelFields {fields : Record} {key : String} {label : Nat → String} :
    Record.get? (Program.relabelFields label fields) key =
      (fields.get? key).map (Program.relabel label) := by
  induction fields with
  | nil => rfl
  | cons field rest ih =>
    obtain ⟨name, value⟩ := field
    simp only [get?] at ih
    cases eq : key == name <;> simp [Program.relabelFields, get?, lookup_cons, eq, ih]

end Record

theorem Signed.relabel {arguments : Record} {label : Nat → String} {name : Value} {hash : Nat}
    (signed : Signed arguments)
    (called : Record.get? (Program.relabelFields label arguments) "name" = some name)
    (hashed : Hash.ofValue name = .ok hash) : arguments.get? "name" = some name ∧
      arguments.get? "hash" = some (.text (Hash.literal hash)) := by
  obtain ⟨own, _, given, eq, recorded⟩ := signed
  rw [Record.get?_relabelFields, given, Option.map_some] at called
  obtain rfl : own = name := by
    cases own <;> first | exact Option.some.inj called | cases eq
  obtain rfl := Except.ok.inj (hashed.symm.trans eq)
  exact ⟨given, recorded⟩

/-- What lowering leaves of a graph whose own senders have the hashes of their names. -/
theorem addressed_of_lowerGraph {files : Files} {path programPath home : String}
    {name : Option String} {stage : Stage} {program : Program}
    (low : lowerGraph files path programPath name home = .ok (stage, some program)) :
    (∀ entry ∈ program.receivers, IsAddressed entry) ∧
    ((∀ graph net, (loadGraph files none [] [] name path home).run .empty = .ok graph net →
      net.Sealed) → AllSigned program.objects) := by
  unfold lowerGraph at low
  split at low
  · cases low
  · cases low
  next g net loaded =>
    dsimp only at low
    split at low
    · cases low
    · cases low
    next made last ran =>
      cases low
      have receivers : Yields (do prepare g; Build.program g : Build Program) net
          fun program _ => True ∧ ∀ entry ∈ program.receivers, IsAddressed entry :=
        .bind (yields_any _) fun _ _ _ => yields_program fun _ => yields_any _
      refine ⟨(receivers.of_ok ran).2, fun given => ?_⟩
      have objects : Yields (do prepare g; Build.program g : Build Program) net
          fun program _ => AllSigned program.objects ∧ _ :=
        .bind (seals_prepare g net (given g net loaded)) fun _ _ kept =>
          yields_program fun depth =>
            (yields_objectsWithin g depth kept).mono fun _ _ => And.right
      exact (objects.of_ok ran).1

namespace Channel

variable {program : Program} {rows : List Channel} {row : Channel}

/-- The table of a program that a graph was lowered to. A receiver has the hash that the program has
for it just if its name in code and its name have the same hash, as they do if the name does not start
with a digit. A sender has the hash that the object of its name has in the program, if the low-level
senders that were in the graph from the start have the hashes of their names. -/
theorem rows_addressed {files : Files} {path programPath home : String} {name : Option String}
    {stage : Stage}
    (lowered : lowerGraph files path programPath name home = .ok (stage, some program))
    (done : ofProgram program.toValue = .ok rows) : (∀ row ∈ rows, row.side = .receiver →
      ∃ entry ∈ program.receivers, row.name = entry.1 ∧ entry.1 = codeName entry.2.display ∧
        (row.hash = entry.2.hash ↔ Hash.ofText entry.1 = Hash.ofText entry.2.display) ∧
        (¬ StartsWithDigit entry.2.display → row.hash = entry.2.hash)) ∧
    ((∀ graph net, (loadGraph files none [] [] name path home).run .empty = .ok graph net →
        net.Sealed) → ∀ row ∈ rows, row.side = .sender →
      ∃ o ∈ program.objects, o.type = "__send" ∧ ∃ name, o.arguments.get? "name" = some name ∧
        row.name = name.display ∧ o.arguments.get? "hash" = some (.text row.hash)) := by
  unfold ofProgram at done
  simp only [Except.bind_eq_ok] at done
  obtain ⟨receivers, first, senders, second, same⟩ := done
  obtain rfl : receivers ++ senders = rows := Except.ok.inj same
  obtain ⟨addressed, signed⟩ := addressed_of_lowerGraph lowered
  refine ⟨fun row there side => ?_, fun given row there side => ?_⟩
  · rcases mem_append.mp there with isIn | isIn
    · obtain ⟨entry, listed, -, called, coded, hashed, same⟩ := mem_ofReceivers first isIn
      obtain ⟨escaped, own, eq, recorded⟩ := addressed entry listed
      have agree : row.hash = entry.2.hash ↔
          Hash.ofText entry.1 = Hash.ofText entry.2.display := by
        rw [same, recorded, Hash.literal_inj, hashed, eq, Except.ok.injEq]
      refine ⟨entry, listed, called, escaped, agree, fun other => agree.mpr ?_⟩
      rw [escaped, codeName_of_not_digit other]
    · obtain ⟨_, _, _, _, _, other, _⟩ := mem_ofSenders second isIn
      rw [side] at other
      cases other
  · rcases mem_append.mp there with isIn | isIn
    · obtain ⟨_, _, other, _⟩ := mem_ofReceivers first isIn
      rw [side] at other
      cases other
    · obtain ⟨o, listed, type, name, called, -, shown, hash, hashed, same⟩ :=
        mem_ofSenders second isIn
      obtain ⟨own, recorded⟩ := (signed given o listed type).relabel called hashed
      exact ⟨o, listed, type, name, own, shown, same ▸ recorded⟩

end Channel

/-! ## A knob and a lamp -/

namespace Pedal

def attributes (channel : String) : Value :=
  .record [("raw", .text channel), ("min", .int 0), ("max", .int 1), ("default", .int 0)]

def mailbox (type name channel : String) : Value :=
  .record [("type", .text type), ("args", .record [("name", .text name), ("extern", .bool false),
    ("attributes", attributes channel)]), ("annotations", .record [("scope", .text "public")])]

def objects (knob : String) : Record :=
  [("in", mailbox "receive" knob "A"), ("out", mailbox "send" "lamp" "B")]

def wire : Value :=
  .record [("from", .record [("id", .text "in"), ("outlet", .int 0)]),
    ("to", .record [("id", .text "out"), ("inlet", .int 0)]), ("type", .text "-->")]

def files (knob : String) : Files :=
  ⟨[("/pedal", .json (.record [("args", .list []), ("imports", .list []),
    ("objects", .record (objects knob)), ("connections", .list [wire])]))]⟩

theorem loadGraph_eq (knob : String) : loadGraph (files knob) none [] [] none "/pedal" = (do
    let gr ← makeGraph none [] "/pedal" none
    changeBody gr fun body => { body with imports := ["./", "/"] }
    readObjects (files knob) gr ["/pedal"] none "/pedal" (objects knob) "/"
    [wire].forM (readWire gr)
    return gr) := by
  rw [loadGraph]
  change readGraph _ _ _ ["/pedal"] _ _ _ _ = _
  rw [readGraph]
  rfl

section Tests

variable (test : Program → List Channel → Prop) [∀ program rows, Decidable (test program rows)]

/-- Whether there is a table, and it passes a test together with the program that it is for. -/
def passes (knob : String) : Bool :=
  match lowerGraph (files knob) "/pedal" "program" none with
  | .ok (_, some program) =>
    match Channel.ofProgram program.toValue with
    | .ok rows => test program rows
    | .error _ => false
  | _ => false

theorem exists_of_passes {knob : String} (pass : passes test knob = true) : ∃ stage program rows,
      lowerGraph (files knob) "/pedal" "program" none = .ok (stage, some program) ∧
      Channel.ofProgram program.toValue = .ok rows ∧ test program rows := by
  unfold passes at pass
  split at pass
  next stage program low =>
    split at pass
    next rows done => exact ⟨stage, program, rows, low, done, of_decide_eq_true pass⟩
    next => cases pass
  next => cases pass

end Tests

theorem sealed_of_loadGraph {graph : Ref} {net : Net}
    (loaded : (loadGraph (files "knob") none [] [] none "/pedal").run .empty = .ok graph net) :
    net.Sealed := by
  have none : (match (loadGraph (files "knob") none [] [] none "/pedal").run .empty with
      | .ok _ net => net.nodes.all (·.type != "__send")
      | .error _ _ => true) = true := by
    rw [loadGraph_eq]
    simp only [readObjects, objects]
    decide +kernel
  rw [loaded] at none
  intro ref send
  have lt := net.lt_size_of_look Node.type (by rw [send]; decide)
  simp_all [Net.node, Net.size]

/-- A knob whose name is one in code, and a lamp. -/
theorem knob_addressed : ∃ stage program rows,
    lowerGraph (files "knob") "/pedal" "program" none = .ok (stage, some program) ∧
    Channel.ofProgram program.toValue = .ok rows ∧ rows.map Channel.side = [.receiver, .sender] ∧
    (∀ row ∈ rows, row.side = .receiver →
      ∃ entry ∈ program.receivers, row.name = entry.1 ∧ row.hash = entry.2.hash) ∧
    ∀ row ∈ rows, row.side = .sender →
      ∃ o ∈ program.objects, o.type = "__send" ∧ ∃ name, o.arguments.get? "name" = some name ∧
        row.name = name.display ∧ o.arguments.get? "hash" = some (.text row.hash) := by
  have passed : passes (fun program rows => rows.map Channel.side = [.receiver, .sender] ∧
      ∀ entry ∈ program.receivers, ¬ StartsWithDigit entry.2.display) "knob" = true := by
    unfold passes lowerGraph
    rw [loadGraph_eq]
    simp only [readObjects, objects]
    decide +kernel
  obtain ⟨stage, program, rows, lowered, done, sides, letters⟩ := exists_of_passes _ passed
  obtain ⟨receivers, senders⟩ := Channel.rows_addressed lowered done
  refine ⟨stage, program, rows, lowered, done, sides, fun row there side => ?_,
    senders fun _ _ => sealed_of_loadGraph⟩
  obtain ⟨entry, listed, called, -, -, same⟩ := receivers row there side
  exact ⟨entry, listed, called, same (letters entry listed)⟩

/-- A knob whose name starts with a digit does nothing. -/
theorem digit_unaddressed : ∃ stage program rows,
    lowerGraph (files "1a") "/pedal" "program" none = .ok (stage, some program) ∧
    Channel.ofProgram program.toValue = .ok rows ∧ ∃ row ∈ rows, row.side = .receiver ∧
      ∃ entry ∈ program.receivers, row.name = entry.1 ∧ row.hash ≠ entry.2.hash := by
  apply exists_of_passes fun program rows => ∃ row ∈ rows, row.side = .receiver ∧
    ∃ entry ∈ program.receivers, row.name = entry.1 ∧ row.hash ≠ entry.2.hash
  unfold passes lowerGraph
  rw [loadGraph_eq]
  simp only [readObjects, objects]
  decide +kernel

end Pedal

end PatchCompiler
