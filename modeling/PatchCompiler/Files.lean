import PatchCompiler.Path
import PatchCompiler.Value.Convert
import PatchCompiler.Value.Json

/-!
# Files

A finite set of files by absolute path. A file holds a text, or a value that stands for the text
that writes it, or what comes with the installation.
-/

namespace PatchCompiler

inductive Content where
  | text (s : String)
  | json (value : Value)
  | asset (name : String)

namespace Content

def toText : Content → String
  | .text s => s
  | .json value => Json.write .spaced value
  | .asset _ => ""

def value : Content → Except Fault Value
  | .json value => .ok value
  | other =>
    match Json.read other.toText with
    | .ok value => .ok value
    | .error error => .error (.badJson (error.message other.toText))

end Content

structure Files where
  entries : List (String × Content) := []

namespace Files

def empty : Files := {}

def find? (files : Files) (path : String) : Option Content :=
  files.entries.lookup path

def has (files : Files) (path : String) : Bool :=
  let path := Path.normal path
  files.entries.any fun entry => entry.1 == path || Text.startsWith (path ++ "/") entry.1

def hasFile (files : Files) (path : String) : Bool :=
  (files.find? (Path.normal path)).isSome

def write (files : Files) (path : String) (content : Content) : Files :=
  let rec go : List (String × Content) → List (String × Content)
    | [] => [(path, content)]
    | (p, c) :: rest => if p = path then (p, content) :: rest else (p, c) :: go rest
  ⟨go files.entries⟩

def isBelow (directory path : String) : Bool :=
  Text.startsWith (directory ++ "/") path

def below (files : Files) (directory : String) : List (String × Content) :=
  files.entries.filterMap fun entry =>
    if isBelow directory entry.1 then
      some (String.ofList (entry.1.toList.drop (directory.length + 1)), entry.2)
    else none

def erase (files : Files) (path : String) : Files :=
  ⟨files.entries.filter fun entry => entry.1 != path⟩

def eraseBelow (files : Files) (directory : String) : Files :=
  ⟨files.entries.filter fun entry => !isBelow directory entry.1⟩

def children (files : Files) (directory : String) : List String :=
  let names := (files.below directory).map fun entry =>
    String.ofList (entry.1.toList.takeWhile (· != '/'))
  names.eraseDups.mergeSort fun a b => !(b < a)

def unread (files : Files) (stack : List String) : Nat :=
  files.entries.countP fun entry => !stack.contains entry.1

theorem mem_of_find? {files : Files} {path : String} {content : Content}
    (h : files.find? path = some content) : (path, content) ∈ files.entries := by
  obtain ⟨entries⟩ := files
  simp only [find?] at h
  induction entries with
  | nil => simp at h
  | cons entry rest ih =>
    rw [List.lookup_cons] at h
    split at h
    · rename_i heq
      simp only [beq_iff_eq] at heq
      simp only [Option.some.injEq] at h
      subst h heq
      simp
    · exact List.mem_cons_of_mem _ (ih h)

/-- Reading a file that is not being read leaves fewer files unread. -/
theorem unread_cons_lt {files : Files} {path : String} {content : Content} {stack : List String}
    (h : files.find? path = some content) (fresh : ¬ stack.contains path = true) :
    files.unread (path :: stack) < files.unread stack := by
  have member := mem_of_find? h
  unfold unread
  have le : ∀ entries : List (String × Content),
      entries.countP (fun entry => !(path :: stack).contains entry.1) ≤
        entries.countP fun entry => !stack.contains entry.1 := by
    intro entries
    apply List.countP_mono_left
    intro entry _
    simp only [List.contains_cons, Bool.not_or, Bool.and_eq_true]
    exact fun both => both.2
  generalize files.entries = entries at member
  induction entries with
  | nil => simp at member
  | cons entry rest ih =>
    rcases List.mem_cons.mp member with same | member
    · subst same
      have smaller := le rest
      simp only [Bool.not_eq_true] at fresh
      simp only [List.contains_cons] at smaller
      simp only [List.countP_cons, List.contains_cons, BEq.rfl, Bool.true_or, Bool.not_true,
        Bool.false_eq_true, if_false, fresh, Bool.not_false, if_true]
      omega
    · have smaller := ih member
      have single := le [entry]
      simp only [List.countP_cons, List.countP_nil] at single ⊢
      omega

end Files

end PatchCompiler
