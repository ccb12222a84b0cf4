import PatchCompiler.Catalogue.Basic
import PatchCompiler.Net.Name

/-!
# Signal buffers

A pool hands out buffers that hold a block of samples while signals are processed. A buffer has a
retain count: how many readers have not read it yet. A buffer whose count is zero may be handed out
again, the one freed last first, so that few buffers are in use and those are warm.
-/

namespace PatchCompiler

/-- Where a block of samples is kept. -/
inductive BufferKind where
  | zero
  | input
  | output
  | float
  | integer
  | other (name : String)
  deriving DecidableEq, Repr

namespace BufferKind

def name : BufferKind → String
  | .zero => "zero"
  | .input => "input"
  | .output => "output"
  | .float => WireType.float.name
  | .integer => WireType.integer.name
  | .other name => name

def ofName (s : String) : BufferKind :=
  ([BufferKind.zero, .input, .output, .float, .integer].find? fun kind => kind.name == s).getD
    (.other s)

/-- The kind that a value names. Lists and records name none. -/
def ofValue (value : Value) : Except Fault BufferKind := do
  return ofName (← Name.ofValue value).display

end BufferKind

structure Buffer where
  kind : BufferKind
  index : Int
  deriving DecidableEq, Repr

namespace Buffer

def zero : Buffer := ⟨.zero, 0⟩

instance : Inhabited Buffer := ⟨zero⟩

def display (buffer : Buffer) : String :=
  s!"({Text.quoted buffer.kind.name}, {buffer.index})"

def unknown (shown : String) : Fault :=
  .rejected s!"{shown} not found in BufferPool!"

/-- The parts of a buffer as they are shown when they do not make one. -/
def displayParts : List Value → String
  | [part] => s!"({part.inner},)"
  | parts => "(" ++ Text.join ", " (parts.map Value.inner) ++ ")"

def ofParts (parts : List Value) : Except Fault Buffer :=
  match parts with
  | [] => .error .outOfRange
  | first :: rest => do
      let kind ← BufferKind.ofValue first
      match rest.map Name.ofValue with
      | [.ok (.whole index)] => return ⟨kind, index⟩
      | _ =>
        if kind = .float ∨ kind = .integer then throw (unknown (displayParts parts))
        else return ⟨kind, 0⟩

end Buffer

/-- The indices of the buffers of one kind by retain count. A count that has been looked up stays
in the list, perhaps without buffers. -/
abbrev Buckets := List (Int × List Int)

namespace Buckets

def get (buckets : Buckets) (count : Int) : List Int :=
  (buckets.lookup count).getD []

def total (buckets : Buckets) : Nat :=
  buckets.foldr (fun bucket count => bucket.2.length + count) 0

def change (buckets : Buckets) (count : Int) (f : List Int → List Int) : Buckets :=
  match buckets with
  | [] => [(count, f [])]
  | (c, held) :: rest =>
    if c = count then (c, f held) :: rest else (c, held) :: change rest count f

def countOf? (buckets : Buckets) (index : Int) : Option Int :=
  (buckets.find? fun bucket => bucket.2.contains index).map (·.1)

def held (buckets : Buckets) : Buckets :=
  (buckets.filter fun bucket => !bucket.2.isEmpty).mergeSort fun a b => a.1 ≤ b.1

def move (buckets : Buckets) (index source target : Int) : Buckets :=
  (buckets.change source (·.erase index)).change target (· ++ [index])

end Buckets

structure Pool where
  float : Buckets := []
  integer : Buckets := []
  deriving DecidableEq, Repr

namespace Pool

def empty : Pool := {}

instance : Inhabited Pool := ⟨empty⟩

def buckets? (pool : Pool) : BufferKind → Option Buckets
  | .float => some pool.float
  | .integer => some pool.integer
  | _ => none

def setBuckets (pool : Pool) (kind : BufferKind) (buckets : Buckets) : Pool :=
  match kind with
  | .float => { pool with float := buckets }
  | .integer => { pool with integer := buckets }
  | _ => pool

def size (pool : Pool) : Nat :=
  pool.float.total + pool.integer.total

def sizeOf (pool : Pool) (kind : BufferKind) : Except Fault Nat :=
  match pool.buckets? kind with
  | some buckets => .ok buckets.total
  | none => .error (.rejected s!"Unknown connection type: \"{kind.name}\"")

/-- Hands out a buffer with the given retain count: the free buffer used last that is not
excluded, or else a new one. -/
def acquire (pool : Pool) (kind : BufferKind) (count : Int) (excluded : List Buffer) :
    Except Fault (Buffer × Pool) :=
  match pool.buckets? kind with
  | none => .error (.missingField kind.name)
  | some buckets =>
    let buckets := buckets.change 0 id
    match (buckets.get 0).reverse.find? fun index => !excluded.contains ⟨kind, index⟩ with
    | some index => .ok (⟨kind, index⟩, pool.setBuckets kind (buckets.move index 0 count))
    | none =>
      let index : Int := buckets.total
      .ok (⟨kind, index⟩, pool.setBuckets kind (buckets.change count (· ++ [index])))

/-- Adds to the retain count of a buffer and gives the new count. The zero buffer and the input
buffers are not counted. -/
def retain (pool : Pool) (buffer : Buffer) (count : Int) : Except Fault (Int × Pool) :=
  if buffer.kind = .zero ∨ buffer.kind = .input then .ok (0, pool)
  else
    match pool.buckets? buffer.kind with
    | none => .error (.missingField buffer.kind.name)
    | some buckets =>
      match buckets.countOf? buffer.index with
      | none => .error (Buffer.unknown buffer.display)
      | some old =>
        .ok (old + count,
          pool.setBuckets buffer.kind (buckets.move buffer.index old (old + count)))

def release (pool : Pool) (buffer : Buffer) (count : Int) : Except Fault (Int × Pool) :=
  pool.retain buffer (-count)

def displayBuckets (kind : BufferKind) (buckets : Buckets) : String :=
  let bucket := fun (entry : Int × List Int) =>
    let held := entry.2.map fun index => Buffer.display ⟨kind, index⟩
    s!"{entry.1}: [" ++ Text.join ", " held ++ "]"
  "defaultdict(<class 'list'>, \x7b" ++ Text.join ", " (buckets.map bucket) ++ "\x7d)"

/-- Both kinds with their counts, in the order in which the counts came up. -/
def display (pool : Pool) : String :=
  displayBuckets .float pool.float ++ displayBuckets .integer pool.integer

end Pool

end PatchCompiler
