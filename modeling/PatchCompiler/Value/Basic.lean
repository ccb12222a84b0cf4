import PatchCompiler.Number.Binary64

/-!
# Values

Arguments of objects and the files that hold graphs are made of values. A record keeps its fields
in the order in which they were first set, since graphs list their objects and arguments in that
order.
-/

namespace PatchCompiler

inductive Value where
  | null
  | bool (b : Bool)
  | int (n : Int)
  | real (x : Binary64)
  | text (s : String)
  | object (identity : Nat)
  | list (items : List Value)
  | record (fields : List (String × Value))
  deriving Inhabited

/-- The fields of a record, no two with one name. -/
abbrev Record := List (String × Value)

namespace Record

def get? (fields : Record) (name : String) : Option Value :=
  fields.lookup name

def has (fields : Record) (name : String) : Bool :=
  (fields.lookup name).isSome

/-- A field that is there keeps its place, a new one comes last. -/
def set (fields : Record) (name : String) (value : Value) : Record :=
  match fields with
  | [] => [(name, value)]
  | (n, v) :: rest => if n = name then (n, value) :: rest else (n, v) :: set rest name value

def erase (fields : Record) (name : String) : Record :=
  fields.filter fun field => field.1 != name

def update (fields extra : Record) : Record :=
  extra.foldl (fun all field => all.set field.1 field.2) fields

def names (fields : Record) : List String :=
  fields.map (·.1)

def getD (fields : Record) (name : String) (fallback : Value) : Value :=
  (fields.get? name).getD fallback

end Record

namespace Value

def ofBool (b : Bool) : Int :=
  if b then 1 else 0

/-- An empty text, list or record, a zero, `null` and `false` count as false. -/
def isTrue : Value → Bool
  | .null => false
  | .bool b => b
  | .int n => n != 0
  | .real x => !x.isZero
  | .text s => !s.isEmpty
  | .object _ => true
  | .list items => !items.isEmpty
  | .record fields => !fields.isEmpty

def compareNumbers : Value → Value → Option Ordering
  | .bool a, .bool b => some (Ord.compare (ofBool a) (ofBool b))
  | .bool a, .int n => some (Ord.compare (ofBool a) n)
  | .int n, .bool b => some (Ord.compare n (ofBool b))
  | .int m, .int n => some (Ord.compare m n)
  | .real x, .real y => x.compare y
  | .real x, .int n => x.compareInt n
  | .real x, .bool b => x.compareInt (ofBool b)
  | .int n, .real x => (x.compareInt n).map Ordering.swap
  | .bool b, .real x => (x.compareInt (ofBool b)).map Ordering.swap
  | _, _ => none

def isNumber : Value → Bool
  | .bool _ | .int _ | .real _ => true
  | _ => false

mutual

/-- Equality of values: numbers by their numerical value, records whatever the order of fields. -/
def equals : Value → Value → Bool
  | .null, .null => true
  | .text s, .text t => s == t
  | .object a, .object b => a == b
  | .list xs, .list ys => equalLists xs ys
  | .record fs, .record gs => fs.length == gs.length && fieldsWithin fs gs
  | x, y => x.compareNumbers y == some .eq

def equalLists : List Value → List Value → Bool
  | [], [] => true
  | x :: xs, y :: ys => equals x y && equalLists xs ys
  | _, _ => false

def fieldsWithin : List (String × Value) → List (String × Value) → Bool
  | [], _ => true
  | (name, value) :: rest, other =>
    (match other.lookup name with
      | some found => equals value found
      | none => false) && fieldsWithin rest other

end

def isZero (x : Value) : Bool :=
  x.equals (.int 0)

def ofTexts (texts : List String) : Value :=
  .list (texts.map .text)

def fields? : Value → Option Record
  | .record fields => some fields
  | _ => none

def items? : Value → Option (List Value)
  | .list items => some items
  | _ => none

def text? : Value → Option String
  | .text s => some s
  | _ => none

def int? : Value → Option Int
  | .int n => some n
  | .bool b => some (ofBool b)
  | _ => none

/-- The field of a record; a missing field and a value that is no record give nothing. -/
def field? (value : Value) (name : String) : Option Value :=
  value.fields?.bind (·.get? name)

end Value

end PatchCompiler
