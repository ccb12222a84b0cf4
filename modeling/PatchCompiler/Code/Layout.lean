import PatchCompiler.Value.Access

/-!
# Layout of code

Lines are indented by the braces before them. A line with closing braces is itself moved back.
-/

namespace PatchCompiler.Layout

def indent (step depth : Int) (line : List Char) : List Char :=
  List.replicate (step * depth).toNat ' ' ++ line

def lines (step : Int) (depth : Int) : List (List Char) → List (List Char)
  | [] => []
  | line :: rest =>
    let depth := depth - line.count '\x7d'
    indent step depth line :: lines step (depth + line.count '\x7b') rest

/-- Indents lines that are given as values. A line has to be a text, and the step and the depth
whole numbers. -/
def ofValues (step depth : Value) : List Value → Except Fault (List String)
  | [] => return []
  | line :: rest => do
      match line, step.int?, depth.int? with
      | .text s, some n, some d =>
        let d := d - s.toList.count '\x7d'
        let below := Value.int (d + s.toList.count '\x7b')
        return String.ofList (indent n d s.toList) :: (← ofValues step below rest)
      | .text _, _, _ | .list _, _, _ => throw (.badType "lines cannot be indented")
      | other, _, _ => throw (.noMember s!"'{other.kindName}' object has no attribute 'count'")

def function (code : List String) : String :=
  Text.join "\n" ((lines 2 0 (code.map String.toList)).map String.ofList)

end PatchCompiler.Layout
