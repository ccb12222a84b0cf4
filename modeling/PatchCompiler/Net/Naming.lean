import PatchCompiler.Net.Basic

/-!
# Names and scopes

A named object is registered with its own graph if it is private, with the graph around that if it
is protected and with the outermost graph if it is public or static. A name is looked up from a
graph outwards, and the private objects of other graphs are passed over.
-/

namespace PatchCompiler.Build

/-- The graph a named object of `graph` is registered with. -/
def homeOf (graph object : Ref) (isStatic : Bool) : Build Ref := do
  let net ← get
  let node := net.node object
  match node.scope with
  | .text "private" => return if isStatic then net.root graph else graph
  | .text "protected" => return ((net.node graph).parent).getD graph
  | .text "public" => return net.root graph
  | scope =>
    if isStatic then return net.root graph
    else
      throw (.rejected s!"Unknown scope \"{scope.display}\" for object {node.display}.")

def nameOf (object : Ref) : Build Name := do
  ofExcept (Name.ofValue (((← node object).name?).getD .null))

def register (graph object : Ref) (isStatic unique : Bool) : Build Unit := do
  let home ← homeOf graph object isStatic
  let name ← nameOf object
  let net ← get
  let registry ← ofExcept
    ((net.node home).body.registry.register net.view object name isStatic unique)
  changeBody home fun body => { body with registry }

def unregister (graph object : Ref) : Build Unit := do
  let home ← homeOf graph object false
  let name ← nameOf object
  let (result, registry) := (← node home).body.registry.unregister object name
  changeBody home fun body => { body with registry }
  ofExcept result

/-- The objects of a name and of one of the types that can be seen from a graph, the most local
first. Every graph on the way takes note of the name. -/
def resolve (graph : Ref) (name : Name) (types : List String) : Build (List Ref) := do
  let net ← get
  let graphs := net.enclosing graph
  graphs.forM fun g =>
    changeBody g fun body => { body with registry := body.registry.mention name }
  return graphs.flatMap fun g =>
    ((net.node g).body.registry.ofTypes net.view.typeOf name types).filter fun object =>
      !((net.node object).isPrivate && (net.node object).parent != some graph)

def resolveOne (graph : Ref) (name : Name) (types : List String) : Build (Option Ref) := do
  return (← resolve graph name types).head?

end PatchCompiler.Build
