import PatchCompiler.Net.Buffering
import PatchCompiler.Net.Mailbox
import PatchCompiler.Net.Reduction
import PatchCompiler.Net.Simplify
import PatchCompiler.Net.Typing

/-!
# From a graph to ordered low-level objects

The passes that turn a graph as it was read into low-level objects with buffers.
-/

namespace PatchCompiler

/-- A pass over a graph. -/
inductive Pass where
  | settleTypes
  | pruneInlets
  | joinMailboxes
  | reduce
  | cascade
  | fuseProducts
  | groupReceivers
  | assignBuffers
  deriving DecidableEq, Repr

namespace Pass

def all : List Pass :=
  [settleTypes, pruneInlets, joinMailboxes, reduce, cascade, fuseProducts, groupReceivers,
    assignBuffers]

def run (graph : Ref) : Pass → Build Unit
  | .settleTypes => Build.settleTypes graph
  | .pruneInlets => Build.pruneInlets graph
  | .joinMailboxes => Build.joinMailboxes graph
  | .reduce => Build.reduce graph
  | .cascade => Build.cascade graph
  | .fuseProducts => Build.fuseProducts graph
  | .groupReceivers => Build.groupReceivers graph
  | .assignBuffers => Build.assignBuffers graph

end Pass

def Build.prepare (graph : Ref) : Build Unit :=
  Pass.all.forM (Pass.run graph)

end PatchCompiler
