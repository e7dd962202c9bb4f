/-!
# Plans as text

A database describes the plan of a statement as nodes, each naming the node it belongs to. The text
shows them as a tree: one line for each node, in the order of the list, indented by one step more
than the node it belongs to. A node that belongs to none before it is a root.
-/

namespace SqlJob

/-- A node of a plan. -/
structure PlanNode where
  id : Int
  parent : Int
  detail : String
  deriving DecidableEq, Repr

/-- The depth of a node behind nodes whose depths are known: one more than that of the first one
that it belongs to. -/
def PlanNode.depthBehind (earlier : List (Int × Nat)) (n : PlanNode) : Nat :=
  match earlier.lookup n.parent with
  | some depth => depth + 1
  | none => 0

/-- The depths of nodes behind nodes whose depths are known. -/
def planDepths (earlier : List (Int × Nat)) : List PlanNode → List Nat
  | [] => []
  | n :: rest =>
    let depth := n.depthBehind earlier
    depth :: planDepths (earlier ++ [(n.id, depth)]) rest

/-- The line of a node at some depth. -/
def planLine (depth : Nat) (n : PlanNode) : String :=
  .ofList (List.replicate (3 * depth) ' ') ++ "+- " ++ n.detail

/-- What stands above the lines of a plan. -/
def planHeader : String := "== Physical Execution Plan =="

/-- The lines of a plan. -/
def planLines (nodes : List PlanNode) : List String :=
  planHeader :: List.zipWith planLine (planDepths [] nodes) nodes

/-- A plan as text. -/
def renderPlan (nodes : List PlanNode) : String :=
  String.intercalate "\n" (planLines nodes)

end SqlJob
