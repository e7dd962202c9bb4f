import SqlJob.Database.Setting
import SqlJob.Database.Syntax
import SqlJob.Database.Write

/-!
# Shown plans

The plan of a statement as rows: each line has a number, the number of the line that it belongs to,
and its text. A line stands behind the one it belongs to, and the outermost lines belong to none.
-/

namespace SqlJob.Database

/-- A line of a shown plan. -/
structure PlanLine where
  id : Nat
  parent : Nat
  detail : String

/-- The lines of trees that belong to the line of the given number, and the next free number. -/
def PlanTree.lines : Nat → Nat → Nat → List PlanTree → List PlanLine × Nat
  | 0, _, next, _ => ([], next)
  | _ + 1, _, next, [] => ([], next)
  | fuel + 1, parent, next, .node detail children :: rest =>
    let (inside, n) := lines fuel next (next + 1) children
    let (behind, n) := lines fuel parent n rest
    (⟨next, parent, detail⟩ :: inside ++ behind, n)

namespace Explanation

variable (R : Resolver) (P : Planning.Planner) (env : Env)

/-- The plan of a search for the rows that an update or a delete is for. All columns are needed, and
the given expressions besides. -/
def search (common : List CommonTable) (items : List FromItem) (condition : Option Expr)
    (others : List Expr) : List PlanTree :=
  let s : Select := {
    items := .star :: others.map (.expr · none ""), source := items, condition }
  Planning.selectTrees R P (Resolve.withCommon env common) s [] false []

/-- Whether rows can go from one table to another as they are. -/
def isCopy (source target : Table) : Bool :=
  source.name != target.name && source.columns.length = target.columns.length &&
    source.rowidColumn == target.rowidColumn && source.withoutRowid == target.withoutRowid &&
    (source.columns.zip target.columns).all (fun (a, b) =>
      a.affinity = b.affinity && a.collation = b.collation &&
        a.notNull.isSome == b.notNull.isSome &&
        (a.default.map (·.2)) == (b.default.map (·.2)) && a.generated.isNone && b.generated.isNone) &&
    target.checks.isEmpty && target.references.isEmpty &&
    target.indexes.all (!·.unique) &&
    (target.rowidColumn.isSome || target.indexes.isEmpty) &&
    target.indexes.all fun i => source.indexes.any fun j =>
      i.keys.map (·.column) == j.keys.map (·.column) && i.unique == j.unique

/-- The table whose rows a query gives as they are. -/
def copied? (q : Query) : Option Table :=
  match q.body with
  | .select s =>
    match s.items, s.source with
    | [.star], [i] =>
      if s.distinct || s.condition.isSome || !s.groupBy.isEmpty || !q.order.isEmpty ||
          q.limit.isSome || !q.common.isEmpty then none
      else
        match i.term with
        | .table n _ => env.store.table? n.name
        | _ => none
    | _, _ => none
  | _ => none

/-- Whether references lead to a table or from it. -/
def isReferred (t : Table) : Bool :=
  !t.references.isEmpty ||
    env.store.tables.any fun x => x.references.any fun y => sameName y.2.table t.name

/-- The plan of a checked statement. -/
def trees (enforces : Bool) : Statement → List PlanTree
  | .query q => P.query env q
  | .insert s =>
    match s.source with
    | .defaults => []
    | .query q =>
      let target := env.store.table? s.table.name
      let isDirect := s.conflict.all (fun c => c = .abort || c = .rollback) &&
        s.upserts.isEmpty && s.returning.isEmpty && s.columns.isNone && s.common.isEmpty
      match q.body, copied? env q, target with
      | .values [row], _, _ => Planning.allSubqueries R P (Resolve.withCommon env s.common) row
      | _, some a, some b =>
        if isDirect && isCopy a b then [] else P.query (Resolve.withCommon env s.common) q
      | _, _, _ => P.query (Resolve.withCommon env s.common) q
  | .update s =>
    search R P env s.common (Write.items s.table s.alias? s.source) s.condition
      (s.assignments.map (·.value))
  | .delete s =>
    let isWhole := s.condition.isNone && s.returning.isEmpty &&
      !(enforces && (env.store.table? s.table.name).any (isReferred env))
    if isWhole then []
    else search R P env s.common (Write.items s.table s.alias? []) s.condition []
  | .createTableAs _ _ q => P.query env q
  | _ => []

/-- The plan of a checked statement as an answer. -/
def answer (enforces : Bool) (s : Statement) : Answer :=
  let lines := (PlanTree.lines 100000 0 1 (trees R P env enforces s)).1
  .ofRows ["id", "parent", "notused", "detail"] (lines.map fun l =>
    [.int l.id, .int l.parent, .int 0, .text l.detail])

end Explanation

end SqlJob.Database
