import SqlJob.Database.Cost
import SqlJob.Database.Resolve

/-!
# Plans

How the rows of a `FROM` clause are gone through: the order of the items, and for each of them the
whole table, an index, or a search by equality or range. Of all ways the one of the least estimated
cost is taken. The choice decides the order in which rows come, and it can be shown.
-/

namespace SqlJob.Database

/-- How the rows of one item are found. -/
inductive Access where
  /-- All of them, in the order of their numbers. -/
  | scan
  /-- All of them, in the order of an index, which may hold all that is needed. -/
  | indexScan (i : Index) (covering : Bool)
  /-- Those whose number meets conditions. -/
  | rowid (conditions : List String)
  /-- Those whose keys meet conditions. -/
  | index (i : Index) (covering : Bool) (conditions : List String)
  /-- Those whose columns are equal to something, with an index made for this purpose. -/
  | automatic (columns : List String)

/-- One item of a `FROM` clause in a plan. -/
structure Loop where
  /-- Which item it is. -/
  source : Nat
  label : String
  access : Access
  reversed : Bool := false
  /-- Whether only the first row matters. -/
  findsFirst : Bool := false
  /-- How the item joins those before it. -/
  join : JoinKind := .inner
  /-- The conditions that the access uses. -/
  used : List Nat := []

/-- A line of a shown plan with the lines below it. -/
inductive PlanTree where
  | node (detail : String) (children : List PlanTree)

/-- Equalities of columns as they are shown. -/
def equalitiesText (columns : List String) : String :=
  "(" ++ String.intercalate " AND " (columns.map (· ++ "=?")) ++ ")"

/-- How the item is gone through, as it is shown. -/
def Loop.accessText (l : Loop) : String :=
  let verb := if l.findsFirst then "SEARCH " else "SCAN "
  match l.access with
  | .scan => verb ++ l.label
  | .indexScan i covering =>
    verb ++ l.label ++ " USING " ++ (if covering then "COVERING INDEX " else "INDEX ") ++ i.name
  | .rowid conditions =>
    "SEARCH " ++ l.label ++ " USING INTEGER PRIMARY KEY (" ++
      String.intercalate " AND " conditions ++ ")"
  | .index i covering conditions =>
    "SEARCH " ++ l.label ++ " USING " ++ (if covering then "COVERING INDEX " else "INDEX ") ++
      i.name ++ " (" ++ String.intercalate " AND " conditions ++ ")"
  | .automatic columns =>
    "SEARCH " ++ l.label ++ " USING AUTOMATIC COVERING INDEX " ++ equalitiesText columns

/-- The lines that show the item. An index that is made for the purpose comes with a filter. -/
def Loop.lines (l : Loop) : List PlanTree :=
  let filter : List PlanTree :=
    match l.access with
    | .automatic columns => [.node ("BLOOM FILTER ON " ++ l.label ++ " " ++ equalitiesText columns) []]
    | _ => []
  let suffix := if l.join = .left || l.join = .full then " LEFT-JOIN" else ""
  filter ++ [.node (l.accessText ++ suffix) []]

namespace Plan

/-- An item that a plan is made for. -/
structure Item where
  label : String
  table : Option Table
  /-- How it joins those before it. -/
  join : JoinKind := .inner
  /-- Which of its columns are needed. -/
  needed : List Nat := []

/-- How a condition limits a column. -/
inductive Limit where
  | equal
  /-- Equal to one of so many values, as a cost. -/
  | oneOf (values : Int)
  | lower
  | upper
  deriving DecidableEq

/-- A condition that limits a column of an item. -/
structure Term where
  /-- Which of the conditions it comes from. -/
  condition : Nat
  item : Nat
  column : Nat
  limit : Limit
  /-- The other items that must be known. -/
  needs : List Nat
  /-- The affinity and the collation of the comparison. -/
  affinity : Option Affinity
  collation : Collation

/-- A condition with what it needs and how many rows it leaves. -/
structure Condition where
  items : List Nat
  isEquality : Bool
  /-- Whether it compares with zero or one. -/
  isLikely : Bool

/-- What a plan is made for. -/
structure Problem where
  items : List Item
  terms : List Term := []
  conditions : List Condition := []
  /-- The columns that rows are to be ordered by: item, column, collation and direction. -/
  order : Option (List (Nat × Nat × Collation × Bool)) := none
  /-- How many columns are given. -/
  width : Nat := 1
  isDistinct : Bool := false

/-- The estimated size of a value of a column. -/
def columnSize (c : Column) : Nat :=
  match c.affinity with
  | .text | .blob =>
    match c.type with
    | none => 1
    | some t =>
      let s := t.toList.map Char.toLower
      let size := Decimal.ofDigits ((s.dropWhile (!·.isDigit)).takeWhile Char.isDigit)
      let hasSize := Affinity.occursIn "char".toList s || Affinity.occursIn "blob(".toList s
      min 255 ((if hasSize then size else 16) / 4 + 1)
  | _ => 1

/-- The estimated size of a row of a table. -/
def tableSize (t : Table) : Int :=
  Cost.ofNat (4 * t.columns.foldl (fun sum c => sum + columnSize c)
    (if t.rowidColumn.isNone then 1 else 0))

/-- The estimated size of a row of an index. -/
def indexSize (t : Table) (i : Index) : Int :=
  Cost.ofNat (4 * i.keys.foldl (fun sum k =>
    sum + ((k.column.bind (t.columns[·]?)).map columnSize).getD 1) 1)

/-- Whether an index holds all columns that are needed. -/
def covers (item : Item) (t : Table) (i : Index) : Bool :=
  item.needed.all fun c => t.rowidColumn == some c || c == t.columns.length ||
    i.keys.any fun k => k.column == some c

/-- A way to go through the rows of an item. -/
structure Way where
  access : Access
  setup : Int := 0
  run : Int
  rows : Int
  /-- The conditions that it uses. -/
  used : List Nat := []
  /-- The columns it is ordered by: those equal to something may be left out. -/
  order : List (Nat × Collation × Bool) := []
  fixed : List Nat := []
  /-- Whether it finds one row at most. -/
  isUnique : Bool := false

/-- The terms that limit a column of an item by what is known. -/
def usable (p : Problem) (item : Nat) (known : List Nat) (column : Nat) : List Term :=
  p.terms.filter fun t => t.item = item && t.column = column && t.needs.all known.contains

/-- Whether a comparison can be made in an index on a column. -/
def fits (c : Column) (k : IndexKey) (t : Term) : Bool :=
  (match t.affinity with
    | some .text => c.affinity == .text
    | some .blob => true
    | none => true
    | _ => c.affinity.isNumeric) && t.collation == k.collation

/-- The costs of the limits of a range on so many rows. -/
def rangeRows (rows : Int) (lower upper : Bool) : Int :=
  let cut := (if lower then 20 else 0) + (if upper then 20 else 0) +
    (if lower && upper then 20 else 0)
  min rows (max 10 (rows - cut)) - ((if lower then 1 else 0) + (if upper then 1 else 0))

/-- The text of the limits of a range. -/
def rangeText (column : String) (lower upper : Bool) : List String :=
  (if lower then [column ++ ">?"] else []) ++ (if upper then [column ++ "<?"] else [])

/-- The ways by the row numbers. -/
def rowidWays (p : Problem) (n : Nat) (t : Table) (known : List Nat) : List Way :=
  if t.withoutRowid then []
  else
    let column := t.rowidColumn.getD t.columns.length
    let terms := usable p n known column ++
      (if t.rowidColumn.isSome then usable p n known t.columns.length else [])
    let terms := terms.filter fun x => x.affinity != some .text
    let find (l : Limit) : Option Term := terms.find? (·.limit = l)
    let step := 45 / max 1 (tableSize t)
    let base := Cost.search Cost.tableRows
    match find .equal with
    | some e =>
      [{ access := .rowid ["rowid=?"], run := Cost.sum base (1 + step), rows := 0
         used := [e.condition], fixed := [column], isUnique := true }]
    | none =>
      match terms.findSome? fun x =>
          match x.limit with
          | .oneOf v => some (x, v)
          | _ => none with
      | some (e, values) =>
        [{ access := .rowid ["rowid=?"], run := Cost.sum base (1 + step) + values, rows := values
           used := [e.condition], order := [(column, .binary, false)] }]
      | none =>
        let lower := find .lower
        let upper := find .upper
        if lower.isNone && upper.isNone then []
        else
          let rows := rangeRows Cost.tableRows lower.isSome upper.isSome
          [{ access := .rowid (rangeText "rowid" lower.isSome upper.isSome)
             run := Cost.sum base (rows + 1 + step), rows
             used := (lower.toList ++ upper.toList).map (·.condition)
             order := [(column, .binary, false)] }]

/-- How many rows are left, as a cost, when so many keys of an index are equal to something. -/
def keyedRows (i : Index) (n : Nat) : Int :=
  if n = 0 then Cost.tableRows
  else if i.unique && n = i.keys.length then 0
  else [33, 32, 30, 28, 27].getD (n - 1) 23

/-- The equalities on the first keys of an index: the terms, their text, and how much more often
the index is searched. -/
def equalities (p : Problem) (n : Nat) (t : Table) (known : List Nat) :
    List IndexKey → List Term × List String × Int
  | [] => ([], [], 0)
  | k :: rest =>
    match k.column.bind fun c => (t.columns[c]?).map (c, ·) with
    | none => ([], [], 0)
    | some (c, column) =>
      let terms := (usable p n known c).filter (fits column k)
      let here : Option (Term × Int) :=
        match terms.find? (·.limit = .equal) with
        | some e => some (e, 0)
        | none => terms.findSome? fun x =>
          match x.limit with
          | .oneOf v => some (x, v)
          | _ => none
      match here with
      | none => ([], [], 0)
      | some (e, v) =>
        let (es, texts, values) := equalities p n t known rest
        (e :: es, (column.name ++ "=?") :: texts, v + values)

/-- The ways by an index. -/
def indexWays (p : Problem) (n : Nat) (item : Item) (t : Table) (known : List Nat) (i : Index) :
    List Way :=
  if i.condition.isSome then []
  else
    let (terms, texts, values) := equalities p n t known i.keys
    let covering := covers item t i
    let size := 15 * indexSize t i / max 1 (tableSize t)
    let order := (i.keys.filterMap fun k => k.column.map fun c => (c, k.collation, k.descending)) ++
      [(t.rowidColumn.getD t.columns.length, .binary, false)]
    let fixed := (terms.filter (·.limit = .equal)).map (·.column)
    let next := i.keys[terms.length]?
    let bounds : Option (String × Option Term × Option Term) :=
      next.bind fun k => k.column.bind fun c => (t.columns[c]?).map fun column =>
        let limits := (usable p n known c).filter (fits column k)
        (column.name, limits.find? (·.limit = .lower), limits.find? (·.limit = .upper))
    let (name, lower, upper) := bounds.getD ("", none, none)
    if terms.isEmpty && lower.isNone && upper.isNone then
      let isOrdered : Bool :=
        match p.order, order with
        | some ((m, c, _, _) :: _), (first, _, _) :: _ => m == n && c == first
        | _, _ => false
      if isOrdered || (covering && indexSize t i < tableSize t) then
        let run := Cost.tableRows + 1 + size
        [{ access := .indexScan i covering
           run := if covering then run else Cost.sum run (Cost.tableRows + 16)
           rows := Cost.tableRows, order }]
      else []
    else
      let rows := rangeRows (keyedRows i terms.length) lower.isSome upper.isSome
      let rows := if lower.isSome || upper.isSome then rows else keyedRows i terms.length
      let run := Cost.sum (Cost.search Cost.tableRows) (rows + 1 + size)
      let run := if covering then run else Cost.sum run (rows + 16)
      [{ access := .index i covering (texts ++ rangeText name lower.isSome upper.isSome)
         run := run + values, rows := rows + values
         used := (terms ++ lower.toList ++ upper.toList).map (·.condition)
         order, fixed, isUnique := i.unique && terms.length = i.keys.length && values = 0 }]

/-- The way by an index that is made for the purpose. -/
def automaticWay (p : Problem) (n : Nat) (t : Table) (known : List Nat) : List Way :=
  let terms := p.terms.filter fun x =>
    x.item = n && x.limit = .equal && x.needs.all known.contains && !x.needs.isEmpty &&
      x.column < t.columns.length && t.rowidColumn != some x.column
  match terms with
  | [] => []
  | e :: _ =>
    let log := Cost.search Cost.tableRows
    let columns := (terms.map (·.column)).eraseDups
    [{ access := .automatic (columns.filterMap fun c => (t.columns[c]?).map (·.name))
       setup := log + Cost.tableRows + 28, run := Cost.sum log 43, rows := 43
       used := [e.condition] }]

/-- The way with fewer rows for each condition that it can test without using it. -/
def tested (p : Problem) (n : Nat) (known : List Nat) (w : Way) : Way :=
  let rest := p.conditions.zipIdx.filter fun (c, i) =>
    c.items.contains n && c.items.all (fun x => x = n || known.contains x) && !w.used.contains i
  let cut := rest.foldl (fun cut (c, _) =>
    if c.isEquality then max cut (if c.isLikely then 10 else 20) else cut) (0 : Int)
  let rows := w.rows - rest.length
  { w with rows := if cut > 0 then min rows (Cost.tableRows - cut) else rows }

/-- The ways to go through the rows of an item when those of others are known. -/
def ways (p : Problem) (n : Nat) (known : List Nat) : List Way :=
  match p.items[n]? with
  | none => []
  | some item =>
    let all : Way := { access := .scan, run := Cost.tableRows + 16, rows := Cost.tableRows }
    (match item.table with
      | none => [all]
      | some t =>
        let order := if t.withoutRowid then [] else
          [(t.rowidColumn.getD t.columns.length, Collation.binary, false)]
        rowidWays p n t known ++ t.indexes.flatMap (indexWays p n item t known) ++
          [{ all with order }] ++ automaticWay p n t known).map (tested p n known)

/-- Whether rows in the order of a way are in a wanted order, and whether the way is gone
backwards for that. -/
def satisfies (n : Nat) (w : Way) (wanted : List (Nat × Nat × Collation × Bool)) : Option Bool :=
  if wanted.isEmpty then some false else go w.order none wanted
where
  go (order : List (Nat × Collation × Bool)) (backwards : Option Bool) :
      List (Nat × Nat × Collation × Bool) → Option Bool
    | [] => some (backwards.getD false)
    | (m, c, collation, descending) :: rest =>
      if w.isUnique && m = n then some (backwards.getD false)
      else if m = n && w.fixed.contains c then go order backwards rest
      else
        match order.dropWhile fun o => w.fixed.contains o.1 && o.1 != c with
        | (column, oc, od) :: order =>
          let turned := descending != od
          if m = n && column = c && oc = collation && backwards.all (· = turned) then
            go order (some turned) rest
          else none
        | [] => none

/-- A plan of some items with its cost. -/
structure Partial where
  loops : List (Nat × Way) := []
  rows : Int := 0
  cost : Int := 0

/-- Adds an item to a plan. -/
def Partial.add (q : Partial) (n : Nat) (w : Way) : Partial where
  loops := q.loops ++ [(n, w)]
  rows := q.rows + w.rows
  cost :=
    let here := Cost.sum w.setup (w.run + q.rows)
    if q.loops.isEmpty then here else Cost.sum here q.cost

/-- The cost of sorting so many rows. -/
def sortCost (p : Problem) (rows : Int) : Int :=
  let cut := if p.isDistinct && rows > 10 then rows - 10 else rows
  rows + Cost.ofNat ((p.width + 59) / 30) + Cost.search cut

/-- Whether the rows of a plan come in the wanted order, and backwards. -/
def Partial.ordered (p : Problem) (q : Partial) : Option Bool :=
  match p.order with
  | none => some false
  | some wanted =>
    match q.loops with
    | [] => none
    | (n, w) :: _ => satisfies n w wanted

/-- The cost of a plan with sorting, if that is needed. -/
def Partial.total (p : Problem) (q : Partial) : Int :=
  if (q.ordered p).isSome then q.cost else Cost.sum q.cost (sortCost p q.rows)

/-- The plans of all items in all orders. -/
def plansFrom (p : Problem) : Nat → List Nat → Partial → List Partial
  | 0, _, q => [q]
  | fuel + 1, left, q =>
    if left.isEmpty then [q]
    else left.flatMap fun n =>
      (ways p n (q.loops.map (·.1))).flatMap fun w =>
        plansFrom p fuel (left.filter (· != n)) (q.add n w)

/-- The plan of the items in the order in which they are written. -/
def plansInOrder (p : Problem) : Partial → List Nat → List Partial
  | q, [] => [q]
  | q, n :: rest => (ways p n (q.loops.map (·.1))).flatMap fun w => plansInOrder p (q.add n w) rest

/-- The cheapest plan; of equally cheap ones the first. -/
def cheapest (p : Problem) (qs : List Partial) : Partial :=
  match qs with
  | [] => {}
  | q :: rest => rest.foldl (fun best q => if q.total p < best.total p then q else best) q

/-- The items of the problem as loops. -/
def solve (p : Problem) (mayReorder : Bool) : List Loop × Bool :=
  let all := List.range p.items.length
  let best := cheapest p (if mayReorder && all.length ≤ 4 then plansFrom p all.length all {}
    else plansInOrder p {} all)
  let ordered := best.ordered p
  let loops := best.loops.zipIdx.map fun ((n, w), i) =>
    ({ source := n, label := ((p.items[n]?).map (·.label)).getD "", access := w.access
       reversed := i = 0 && ordered.getD false
       join := ((p.items[n]?).map (·.join)).getD .inner, used := w.used : Loop })
  (loops, ordered.isSome)

end Plan

end SqlJob.Database
