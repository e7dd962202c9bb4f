import SqlJob.Engine.Plan
import SqlJob.Proofs.Text.Pieces
import Mathlib.Data.List.Nodup
import Mathlib.Data.Set.Card
import Mathlib.Logic.Relation

/-!
# The forest that a plan shows

The nodes of a plan name the nodes they belong to, which makes them a forest. If they are listed in
pre-order (`InPreOrder`), each node comes behind the one it belongs to, and all nodes between the two
belong to the same one, directly or through others (`InPreOrder.exists_of_isAncestorIn`, by
induction over the nodes before). So the depth that is found for a node is the number of its
ancestors (`InPreOrder.planDepths_eq`), and the lines between a node and the one it belongs to are
indented further than the latter. This is all that is needed to read the forest back from the text
(`InPreOrder.readPlan_renderPlan`): a node belongs to the nearest line above that is indented one
step less.
-/

namespace SqlJob

open Text

/-! ## Nodes in pre-order -/

/-- In a list of nodes, `n` belongs to `a`. -/
def IsParentIn (nodes : List PlanNode) (a n : PlanNode) : Prop :=
  a ∈ nodes ∧ n.parent = a.id

/-- In a list of nodes, `n` belongs to `a` directly or through others. -/
def IsAncestorIn (nodes : List PlanNode) : PlanNode → PlanNode → Prop :=
  Relation.TransGen (IsParentIn nodes)

/-- In a list of nodes, `n` belongs to none. -/
def IsRootIn (nodes : List PlanNode) (n : PlanNode) : Prop :=
  ∀ a ∈ nodes, a.id ≠ n.parent

/-- The proper ancestors of a node in a list. -/
def ancestorsIn (nodes : List PlanNode) (n : PlanNode) : Set PlanNode :=
  {a | IsAncestorIn nodes a n}

/-- The number of proper ancestors of a node in a list. -/
noncomputable def depthIn (nodes : List PlanNode) (n : PlanNode) : Nat :=
  (ancestorsIn nodes n).ncard

/-- The nodes have ids of their own and are listed in pre-order. -/
structure InPreOrder (nodes : List PlanNode) : Prop where
  /-- No two nodes have the same id. -/
  nodup : (nodes.map (·.id)).Nodup
  /-- The first node belongs to none. -/
  first : ∀ n ∈ nodes.head?, IsRootIn nodes n
  /-- Any other node belongs to none, to the node just before it, or to an ancestor of that. -/
  next : nodes.IsChain fun m n =>
    IsRootIn nodes n ∨ n.parent = m.id ∨ ∃ a, IsAncestorIn nodes a m ∧ n.parent = a.id

section Nodes

variable {nodes before rest : List PlanNode} {a n p : PlanNode}

/-- An ancestor is one of the nodes. -/
theorem mem_of_isAncestorIn (h : IsAncestorIn nodes a n) : a ∈ nodes := by
  obtain ⟨b, hab, -⟩ := Relation.TransGen.head'_iff.mp h
  exact hab.1

/-- The ancestors of a node are finite in number. -/
theorem finite_ancestorsIn (nodes : List PlanNode) (n : PlanNode) : (ancestorsIn nodes n).Finite :=
  (List.finite_toSet nodes).subset fun _ => mem_of_isAncestorIn

/-- A root has no ancestors. -/
theorem IsRootIn.not_isAncestorIn (h : IsRootIn nodes n) : ¬ IsAncestorIn nodes a n := by
  intro ha
  obtain ⟨b, -, hb, hparent⟩ := Relation.TransGen.tail'_iff.mp ha
  exact h b hb hparent.symm

/-- A node that is no root belongs to a node. -/
theorem exists_isParentIn_of_not_isRootIn (h : ¬ IsRootIn nodes n) : ∃ p, IsParentIn nodes p n := by
  simp only [IsRootIn, not_forall, not_not] at h
  obtain ⟨p, hp, hid⟩ := h
  exact ⟨p, hp, hid.symm⟩

namespace InPreOrder

/-- A node belongs to one node at most. -/
theorem isParentIn_unique (h : InPreOrder nodes) {q : PlanNode} (hp : IsParentIn nodes p n)
    (hq : IsParentIn nodes q n) : p = q :=
  List.inj_on_of_nodup_map h.nodup hp.1 hq.1 (hp.2.symm.trans hq.2)

/-- The ancestors of a node are the one that it belongs to, and the ancestors of that. -/
theorem isAncestorIn_iff (h : InPreOrder nodes) (hp : IsParentIn nodes p n) :
    IsAncestorIn nodes a n ↔ a = p ∨ IsAncestorIn nodes a p := by
  unfold IsAncestorIn
  rw [Relation.TransGen.tail'_iff]
  constructor
  · rintro ⟨q, haq, hq⟩
    obtain rfl := h.isParentIn_unique hp hq
    exact (Relation.reflTransGen_iff_eq_or_transGen.mp haq).imp_left Eq.symm
  · intro ha
    exact ⟨p, Relation.reflTransGen_iff_eq_or_transGen.mpr (ha.imp_left Eq.symm), hp⟩

/-- An ancestor of a node comes before it, and is an ancestor of all nodes between the two. -/
theorem exists_of_isAncestorIn (h : InPreOrder nodes) (hnodes : nodes = before ++ n :: rest)
    (ha : IsAncestorIn nodes a n) :
    ∃ above between, before = above ++ a :: between ∧ ∀ m ∈ between, IsAncestorIn nodes a m := by
  induction before using List.reverseRecOn generalizing n rest with
  | nil => exact absurd ha (h.first n (by simp [hnodes])).not_isAncestorIn
  | append_singleton before m ih =>
    have hm : nodes = before ++ m :: n :: rest := by simpa using hnodes
    -- The node belongs to the one just before it or to an ancestor of that, and the ancestor in
    -- question is the former or an ancestor of it.
    have ham : a = m ∨ IsAncestorIn nodes a m := by
      rcases List.isChain_iff_forall_rel_of_append_cons_cons.mp h.next hm with hroot | hparent | ⟨b, hb, hparent⟩
      · exact absurd ha hroot.not_isAncestorIn
      · exact (h.isAncestorIn_iff ⟨by simp [hm], hparent⟩).mp ha
      · rcases (h.isAncestorIn_iff ⟨mem_of_isAncestorIn hb, hparent⟩).mp ha with rfl | hab
        · exact .inr hb
        · exact .inr (hab.trans hb)
    rcases ham with rfl | ham
    · exact ⟨before, [], rfl, by simp⟩
    · obtain ⟨above, between, rfl, hbetween⟩ := ih hm ham
      refine ⟨above, between ++ [m], by simp, fun k hk => ?_⟩
      rcases List.mem_append.mp hk with hk | hk
      · exact hbetween k hk
      · rwa [List.mem_singleton.mp hk]

/-- No node is its own ancestor. -/
theorem not_isAncestorIn_self (h : InPreOrder nodes) : ¬ IsAncestorIn nodes n n := by
  intro hn
  obtain ⟨before, rest, hnodes⟩ := List.append_of_mem (mem_of_isAncestorIn hn)
  obtain ⟨above, between, rfl, -⟩ := h.exists_of_isAncestorIn hnodes hn
  have hnodup := h.nodup.of_map
  rw [hnodes, List.nodup_append] at hnodup
  exact hnodup.2.2 n (by simp) n (by simp) rfl

/-! ## Depths -/

/-- The depth of a node is one more than that of the node it belongs to. -/
theorem depthIn_eq_add_one (h : InPreOrder nodes) (hp : IsParentIn nodes p n) :
    depthIn nodes n = depthIn nodes p + 1 := by
  have hinsert : ancestorsIn nodes n = insert p (ancestorsIn nodes p) :=
    Set.ext fun a => h.isAncestorIn_iff hp
  have hp' : p ∉ ancestorsIn nodes p := h.not_isAncestorIn_self
  rw [depthIn, hinsert, Set.ncard_insert_of_notMem hp' (finite_ancestorsIn nodes p), depthIn]

/-- A node is deeper than its ancestors. -/
theorem depthIn_lt_of_isAncestorIn (h : InPreOrder nodes) (ha : IsAncestorIn nodes a n) :
    depthIn nodes a < depthIn nodes n := by
  refine Set.ncard_lt_ncard ⟨fun b hb => hb.trans ha, fun hle => ?_⟩ (finite_ancestorsIn nodes n)
  exact h.not_isAncestorIn_self (hle ha)

/-- A node either is a root of depth zero, or belongs to a node before it, and the nodes between the
two are deeper than that. -/
theorem exists_parent (h : InPreOrder nodes) (hnodes : nodes = before ++ n :: rest) :
    (IsRootIn nodes n ∧ depthIn nodes n = 0) ∨
      ∃ above p between, before = above ++ p :: between ∧ IsParentIn nodes p n ∧
        depthIn nodes n = depthIn nodes p + 1 ∧
        ∀ m ∈ between, depthIn nodes p < depthIn nodes m := by
  by_cases hroot : IsRootIn nodes n
  · refine .inl ⟨hroot, ?_⟩
    have hempty : ancestorsIn nodes n = ∅ :=
      Set.eq_empty_of_forall_notMem fun a => hroot.not_isAncestorIn
    rw [depthIn, hempty, Set.ncard_empty]
  · obtain ⟨p, hp⟩ := exists_isParentIn_of_not_isRootIn hroot
    obtain ⟨above, between, rfl, hbetween⟩ := h.exists_of_isAncestorIn hnodes (.single hp)
    exact .inr ⟨above, p, between, rfl, hp, h.depthIn_eq_add_one hp,
      fun m hm => h.depthIn_lt_of_isAncestorIn (hbetween m hm)⟩

/-- No node above another one has the id of the latter. -/
theorem id_ne_of_mem_above (h : InPreOrder nodes) {above : List PlanNode}
    (hnodes : nodes = above ++ p :: rest) {m : PlanNode} (hm : m ∈ above) : m.id ≠ p.id := by
  have hnodup := h.nodup
  rw [hnodes, List.map_append, List.nodup_append] at hnodup
  exact hnodup.2.2 m.id (List.mem_map_of_mem hm) p.id (by simp)

/-! ## The text -/

/-- The depth that is found for a node behind others is its depth. -/
theorem depthBehind_eq (h : InPreOrder nodes) (hnodes : nodes = before ++ n :: rest) :
    n.depthBehind (before.map fun m => (m.id, depthIn nodes m)) = depthIn nodes n := by
  rcases h.exists_parent hnodes with ⟨hroot, hdepth⟩ | ⟨above, p, between, rfl, hp, hdepth, -⟩
  · have hnone : (before.map fun m => (m.id, depthIn nodes m)).lookup n.parent = none := by
      simp only [List.lookup_eq_none_iff, List.forall_mem_map, bne_iff_ne]
      exact fun m hm => (hroot m (by simp [hnodes, hm])).symm
    rw [PlanNode.depthBehind, hnone, hdepth]
  · have hnone : (above.map fun m => (m.id, depthIn nodes m)).lookup p.id = none := by
      simp only [List.lookup_eq_none_iff, List.forall_mem_map, bne_iff_ne]
      exact fun m hm => (h.id_ne_of_mem_above (by simpa using hnodes) hm).symm
    simp [PlanNode.depthBehind, List.lookup_append, hp.2, hnone, hdepth]

/-- The depths that are found for nodes behind others are their depths. -/
theorem planDepths_eq (h : InPreOrder nodes) (hnodes : nodes = before ++ rest) :
    planDepths (before.map fun m => (m.id, depthIn nodes m)) rest = rest.map (depthIn nodes) := by
  induction rest generalizing before with
  | nil => rfl
  | cons n rest ih =>
    have hrest := ih (List.append_cons before n rest ▸ hnodes)
    rw [List.map_append, List.map_singleton] at hrest
    simp only [planDepths, h.depthBehind_eq hnodes, hrest, List.map_cons]

/-- A plan is shown with one line for each node, indented according to its depth. -/
theorem planLines_eq (h : InPreOrder nodes) :
    planLines nodes = planHeader :: nodes.map fun n => planLine (depthIn nodes n) n := by
  have hdepths : planDepths [] nodes = nodes.map (depthIn nodes) :=
    h.planDepths_eq (List.nil_append nodes).symm
  rw [planLines, hdepths, List.zipWith_map_left, List.zipWith_self]

end InPreOrder

end Nodes

/-! ## Reading the forest from the text -/

/-- The number of spaces that a line starts with. -/
def indentOf (line : List Char) : Nat := (line.takeWhile (· = ' ')).length

/-- The place of the nearest line above that is indented one step less than `indent`. The lines
above are given by what they are indented by, the nearest first. -/
def parentAbove (indent : Nat) : List Nat → Option Nat
  | [] => none
  | i :: above => if i + 3 = indent then some above.length else parentAbove indent above

/-- For each line, the place of the line that it belongs to, and what it shows. -/
def forestBelow (above : List Nat) : List (List Char) → List (Option Nat × String)
  | [] => []
  | line :: rest =>
    let indent := indentOf line
    (parentAbove indent above, .ofList (line.drop (indent + 3))) ::
      forestBelow (indent :: above) rest

/-- The forest that a text shows below its first line. -/
def readPlan (text : String) : List (Option Nat × String) :=
  forestBelow [] (splitOn '\n' text.toList).tail

/-- The forest of nodes: for each node, the place of the node that it belongs to, and its detail. -/
def forestOf (nodes : List PlanNode) : List (Option Nat × String) :=
  nodes.map fun n => (nodes.findIdx? (·.id = n.parent), n.detail)

/-- The characters in the line of a node. -/
theorem toList_planLine (depth : Nat) (n : PlanNode) :
    (planLine depth n).toList =
      List.replicate (3 * depth) ' ' ++ '+' :: '-' :: ' ' :: n.detail.toList := by
  simp [planLine]

/-- The line of a node is indented by three spaces for each step of its depth. -/
@[simp] theorem indentOf_planLine (depth : Nat) (n : PlanNode) :
    indentOf (planLine depth n).toList = 3 * depth := by
  rw [toList_planLine, indentOf, List.takeWhile_append_of_pos (by simp)]
  simp

/-- Behind the indentation and three characters, the line of a node shows its detail. -/
theorem drop_planLine (depth : Nat) (n : PlanNode) :
    (planLine depth n).toList.drop (3 * depth + 3) = n.detail.toList := by
  simp [toList_planLine, List.drop_append]

/-- A line that is not indented has no line above that is indented less. -/
@[simp] theorem parentAbove_zero (above : List Nat) : parentAbove 0 above = none := by
  induction above with
  | nil => rfl
  | cons i above ih => rw [parentAbove, if_neg (by omega), ih]

/-- Lines with another indentation are passed. -/
theorem parentAbove_append {indent : Nat} {between : List Nat} (above : List Nat)
    (h : ∀ i ∈ between, i + 3 ≠ indent) :
    parentAbove indent (between ++ above) = parentAbove indent above := by
  induction between with
  | nil => rfl
  | cons i between ih =>
    rw [List.forall_mem_cons] at h
    rw [List.cons_append, parentAbove, if_neg h.1, ih h.2]

section Reading

variable {nodes before rest : List PlanNode} {n : PlanNode}

namespace InPreOrder

/-- The nearest line above that is indented one step less is that of the node that a node belongs
to. -/
theorem parentAbove_eq (h : InPreOrder nodes) (hnodes : nodes = before ++ n :: rest) :
    parentAbove (3 * depthIn nodes n) (before.map fun m => 3 * depthIn nodes m).reverse =
      nodes.findIdx? (·.id = n.parent) := by
  rcases h.exists_parent hnodes with ⟨hroot, hdepth⟩ | ⟨above, p, between, rfl, hp, hdepth, hdeeper⟩
  · have hnone : nodes.findIdx? (·.id = n.parent) = none :=
      List.findIdx?_eq_none_iff.mpr fun m hm => decide_eq_false (hroot m hm)
    rw [hdepth, Nat.mul_zero, parentAbove_zero, hnone]
  · have hfind : nodes.findIdx? (·.id = n.parent) = some above.length := by
      have hnone : above.findIdx? (·.id = p.id) = none := by
        simpa [List.findIdx?_eq_none_iff] using
          fun m hm => h.id_ne_of_mem_above (p := p) (by simpa using hnodes) hm
      rw [hp.2, hnodes, List.append_assoc, List.findIdx?_append, hnone]
      simp [List.findIdx?_cons]
    -- The lines between the two are indented at least as far as that of the node itself.
    have hpass : ∀ i ∈ (between.map fun m => 3 * depthIn nodes m).reverse,
        i + 3 ≠ 3 * depthIn nodes n := by
      simp only [List.mem_reverse, List.forall_mem_map]
      intro m hm
      have := hdeeper m hm
      omega
    rw [hfind, List.map_append, List.map_cons, List.reverse_append, List.reverse_cons,
      List.append_assoc, parentAbove_append _ hpass, List.singleton_append, parentAbove,
      if_pos (by omega), List.length_reverse, List.length_map]

/-- The lines of nodes behind others are read as the nodes that they belong to and the details. -/
theorem forestBelow_eq (h : InPreOrder nodes) (hnodes : nodes = before ++ rest) :
    forestBelow (before.map fun m => 3 * depthIn nodes m).reverse
        (rest.map fun m => (planLine (depthIn nodes m) m).toList) =
      rest.map fun m => (nodes.findIdx? (·.id = m.parent), m.detail) := by
  induction rest generalizing before with
  | nil => rfl
  | cons n rest ih =>
    have hrest := ih (List.append_cons before n rest ▸ hnodes)
    rw [List.map_append, List.reverse_append, List.map_singleton, List.reverse_singleton,
      List.singleton_append] at hrest
    simp only [List.map_cons, forestBelow, indentOf_planLine, h.parentAbove_eq hnodes, hrest,
      drop_planLine, String.ofList_toList]

/-- The forest of a plan is read from its text if no detail has a line feed. -/
theorem readPlan_renderPlan (h : InPreOrder nodes)
    (hlines : ∀ n ∈ nodes, '\n' ∉ n.detail.toList) :
    readPlan (renderPlan nodes) = forestOf nodes := by
  have hpieces : splitOn '\n' (renderPlan nodes).toList = (planLines nodes).map String.toList := by
    rw [renderPlan, toList_intercalate_lines]
    refine splitOn_joinWith (by simp [planLines]) ?_
    rw [h.planLines_eq]
    simp only [List.map_cons, List.map_map, List.forall_mem_cons, List.forall_mem_map]
    refine ⟨by decide, fun n hn => ?_⟩
    simp [toList_planLine, hlines n hn]
  rw [readPlan, hpieces, h.planLines_eq, List.map_cons, List.tail_cons, List.map_map]
  exact h.forestBelow_eq (List.nil_append nodes).symm

end InPreOrder

end Reading

/-- The nodes of the plan of a union of two tables, and a root behind them. -/
def unionPlan : List PlanNode :=
  [⟨1, 0, "COMPOUND QUERY"⟩, ⟨2, 1, "LEFT-MOST SUBQUERY"⟩, ⟨5, 2, "SCAN a"⟩, ⟨20, 1, "UNION ALL"⟩,
    ⟨23, 20, "SCAN b"⟩, ⟨41, 0, "USE TEMP B-TREE"⟩]

/-- The nodes of the plan of a union are in pre-order. -/
theorem inPreOrder_unionPlan : InPreOrder unionPlan where
  nodup := by decide
  first := by simp [unionPlan, IsRootIn]
  next := by
    -- The second branch belongs to the query, which the scan before it belongs to through another.
    have hancestor : IsAncestorIn unionPlan ⟨1, 0, "COMPOUND QUERY"⟩ ⟨5, 2, "SCAN a"⟩ :=
      .head (b := ⟨2, 1, "LEFT-MOST SUBQUERY"⟩) ⟨by simp [unionPlan], rfl⟩
        (.single ⟨by simp [unionPlan], rfl⟩)
    have hroot : IsRootIn unionPlan ⟨41, 0, "USE TEMP B-TREE"⟩ := by simp [IsRootIn, unionPlan]
    simp only [unionPlan, List.isChain_cons_cons, List.isChain_singleton, and_true]
    exact ⟨.inr (.inl trivial), .inr (.inl trivial), .inr (.inr ⟨_, hancestor, rfl⟩),
      .inr (.inl trivial), .inl hroot⟩

/-- **The text of a plan shows its forest.** A plan whose nodes are in pre-order is shown with one
line for each node, in their order, which is indented by three spaces for each ancestor of the node.
If no detail has a line feed, the nearest line above that is indented one step less is that of the
node that a node belongs to. Plans with the same text thus have the same forest. -/
theorem renderPlan_inPreOrder {nodes : List PlanNode} (h : InPreOrder nodes) :
    renderPlan nodes = String.intercalate "\n" (planHeader :: nodes.map fun n =>
        .ofList (List.replicate (3 * (ancestorsIn nodes n).ncard) ' ') ++ "+- " ++ n.detail) ∧
      ((∀ n ∈ nodes, '\n' ∉ n.detail.toList) →
        readPlan (renderPlan nodes) = forestOf nodes ∧
          ∀ other, InPreOrder other → (∀ n ∈ other, '\n' ∉ n.detail.toList) →
            renderPlan other = renderPlan nodes → forestOf other = forestOf nodes) := by
  refine ⟨congrArg (String.intercalate "\n") h.planLines_eq, fun hlines => ?_⟩
  refine ⟨h.readPlan_renderPlan hlines, fun other hother hlines' htext => ?_⟩
  rw [← hother.readPlan_renderPlan hlines', htext, h.readPlan_renderPlan hlines]

/-- The text of the plan of a union shows the forest of its nodes. -/
theorem renderPlan_unionPlan :
    InPreOrder unionPlan ∧ (∀ n ∈ unionPlan, '\n' ∉ n.detail.toList) ∧
      renderPlan unionPlan = String.intercalate "\n"
        ["== Physical Execution Plan ==", "+- COMPOUND QUERY", "   +- LEFT-MOST SUBQUERY",
          "      +- SCAN a", "   +- UNION ALL", "      +- SCAN b", "+- USE TEMP B-TREE"] ∧
      readPlan (renderPlan unionPlan) =
        [(none, "COMPOUND QUERY"), (some 0, "LEFT-MOST SUBQUERY"), (some 1, "SCAN a"),
          (some 0, "UNION ALL"), (some 3, "SCAN b"), (none, "USE TEMP B-TREE")] := by
  have hlines : ∀ n ∈ unionPlan, '\n' ∉ n.detail.toList := by decide
  refine ⟨inPreOrder_unionPlan, hlines, by decide +kernel, ?_⟩
  rw [((renderPlan_inPreOrder inPreOrder_unionPlan).2 hlines).1]
  decide

end SqlJob
