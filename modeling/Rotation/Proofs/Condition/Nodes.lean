import Rotation.Condition.Check
import Rotation.Proofs.Condition.Evaluation
import Rotation.Proofs.Diagnostic.Pointer

/-!
# The nodes of a condition

All conditions inside a condition, each with the steps that lead to it in the
written form.  The check of a condition looks at one node after the other, at
its own place, and at nothing else.
-/

namespace Rotation.Condition

open Rotation.Pointer

/-- A condition further down. -/
def further (steps : List Step) (node : List Step × Condition) : List Step × Condition :=
  (steps ++ node.1, node.2)

mutual

/-- The nodes of a condition with the steps to them, each before those inside
it. -/
def nodes : Condition → List (List Step × Condition)
  | .all children => ([], .all children) :: nodesFrom 0 children
  | .any children => ([], .any children) :: nodesFrom 0 children
  | .not child => ([], .not child) :: (nodes child).map (further [.field "child"])
  | .const value => [([], .const value)]
  | .pointShows point tolerance => [([], .pointShows point tolerance)]
  | .skillShows skill tolerance => [([], .skillShows skill tolerance)]
  | .barChanged point tolerance => [([], .barChanged point tolerance)]
  | .metricAtLeast skill metric count => [([], .metricAtLeast skill metric count)]

/-- The nodes of the children of a group, the first of which has the given
position. -/
def nodesFrom (position : Nat) : List Condition → List (List Step × Condition)
  | [] => []
  | child :: rest =>
    (nodes child).map (further [.field "children", .item position]) ++ nodesFrom (position + 1) rest

end

theorem exists_mem_nodesFrom {children : List Condition} {child : Condition}
    {node : List Step × Condition} (mem : child ∈ children) (node_mem : node ∈ child.nodes)
    (position : Nat) :
    ∃ i, further [.field "children", .item i] node ∈ nodesFrom position children := by
  induction children generalizing position with
  | nil => contradiction
  | cons first rest ih =>
      rw [nodesFrom]
      rcases List.mem_cons.mp mem with rfl | later
      · exact ⟨position, List.mem_append_left _ (List.mem_map_of_mem node_mem)⟩
      · obtain ⟨i, found⟩ := ih later (position + 1)
        exact ⟨i, List.mem_append_right _ found⟩

/-- The atoms of a condition are among its nodes. -/
theorem exists_mem_nodes_of_mem_atoms {c atom : Condition} (mem : atom ∈ c.atoms) :
    ∃ steps, (steps, atom) ∈ c.nodes := by
  induction c with
  | all children ih | any children ih =>
      rw [atoms, atomsOf_eq_flatMap] at mem
      obtain ⟨child, child_mem, atom_mem⟩ := List.mem_flatMap.mp mem
      obtain ⟨steps, inside⟩ := ih child child_mem atom_mem
      obtain ⟨i, found⟩ := exists_mem_nodesFrom child_mem inside 0
      exact ⟨_, List.mem_cons_of_mem _ found⟩
  | not child ih =>
      obtain ⟨steps, inside⟩ := ih mem
      exact ⟨_, List.mem_cons_of_mem _ (List.mem_map_of_mem inside)⟩
  | const value => contradiction
  | pointShows | skillShows | barChanged | metricAtLeast =>
      rw [List.mem_singleton.mp mem]
      exact ⟨[], List.mem_singleton_self _⟩

/-- Whether the condition is a group without children. -/
def isHollow : Condition → Bool
  | .all [] | .any [] => true
  | _ => false

/-- Findings about each node at its place. -/
def findings (find : Condition → String → Diagnostics) (path : String)
    (nodes : List (List Step × Condition)) : Diagnostics :=
  nodes.flatMap fun node => find node.2 (walk path node.1)

section

variable (find : Condition → String → Diagnostics) (path : String)

@[simp]
theorem findings_nil : findings find path [] = [] :=
  rfl

@[simp]
theorem findings_cons (node : List Step × Condition) (rest : List (List Step × Condition)) :
    findings find path (node :: rest) =
      find node.2 (walk path node.1) ++ findings find path rest :=
  rfl

theorem findings_append (first second : List (List Step × Condition)) :
    findings find path (first ++ second) = findings find path first ++ findings find path second :=
  List.flatMap_append

theorem findings_further (steps : List Step) (nodes : List (List Step × Condition)) :
    findings find path (nodes.map (further steps)) = findings find (walk path steps) nodes := by
  simp [findings, List.flatMap_map, further, walk_append]

end

/-- What the check finds about a node itself. -/
def ownFindings (catalogue : Catalogue) : Condition → String → Diagnostics
  | .all children, path =>
    if children.any (isConst false) then
      Diagnostics.warning "expr.unsatisfiable" path
        "`and` contains `const false`; it can never be true"
    else []
  | .any children, path =>
    if children.any (isConst true) then
      Diagnostics.warning "expr.tautology" path "`or` contains `const true`; it is always true"
    else []
  | .not _, _ | .const _, _ => []
  | .pointShows point _, path | .barChanged point _, path => checkPoint point catalogue path
  | .skillShows skill _, path => checkIndicator skill catalogue path
  | .metricAtLeast skill _ count, path => checkMetric skill count catalogue path

theorem checkList_eq_findings {catalogue : Catalogue} {children : List Condition}
    (children_eq : ∀ child ∈ children, ∀ path,
      check child catalogue path = findings (ownFindings catalogue) path child.nodes)
    (path : String) (i : Nat) :
    checkList children catalogue (push path "children") i =
      findings (ownFindings catalogue) path (nodesFrom i children) := by
  induction children generalizing i with
  | nil => simp [checkList, nodesFrom]
  | cons child rest ih =>
      obtain ⟨child_eq, rest_eq⟩ := List.forall_mem_cons.mp children_eq
      rw [checkList, nodesFrom, findings_append, findings_further, child_eq, ih rest_eq]
      rfl

/-- The findings of the check are those about the nodes themselves. -/
theorem check_eq_findings (catalogue : Catalogue) (c : Condition) (path : String) :
    c.check catalogue path = findings (ownFindings catalogue) path c.nodes := by
  induction c generalizing path with
  | all children ih | any children ih =>
      rw [check, nodes, findings_cons, checkList_eq_findings ih]
      rfl
  | not child ih =>
      rw [check, nodes, findings_cons, findings_further, ih]
      rfl
  | const | pointShows | skillShows | barChanged | metricAtLeast => simp [check, nodes, ownFindings]

/-- What the check finds about an atom itself, it finds. -/
theorem exists_ownFindings_subset_check {c atom : Condition} (mem : atom ∈ c.atoms)
    (catalogue : Catalogue) (path : String) :
    ∃ place, ownFindings catalogue atom place ⊆ c.check catalogue path := by
  obtain ⟨steps, node_mem⟩ := exists_mem_nodes_of_mem_atoms mem
  refine ⟨walk path steps, ?_⟩
  intro d found
  rw [check_eq_findings]
  exact List.mem_flatMap.mpr ⟨_, node_mem, found⟩

end Rotation.Condition
