import Dossier.Proofs.Alert.Checking

/-!
Rule trees, node by node.

The checker and the evaluator go through a tree by functions on nodes, lists of nodes and optional
nodes.  What they come to is proved by induction on the nodes alone: a statement about a tree may be
used for the children of a group or a scope and for the criteria of an aggregate.
-/

namespace Dossier.RuleNode

/-- The induction on trees. -/
@[elab_as_elim]
theorem induct {motive : RuleNode → Prop}
    (condition : ∀ tested, motive (.condition tested))
    (group : ∀ logic children, (∀ child ∈ children, motive child) →
      motive (.group logic children))
    (scope : ∀ object quantifier children, (∀ child ∈ children, motive child) →
      motive (.scope object quantifier children))
    (aggregate : ∀ duplicates criteria, (∀ root, criteria = some root → motive root) →
      motive (.aggregate duplicates criteria))
    (node : RuleNode) : motive node := by
  refine @RuleNode.rec motive (fun children => ∀ child ∈ children, motive child)
    (fun criteria => ∀ root, criteria = some root → motive root)
    condition group scope aggregate ?_ ?_ ?_ ?_ node
  · exact fun _ member => absurd member List.not_mem_nil
  · exact fun _ _ first rest => List.forall_mem_cons.mpr ⟨first, rest⟩
  · exact fun _ same => absurd same.symm (Option.some_ne_none _)
  · rintro root held _ ⟨⟩
    exact held

/-- A node of a tree, at whatever depth; criteria belong to the tree. -/
inductive Within (node : RuleNode) : RuleNode → Prop where
  | root : Within node node
  | group {logic : Logic} {children : List RuleNode} {child : RuleNode} (member : child ∈ children)
      (inside : Within node child) : Within node (.group logic children)
  | scope {object : String} {quantifier : Quantifier} {children : List RuleNode} {child : RuleNode}
      (member : child ∈ children) (inside : Within node child) :
      Within node (.scope object quantifier children)
  | criteria {duplicates : Duplicates} {criteria : RuleNode} (inside : Within node criteria) :
      Within node (.aggregate duplicates (some criteria))

theorem check_group {logic : Logic} {children : List RuleNode}
    (checked : (RuleNode.group logic children).check = .ok ()) :
    ∀ child ∈ children, child.check = .ok () :=
  checkAll_eq_ok.mp checked

theorem check_scope {object : String} {quantifier : Quantifier} {children : List RuleNode}
    (checked : (RuleNode.scope object quantifier children).check = .ok ()) :
    ∀ child ∈ children, child.check = .ok () :=
  fun child member => (checkScoped_eq_ok.mp checked child member).2

theorem check_aggregate {duplicates : Duplicates} {criteria : Option RuleNode}
    (checked : (RuleNode.aggregate duplicates criteria).check = .ok ()) :
    2 ≤ duplicates.minCount ∧ ∀ root, criteria = some root → root.check = .ok () :=
  check_aggregate_eq_ok.mp checked

end Dossier.RuleNode
