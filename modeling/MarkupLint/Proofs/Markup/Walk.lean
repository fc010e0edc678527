import MarkupLint.Markup.Walk

/-!
# A walk goes in preorder

A walk keeps lists of siblings and hands out one node at a time. What it still has to hand out is
the preorder of these lists, one behind the other: one step takes the first node off it
(`preorderPending_nextOf`), and so the whole walk gives all of it.
-/

namespace MarkupLint.Markup

theorem Node.preorder_eq (node : Node) :
    node.preorder = node :: Markup.preorder node.children := by
  cases node <;> simp [Node.preorder, Node.children, Markup.preorder]

namespace Walk

/-- The nodes in lists of siblings, in the order in which they are to be visited. -/
def preorderPending (pending : List (List Node)) : List Node :=
  pending.flatMap preorder

/-- A walk that is over has no nodes left. -/
theorem preorderPending_of_nextOf_eq_none {pending : List (List Node)}
    (finished : nextOf pending = none) : preorderPending pending = [] := by
  induction pending with
  | nil => rfl
  | cons siblings outer ih =>
      cases siblings with
      | nil => exact ih finished
      | cons node siblings =>
          simp only [nextOf] at finished
          split at finished <;> contradiction

/-- One step takes the first of the nodes that are left. -/
theorem preorderPending_nextOf {pending after : List (List Node)} {node : Node}
    (found : nextOf pending = some (node, after)) :
    preorderPending pending = node :: preorderPending after := by
  induction pending with
  | nil => contradiction
  | cons siblings outer ih =>
      cases siblings with
      | nil => exact ih found
      | cons first siblings =>
          simp only [nextOf] at found
          split at found
          · rename_i childless
            cases found
            simp [preorderPending, preorder, Node.preorder_eq, List.isEmpty_iff.mp childless]
          · cases found
            simp [preorderPending, preorder, Node.preorder_eq]

theorem preorderPending_next? {walk after : Walk} {node : Node}
    (found : walk.next? = some (node, after)) :
    preorderPending walk.pending = node :: preorderPending after.pending :=
  preorderPending_nextOf (nextOf_of_next? found)

/-- A walk is over exactly if no node is left. -/
theorem next?_eq_none_iff {walk : Walk} :
    walk.next? = none ↔ preorderPending walk.pending = [] := by
  constructor
  · intro finished
    apply preorderPending_of_nextOf_eq_none
    simpa [next?] using finished
  · intro nothing
    cases found : walk.next? with
    | none => rfl
    | some step =>
        rw [preorderPending_next? found] at nothing
        cases nothing

theorem toList_eq_preorderPending (walk : Walk) : walk.toList = preorderPending walk.pending := by
  fun_induction Walk.toList walk with
  | case1 walk finished => exact (next?_eq_none_iff.mp finished).symm
  | case2 walk node after found ih => rw [ih, preorderPending_next? found]

theorem preorderPending_ofForest (forest : List Node) :
    preorderPending (ofForest forest).pending = preorder forest :=
  List.flatMap_singleton _ _

end Walk

/-- The nodes of a forest in document order are its preorder. -/
theorem walk_eq_preorder (forest : List Node) : walk forest = preorder forest := by
  rw [walk, Walk.toList_eq_preorderPending, Walk.preorderPending_ofForest]

end MarkupLint.Markup
