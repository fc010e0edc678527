import MarkupLint.Markup.Node

/-!
# Visiting every node

A walk hands out the nodes of a forest one by one, each before its children. It keeps the siblings
still to be visited, innermost first, and never recurses. Beside it stands `preorder`, the same
order said by recursion on the forest.
-/

namespace MarkupLint.Markup

mutual

/-- The number of nodes in a node, itself included. -/
def Node.count : Node → Nat
  | .element _ children => 1 + countAll children
  | .text _ => 1
  | .comment _ => 1
  | .doctype _ => 1

/-- The number of nodes in a forest. -/
def countAll : List Node → Nat
  | [] => 0
  | node :: rest => node.count + countAll rest

end

mutual

/-- A node followed by the nodes inside it. -/
def Node.preorder : Node → List Node
  | .element tag children => .element tag children :: preorder children
  | .text token => [.text token]
  | .comment token => [.comment token]
  | .doctype token => [.doctype token]

/-- Every node of a forest, each before its children. -/
def preorder : List Node → List Node
  | [] => []
  | node :: rest => node.preorder ++ preorder rest

end

/-- A walk under way: lists of siblings still to be visited, innermost first. -/
structure Walk where
  pending : List (List Node)
deriving Inhabited

namespace Walk

/-- The walk over a whole forest. -/
def ofForest (forest : List Node) : Walk :=
  ⟨[forest]⟩

/-- The next node, and the walk that goes on behind it. -/
def nextOf : List (List Node) → Option (Node × List (List Node))
  | [] => none
  | [] :: outer => nextOf outer
  | (node :: siblings) :: outer =>
      if node.children.isEmpty then some (node, siblings :: outer)
      else some (node, node.children :: siblings :: outer)

/-- The next node of a walk, and the walk that goes on behind it. -/
def next? (walk : Walk) : Option (Node × Walk) :=
  (nextOf walk.pending).map fun found => (found.1, ⟨found.2⟩)

/-- The number of nodes in lists of siblings, with all their descendants. -/
def countPending : List (List Node) → Nat
  | [] => 0
  | siblings :: outer => countAll siblings + countPending outer

/-- The number of nodes still to be visited. -/
def remaining (walk : Walk) : Nat :=
  countPending walk.pending

theorem count_eq (node : Node) : node.count = 1 + countAll node.children := by
  cases node <;> simp [Node.count, Node.children, countAll]

theorem remaining_nextOf {pending after : List (List Node)} {node : Node}
    (found : nextOf pending = some (node, after)) :
    countPending after + 1 = countPending pending := by
  induction pending with
  | nil => simp [nextOf] at found
  | cons siblings outer ih =>
      cases siblings with
      | nil =>
          simp only [nextOf] at found
          simpa [countPending, countAll] using ih found
      | cons first others =>
          simp only [nextOf] at found
          have size := count_eq first
          split at found
          · rename_i childless
            simp only [Option.some.injEq, Prod.mk.injEq] at found
            obtain ⟨rfl, rfl⟩ := found
            simp only [List.isEmpty_iff] at childless
            simp [countPending, countAll, childless] at size ⊢
            omega
          · simp only [Option.some.injEq, Prod.mk.injEq] at found
            obtain ⟨rfl, rfl⟩ := found
            simp [countPending, countAll] at size ⊢
            omega

theorem nextOf_of_next? {walk after : Walk} {node : Node}
    (found : walk.next? = some (node, after)) :
    nextOf walk.pending = some (node, after.pending) := by
  simp only [next?, Option.map_eq_some_iff, Prod.mk.injEq] at found
  rcases found with ⟨⟨visited, pending⟩, step, rfl, rfl⟩
  exact step

theorem remaining_next {walk after : Walk} {node : Node}
    (found : walk.next? = some (node, after)) : after.remaining < walk.remaining := by
  have drop := remaining_nextOf (nextOf_of_next? found)
  simp only [remaining]
  omega

/-- The nodes a walk still hands out, in order. -/
def toList (walk : Walk) : List Node :=
  match found : walk.next? with
  | none => []
  | some (node, after) => node :: after.toList
termination_by walk.remaining
decreasing_by exact remaining_next found

end Walk

/-- Every node of a forest in document order. -/
def walk (forest : List Node) : List Node :=
  (Walk.ofForest forest).toList

end MarkupLint.Markup
