import MarkupLint.Proofs.Markup.RawContent
import MarkupLint.Proofs.Markup.Walk

/-!
# Walks go in document order

A walk can be stopped at any time: `HandsOut` tells what it has given so far and what is left of
it. At every stop the two together are the preorder of the forest, so the walk is over exactly
when it has given all of it, and it comes to an end since each step uses up a node. The preorder
is document order in two ways: it goes through the paths of the forest from first to last, each
once (`InDocumentOrder`), and in the forest of a text the nodes start further and further behind.
-/

namespace MarkupLint.Markup

/-! ## Walking -/

namespace Walk

/-- The walk has handed out the nodes, one by one, and goes on as `last`. -/
inductive HandsOut : Walk → List Node → Walk → Prop where
  | nothing (walk : Walk) : HandsOut walk [] walk
  | next {walk after last : Walk} {node : Node} {nodes : List Node}
      (found : walk.next? = some (node, after))
      (more : HandsOut after nodes last) : HandsOut walk (node :: nodes) last

/-- What was handed out and what is left are what there was. -/
theorem HandsOut.preorderPending_eq {walk last : Walk} {nodes : List Node}
    (run : walk.HandsOut nodes last) :
    preorderPending walk.pending = nodes ++ preorderPending last.pending := by
  induction run with
  | nothing walk => rfl
  | next found more ih => rw [preorderPending_next? found, ih, List.cons_append]

/-- Every walk comes to its end: each step leaves fewer nodes to visit. -/
theorem exists_handsOut_all (walk : Walk) :
    ∃ last, walk.HandsOut (preorderPending walk.pending) last ∧ last.next? = none := by
  induction size : walk.remaining using Nat.strongRecOn generalizing walk with
  | ind size ih =>
      subst size
      cases found : walk.next? with
      | none =>
          rw [next?_eq_none_iff.mp found]
          exact ⟨walk, .nothing walk, found⟩
      | some step =>
          rcases ih _ (remaining_next found) step.2 rfl with ⟨last, run, finished⟩
          rw [preorderPending_next? found]
          exact ⟨last, .next found run, finished⟩

end Walk

/-! ## Paths -/

/-- The node at a path: the place of a root, the place of one of its children, and so on. -/
def nodeAt? (forest : List Node) : List Nat → Option Node
  | [] => none
  | place :: path =>
      forest[place]?.bind fun node =>
        if path.isEmpty then some node else nodeAt? node.children path

theorem nodeAt?_nil (path : List Nat) : nodeAt? [] path = none := by
  cases path <;> rfl

theorem ne_nil_of_nodeAt? {forest : List Node} {path : List Nat}
    (found : (nodeAt? forest path).isSome = true) : path ≠ [] := by
  rintro rfl
  cases found

theorem nodeAt?_inside (first : Node) (rest : List Node) {path : List Nat} (some : path ≠ []) :
    nodeAt? (first :: rest) (0 :: path) = nodeAt? first.children path := by
  cases path with
  | nil => exact absurd rfl some
  | cons place path => rfl

/-- The path of a node if there is one more root in front. -/
def laterPath : List Nat → List Nat
  | [] => []
  | place :: path => (place + 1) :: path

theorem nodeAt?_laterPath (first : Node) (rest : List Node) (path : List Nat) :
    nodeAt? (first :: rest) (laterPath path) = nodeAt? rest path := by
  cases path <;> rfl

/-- Paths are ordered by the first place at which they differ; a path comes
before those that go on behind it. -/
def Precedes : List Nat → List Nat → Prop :=
  List.Lex (· < ·)

/-- The nodes are those at all paths of the forest, from the first path to the last, each once. So
a node comes before its children, and they come in order. -/
def InDocumentOrder (forest nodes : List Node) : Prop :=
  ∃ paths : List (List Nat), paths.Pairwise Precedes ∧
    (∀ path, path ∈ paths ↔ (nodeAt? forest path).isSome = true) ∧
    paths.map (nodeAt? forest) = nodes.map some

theorem precedes_laterPath {path other : List Nat} (earlier : Precedes path other)
    (some : path ≠ []) : Precedes (laterPath path) (laterPath other) := by
  cases earlier with
  | nil => exact absurd rfl some
  | cons more => exact .cons more
  | rel less => exact .rel (Nat.succ_lt_succ less)

theorem precedes_zero_laterPath (path : List Nat) {other : List Nat} (some : other ≠ []) :
    Precedes (0 :: path) (laterPath other) := by
  cases other with
  | nil => exact absurd rfl some
  | cons place other => exact .rel (Nat.succ_pos place)

/-- The paths of a forest, by those inside its first root and those of its other roots. -/
def joinPaths (inside later : List (List Nat)) : List (List Nat) :=
  [0] :: (inside.map (0 :: ·) ++ later.map laterPath)

theorem pairwise_joinPaths {inside later : List (List Nat)}
    (insideOrdered : inside.Pairwise Precedes) (insideSome : ∀ path ∈ inside, path ≠ [])
    (laterOrdered : later.Pairwise Precedes) (laterSome : ∀ path ∈ later, path ≠ []) :
    (joinPaths inside later).Pairwise Precedes := by
  simp only [joinPaths, List.pairwise_cons, List.pairwise_append, List.mem_append, List.mem_map]
  refine ⟨?_, ?_, ?_, ?_⟩
  · rintro _ (⟨path, mem, rfl⟩ | ⟨path, mem, rfl⟩)
    · rcases List.exists_cons_of_ne_nil (insideSome path mem) with ⟨place, path, rfl⟩
      exact .cons .nil
    · exact precedes_zero_laterPath [] (laterSome path mem)
  · rw [List.pairwise_map]
    exact insideOrdered.imp .cons
  · rw [List.pairwise_map]
    exact laterOrdered.imp_of_mem fun mem _ earlier => precedes_laterPath earlier (laterSome _ mem)
  · rintro _ ⟨path, -, rfl⟩ _ ⟨other, mem, rfl⟩
    exact precedes_zero_laterPath path (laterSome other mem)

theorem mem_joinPaths_iff {first : Node} {rest : List Node} {inside later : List (List Nat)}
    (insideAll : ∀ path, path ∈ inside ↔ (nodeAt? first.children path).isSome = true)
    (laterAll : ∀ path, path ∈ later ↔ (nodeAt? rest path).isSome = true) (path : List Nat) :
    path ∈ joinPaths inside later ↔ (nodeAt? (first :: rest) path).isSome = true := by
  simp only [joinPaths, List.mem_cons, List.mem_append, List.mem_map]
  constructor
  · rintro (rfl | ⟨inner, mem, rfl⟩ | ⟨outer, mem, rfl⟩)
    · rfl
    · have found := (insideAll inner).mp mem
      rwa [nodeAt?_inside first rest (ne_nil_of_nodeAt? found)]
    · rw [nodeAt?_laterPath]
      exact (laterAll outer).mp mem
  · intro found
    rcases List.exists_cons_of_ne_nil (ne_nil_of_nodeAt? found) with ⟨place, path, rfl⟩
    cases place with
    | zero =>
        cases path with
        | nil => exact Or.inl rfl
        | cons place path => exact Or.inr (Or.inl ⟨place :: path, (insideAll _).mpr found, rfl⟩)
    | succ place => exact Or.inr (Or.inr ⟨place :: path, (laterAll _).mpr found, rfl⟩)

theorem map_joinPaths (first : Node) (rest : List Node) {inside : List (List Nat)}
    (insideSome : ∀ path ∈ inside, path ≠ []) (later : List (List Nat)) :
    (joinPaths inside later).map (nodeAt? (first :: rest)) =
      some first :: (inside.map (nodeAt? first.children) ++ later.map (nodeAt? rest)) := by
  have insideNodes : (inside.map (0 :: ·)).map (nodeAt? (first :: rest)) =
      inside.map (nodeAt? first.children) := by
    rw [List.map_map]
    exact List.map_congr_left fun path mem => nodeAt?_inside first rest (insideSome path mem)
  have laterNodes : (later.map laterPath).map (nodeAt? (first :: rest)) =
      later.map (nodeAt? rest) := by
    rw [List.map_map]
    exact List.map_congr_left fun path _ => nodeAt?_laterPath first rest path
  rw [joinPaths, List.map_cons, List.map_append, insideNodes, laterNodes]
  rfl

/-- The preorder of a forest goes through its paths in order. -/
theorem inDocumentOrder_preorder (forest : List Node) :
    InDocumentOrder forest (preorder forest) := by
  induction forest using forest_induction with
  | nil => exact ⟨[], .nil, fun path => by simp [nodeAt?_nil], rfl⟩
  | cons first rest ihInside ihLater =>
      rcases ihInside with ⟨inside, insideOrdered, insideAll, insideNodes⟩
      rcases ihLater with ⟨later, laterOrdered, laterAll, laterNodes⟩
      have insideSome : ∀ path ∈ inside, path ≠ [] :=
        fun path mem => ne_nil_of_nodeAt? ((insideAll path).mp mem)
      have laterSome : ∀ path ∈ later, path ≠ [] := fun path mem =>
        ne_nil_of_nodeAt? ((laterAll path).mp mem)
      refine ⟨joinPaths inside later,
        pairwise_joinPaths insideOrdered insideSome laterOrdered laterSome,
        mem_joinPaths_iff insideAll laterAll, ?_⟩
      rw [map_joinPaths first rest insideSome later, insideNodes, laterNodes, preorder,
        Node.preorder_eq, List.cons_append, List.map_cons, List.map_append]

/-! ## Offsets -/

/-- The first node starts in front of the second. -/
def Node.StartsBefore (node other : Node) : Prop :=
  node.loc.start.offset < other.loc.start.offset

/-- Nodes that enclose their children and tile a text start one behind the other, in preorder. -/
theorem Tiles.pairwise_startsBefore {forest : List Node}
    (enclosing : ∀ node ∈ preorder forest, node.Encloses) :
    ∀ {start stop}, Tiles start forest stop → (preorder forest).Pairwise Node.StartsBefore := by
  induction forest using forest_induction with
  | nil => exact fun _ => .nil
  | cons first rest ihInside ihLater =>
      rintro start stop ⟨begins, later, more⟩
      have insideEnclosing : ∀ node ∈ preorder first.children, node.Encloses :=
        fun node mem => enclosing node (mem_preorder_cons_iff.mpr (Or.inr (Or.inl mem)))
      have laterEnclosing : ∀ node ∈ preorder rest, node.Encloses :=
        fun node mem => enclosing node (mem_preorder_cons_iff.mpr (Or.inr (Or.inr mem)))
      rcases enclosing first (mem_preorder_cons_iff.mpr (Or.inl rfl)) with
        ⟨innerStart, innerStop, behind, inner, inside⟩
      have insideBounds := Tiles.bounds insideEnclosing inner
      have laterBounds := Tiles.bounds laterEnclosing more
      rw [preorder, Node.preorder_eq, List.cons_append, List.pairwise_cons, List.pairwise_append]
      refine ⟨?_, ihInside insideEnclosing inner, ihLater laterEnclosing more, ?_⟩
      · intro node mem
        rcases List.mem_append.mp mem with nested | following
        · exact Nat.lt_of_lt_of_le behind (insideBounds node nested).1
        · exact Nat.lt_of_lt_of_le (by omega) (laterBounds node following).1
      · intro node nested other following
        have nonempty := (insideEnclosing node nested).start_lt_stop
        calc
          node.loc.start.offset < node.loc.stop.offset := nonempty
          _ ≤ innerStop := (insideBounds node nested).2
          _ ≤ first.loc.stop.offset := inside
          _ ≤ other.loc.start.offset := (laterBounds other following).1

theorem pairwise_startsBefore_parse (text : String) :
    (preorder (parse text)).Pairwise Node.StartsBefore := by
  rcases parse_laid text with ⟨last, -, laid⟩
  exact (laid.tiles (Slice.Ends.refl (Slice.ofText text))).pairwise_startsBefore
    encloses_of_mem_parse

/-! ## Walks over forests -/

/-- A walk over a forest comes to an end and has then handed out the preorder of the forest.
However far it has come, it has handed out the first nodes of the preorder, and it is over only
when these are all. The preorder goes through the paths of the forest in order, and in the forest
of a text every node starts behind the one that was visited before. -/
theorem walk_in_document_order (forest : List Node) (text : String) :
    (∃ last, (Walk.ofForest forest).HandsOut (preorder forest) last ∧ last.next? = none) ∧
    (∀ nodes last, (Walk.ofForest forest).HandsOut nodes last →
      nodes <+: preorder forest ∧ (last.next? = none ↔ nodes = preorder forest)) ∧
    InDocumentOrder forest (preorder forest) ∧
    walk forest = preorder forest ∧ (walk (parse text)).Pairwise Node.StartsBefore := by
  refine ⟨?_, ?_, inDocumentOrder_preorder forest, walk_eq_preorder forest, ?_⟩
  · have whole := (Walk.ofForest forest).exists_handsOut_all
    rwa [Walk.preorderPending_ofForest] at whole
  · intro nodes last run
    have parts := run.preorderPending_eq
    rw [Walk.preorderPending_ofForest] at parts
    rw [Walk.next?_eq_none_iff, parts]
    refine ⟨List.prefix_append _ _, ?_⟩
    rw [List.self_eq_append_right]
  · rw [walk_eq_preorder]
    exact pairwise_startsBefore_parse text

/-- An element with a text in it, and the same text once more behind it. -/
def repeatedText : List Node :=
  [.element (.new "p" (.new "p" (.point 1 2))) [.text (.new "a" (.point 1 4))],
    .text (.new "a" (.point 1 4))]

/-- A walk that is stopped inside an element, in front of a second node like
the one it gave last. -/
theorem walk_in_document_order_stopped :
    ∃ nodes last, nodes.length = 2 ∧ (Walk.ofForest repeatedText).HandsOut nodes last ∧
      nodes <+: preorder repeatedText ∧ last.next? ≠ none ∧
      (walk (parse "<p>a</p>a")).Pairwise Node.StartsBefore := by
  rcases walk_in_document_order repeatedText "<p>a</p>a" with ⟨-, stops, -, -, ordered⟩
  have run : ∃ first second last, (Walk.ofForest repeatedText).HandsOut [first, second] last :=
    ⟨_, _, _, .next rfl (.next rfl (.nothing _))⟩
  rcases run with ⟨first, second, last, run⟩
  rcases stops _ last run with ⟨front, finished⟩
  refine ⟨[first, second], last, rfl, run, front, fun ended => ?_, ordered⟩
  have all : (2 : Nat) = (preorder repeatedText).length := congrArg List.length (finished.mp ended)
  exact absurd all (by decide)

end MarkupLint.Markup
