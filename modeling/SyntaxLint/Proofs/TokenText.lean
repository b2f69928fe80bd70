import Mathlib
import SyntaxLint.Proofs.Fallible
import SyntaxLint.Proofs.Progress
import SyntaxLint.Proofs.Subtree

/-!
# The text of a tree and of its subtrees

The text of a node is what its tokens spell, one after another in document order.  Tokens have paths
as nodes have: the path of a token ends with its index among the elements of its parent, and document
order is the order of these paths.  `Tree.tokenPlaces` lists the tokens of a tree, and as for nodes
two facts determine the list (`Tree.IsTokenOrder`): the paths increase, and a token is in the list
exactly if following its path from the root leads to it.

The tokens below a node are those whose path starts with the path of the node.  So the list of all
tokens falls into three parts at any node of the tree (`Tree.tokenPlaces_eq_append`): what precedes
the node, what is below it, and what follows.  The middle part spells the text of the node, which makes
the text that a query gives a slice of the text of the tree it was asked of.
-/

namespace SyntaxLint

open scoped List

variable {κ : Type}

/-! ## Tokens and their paths -/

/-- A token of a tree, and the path to it. -/
structure TokenPlace where
  path : Path
  token : Token
  deriving DecidableEq

namespace TokenPlace

/-- The same token, seen from the parent of the node its path starts at. -/
def below (i : Nat) (place : TokenPlace) : TokenPlace :=
  { place with path := i :: place.path }

/-- The token of a subtree as a token of the whole tree, where a path leads to the subtree. -/
def graft (path : Path) (place : TokenPlace) : TokenPlace :=
  { place with path := path ++ place.path }

/-- What tokens spell if they are written one after another. -/
def spelled (places : List TokenPlace) : String :=
  String.join (places.map fun place => place.token.text)

@[simp] lemma spelled_cons (place : TokenPlace) (places : List TokenPlace) :
    spelled (place :: places) = place.token.text ++ spelled places :=
  String.join_cons

@[simp] lemma spelled_append (places others : List TokenPlace) :
    spelled (places ++ others) = spelled places ++ spelled others := by
  rw [spelled, List.map_append, String.join_append, spelled, spelled]

@[simp] lemma spelled_map_below (i : Nat) (places : List TokenPlace) :
    spelled (places.map (below i)) = spelled places := by
  rw [spelled, List.map_map]
  rfl

@[simp] lemma spelled_map_graft (path : Path) (places : List TokenPlace) :
    spelled (places.map (graft path)) = spelled places := by
  rw [spelled, List.map_map]
  rfl

end TokenPlace

/-- The tokens of a forest in document order; its first element has index `i`. -/
def Forest.tokenPlaces : Forest κ → Nat → List TokenPlace
  | .nil, _ => []
  | .token t rest, i => ⟨[i], t⟩ :: rest.tokenPlaces (i + 1)
  | .node _ _ inner rest, i =>
    (inner.tokenPlaces 0).map (TokenPlace.below i) ++ rest.tokenPlaces (i + 1)

/-- The token at the end of a path that starts at an element of a forest. -/
def Forest.tokenAt? : Forest κ → Path → Option Token
  | _, [] => none
  | forest, i :: path =>
    match forest.toList[i]? with
    | some (.token t) => if path = [] then some t else none
    | some (.node child) => child.elements.tokenAt? path
    | none => none

namespace Tree

/-- The tokens of a tree in document order. -/
def tokenPlaces (tree : Tree κ) : List TokenPlace :=
  tree.elements.tokenPlaces 0

/-- The token at the end of a path. -/
def tokenAt? (tree : Tree κ) (path : Path) : Option Token :=
  tree.elements.tokenAt? path

/-- A list holds the tokens of a tree in document order: exactly those that paths from its root lead
to, in the order of their paths. -/
structure IsTokenOrder (root : Tree κ) (places : List TokenPlace) : Prop where
  increasing : (places.map TokenPlace.path).Pairwise (· < ·)
  mem_iff : ∀ place, place ∈ places ↔ root.tokenAt? place.path = some place.token

/-- The tokens that precede a node: those before its path. -/
def tokensBefore (root : Tree κ) (path : Path) : List TokenPlace :=
  root.tokenPlaces.filter fun place => place.path < path

/-- The tokens that follow the subtree of a node: those after its path which are not below it. -/
def tokensAfter (root : Tree κ) (path : Path) : List TokenPlace :=
  root.tokenPlaces.filter fun place => path < place.path ∧ ¬ path <+: place.path

end Tree

/-! ## Document order -/

namespace Forest

@[simp] lemma nil_tokenAt? (path : Path) : tokenAt? (.nil : Forest κ) path = none := by
  cases path <;> rfl

@[simp] lemma token_tokenAt?_zero (t : Token) (rest : Forest κ) (path : Path) :
    (Forest.token t rest).tokenAt? (0 :: path) = if path = [] then some t else none := rfl

@[simp] lemma token_tokenAt?_succ (t : Token) (rest : Forest κ) (i : Nat) (path : Path) :
    (Forest.token t rest).tokenAt? ((i + 1) :: path) = rest.tokenAt? (i :: path) := rfl

@[simp] lemma node_tokenAt?_zero (kind : κ) (line : UInt32) (inner rest : Forest κ) (path : Path) :
    (Forest.node kind line inner rest).tokenAt? (0 :: path) = inner.tokenAt? path := rfl

@[simp] lemma node_tokenAt?_succ (kind : κ) (line : UInt32) (inner rest : Forest κ) (i : Nat)
    (path : Path) :
    (Forest.node kind line inner rest).tokenAt? ((i + 1) :: path) = rest.tokenAt? (i :: path) := rfl

/-- The tokens of a forest are the ends of the paths into it. -/
lemma mem_tokenPlaces (forest : Forest κ) (i : Nat) (place : TokenPlace) :
    place ∈ forest.tokenPlaces i ↔
      ∃ j path, place.path = (i + j) :: path ∧ forest.tokenAt? (j :: path) = some place.token := by
  induction forest generalizing i place with
  | nil => simp [tokenPlaces]
  | token t rest ih =>
    rw [tokenPlaces, List.mem_cons, ih]
    constructor
    · rintro (rfl | ⟨j, path, hpath, htoken⟩)
      · exact ⟨0, [], rfl, rfl⟩
      · exact ⟨j + 1, path, by rw [hpath]; congr 1; omega, htoken⟩
    · rintro ⟨j, path, hpath, htoken⟩
      cases j with
      | zero =>
        rw [token_tokenAt?_zero, Option.ite_none_right_eq_some] at htoken
        obtain ⟨rfl, ht⟩ := htoken
        exact .inl (by rcases place with ⟨_, _⟩; simp_all)
      | succ j => exact .inr ⟨j, path, by rw [hpath]; congr 1; omega, htoken⟩
  | node kind line inner rest ihInner ihRest =>
    rw [tokenPlaces, List.mem_append, List.mem_map, ihRest]
    constructor
    · rintro (⟨sub, hsub, rfl⟩ | ⟨j, path, hpath, htoken⟩)
      · obtain ⟨j, path, hpath, htoken⟩ := (ihInner 0 sub).1 hsub
        rw [Nat.zero_add] at hpath
        exact ⟨0, sub.path, rfl, by rw [node_tokenAt?_zero, hpath]; exact htoken⟩
      · exact ⟨j + 1, path, by rw [hpath]; congr 1; omega, htoken⟩
    · rintro ⟨j, path, hpath, htoken⟩
      rcases place with ⟨placePath, t⟩
      obtain rfl : placePath = (i + j) :: path := hpath
      cases j with
      | zero =>
        rw [node_tokenAt?_zero] at htoken
        cases path with
        | nil => exact absurd htoken (by simp [tokenAt?])
        | cons k path =>
          exact .inl ⟨⟨k :: path, t⟩, (ihInner 0 _).2 ⟨k, path, by simp, htoken⟩, rfl⟩
      | succ j => exact .inr ⟨j, path, by simp; omega, htoken⟩

/-- What comes after an element of a forest has greater paths. -/
lemma lt_of_mem_tokenPlaces {rest : Forest κ} {i : Nat} {place : TokenPlace}
    (h : place ∈ rest.tokenPlaces (i + 1)) (path : Path) : i :: path < place.path := by
  obtain ⟨j, more, hpath, -⟩ := (mem_tokenPlaces rest (i + 1) place).1 h
  rw [hpath]
  exact List.cons_lt_cons_iff.2 (.inl (by omega))

/-- The tokens of a forest come in the order of their paths. -/
lemma pairwise_tokenPlaces (forest : Forest κ) (i : Nat) :
    (forest.tokenPlaces i).Pairwise fun a b => a.path < b.path := by
  induction forest generalizing i with
  | nil => exact List.Pairwise.nil
  | token t rest ih =>
    rw [tokenPlaces, List.pairwise_cons]
    exact ⟨fun place hplace => lt_of_mem_tokenPlaces hplace [], ih (i + 1)⟩
  | node kind line inner rest ihInner ihRest =>
    rw [tokenPlaces, List.pairwise_append, List.pairwise_map]
    refine ⟨(ihInner 0).imp fun h => List.cons_lt_cons_iff.2 (.inr ⟨rfl, h⟩), ihRest (i + 1), ?_⟩
    intro place hplace after hafter
    obtain ⟨sub, -, rfl⟩ := List.mem_map.1 hplace
    exact lt_of_mem_tokenPlaces hafter sub.path

/-- The text of a forest is what its tokens spell. -/
lemma text_eq_spelled (forest : Forest κ) (i : Nat) :
    forest.text = TokenPlace.spelled (forest.tokenPlaces i) := by
  induction forest generalizing i with
  | nil => rfl
  | token t rest ih => rw [text, tokenPlaces, TokenPlace.spelled_cons, ← ih]
  | node kind line inner rest ihInner ihRest =>
    rw [text, tokenPlaces, TokenPlace.spelled_append, TokenPlace.spelled_map_below, ← ihInner,
      ← ihRest]

end Forest

namespace Tree

variable {root node : Tree κ} {path : Path}

lemma mem_tokenPlaces {place : TokenPlace} :
    place ∈ root.tokenPlaces ↔ root.tokenAt? place.path = some place.token := by
  rw [tokenPlaces, Forest.mem_tokenPlaces, tokenAt?]
  rcases place with ⟨_ | ⟨i, path⟩, t⟩
  · simp [Forest.tokenAt?]
  · simp

/-- The list is the document order of the tokens. -/
lemma isTokenOrder_tokenPlaces (root : Tree κ) : root.IsTokenOrder root.tokenPlaces where
  increasing := List.pairwise_map.2 (root.elements.pairwise_tokenPlaces 0)
  mem_iff _ := mem_tokenPlaces

lemma text_eq_spelled (root : Tree κ) : root.text = TokenPlace.spelled root.tokenPlaces :=
  root.elements.text_eq_spelled 0

/-! ## The tokens of a subtree -/

/-- Going on from a node to a token is following the longer path. -/
lemma tokenAt?_append (hnode : root.at? path = some node) (more : Path) :
    root.tokenAt? (path ++ more) = node.tokenAt? more := by
  induction path generalizing root with
  | nil =>
    rw [at?_nil, Option.some.injEq] at hnode
    rw [hnode, List.nil_append]
  | cons i path ih =>
    rw [at?, toList] at hnode
    split at hnode
    · next child hchild =>
      rw [List.cons_append, tokenAt?, Forest.tokenAt?, hchild]
      exact ih hnode
    · exact absurd hnode (by simp)

/-- The tokens below a node are those that its subtree has on its own. -/
lemma filter_tokenPlaces_eq_map_graft (hnode : root.at? path = some node) :
    (root.tokenPlaces.filter fun place => path <+: place.path) =
      node.tokenPlaces.map (TokenPlace.graft path) := by
  refine eq_of_increasing_paths TokenPlace.path
    ((root.elements.pairwise_tokenPlaces 0).filter _) ?_ fun place => ?_
  · rw [List.pairwise_map]
    exact (node.elements.pairwise_tokenPlaces 0).imp fun hlt => List.append_left_lt hlt
  · rw [List.mem_filter, decide_eq_true_eq, List.mem_map, mem_tokenPlaces]
    constructor
    · rintro ⟨htoken, more, hmore⟩
      rw [← hmore, tokenAt?_append hnode] at htoken
      refine ⟨⟨more, place.token⟩, mem_tokenPlaces.2 htoken, ?_⟩
      rw [TokenPlace.graft, hmore]
    · rintro ⟨sub, hsub, rfl⟩
      rw [TokenPlace.graft, tokenAt?_append hnode]
      exact ⟨mem_tokenPlaces.1 hsub, List.prefix_append path sub.path⟩

/-- **The tokens split at a node** into those that precede it, those below it, and those that
follow. -/
lemma tokenPlaces_eq_append (hnode : root.at? path = some node) :
    root.tokenPlaces =
      root.tokensBefore path ++ node.tokenPlaces.map (TokenPlace.graft path) ++
        root.tokensAfter path := by
  rw [← filter_tokenPlaces_eq_map_graft hnode]
  exact eq_append_of_increasing_paths TokenPlace.path (root.elements.pairwise_tokenPlaces 0) path

/-- The text of a node is a slice of the text of the tree. -/
lemma text_eq_append (hnode : root.at? path = some node) :
    root.text = TokenPlace.spelled (root.tokensBefore path) ++ node.text ++
      TokenPlace.spelled (root.tokensAfter path) := by
  rw [text_eq_spelled root, text_eq_spelled node, tokenPlaces_eq_append hnode,
    TokenPlace.spelled_append, TokenPlace.spelled_append, TokenPlace.spelled_map_graft]

/-- The texts of several nodes are what all their tokens spell. -/
lemma textOfAll_eq_spelled (trees : List (Tree κ)) :
    textOfAll trees = TokenPlace.spelled (trees.flatMap tokenPlaces) := by
  induction trees with
  | nil => rfl
  | cons tree trees ih =>
    rw [List.flatMap_cons, TokenPlace.spelled_append, ← text_eq_spelled, ← ih, textOfAll,
      List.map_cons, String.join_cons, textOfAll]

end Tree

/-! ## The text of a query -/

namespace Tree

variable {root : Node} {chain : List Kind} {found : Found}

/-- What a query finds stands at the path it gives. -/
lemma at?_of_search? (h : root.search? chain = some found) :
    root.at? found.path = some found.node := by
  have hchain : chain ≠ [] := by
    rintro rfl
    rw [search?_nil_chain] at h
    exact absurd h (by simp)
  obtain ⟨⟨visit, hvisit, hnode, -⟩, -⟩ := isFirstAnswer_of_search? hchain h
  rw [at?_of_visitAt? hvisit, hnode]

/-- The text of a query is that of the node it finds. -/
lemma searchText_eq_ok_iff (root : Node) (chain : List Kind) (text : String) :
    root.searchText chain = .ok text ↔
      ∃ found, root.search? chain = some found ∧ found.node.text = text := by
  by_cases hchain : chain = []
  · subst hchain
    rw [search?_nil_chain]
    exact iff_of_false (by simp [searchText, search, Except.map]) (by simp)
  · rw [searchText]
    constructor
    · intro h
      obtain ⟨found, hfound, htext⟩ := exists_of_map_eq_ok h
      exact ⟨found, (root.search_eq_ok_iff hchain found).1 hfound, htext⟩
    · rintro ⟨found, hfound, rfl⟩
      rw [(root.search_eq_ok_iff hchain found).2 hfound, Except.map]

/-- **Texts are slices of the token sequence.**  The text of a node is what all its tokens spell, in
document order, and the text of several nodes is their texts one after another.  The text that a
query gives is that of the node it finds, and the text of the whole tree is what the tokens that
precede that node spell, then this text, then what the tokens that follow its subtree spell. -/
theorem text_is_slice_of_token_sequence (root : Node) :
    (root.IsTokenOrder root.tokenPlaces ∧ root.text = TokenPlace.spelled root.tokenPlaces) ∧
    (∀ nodes : List Node,
      textOfAll nodes = String.join (nodes.map text) ∧
      textOfAll nodes = TokenPlace.spelled (nodes.flatMap tokenPlaces)) ∧
    ∀ (chain : List Kind) (text : String),
      root.searchText chain = .ok text ↔
        ∃ found, root.search? chain = some found ∧ root.at? found.path = some found.node ∧
          found.node.text = text ∧
          root.text = TokenPlace.spelled (root.tokensBefore found.path) ++ text ++
            TokenPlace.spelled (root.tokensAfter found.path) := by
  refine ⟨⟨root.isTokenOrder_tokenPlaces, root.text_eq_spelled⟩,
    fun nodes => ⟨rfl, textOfAll_eq_spelled nodes⟩, fun chain text => ?_⟩
  rw [searchText_eq_ok_iff]
  constructor
  · rintro ⟨found, hfound, rfl⟩
    have hnode := at?_of_search? hfound
    exact ⟨found, hfound, hnode, rfl, text_eq_append hnode⟩
  · rintro ⟨found, hfound, -, htext, -⟩
    exact ⟨found, hfound, htext⟩

/-- The text that is found occurs twice in the tree; the path tells which of the two it is. -/
theorem text_is_slice_of_repeated_text :
    let root : Node :=
      ⟨.flworExpr, 1,
        .node .forClause 1
          (.token ⟨"for", 1⟩ (.node .forBinding 1 (.token ⟨"$x", 1⟩ .nil) (.token ⟨",", 1⟩ .nil)))
          (.token ⟨"return", 2⟩ (.node .varRef 2 (.token ⟨"$x", 2⟩ .nil) .nil))⟩
    root.searchText [.flworExpr, .forBinding] = .ok "$x" ∧
      ∃ found, root.search? [.flworExpr, .forBinding] = some found ∧
        TokenPlace.spelled (root.tokensBefore found.path) = "for" ∧
        TokenPlace.spelled (root.tokensAfter found.path) = ",return$x" ∧
        root.text = TokenPlace.spelled (root.tokensBefore found.path) ++ "$x" ++
          TokenPlace.spelled (root.tokensAfter found.path) := by
  intro root
  have htext : root.searchText [.flworExpr, .forBinding] = .ok "$x" := by decide
  obtain ⟨found, hfound, -, -, hslice⟩ :=
    ((text_is_slice_of_token_sequence root).2.2 [.flworExpr, .forBinding] "$x").1 htext
  have hpath : found.path = [0, 1] := by
    have hsearch : (root.search? [.flworExpr, .forBinding]).map Found.path = some [0, 1] := by
      decide
    simpa [hfound] using hsearch
  refine ⟨htext, found, hfound, ?_, ?_, hslice⟩
  · rw [hpath]
    decide
  · rw [hpath]
    decide

end Tree

end SyntaxLint
