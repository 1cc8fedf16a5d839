import MediaQuery.Proofs.Dom.Edit

/-!
# Texts that stand next to each other

A page shows the same whether a text is one node or several that stand side by side. `coalesced`
looks at the children of a node in this way: every run of texts is one text. A text that is put into
a forest may go to the end of the text before it or become a node of its own; looked at in this way
it is where it was put, and all other text is where it was.

* `text_goes_where_it_is_put` — the law for the end of a node and for the place before a sibling
-/

namespace MediaQuery.Dom.Construction

variable {c c' : Construction}

/-! ## Runs of texts as one -/

/-- A list of children with one more in front. Two texts that meet there become one. -/
def joinFront : Child → List Child → List Child
  | .text s, .text t :: rest => .text (s ++ t) :: rest
  | child, rest => child :: rest

/-- A list of children in which every run of texts is joined into one text. -/
def coalesce (children : List Child) : List Child := children.foldr joinFront []

example : coalesce [.text "a", .text "", .node 1, .text "", .node 2, .text "b", .text "c"] =
    [.text "a", .node 1, .text "", .node 2, .text "bc"] := by
  decide

theorem joinFront_joinFront (s t : String) (rest : List Child) :
    joinFront (.text s) (joinFront (.text t) rest) = joinFront (.text (s ++ t)) rest := by
  match rest with
  | [] => rfl
  | .node n :: rest => rfl
  | .text u :: rest => simp only [joinFront, String.append_assoc]

/-- Two texts next to each other may as well be one. -/
theorem coalesce_join (before after : List Child) (s t : String) :
    coalesce (before ++ .text s :: .text t :: after) =
      coalesce (before ++ .text (s ++ t) :: after) := by
  simp only [coalesce, List.foldr_append, List.foldr_cons, joinFront_joinFront]

/-- A node as what it is among the children of another: a text by what it holds, anything else by
its identity. -/
def asChild (c : Construction) (n : NodeId) : Child :=
  match c.content n with
  | .text held => .text held
  | _ => .node n

/-- The children of a node with every run of texts as one text. -/
def coalesced (c : Construction) (n : NodeId) : List Child :=
  coalesce ((c.children n).map c.asChild)

theorem asChild_of_text {n : NodeId} {held : String} (h : c.content n = .text held) :
    c.asChild n = .text held := by
  rw [asChild, h]

theorem asChild_congr {n : NodeId} (h : c'.content n = c.content n) :
    c'.asChild n = c.asChild n := by
  rw [asChild, asChild, h]

theorem map_asChild_congr {nodes : List NodeId} (h : ∀ n ∈ nodes, c'.content n = c.content n) :
    nodes.map c'.asChild = nodes.map c.asChild :=
  List.map_congr_left fun n hn => asChild_congr (h n hn)

/-! ## Where a text goes -/

/-- What has become of a construction in which a text was put between two runs of children of a
node. -/
structure TakesText (c : Construction) (p : NodeId) (before after : List NodeId) (text : String)
    (c' : Construction) : Prop where
  coalesced_eq :
    c'.coalesced p = coalesce (before.map c.asChild ++ .text text :: after.map c.asChild)
  /-- No other node has other children, -/
  children_eq : ∀ q ≠ p, c'.children q = c.children q
  /-- none of its children has become something else, -/
  content_eq : ∀ q ≠ p, ∀ n ∈ c.children q, c'.content n = c.content n
  /-- and what is no text is the same everywhere. -/
  content_eq_of_not_isText : ∀ n, c.isText n = false → c'.content n = c.content n

theorem IsForest.takesText (h : c.IsForest) {p : NodeId} {before after : List NodeId}
    {text : String} (hsplit : c.children p = before ++ after)
    (hput : PutBetween c p before after (.text text) c') :
    TakesText c p before after text c' := by
  cases hput with
  | newText _ hlast hchildren hcontent =>
    have hold : ∀ n, n < c.items.size → c'.content n = c.content n := fun n hn => by
      rw [hcontent, if_neg (Nat.ne_of_lt hn)]
    have hnew : c'.content c.items.size = .text text := by rw [hcontent, if_pos rfl]
    have hmem : ∀ n ∈ before ++ after, c'.content n = c.content n := by
      intro n hn
      rw [← hsplit] at hn
      exact hold n (h.lt_size hn)
    obtain ⟨hbefore, hafter⟩ := List.forall_mem_append.mp hmem
    refine ⟨?_, ?_, ?_, ?_⟩
    · rw [coalesced, hchildren, if_pos rfl, List.map_append, List.map_cons, asChild_of_text hnew,
        map_asChild_congr hbefore, map_asChild_congr hafter]
    · intro q hq
      rw [hchildren, if_neg hq]
    · exact fun q _ n hn => hold n (h.lt_size hn)
    · exact fun n hn => hold n (lt_size_of_not_isText hn)
  | @joined _ _ last held hlast hheld hchildren hcontent =>
    obtain ⟨front, rfl⟩ := List.getLast?_eq_some_iff.mp hlast
    have hparent : c.IsParent p last := by
      rw [IsParent, hsplit]
      simp
    -- the text stands at no other place, so nothing else has become longer
    have hnodup := h.nodup p
    rw [hsplit, List.append_assoc, List.singleton_append, List.nodup_middle, List.nodup_cons,
      List.mem_append, not_or] at hnodup
    obtain ⟨⟨hfront, hafter⟩, -⟩ := hnodup
    have hold : ∀ n, n ≠ last → c'.content n = c.content n := fun n hn => by
      rw [hcontent, if_neg hn]
    have hlonger : c'.content last = .text (held ++ text) := by rw [hcontent, if_pos rfl]
    refine ⟨?_, ?_, ?_, ?_⟩
    · rw [coalesced, hchildren, hsplit]
      simp only [List.map_append, List.map_cons, List.map_nil, List.append_assoc,
        List.singleton_append]
      rw [map_asChild_congr fun n hn => hold n (ne_of_mem_of_not_mem hn hfront),
        map_asChild_congr fun n hn => hold n (ne_of_mem_of_not_mem hn hafter),
        asChild_of_text hlonger, asChild_of_text hheld, coalesce_join]
    · exact fun q _ => hchildren q
    · intro q hq n hn
      refine hold n ?_
      rintro rfl
      exact hq (h.parent_unique hn hparent)
    · intro n hn
      refine hold n ?_
      rintro rfl
      exact absurd (isText_iff.mpr ⟨held, hheld⟩) (by simp [hn])

/-! ## Pairs of texts -/

/-- The pairs of texts that stand next to each other in a list of nodes. -/
def pairsIn (c : Construction) : List NodeId → List (NodeId × NodeId)
  | a :: b :: rest =>
    if c.isText a && c.isText b then (a, b) :: pairsIn c (b :: rest) else pairsIn c (b :: rest)
  | _ => []

/-- The pairs of texts that stand next to each other among the children of a node. -/
def textPairs (c : Construction) (n : NodeId) : List (NodeId × NodeId) := c.pairsIn (c.children n)

theorem pairsIn_congr {nodes : List NodeId} (h : ∀ n ∈ nodes, c'.isText n = c.isText n) :
    c'.pairsIn nodes = c.pairsIn nodes := by
  induction nodes with
  | nil => rfl
  | cons a rest ih =>
    cases rest with
    | nil => rfl
    | cons b rest =>
      have hrest := ih fun n hn => h n (List.mem_cons_of_mem a hn)
      rw [pairsIn, pairsIn, hrest, h a (by simp), h b (by simp)]

/-- Two lists that do not meet in two texts have the pairs of the one and of the other. -/
theorem pairsIn_append {before after : List NodeId}
    (h : ∀ a ∈ before.getLast?, ∀ b ∈ after.head?, (c.isText a && c.isText b) = false) :
    c.pairsIn (before ++ after) = c.pairsIn before ++ c.pairsIn after := by
  induction before with
  | nil => rfl
  | cons a before ih =>
    cases before with
    | nil =>
      cases after with
      | nil => rfl
      | cons b after => simp [pairsIn, h a rfl b rfl]
    | cons b before =>
      have hrest := ih (by simpa using h)
      rw [List.cons_append] at hrest
      rw [List.cons_append, List.cons_append, pairsIn, pairsIn, hrest]
      split <;> rfl

/-- A text is put next to no other text, unless one stands behind the place. -/
theorem IsForest.textPairs_eq (h : c.IsForest) {p : NodeId} {before after : List NodeId}
    {text : String} (hsplit : c.children p = before ++ after)
    (hput : PutBetween c p before after (.text text) c')
    (hafter : ∀ n ∈ after.head?, c.isText n = false) (q : NodeId) :
    c'.textPairs q = c.textPairs q := by
  cases hput with
  | newText _ hlast hchildren hcontent =>
    have hold : ∀ n, n < c.items.size → c'.isText n = c.isText n := fun n hn =>
      isText_congr (by rw [hcontent, if_neg (Nat.ne_of_lt hn)])
    have hlists : ∀ n ∈ c.children q, c'.isText n = c.isText n := fun n hn =>
      hold n (h.lt_size hn)
    rw [textPairs, textPairs, hchildren]
    split
    next hq =>
      subst hq
      have hbefore : ∀ a ∈ before.getLast?, c'.isText a = false := fun a ha => by
        rw [hlists a (by rw [hsplit]; exact List.mem_append_left _ (List.mem_of_getLast? ha))]
        exact hlast a ha
      have hbehind : ∀ b ∈ after.head?, c'.isText b = false := fun b hb => by
        rw [hlists b (by rw [hsplit]; exact List.mem_append_right _ (List.mem_of_mem_head? hb))]
        exact hafter b hb
      -- on neither side of the new text there is another one
      rw [← pairsIn_congr hlists, hsplit]
      calc c'.pairsIn (before ++ c.items.size :: after)
        _ = c'.pairsIn before ++ c'.pairsIn ([c.items.size] ++ after) :=
          pairsIn_append fun a ha b _ => by simp [hbefore a ha]
        _ = c'.pairsIn before ++ ([] ++ c'.pairsIn after) := by
          rw [pairsIn_append fun a _ b hb => by simp [hbehind b hb]]
          rfl
        _ = c'.pairsIn (before ++ after) :=
          (pairsIn_append fun a ha b _ => by simp [hbefore a ha]).symm
    next => exact pairsIn_congr hlists
  | joined _ hlast hheld hchildren hcontent =>
    rw [textPairs, textPairs, hchildren]
    refine pairsIn_congr fun n _ => ?_
    rw [Bool.eq_iff_iff, isText_iff, isText_iff, hcontent]
    split
    next hn => simp [hn, hheld]
    next => rfl

/-! ## The law -/

/-- In a forest, a text that is put at the end of a node that can have children, or before a node of
the document, stands there once runs of texts are looked at as one text, also where empty texts
stand in for comments. The children of all other nodes are the same and hold the same, and no two
texts come to stand side by side, unless the text is put before another text. -/
theorem text_goes_where_it_is_put (h : c.IsForest) (text : String) :
    (∀ p, c.isText p = false →
      TakesText c p (c.children p) [] text (c.append p (.text text)) ∧
        ∀ q, (c.append p (.text text)).textPairs q = c.textPairs q) ∧
    ∀ sibling, c.IsAbove root sibling →
      ∃ p before after, c.children p = before ++ sibling :: after ∧
        TakesText c p before (sibling :: after) text (c.insertBefore sibling (.text text)) ∧
        (c.isText sibling = false →
          ∀ q, (c.insertBefore sibling (.text text)).textPairs q = c.textPairs q) := by
  constructor
  · intro p hp
    have hsplit : c.children p = c.children p ++ [] := (List.append_nil _).symm
    have hput := h.putBetween_append hp (.text text)
    exact ⟨h.takesText hsplit hput, h.textPairs_eq hsplit hput (by simp)⟩
  · intro sibling habove
    obtain ⟨p, hp, -⟩ := h.exists_parent habove
    obtain ⟨before, after, hsplit, hput⟩ := h.putBetween_insertBefore hp (.text text)
    refine ⟨p, before, after, hsplit, h.takesText hsplit hput, fun hsibling => ?_⟩
    exact h.textPairs_eq hsplit hput (by simpa using hsibling)

/-- A page with a text, an element, a comment and a table, in this order. -/
def commentedPage : Construction :=
  [.createElement ⟨"html", .html, []⟩, .append root (.node 1), .append 1 (.text "a"),
    .createElement ⟨"b", .html, []⟩, .append 1 (.node 3), .createEmpty, .append 1 (.node 4),
    .createElement ⟨"table", .html, []⟩, .append 1 (.node 5)].foldl Edit.run empty

theorem text_before_a_table_joins_the_comment :
    commentedPage.IsForest ∧ commentedPage.isText 1 = false ∧ commentedPage.IsAbove root 5 ∧
      (commentedPage.append 1 (.text "x")).coalesced 1 =
        [.text "a", .node 3, .text "", .node 5, .text "x"] ∧
      (commentedPage.insertBefore 5 (.text "x")).coalesced 1 =
        [.text "a", .node 3, .text "x", .node 5] ∧
      (commentedPage.insertBefore 5 (.text "x")).textPairs 1 = [] := by
  have hforest : commentedPage.IsForest := by
    simp only [commentedPage, List.foldl_cons, List.foldl_nil]
    refine IsBuilt.isForest ?_
    refine .edit (.edit (.edit (.edit (.edit (.edit (.edit (.edit (.edit .empty _ ?_) _ ?_) _ ?_)
      _ ?_) _ ?_) _ ?_) _ ?_) _ ?_) _ ?_
    · trivial
    · exact accepts_of_childless (by decide) (by decide) (by decide) (by decide)
    · trivial
    · trivial
    · exact accepts_of_childless (by decide) (by decide) (by decide) (by decide)
    · trivial
    · exact accepts_of_childless (by decide) (by decide) (by decide) (by decide)
    · trivial
    · exact accepts_of_childless (by decide) (by decide) (by decide) (by decide)
  have hhtml : commentedPage.isText 1 = false := by decide
  have htable : commentedPage.IsAbove root 5 := .tail (.single (b := 1) (by decide)) (by decide)
  obtain ⟨hend, hbefore⟩ := text_goes_where_it_is_put hforest "x"
  obtain ⟨p, before, after, hsplit, htakes, hpairs⟩ := hbefore 5 htable
  -- the table stands at one place only
  obtain rfl : p = 1 := hforest.parent_unique (n := 5) (by simp [IsParent, hsplit]) (by decide)
  have hchildren : commentedPage.children 1 = [2, 3, 4] ++ 5 :: [] := by decide
  obtain ⟨rfl, -, rfl⟩ := (List.append_cons_inj_of_notMem (by decide) (by decide)).mp
    (hchildren.symm.trans hsplit)
  refine ⟨hforest, hhtml, htable, ?_, ?_, ?_⟩
  · rw [(hend 1 hhtml).1.coalesced_eq]
    decide
  · rw [htakes.coalesced_eq]
    decide
  · rw [hpairs (by decide)]
    decide

end MediaQuery.Dom.Construction
