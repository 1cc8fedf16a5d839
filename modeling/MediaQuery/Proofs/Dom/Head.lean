import MediaQuery.Dom.Construction

/-!
# The head of a document in its place

Giving the head other children leaves everything around it as it is. `HeadAt` says where the
children of the head stand, as the layers that one passes on the way to them, and what is around
them can then be spoken of without the head: `fillAll` puts other children there.

`IsFresh` is what makes identities useful: those that a document gives out are not yet in it.
-/

namespace MediaQuery.Dom

/-! ## Identities -/

namespace Node

/-- Unused identities are sought from the least one up, past all that occur. -/
theorem unusedId_bounds (least : NodeId) (nodes : List Node) :
    least ≤ unusedId least nodes ∧ ∀ id ∈ idsAll nodes, id < unusedId least nodes := by
  have hfold : ∀ (ids : List Nat) (next : Nat),
      next ≤ ids.foldl (fun next id => max next (id + 1)) next ∧
        ∀ id ∈ ids, id < ids.foldl (fun next id => max next (id + 1)) next := by
    intro ids
    induction ids with
    | nil => intro next; simp
    | cons i ids ih =>
      intro next
      obtain ⟨hle, hlt⟩ := ih (max next (i + 1))
      rw [List.foldl_cons]
      refine ⟨by omega, ?_⟩
      intro id hid
      rcases List.mem_cons.mp hid with rfl | hid
      · omega
      · exact hlt id hid
  exact hfold _ least

theorem lt_unusedId {id : NodeId} {nodes : List Node} (h : id ∈ idsAll nodes) (least : NodeId) :
    id < unusedId least nodes :=
  (unusedId_bounds least nodes).2 id h

theorem id_mem_ids (n : Node) : n.id ∈ n.ids := by
  cases n <;> simp [ids, id]

theorem ids_subset_idsAll {n : Node} {nodes : List Node} (h : n ∈ nodes) {id : NodeId}
    (hid : id ∈ n.ids) : id ∈ idsAll nodes := by
  induction nodes with
  | nil => exact absurd h (by simp)
  | cons m rest ih =>
    rw [idsAll, List.mem_append]
    rcases List.mem_cons.mp h with rfl | h
    · exact Or.inl hid
    · exact Or.inr (ih h)

end Node

/-- No node of a document has an identity that the document will give out. -/
def Document.IsFresh (d : Document) : Prop := ∀ id ∈ d.ids, id < d.nextId

/-- Whatever way a document was constructed, its identities are fresh. -/
theorem Construction.isFresh_finish (c : Construction) : c.finish.IsFresh :=
  fun _ hid => Node.lt_unusedId hid _

/-! ## Nodes taken out of a tree -/

namespace Node

mutual

/-- A tree without the nodes below its root that have one of some identities. -/
def without (gone : List NodeId) : Node → Node
  | text id content => text id content
  | element id e children => element id e (withoutAll gone children)

/-- A list of trees without the nodes that have one of some identities. -/
def withoutAll (gone : List NodeId) : List Node → List Node
  | [] => []
  | n :: rest =>
    if gone.contains n.id then withoutAll gone rest else without gone n :: withoutAll gone rest

end

variable {gone : List NodeId}

theorem withoutAll_append (a b : List Node) :
    withoutAll gone (a ++ b) = withoutAll gone a ++ withoutAll gone b := by
  induction a with
  | nil => rfl
  | cons n rest ih =>
    rw [List.cons_append, withoutAll, withoutAll, ih]
    split <;> rfl

mutual

/-- Identities that do not occur take nothing out of a tree. -/
theorem without_of_disjoint : ∀ n : Node, (∀ id ∈ n.ids, id ∉ gone) → without gone n = n
  | text _ _, _ => rfl
  | element id e children, h => by
    rw [without, withoutAll_of_disjoint children fun i hi => h i (by simp [ids, hi])]

/-- Identities that do not occur take nothing out of a list of trees. -/
theorem withoutAll_of_disjoint :
    ∀ nodes : List Node, (∀ id ∈ idsAll nodes, id ∉ gone) → withoutAll gone nodes = nodes
  | [], _ => rfl
  | n :: rest, h => by
    have hn : n.id ∉ gone := h n.id (by simp [idsAll, id_mem_ids])
    rw [withoutAll, if_neg (by simpa using hn),
      without_of_disjoint n fun i hi => h i (by simp [idsAll, hi]),
      withoutAll_of_disjoint rest fun i hi => h i (by simp [idsAll, hi])]

end

/-- Nodes that all have one of the identities are taken out. -/
theorem withoutAll_of_mem {nodes : List Node} (h : ∀ n ∈ nodes, n.id ∈ gone) :
    withoutAll gone nodes = [] := by
  induction nodes with
  | nil => rfl
  | cons n rest ih =>
    rw [withoutAll, if_pos (by simpa using h n (by simp)), ih fun m hm => h m (by simp [hm])]

end Node

/-- A document without the nodes that have one of some identities. -/
def Document.without (d : Document) (gone : List NodeId) : Document :=
  { d with children := Node.withoutAll gone d.children }

/-! ## What is around the children of a node -/

/-- An element among its siblings, apart from its children. -/
structure Layer where
  before : List Node
  id : NodeId
  element : Element
  after : List Node

/-- The element, with some children, among its siblings. -/
def Layer.fill (l : Layer) (children : List Node) : List Node :=
  l.before ++ .element l.id l.element children :: l.after

/-- Some children in the innermost of some layers. -/
def fillAll (path : List Layer) (children : List Node) : List Node := path.foldr Layer.fill children

@[simp] theorem fillAll_nil (children : List Node) : fillAll [] children = children := rfl

@[simp] theorem fillAll_cons (l : Layer) (path : List Layer) (children : List Node) :
    fillAll (l :: path) children = l.fill (fillAll path children) := rfl

variable {path : List Layer} {children : List Node}

/-- The identities of the children are among those of the whole. -/
theorem idsAll_subset_fillAll {id : NodeId} (h : id ∈ Node.idsAll children) :
    id ∈ Node.idsAll (fillAll path children) := by
  induction path with
  | nil => exact h
  | cons l path ih => simp [Layer.fill, Node.idsAll_append, Node.idsAll, Node.ids, ih]

/-- The identities around the children do not depend on the children. -/
theorem idsAll_fillAll_nil_subset {id : NodeId} (h : id ∈ Node.idsAll (fillAll path [])) :
    id ∈ Node.idsAll (fillAll path children) := by
  induction path with
  | nil => exact absurd h (by simp [Node.idsAll])
  | cons l path ih =>
    simp only [fillAll_cons, Layer.fill, Node.idsAll_append, Node.idsAll, Node.ids,
      List.mem_append, List.mem_cons] at h ⊢
    rcases h with h | (h | h) | h
    · exact Or.inl h
    · exact Or.inr (Or.inl (Or.inl h))
    · exact Or.inr (Or.inl (Or.inr (ih h)))
    · exact Or.inr (Or.inr h)

/-- Nodes that do not occur around the children are taken out of the children alone. -/
theorem withoutAll_fillAll {gone : List NodeId}
    (h : ∀ id ∈ Node.idsAll (fillAll path []), id ∉ gone) :
    Node.withoutAll gone (fillAll path children) =
      fillAll path (Node.withoutAll gone children) := by
  induction path with
  | nil => rfl
  | cons l path ih =>
    have hbefore : ∀ id ∈ Node.idsAll l.before, id ∉ gone := fun id hid =>
      h id (by simp [Layer.fill, Node.idsAll_append, hid])
    have hafter : ∀ id ∈ Node.idsAll l.after, id ∉ gone := fun id hid =>
      h id (by simp [Layer.fill, Node.idsAll_append, Node.idsAll, hid])
    have hid : l.id ∉ gone :=
      h l.id (by simp [Layer.fill, Node.idsAll_append, Node.idsAll, Node.ids])
    have hinner : ∀ id ∈ Node.idsAll (fillAll path []), id ∉ gone := fun id hid =>
      h id (by simp [Layer.fill, Node.idsAll_append, Node.idsAll, Node.ids, hid])
    rw [fillAll_cons, Layer.fill, Node.withoutAll_append, Node.withoutAll_of_disjoint _ hbefore,
      Node.withoutAll, if_neg (by simpa [Node.id] using hid), Node.without, ih hinner,
      Node.withoutAll_of_disjoint _ hafter]
    rfl

/-- Children that are written alike make the whole be written alike. -/
theorem markupAll_fillAll_congr {children' : List Node}
    (h : ∀ raw, Node.markupAll raw children = Node.markupAll raw children') :
    ∀ raw, Node.markupAll raw (fillAll path children) =
      Node.markupAll raw (fillAll path children') := by
  induction path with
  | nil => exact h
  | cons l path ih =>
    intro raw
    simp only [fillAll_cons, Layer.fill, Node.markupAll_append, Node.markupAll, Node.markup, ih]

/-! ## Where the head is -/

/-- In a list of nodes the children of the head stand in some layers: in those of the first element,
or of the first head in it. -/
inductive HeadAt (nodes : List Node) : List Layer → List Node → Prop where
  | root (l : Layer) (children : List Node) (hfirst : ∀ n ∈ l.before, n.isElement = false)
    (hnone : ∀ n ∈ children, Document.isHead n = false) (h : nodes = fillAll [l] children) :
    HeadAt nodes [l] children
  | head (l l' : Layer) (children : List Node) (hfirst : ∀ n ∈ l.before, n.isElement = false)
    (hfirst' : ∀ n ∈ l'.before, Document.isHead n = false) (hhead : l'.element.is "head" = true)
    (h : nodes = fillAll [l, l'] children) : HeadAt nodes [l, l'] children

theorem HeadAt.eq_fillAll {nodes : List Node} (h : HeadAt nodes path children) :
    nodes = fillAll path children := by
  cases h with
  | root _ _ _ _ h => exact h
  | head _ _ _ _ _ _ h => exact h

namespace Layer

variable {l : Layer} {test : Node → Bool}

/-- The element is what is found first, if nothing before it is. -/
theorem find?_fill (hbefore : ∀ m ∈ l.before, test m = false)
    (htest : test (.element l.id l.element children) = true) :
    (l.fill children).find? test = some (.element l.id l.element children) :=
  List.find?_eq_some_iff_append.mpr
    ⟨htest, l.before, l.after, rfl, fun m hm => by simp [hbefore m hm]⟩

/-- The element is what is changed, if nothing before it is. -/
theorem modifyFirst_fill (hbefore : ∀ m ∈ l.before, test m = false)
    (htest : test (.element l.id l.element children) = true) (f : Node → Node) :
    modifyFirst test f (l.fill children) =
      l.before ++ f (.element l.id l.element children) :: l.after := by
  have hskip : ∀ before : List Node, (∀ m ∈ before, test m = false) →
      modifyFirst test f (before ++ .element l.id l.element children :: l.after) =
        before ++ f (.element l.id l.element children) :: l.after := by
    intro before
    induction before with
    | nil => intro _; simp [modifyFirst, htest]
    | cons m rest ih =>
      intro h
      rw [List.cons_append, modifyFirst, if_neg (by simp [h m]), ih fun k hk => h k (by simp [hk])]
      rfl
  exact hskip l.before hbefore

/-- An element that is found first stands in a layer. -/
theorem exists_of_find? {nodes : List Node} {n : Node} (hn : n.isElement = true)
    (h : nodes.find? test = some n) :
    ∃ l : Layer, (∀ m ∈ l.before, test m = false) ∧ n = .element l.id l.element n.children ∧
      nodes = l.fill n.children := by
  obtain ⟨-, before, after, rfl, hbefore⟩ := List.find?_eq_some_iff_append.mp h
  cases n with
  | text id content => exact absurd hn (by simp [Node.isElement, Node.element?])
  | element id e children =>
    exact ⟨⟨before, id, e, after⟩, fun m hm => by simpa using hbefore m hm, rfl, rfl⟩

end Layer

namespace Document

variable {d : Document}

theorem isElement_of_isHead {n : Node} (h : isHead n = true) : n.isElement = true := by
  cases n with
  | text id content => exact absurd h (by simp [isHead, Node.isTagged, Node.element?])
  | element id e children => rfl

/-- The children of the head stand in some layers. -/
theorem exists_headAt (h : d.headChildren? = some children) :
    ∃ path, HeadAt d.children path children := by
  obtain ⟨head, hhead, rfl⟩ := Option.map_eq_some_iff.mp h
  obtain ⟨root, hroot, rfl⟩ := Option.map_eq_some_iff.mp hhead
  obtain ⟨l, hfirst, -, hnodes⟩ := Layer.exists_of_find? (List.find?_some hroot) hroot
  -- a document element without a head stands in for it
  cases hfind : root.children.find? isHead with
  | none =>
    have hnone : ∀ n ∈ root.children, isHead n = false := fun n hn => by
      simpa using List.find?_eq_none.mp hfind n hn
    exact ⟨[l], .root l _ hfirst hnone hnodes⟩
  | some head =>
    have hhead : isHead head = true := List.find?_some hfind
    obtain ⟨l', hfirst', heq, hinner⟩ :=
      Layer.exists_of_find? (isElement_of_isHead hhead) hfind
    rw [heq] at hhead
    refine ⟨[l, l'], .head l l' _ hfirst hfirst' hhead ?_⟩
    rw [hnodes, hinner]
    rfl

/-- The head is the element of the innermost layer around its children. -/
theorem head?_of_headAt (h : HeadAt d.children path children) :
    d.head? = path.getLast?.map fun l => .element l.id l.element children := by
  unfold head? documentElement?
  cases h with
  | root l _ hfirst hnone h =>
    have hfind : children.find? isHead = none :=
      List.find?_eq_none.mpr fun n hn => by simp [hnone n hn]
    rw [h, fillAll_cons, Layer.find?_fill hfirst rfl]
    simp [Node.children, hfind]
  | head l l' _ hfirst hfirst' hhead h =>
    have hfind : (l'.fill children).find? isHead = some (.element l'.id l'.element children) :=
      Layer.find?_fill hfirst' hhead
    rw [h, fillAll_cons, Layer.find?_fill hfirst rfl]
    simp [Node.children, hfind]

/-- The children in these layers are those of the head. -/
theorem headChildren?_of_headAt (h : HeadAt d.children path children) :
    d.headChildren? = some children := by
  rw [headChildren?, head?_of_headAt h]
  cases h <;> rfl

/-- Other children of the head come to stand in the same layers. -/
theorem children_withHeadChildren (h : HeadAt d.children path children) (children' : List Node) :
    (d.withHeadChildren children').children = fillAll path children' := by
  unfold withHeadChildren
  cases h with
  | root l _ hfirst hnone h =>
    have hany : children.any isHead = false :=
      List.any_eq_false.mpr fun n hn => by simp [hnone n hn]
    rw [h, fillAll_cons, Layer.modifyFirst_fill hfirst rfl, setHeadChildren]
    simp only [Node.children, fillAll_nil, hany]
    rfl
  | head l l' _ hfirst hfirst' hhead h =>
    have hany : (l'.fill children).any isHead = true :=
      List.any_eq_true.mpr ⟨_, List.mem_append_right _ (List.mem_cons_self ..), hhead⟩
    rw [h, fillAll_cons, Layer.modifyFirst_fill hfirst rfl, setHeadChildren]
    simp only [Node.children, fillAll_cons, fillAll_nil, hany, if_true]
    rw [Layer.modifyFirst_fill hfirst' hhead]
    rfl

end Document

/-- Other children stand where those of the head do, unless a head has come to be among them. -/
theorem HeadAt.fillAll {nodes children' : List Node} (h : HeadAt nodes path children)
    (hnew : ∀ n ∈ children', Document.isHead n = true → n ∈ children) :
    HeadAt (fillAll path children') path children' := by
  cases h with
  | root l _ hfirst hnone _ =>
    refine .root l children' hfirst (fun n hn => ?_) rfl
    rw [Bool.eq_false_iff]
    intro hhead
    have := hnone n (hnew n hn hhead)
    rw [hhead] at this
    exact Bool.noConfusion this
  | head l l' _ hfirst hfirst' hhead _ => exact .head l l' children' hfirst hfirst' hhead rfl

namespace Document

variable {d : Document}

/-- What is written does not depend on what the children of the head are, but on how they are
written. -/
theorem markup_withHeadChildren_congr {children' children'' : List Node}
    (h : d.headChildren? = some children)
    (halike : ∀ raw, Node.markupAll raw children' = Node.markupAll raw children'') :
    (d.withHeadChildren children').markup = (d.withHeadChildren children'').markup := by
  obtain ⟨path, hat⟩ := exists_headAt h
  have hdoctype : ∀ cs, (d.withHeadChildren cs).doctype = d.doctype := fun cs => rfl
  rw [markup, markup, hdoctype, hdoctype, children_withHeadChildren hat,
    children_withHeadChildren hat, markupAll_fillAll_congr halike]

/-- Nodes with new identities that are put into the head can be taken out of the document again. -/
theorem withoutAll_withHeadChildren {gone : List NodeId} {children' : List Node}
    (h : d.headChildren? = some children) (hgone : ∀ id ∈ d.ids, id ∉ gone)
    (hback : Node.withoutAll gone children' = children) :
    Node.withoutAll gone (d.withHeadChildren children').children = d.children := by
  obtain ⟨path, hat⟩ := exists_headAt h
  have hids : ∀ id ∈ Node.idsAll (fillAll path []), id ∉ gone := fun id hid =>
    hgone id (by rw [ids, hat.eq_fillAll]; exact idsAll_fillAll_nil_subset hid)
  rw [children_withHeadChildren hat, withoutAll_fillAll hids, hback, ← hat.eq_fillAll]

theorem withHeadChildren_self (h : d.headChildren? = some children) :
    d.withHeadChildren children = d := by
  obtain ⟨path, hat⟩ := exists_headAt h
  have hc := children_withHeadChildren hat children
  rw [← hat.eq_fillAll] at hc
  cases d
  exact congrArg (Document.mk _ _ · _) hc

/-- The head is where it was when it has other children, unless a head has come to be among
them. -/
theorem headAt_withHeadChildren {children' : List Node} (hat : HeadAt d.children path children)
    (hnew : ∀ n ∈ children', isHead n = true → n ∈ children) :
    HeadAt (d.withHeadChildren children').children path children' := by
  rw [children_withHeadChildren hat]
  exact hat.fillAll hnew

/-- Giving the head other children twice is giving it the last ones. -/
theorem withHeadChildren_withHeadChildren {children' : List Node}
    (h : d.headChildren? = some children)
    (hnew : ∀ n ∈ children', isHead n = true → n ∈ children) (children'' : List Node) :
    (d.withHeadChildren children').withHeadChildren children'' = d.withHeadChildren children'' := by
  obtain ⟨path, hat⟩ := exists_headAt h
  have hc := children_withHeadChildren (headAt_withHeadChildren hat hnew) children''
  rw [← children_withHeadChildren hat] at hc
  cases d
  exact congrArg (Document.mk _ _ · _) hc

theorem headChildren?_withHeadChildren {children' : List Node}
    (h : d.headChildren? = some children)
    (hnew : ∀ n ∈ children', isHead n = true → n ∈ children) :
    (d.withHeadChildren children').headChildren? = some children' := by
  obtain ⟨path, hat⟩ := exists_headAt h
  exact headChildren?_of_headAt (headAt_withHeadChildren hat hnew)

/-- The nodes below the head are nodes of the document. -/
theorem idsAll_subset_ids_of_headChildren? (h : d.headChildren? = some children) {id : NodeId}
    (hid : id ∈ Node.idsAll children) : id ∈ d.ids := by
  obtain ⟨path, hat⟩ := exists_headAt h
  rw [ids, hat.eq_fillAll]
  exact idsAll_subset_fillAll hid

end Document

end MediaQuery.Dom
