import Mathlib.Data.List.Nodup
import Mathlib.Logic.Relation
import MediaQuery.Dom.Construction

/-!
# Nodes under construction form a forest

A node of a construction knows its children and not its parent. `IsForest` says that it has one
parent at most, stands there once, and is not above itself, whether or not it is in the document.
What is created has no parent, and what is put below a node that is not below it keeps the forest,
as does taking a node out.

The children of the nodes are looked at one list at a time, through `children`, and what the nodes
are through `content`; each way of changing a construction comes with a lemma about either.
-/

namespace MediaQuery.Dom.Construction

variable {c : Construction}

/-! ## What changes in a construction -/

theorem isText_congr {c' : Construction} {n : NodeId} (h : c'.content n = c.content n) :
    c'.isText n = c.isText n := by
  rw [isText, isText, h]

theorem lt_size_of_not_isText {n : NodeId} (h : c.isText n = false) : n < c.items.size := by
  rcases Nat.lt_or_ge n c.items.size with hlt | hle
  · exact hlt
  · simp [isText, content, Array.getElem?_eq_none hle] at h

theorem children_of_size_le {n : NodeId} (h : c.items.size ≤ n) : c.children n = [] := by
  simp [children, Array.getElem?_eq_none h]

theorem getElem?_modify (n : NodeId) (f : Item → Item) (m : NodeId) :
    (c.modify n f).items[m]? = if n = m then (c.items[m]?).map f else c.items[m]? := by
  simp only [modify, Array.getElem?_modify]

@[simp] theorem size_modify (n : NodeId) (f : Item → Item) :
    (c.modify n f).items.size = c.items.size := by
  simp [modify]

theorem children_modify {f : Item → Item} (hf : ∀ item, (f item).children = item.children)
    (n m : NodeId) : (c.modify n f).children m = c.children m := by
  rw [children, getElem?_modify, children]
  split
  · cases c.items[m]? with
    | none => rfl
    | some item => simp [hf]
  · rfl

theorem isText_iff {n : NodeId} : c.isText n = true ↔ ∃ held, c.content n = .text held := by
  unfold isText
  split
  next held hheld => exact ⟨fun _ => ⟨held, hheld⟩, fun _ => rfl⟩
  next hother =>
    exact ⟨fun h => Bool.noConfusion h, fun ⟨held, hheld⟩ => absurd hheld (hother held)⟩

/-- A function that keeps texts and other contents apart keeps the texts of a construction. -/
theorem isText_modify {f : Item → Item}
    (hf : ∀ item, (∃ held, (f item).content = .text held) ↔ ∃ held, item.content = .text held)
    (n m : NodeId) : (c.modify n f).isText m = c.isText m := by
  rw [Bool.eq_iff_iff, isText_iff, isText_iff, content, getElem?_modify, content]
  split
  · cases c.items[m]? with
    | none => exact Iff.rfl
    | some item => exact hf item
  · exact Iff.rfl

@[simp] theorem size_setChildren (n : NodeId) (children : List NodeId) :
    (c.setChildren n children).items.size = c.items.size := by
  unfold setChildren
  split
  · rfl
  · exact size_modify ..

theorem children_setChildren {n : NodeId} (h : c.isText n = false) (children : List NodeId)
    (m : NodeId) :
    (c.setChildren n children).children m = if m = n then children else c.children m := by
  rw [setChildren, if_neg (by simp [h]), Construction.children, getElem?_modify]
  by_cases hm : m = n
  · subst hm
    have hlt := lt_size_of_not_isText h
    simp [hlt]
  · rw [if_neg (Ne.symm hm), if_neg hm]
    rfl

@[simp] theorem content_setChildren (n : NodeId) (children : List NodeId) (m : NodeId) :
    (c.setChildren n children).content m = c.content m := by
  unfold setChildren
  split
  · rfl
  · rw [content, getElem?_modify, content]
    split
    · cases c.items[m]? <;> rfl
    · rfl

@[simp] theorem isText_setChildren (n : NodeId) (children : List NodeId) (m : NodeId) :
    (c.setChildren n children).isText m = c.isText m :=
  isText_congr (content_setChildren ..)

@[simp] theorem size_create (content : Content) :
    (c.create content).2.items.size = c.items.size + 1 := by
  simp [create]

@[simp] theorem children_create (content : Content) (m : NodeId) :
    (c.create content).2.children m = c.children m := by
  simp only [create, children, Array.getElem?_push]
  by_cases hm : m = c.items.size
  · simp [hm]
  · rw [if_neg hm]

theorem content_create (content : Content) (m : NodeId) :
    (c.create content).2.content m = if m = c.items.size then content else c.content m := by
  simp only [create, Construction.content, Array.getElem?_push]
  by_cases hm : m = c.items.size
  · simp [hm]
  · rw [if_neg hm, if_neg hm]

/-- What there is stays what it is when a node is created. -/
theorem isText_create_of_lt (content : Content) {m : NodeId} (h : m < c.items.size) :
    (c.create content).2.isText m = c.isText m :=
  isText_congr (by rw [content_create, if_neg (Nat.ne_of_lt h)])

theorem isText_create (content : Content) (m : NodeId) (h : c.isText m = false) :
    (c.create content).2.isText m = false := by
  rw [isText_create_of_lt content (lt_size_of_not_isText h), h]

@[simp] theorem size_extendText (n : NodeId) (more : String) :
    (c.extendText n more).items.size = c.items.size :=
  size_modify ..

@[simp] theorem children_extendText (n : NodeId) (more : String) (m : NodeId) :
    (c.extendText n more).children m = c.children m :=
  children_modify (fun item => by split <;> rfl) n m

theorem content_extendText {n : NodeId} {held : String} (hn : n < c.items.size)
    (h : c.content n = .text held) (more : String) (m : NodeId) :
    (c.extendText n more).content m = if m = n then .text (held ++ more) else c.content m := by
  rw [extendText, content, getElem?_modify]
  by_cases hm : m = n
  · subst hm
    have hitem : c.items[m].content = .text held := by simpa [content, hn] using h
    simp [hn, hitem]
  · rw [if_neg (Ne.symm hm), if_neg hm, content]

@[simp] theorem isText_extendText (n : NodeId) (more : String) (m : NodeId) :
    (c.extendText n more).isText m = c.isText m :=
  isText_modify (fun item => by cases h : item.content <;> simp [h]) n m

@[simp] theorem size_modifyElement (n : NodeId) (f : Element → Element) :
    (c.modifyElement n f).items.size = c.items.size :=
  size_modify ..

@[simp] theorem children_modifyElement (n : NodeId) (f : Element → Element) (m : NodeId) :
    (c.modifyElement n f).children m = c.children m :=
  children_modify (fun item => by split <;> rfl) n m

@[simp] theorem isText_modifyElement (n : NodeId) (f : Element → Element) (m : NodeId) :
    (c.modifyElement n f).isText m = c.isText m :=
  isText_modify (fun item => by cases h : item.content <;> simp [h]) n m

/-! ## Parents and what is above -/

/-- Whether a node has another one as a child. -/
def IsParent (c : Construction) (p n : NodeId) : Prop := n ∈ c.children p

/-- Whether one comes from a node to another one by going from parents to children, in at least one
step. -/
def IsAbove (c : Construction) : NodeId → NodeId → Prop := Relation.TransGen c.IsParent

/-- Whether a node is another one or above it. -/
def IsAtOrAbove (c : Construction) : NodeId → NodeId → Prop := Relation.ReflTransGen c.IsParent

instance (p n : NodeId) : Decidable (c.IsParent p n) :=
  inferInstanceAs (Decidable (n ∈ c.children p))

/-- Whether a node has no parent, neither in the document nor out of it. -/
def IsOrphan (c : Construction) (n : NodeId) : Prop := ∀ p, ¬ c.IsParent p n

theorem IsParent.lt_size {p n : NodeId} (h : c.IsParent p n) : p < c.items.size := by
  rcases Nat.lt_or_ge p c.items.size with hlt | hle
  · exact hlt
  · rw [IsParent, children_of_size_le hle] at h
    exact absurd h List.not_mem_nil

theorem isOrphan_iff {n : NodeId} : c.IsOrphan n ↔ ∀ p < c.items.size, n ∉ c.children p :=
  ⟨fun h p _ => h p, fun h p hp => h p hp.lt_size hp⟩

instance (n : NodeId) : Decidable (c.IsOrphan n) := decidable_of_iff _ isOrphan_iff.symm

/-- A node without children is above none, so only at itself. -/
theorem IsAtOrAbove.eq_of_children_eq_nil {n m : NodeId} (h : c.IsAtOrAbove n m)
    (hnil : c.children n = []) : m = n := by
  rcases Relation.ReflTransGen.cases_head h with rfl | ⟨k, hk, -⟩
  · rfl
  · rw [IsParent, hnil] at hk
    exact absurd hk List.not_mem_nil

theorem IsAtOrAbove.mono {c' : Construction}
    (hsub : ∀ p n, c'.IsParent p n → c.IsParent p n) {n m : NodeId} (h : c'.IsAtOrAbove n m) :
    c.IsAtOrAbove n m :=
  Relation.ReflTransGen.mono hsub _ _ h

/-- New ways down, all from one place to places from which that place cannot be reached, close no
circle: a way that uses one comes to the place and goes on from one of the new ends. -/
theorem not_transGen_self_of_added {α : Type} {r r' : α → α → Prop} {t : α} {M : α → Prop}
    (hadded : ∀ a b, r' a b → r a b ∨ (a = t ∧ M b))
    (hback : ∀ b, M b → ¬ Relation.ReflTransGen r b t) (hr : ∀ a, ¬ Relation.TransGen r a a)
    (a : α) : ¬ Relation.TransGen r' a a := by
  have hway : ∀ x y, Relation.TransGen r' x y → Relation.TransGen r x y ∨
      (Relation.ReflTransGen r x t ∧ ∃ b, M b ∧ Relation.ReflTransGen r b y) := by
    intro x y h
    induction h with
    | single hstep =>
      rcases hadded _ _ hstep with hold | ⟨rfl, hnew⟩
      · exact .inl (.single hold)
      · exact .inr ⟨.refl, _, hnew, .refl⟩
    | tail _ hstep ih =>
      rcases hadded _ _ hstep with hold | ⟨rfl, hnew⟩
      · rcases ih with hway | ⟨hto, b, hb, hfrom⟩
        · exact .inl (.tail hway hold)
        · exact .inr ⟨hto, b, hb, .tail hfrom hold⟩
      · rcases ih with hway | ⟨hto, -, -, -⟩
        · exact .inr ⟨hway.to_reflTransGen, _, hnew, .refl⟩
        · exact .inr ⟨hto, _, hnew, .refl⟩
  intro hcircle
  rcases hway a a hcircle with hold | ⟨hto, b, hb, hfrom⟩
  · exact hr a hold
  · exact hback b hb (hfrom.trans hto)

/-- Nodes that are put among the children of another one get it for a parent, and no more. -/
theorem isParent_setChildren_insert {p : NodeId} {before nodes after : List NodeId}
    (hp : c.isText p = false) (hchildren : c.children p = before ++ after) {q n : NodeId} :
    (c.setChildren p (before ++ nodes ++ after)).IsParent q n ↔
      c.IsParent q n ∨ q = p ∧ n ∈ nodes := by
  rw [IsParent, children_setChildren hp, IsParent]
  by_cases hq : q = p
  · subst hq
    simp only [if_true, hchildren, List.mem_append, true_and]
    tauto
  · simp [hq]

theorem nodup_insert {before nodes after : List NodeId} (hold : (before ++ after).Nodup)
    (hnodes : nodes.Nodup) (hdisjoint : ∀ n ∈ nodes, n ∉ before ++ after) :
    (before ++ nodes ++ after).Nodup := by
  have hperm : (before ++ nodes ++ after).Perm (nodes ++ (before ++ after)) := by
    rw [← List.append_assoc]
    exact List.perm_append_comm.append_right after
  exact hperm.nodup_iff.mpr (List.nodup_append'.mpr ⟨hnodes, hold, hdisjoint⟩)

/-! ## Forests -/

/-- Every node stands in one list of children at most and there once, none is above itself, and
texts have no children. -/
structure IsForest (c : Construction) : Prop where
  lt_size : ∀ {p n}, c.IsParent p n → n < c.items.size
  children_of_isText : ∀ {n}, c.isText n = true → c.children n = []
  nodup : ∀ p, (c.children p).Nodup
  parent_unique : ∀ {p q n}, c.IsParent p n → c.IsParent q n → p = q
  not_isAbove_self : ∀ n, ¬ c.IsAbove n n

namespace IsForest

theorem isText_of_isParent (h : c.IsForest) {p n : NodeId} (hp : c.IsParent p n) :
    c.isText p = false := by
  cases htext : c.isText p with
  | false => rfl
  | true =>
    rw [IsParent, h.children_of_isText htext] at hp
    exact absurd hp List.not_mem_nil

/-- Taking nodes out of lists of children keeps a forest. -/
theorem of_sublist (h : c.IsForest) {c' : Construction}
    (hchildren : ∀ m, (c'.children m).Sublist (c.children m))
    (hsize : c.items.size ≤ c'.items.size)
    (htext : ∀ m, c.isText m = false → c'.isText m = false) : c'.IsForest := by
  have hsub : ∀ p n, c'.IsParent p n → c.IsParent p n := fun p n hn => (hchildren p).subset hn
  refine ⟨?_, ?_, ?_, ?_, ?_⟩
  · exact fun hp => Nat.lt_of_lt_of_le (h.lt_size (hsub _ _ hp)) hsize
  · intro n hn
    have hold : c.isText n = true := by
      cases hc : c.isText n with
      | true => rfl
      | false => simp [htext n hc] at hn
    exact List.sublist_nil.mp (h.children_of_isText hold ▸ hchildren n)
  · exact fun p => (hchildren p).nodup (h.nodup p)
  · exact fun hp hq => h.parent_unique (hsub _ _ hp) (hsub _ _ hq)
  · exact fun n hn => h.not_isAbove_self n (Relation.TransGen.mono hsub _ _ hn)

theorem setChildren_sublist (h : c.IsForest) {p : NodeId} {children : List NodeId}
    (hchildren : children.Sublist (c.children p)) : (c.setChildren p children).IsForest := by
  cases hp : c.isText p with
  | true => rwa [setChildren, if_pos hp]
  | false =>
    refine h.of_sublist (fun m => ?_) (Nat.le_of_eq (size_setChildren ..).symm) (by simp)
    rw [children_setChildren hp]
    split
    next hm => exact hm ▸ hchildren
    next => exact List.Sublist.refl _

theorem create (h : c.IsForest) (content : Content) : (c.create content).2.IsForest :=
  h.of_sublist (fun m => by simp) (by simp) (isText_create content)

theorem extendText (h : c.IsForest) (n : NodeId) (more : String) : (c.extendText n more).IsForest :=
  h.of_sublist (fun m => by simp) (by simp) (by simp)

theorem modifyElement (h : c.IsForest) (n : NodeId) (f : Element → Element) :
    (c.modifyElement n f).IsForest :=
  h.of_sublist (fun m => by simp) (by simp) (by simp)

/-- Nodes without parents can be put among the children of a node that is not below them. -/
theorem setChildren_insert (h : c.IsForest) {p : NodeId} (before nodes after : List NodeId)
    (hp : c.isText p = false) (hchildren : c.children p = before ++ after) (hnodup : nodes.Nodup)
    (hnodes : ∀ n ∈ nodes, n < c.items.size ∧ c.IsOrphan n ∧ ¬ c.IsAtOrAbove n p) :
    (c.setChildren p (before ++ nodes ++ after)).IsForest := by
  have hadded : ∀ q n, (c.setChildren p (before ++ nodes ++ after)).IsParent q n →
      c.IsParent q n ∨ (q = p ∧ n ∈ nodes) :=
    fun q n => (isParent_setChildren_insert hp hchildren).mp
  refine ⟨?_, ?_, ?_, ?_, ?_⟩
  · intro q n hq
    rw [size_setChildren]
    rcases hadded q n hq with hold | ⟨-, hnew⟩
    · exact h.lt_size hold
    · exact (hnodes n hnew).1
  · intro n hn
    rw [isText_setChildren] at hn
    have hne : n ≠ p := by
      rintro rfl
      simp [hp] at hn
    rw [children_setChildren hp, if_neg hne]
    exact h.children_of_isText hn
  · intro q
    rw [children_setChildren hp]
    split
    next =>
      refine nodup_insert (hchildren ▸ h.nodup p) hnodup fun n hn hmem => ?_
      exact (hnodes n hn).2.1 p (show n ∈ c.children p from hchildren ▸ hmem)
    next => exact h.nodup q
  · -- what is new at a place had no parent before
    intro q q' n hq hq'
    rcases hadded q n hq with hold | ⟨rfl, hnew⟩
    · rcases hadded q' n hq' with hold' | ⟨rfl, hnew⟩
      · exact h.parent_unique hold hold'
      · exact absurd hold ((hnodes n hnew).2.1 q)
    · rcases hadded q' n hq' with hold | ⟨rfl, -⟩
      · exact absurd hold ((hnodes n hnew).2.1 q')
      · rfl
  · exact not_transGen_self_of_added hadded (fun n hn => (hnodes n hn).2.2) h.not_isAbove_self

/-- A node just created can be put anywhere. -/
theorem setChildren_create (h : c.IsForest) {p : NodeId} {before after : List NodeId}
    (hp : c.isText p = false) (hchildren : c.children p = before ++ after) (content : Content) :
    ((c.create content).2.setChildren p (before ++ c.items.size :: after)).IsForest := by
  have hinsert := (h.create content).setChildren_insert before [c.items.size] after
    (isText_create content p hp) (by rw [children_create, hchildren]) (List.nodup_singleton _)
  rw [List.append_assoc] at hinsert
  refine hinsert fun n hn => ?_
  obtain rfl := List.mem_singleton.mp hn
  refine ⟨by simp, fun q hq => ?_, fun habove => ?_⟩
  · rw [IsParent, children_create] at hq
    exact Nat.lt_irrefl _ (h.lt_size hq)
  · have hnil : (c.create content).2.children c.items.size = [] := by
      rw [children_create, children_of_size_le (Nat.le_refl _)]
    exact Nat.ne_of_lt (lt_size_of_not_isText hp) (habove.eq_of_children_eq_nil hnil)

theorem insertBetween_text (h : c.IsForest) {p : NodeId} {before after : List NodeId}
    (hp : c.isText p = false) (hchildren : c.children p = before ++ after) (text : String) :
    (c.insertBetween p before after (.text text)).IsForest := by
  unfold insertBetween
  dsimp only
  split
  next last hlast =>
    split
    · exact h.extendText last text
    · exact h.setChildren_create hp hchildren _
  next => exact h.setChildren_create hp hchildren _

theorem insertBetween_node (h : c.IsForest) {p n : NodeId} {before after : List NodeId}
    (hp : c.isText p = false) (hchildren : c.children p = before ++ after)
    (hn : n < c.items.size) (horphan : c.IsOrphan n) (habove : ¬ c.IsAtOrAbove n p) :
    (c.insertBetween p before after (.node n)).IsForest := by
  have hinsert := h.setChildren_insert before [n] after hp hchildren (List.nodup_singleton _)
    fun m hm => by
      obtain rfl := List.mem_singleton.mp hm
      exact ⟨hn, horphan, habove⟩
  rwa [List.append_assoc] at hinsert

end IsForest

end MediaQuery.Dom.Construction
