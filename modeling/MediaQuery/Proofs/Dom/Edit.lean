import Mathlib.Data.List.Chain
import Mathlib.Data.List.Perm.Subperm
import MediaQuery.Proofs.Dom.Forest

/-!
# Editing a document under construction

A reader of markup changes a construction by the ten kinds of `Edit`. As long as it puts only nodes
into place that have no parent, and none under itself, what it builds is a forest (`IsForest.run`),
and the search for a parent, which can only look down, finds the one parent of every node of the
document. The levels it may go down are counted by the nodes there are, and no way down a forest is
longer.
-/

namespace MediaQuery.Dom.Construction

variable {c : Construction}

/-! ## The search for a parent -/

theorem findParentBelow_sound {t p : NodeId} (fuel : Nat) (n : NodeId)
    (h : c.findParentBelow t fuel n = some p) : c.IsParent p t ∧ c.IsAtOrAbove n p := by
  induction fuel generalizing n with
  | zero => simp [findParentBelow] at h
  | succ fuel ih =>
    obtain ⟨child, hchild, hfound⟩ := List.exists_of_findSome?_eq_some h
    split at hfound
    next heq =>
      obtain rfl := Option.some.inj hfound
      exact ⟨heq ▸ hchild, .refl⟩
    next =>
      obtain ⟨hparent, hbelow⟩ := ih child hfound
      exact ⟨hparent, .head hchild hbelow⟩

/-- What stands at the end of a way down is found by a search that may go down as far. -/
theorem isSome_findParentBelow {t : NodeId} (way : List NodeId) (n : NodeId) (fuel : Nat)
    (hway : List.IsChain c.IsParent (n :: way)) (hend : way.getLast? = some t)
    (hfuel : way.length ≤ fuel) : (c.findParentBelow t fuel n).isSome := by
  induction way generalizing n fuel with
  | nil => simp at hend
  | cons child way ih =>
    obtain ⟨hchild, hrest⟩ := List.isChain_cons_cons.mp hway
    obtain _ | fuel := fuel
    · simp at hfuel
    refine List.findSome?_isSome_iff.mpr ⟨child, hchild, ?_⟩
    split
    next => rfl
    next hne =>
      refine ih child fuel hrest ?_ (by simpa using hfuel)
      cases way with
      | nil => exact absurd (by simpa using hend) hne
      | cons => simpa using hend

namespace IsForest

/-- No way down a forest is longer than there are nodes. -/
theorem length_way_le (h : c.IsForest) {n : NodeId} {way : List NodeId}
    (hway : List.IsChain c.IsParent (n :: way)) : way.length ≤ c.items.size := by
  have habove : List.Pairwise (Relation.TransGen c.IsParent) (n :: way) :=
    List.isChain_iff_pairwise.mp (hway.imp fun _ _ => Relation.TransGen.single)
  obtain ⟨hn, hpairwise⟩ := List.pairwise_cons.mp habove
  have hnodup : way.Pairwise (· ≠ ·) := by
    refine hpairwise.imp ?_
    rintro a b hab rfl
    exact h.not_isAbove_self a hab
  have hsubset : way ⊆ List.range c.items.size := by
    intro m hm
    obtain ⟨p, -, hp⟩ := Relation.TransGen.tail'_iff.mp (hn m hm)
    exact List.mem_range.mpr (h.lt_size hp)
  simpa using (List.Nodup.subperm hnodup hsubset).length_le

/-- Every way down a forest ends. -/
theorem wellFounded (h : c.IsForest) : WellFounded fun child p => c.IsParent p child := by
  have hacc : ∀ most n, (∀ way, List.IsChain c.IsParent (n :: way) → way.length ≤ most) →
      Acc (fun child p => c.IsParent p child) n := by
    intro most
    induction most with
    | zero =>
      intro n hmost
      refine ⟨n, fun child hchild => ?_⟩
      exact absurd (hmost [child] (by simpa using hchild)) (by simp)
    | succ most ih =>
      intro n hmost
      refine ⟨n, fun child hchild => ih child fun way hway => ?_⟩
      have hlength := hmost (child :: way) (List.isChain_cons_cons.mpr ⟨hchild, hway⟩)
      simpa using hlength
  exact ⟨fun n => hacc c.items.size n fun _ => h.length_way_le⟩

/-- In a forest a search that may go down as far as there are nodes finds the parent exactly of what
is below where it starts. -/
theorem findParentBelow_eq_some_iff (h : c.IsForest) {t p n : NodeId} {fuel : Nat}
    (hfuel : c.items.size ≤ fuel) :
    c.findParentBelow t fuel n = some p ↔ c.IsParent p t ∧ c.IsAtOrAbove n p := by
  refine ⟨findParentBelow_sound fuel n, fun ⟨hparent, hbelow⟩ => ?_⟩
  have habove : c.IsAbove n t := .tail' hbelow hparent
  obtain ⟨way, hway, hend⟩ :=
    List.exists_isChain_cons_of_relationReflTransGen habove.to_reflTransGen
  have hne : way ≠ [] := by
    rintro rfl
    obtain rfl : n = t := by simpa using hend
    exact h.not_isAbove_self n habove
  have hsome := isSome_findParentBelow (t := t) way n fuel hway
    (by rw [List.getLast_cons hne] at hend; rw [List.getLast?_eq_some_getLast hne, hend])
    ((h.length_way_le hway).trans hfuel)
  obtain ⟨q, hq⟩ := Option.isSome_iff_exists.mp hsome
  rw [hq, h.parent_unique (findParentBelow_sound fuel n hq).1 hparent]

/-- The bound on the search is never felt: it goes through the children of every node as if there
were none. -/
theorem findParentBelow_eq (h : c.IsForest) {fuel : Nat} (hfuel : c.items.size ≤ fuel)
    (t n : NodeId) :
    c.findParentBelow t fuel n = (c.children n).findSome? fun child =>
      if child = t then some n else c.findParentBelow t fuel child := by
  have hsucc : c.findParentBelow t fuel n = c.findParentBelow t (fuel + 1) n := by
    ext p
    rw [h.findParentBelow_eq_some_iff hfuel,
      h.findParentBelow_eq_some_iff (hfuel.trans (Nat.le_succ fuel))]
  rw [hsucc, findParentBelow]

theorem findParent?_eq_some_iff (h : c.IsForest) {t p : NodeId} :
    c.findParent? t = some p ↔ c.IsParent p t ∧ c.IsAtOrAbove root p :=
  h.findParentBelow_eq_some_iff (Nat.le_refl _)

theorem isSome_findParent?_iff (h : c.IsForest) {t : NodeId} :
    (c.findParent? t).isSome ↔ c.IsAbove root t := by
  rw [Option.isSome_iff_exists]
  constructor
  · rintro ⟨p, hp⟩
    obtain ⟨hparent, hbelow⟩ := h.findParent?_eq_some_iff.mp hp
    exact .tail' hbelow hparent
  · intro habove
    obtain ⟨p, hbelow, hparent⟩ := Relation.TransGen.tail'_iff.mp habove
    exact ⟨p, h.findParent?_eq_some_iff.mpr ⟨hparent, hbelow⟩⟩

/-- Every node of the document has a parent, and it is found. -/
theorem exists_parent (h : c.IsForest) {t : NodeId} (ht : c.IsAbove root t) :
    ∃ p, c.findParent? t = some p ∧ c.IsParent p t := by
  obtain ⟨p, hp⟩ := Option.isSome_iff_exists.mp (h.isSome_findParent?_iff.mpr ht)
  exact ⟨p, hp, (h.findParent?_eq_some_iff.mp hp).1⟩

end IsForest

/-! ## What an edit does -/

/-- What has become of a construction once a child has been put between two runs of children of a
node. -/
inductive PutBetween (c : Construction) (p : NodeId) (before after : List NodeId) :
    Child → Construction → Prop where
  /-- A node stands between them. -/
  | node {c' : Construction} (n : NodeId)
      (hchildren : ∀ m, c'.children m = if m = p then before ++ n :: after else c.children m)
      (hcontent : ∀ m, c'.content m = c.content m) : PutBetween c p before after (.node n) c'
  /-- A node made for a text stands between them, as there was no text to take it. -/
  | newText {c' : Construction} (text : String)
      (hlast : ∀ last ∈ before.getLast?, c.isText last = false)
      (hchildren : ∀ m, c'.children m =
        if m = p then before ++ c.items.size :: after else c.children m)
      (hcontent : ∀ m, c'.content m = if m = c.items.size then .text text else c.content m) :
      PutBetween c p before after (.text text) c'
  /-- The text before them has become longer. -/
  | joined {c' : Construction} (text : String) {last : NodeId} {held : String}
      (hlast : before.getLast? = some last) (hheld : c.content last = .text held)
      (hchildren : ∀ m, c'.children m = c.children m)
      (hcontent : ∀ m, c'.content m = if m = last then .text (held ++ text) else c.content m) :
      PutBetween c p before after (.text text) c'

theorem putBetween_create {p : NodeId} {before after : List NodeId} {text : String}
    (hp : c.isText p = false) (hlast : ∀ last ∈ before.getLast?, c.isText last = false) :
    PutBetween c p before after (.text text)
      ((c.create (.text text)).2.setChildren p (before ++ c.items.size :: after)) := by
  refine .newText text hlast (fun m => ?_) (fun m => ?_)
  · rw [children_setChildren (isText_create _ p hp), children_create]
  · rw [content_setChildren, content_create]

namespace IsForest

theorem putBetween_insertBetween (h : c.IsForest) {p : NodeId} {before after : List NodeId}
    (hp : c.isText p = false) (hchildren : c.children p = before ++ after) (child : Child) :
    PutBetween c p before after child (c.insertBetween p before after child) := by
  cases child with
  | node n => exact .node n (children_setChildren hp _) (content_setChildren p _)
  | text text =>
    unfold insertBetween
    dsimp only
    split
    next last hlast =>
      split
      next htext =>
        obtain ⟨held, hheld⟩ := isText_iff.mp htext
        have hmem : c.IsParent p last := by
          rw [IsParent, hchildren]
          exact List.mem_append_left _ (List.mem_of_getLast? hlast)
        exact .joined text hlast hheld (children_extendText last text)
          (content_extendText (h.lt_size hmem) hheld text)
      next htext =>
        refine putBetween_create hp fun last' hlast' => ?_
        obtain rfl : last = last' := by simpa [hlast] using hlast'
        simpa using htext
    next hnone => exact putBetween_create hp fun last' hlast' => by simp [hnone] at hlast'

theorem putBetween_append (h : c.IsForest) {p : NodeId} (hp : c.isText p = false) (child : Child) :
    PutBetween c p (c.children p) [] child (c.append p child) := by
  rw [append, if_neg (by simp [hp])]
  exact h.putBetween_insertBetween hp (List.append_nil _).symm child

theorem putBetween_insertBefore (h : c.IsForest) {sibling p : NodeId}
    (hparent : c.findParent? sibling = some p) (child : Child) :
    ∃ before after, c.children p = before ++ sibling :: after ∧
      PutBetween c p before (sibling :: after) child (c.insertBefore sibling child) := by
  have hmem := (h.findParent?_eq_some_iff.mp hparent).1
  obtain ⟨before, after, hsplit, hbefore⟩ := List.eq_append_cons_of_mem hmem
  have hne : ∀ m ∈ before, (m != sibling) = true := fun m hm => by
    simp only [bne_iff_ne]
    rintro rfl
    exact hbefore hm
  have htake : (c.children p).takeWhile (· != sibling) = before := by
    rw [hsplit, List.takeWhile_append_of_pos hne]
    simp
  have hdrop : (c.children p).dropWhile (· != sibling) = sibling :: after := by
    rw [hsplit, List.dropWhile_append_of_pos hne]
    simp
  refine ⟨before, after, hsplit, ?_⟩
  simp only [insertBefore, hparent, htake, hdrop]
  exact h.putBetween_insertBetween (h.isText_of_isParent hmem) hsplit child

theorem children_detach (h : c.IsForest) {t : NodeId} (ht : c.IsAbove root t) (m : NodeId) :
    (c.detach t).children m = (c.children m).filter (· != t) := by
  obtain ⟨p, hp, hparent⟩ := h.exists_parent ht
  simp only [detach, hp]
  rw [children_setChildren (h.isText_of_isParent hparent)]
  split
  next hm => rw [hm]
  next hm =>
    refine (List.filter_eq_self.mpr fun k hk => ?_).symm
    simp only [bne_iff_ne]
    rintro rfl
    exact hm (h.parent_unique hk hparent)

theorem children_setChildren_nil (h : c.IsForest) (n m : NodeId) :
    (c.setChildren n []).children m = if m = n then [] else c.children m := by
  cases hn : c.isText n with
  | false => exact children_setChildren hn [] m
  | true =>
    rw [setChildren, if_pos hn]
    split
    next hm => exact hm ▸ h.children_of_isText hn
    next => rfl

theorem children_reparent (h : c.IsForest) {target : NodeId} (ht : c.isText target = false)
    (n m : NodeId) :
    (c.reparent n target).children m =
      if m = target then (if n = target then [] else c.children target) ++ c.children n
      else if m = n then [] else c.children m := by
  rw [reparent, children_setChildren (by simpa using ht), h.children_setChildren_nil,
    h.children_setChildren_nil]
  simp only [eq_comm]

end IsForest

@[simp] theorem content_detach (t m : NodeId) : (c.detach t).content m = c.content m := by
  unfold detach
  split
  · exact content_setChildren ..
  · rfl

@[simp] theorem content_reparent (n target m : NodeId) :
    (c.reparent n target).content m = c.content m := by
  rw [reparent, content_setChildren, content_setChildren]

/-! ## Edits -/

/-- A change that a reader of markup asks for. What it only looks at is none. -/
inductive Edit where
  | createElement (element : Element)
  /-- What stands in for a comment or a processing instruction. -/
  | createEmpty
  | append (parent : NodeId) (child : Child)
  | insertBefore (sibling : NodeId) (child : Child)
  | insertFostered (element previous : NodeId) (child : Child)
  | detach (n : NodeId)
  | reparent (n target : NodeId)
  | addMissing (n : NodeId) (offered : List Attribute)
  | declare (doctype : Doctype)
  | setMode (mode : Mode)

/-- Makes a change. -/
def Edit.run (c : Construction) : Edit → Construction
  | createElement element => (c.create (.element element)).2
  | createEmpty => (c.create (.text "")).2
  | append parent child => c.append parent child
  | insertBefore sibling child => c.insertBefore sibling child
  | insertFostered element previous child => c.insertFostered element previous child
  | detach n => c.detach n
  | reparent n target => c.reparent n target
  | addMissing n offered => c.addMissing n offered
  | declare doctype => { c with doctype := some doctype }
  | setMode mode => { c with mode }

/-- The node itself, if something can be put into it. -/
def container? (c : Construction) (n : NodeId) : Option NodeId :=
  if c.isText n then none else some n

/-- A child can be put into a node, if there is one to put it into: a node must be nowhere yet and
not come to stand under itself. -/
def Accepts (c : Construction) (host : Option NodeId) : Child → Prop
  | .text _ => True
  | .node n => n < c.items.size ∧ c.IsOrphan n ∧ ∀ p, host = some p → ¬ c.IsAtOrAbove n p

/-- A reader of markup may ask for a change: it hands out only nodes that can be put where they are
to go, and moves children only to an element or the document, and to none that they are above. -/
def Allows (c : Construction) : Edit → Prop
  | .append parent child => c.Accepts (c.container? parent) child
  | .insertBefore sibling child => c.Accepts (c.findParent? sibling) child
  | .insertFostered element previous child =>
    c.Accepts ((c.findParent? element).or (c.container? previous)) child
  | .reparent n target => c.isText target = false ∧ ∀ m ∈ c.children n, ¬ c.IsAtOrAbove m target
  | _ => True

/-- A construction that was made from nothing by changes that may be asked for. -/
inductive IsBuilt : Construction → Prop where
  | empty : IsBuilt empty
  | edit {c : Construction} (hbuilt : IsBuilt c) (e : Edit) (hallows : c.Allows e) :
      IsBuilt (e.run c)

namespace IsForest

theorem empty : Construction.empty.IsForest := by
  have hnil : ∀ n, Construction.empty.children n = [] := by
    intro n
    obtain _ | n := n <;> rfl
  have hparent : ∀ p n, ¬ Construction.empty.IsParent p n := by simp [IsParent, hnil]
  refine ⟨?_, fun _ => hnil _, fun p => ?_, ?_, fun n hn => ?_⟩
  · exact fun h => absurd h (hparent _ _)
  · rw [hnil]
    exact List.nodup_nil
  · exact fun h => absurd h (hparent _ _)
  · obtain ⟨p, -, hp⟩ := Relation.TransGen.tail'_iff.mp hn
    exact hparent p n hp

theorem insertBetween (h : c.IsForest) {p : NodeId} {before after : List NodeId}
    (hp : c.isText p = false) (hchildren : c.children p = before ++ after) {child : Child}
    (haccepts : c.Accepts (some p) child) : (c.insertBetween p before after child).IsForest := by
  cases child with
  | text text => exact h.insertBetween_text hp hchildren text
  | node n =>
    obtain ⟨hn, horphan, habove⟩ := haccepts
    exact h.insertBetween_node hp hchildren hn horphan (habove p rfl)

theorem append (h : c.IsForest) {p : NodeId} {child : Child}
    (haccepts : c.Accepts (c.container? p) child) : (c.append p child).IsForest := by
  rw [Construction.append]
  split
  next => exact h
  next hp =>
    rw [container?, if_neg hp] at haccepts
    exact h.insertBetween (by simpa using hp) (List.append_nil _).symm haccepts

theorem insertBefore (h : c.IsForest) {sibling : NodeId} {child : Child}
    (haccepts : c.Accepts (c.findParent? sibling) child) :
    (c.insertBefore sibling child).IsForest := by
  rw [Construction.insertBefore]
  split
  next => exact h
  next p hparent =>
    rw [hparent] at haccepts
    exact h.insertBetween (h.isText_of_isParent (h.findParent?_eq_some_iff.mp hparent).1)
      List.takeWhile_append_dropWhile.symm haccepts

theorem insertFostered (h : c.IsForest) {element previous : NodeId} {child : Child}
    (haccepts : c.Accepts ((c.findParent? element).or (c.container? previous)) child) :
    (c.insertFostered element previous child).IsForest := by
  rw [Construction.insertFostered]
  cases hparent : c.findParent? element with
  | some p => exact h.insertBefore (by simpa [hparent] using haccepts)
  | none => exact h.append (by simpa [hparent] using haccepts)

theorem detach (h : c.IsForest) (n : NodeId) : (c.detach n).IsForest := by
  rw [Construction.detach]
  split
  · exact h.setChildren_sublist List.filter_sublist
  · exact h

theorem reparent (h : c.IsForest) {n target : NodeId} (ht : c.isText target = false)
    (hbelow : ∀ m ∈ c.children n, ¬ c.IsAtOrAbove m target) : (c.reparent n target).IsForest := by
  have hemptied : (c.setChildren n []).IsForest := h.setChildren_sublist (List.nil_sublist _)
  have hfewer : ∀ p m, (c.setChildren n []).IsParent p m → p ≠ n ∧ c.IsParent p m := by
    intro p m hp
    rw [IsParent, h.children_setChildren_nil] at hp
    split at hp
    next => exact absurd hp List.not_mem_nil
    next hne => exact ⟨hne, hp⟩
  have hinsert := hemptied.setChildren_insert _ (c.children n) []
    ((isText_setChildren ..).trans ht) (List.append_nil _).symm (h.nodup n) fun m hm => by
      refine ⟨by simpa using h.lt_size hm, fun p hp => ?_, fun hway => ?_⟩
      · obtain ⟨hne, hold⟩ := hfewer p m hp
        exact hne (h.parent_unique hold hm)
      · exact hbelow m hm (hway.mono fun p k hp => (hfewer p k hp).2)
  rwa [List.append_nil] at hinsert

/-- A change that may be asked for keeps a forest. -/
theorem run (h : c.IsForest) {e : Edit} (hallows : c.Allows e) : (e.run c).IsForest := by
  cases e with
  | createElement element => exact h.create _
  | createEmpty => exact h.create _
  | append parent child => exact h.append hallows
  | insertBefore sibling child => exact h.insertBefore hallows
  | insertFostered element previous child => exact h.insertFostered hallows
  | detach n => exact h.detach n
  | reparent n target => exact h.reparent hallows.1 hallows.2
  | addMissing n offered => exact h.modifyElement n _
  | declare doctype => exact h.of_sublist (fun _ => .refl _) (Nat.le_refl _) fun _ hm => hm
  | setMode mode => exact h.of_sublist (fun _ => .refl _) (Nat.le_refl _) fun _ hm => hm

end IsForest

theorem IsBuilt.isForest (h : c.IsBuilt) : c.IsForest := by
  induction h with
  | empty => exact .empty
  | edit _ e hallows ih => exact ih.run hallows

/-- Whatever a reader of markup builds by changes it may ask for is a forest. Looking down for a
parent therefore comes to an end, and finds the one parent of every node of the document; taking
such a node out leaves all other nodes with the children they had, in their order; what is fostered
goes directly before its table, or to the end of the other element if the table is not in the
document; and children that are moved go, in their order, behind those that are there. -/
theorem allowed_edits_build_a_forest (hbuilt : c.IsBuilt) :
    c.IsForest ∧
    (WellFounded (fun child p => c.IsParent p child) ∧
      (∀ fuel ≥ c.items.size, ∀ t n, c.findParentBelow t fuel n =
        (c.children n).findSome? fun child =>
          if child = t then some n else c.findParentBelow t fuel child) ∧
      ∀ t, c.IsAbove root t →
        ∃ p, c.findParent? t = some p ∧ c.IsParent p t ∧ ∀ q, c.IsParent q t → q = p) ∧
    (∀ t, c.IsAbove root t →
      (c.detach t).IsOrphan t ∧ (∀ m, (c.detach t).children m = (c.children m).filter (· != t)) ∧
        ∀ m, (c.detach t).content m = c.content m) ∧
    (∀ element previous child,
      (c.IsAbove root element → ∃ p before after, c.children p = before ++ element :: after ∧
        PutBetween c p before (element :: after) child
          (c.insertFostered element previous child)) ∧
      (¬ c.IsAbove root element → c.isText previous = false →
        PutBetween c previous (c.children previous) [] child
          (c.insertFostered element previous child))) ∧
    ∀ n target, c.Allows (.reparent n target) →
      (∀ m, (c.reparent n target).children m =
        if m = target then (if n = target then [] else c.children target) ++ c.children n
        else if m = n then [] else c.children m) ∧
      ∀ m, (c.reparent n target).content m = c.content m := by
  have hforest := hbuilt.isForest
  refine ⟨hforest, ⟨hforest.wellFounded, fun fuel hfuel => hforest.findParentBelow_eq hfuel, ?_⟩,
    ?_, ?_, ?_⟩
  · intro t ht
    obtain ⟨p, hp, hparent⟩ := hforest.exists_parent ht
    exact ⟨p, hp, hparent, fun q hq => hforest.parent_unique hq hparent⟩
  · intro t ht
    refine ⟨fun p hp => ?_, hforest.children_detach ht, content_detach t⟩
    rw [IsParent, hforest.children_detach ht] at hp
    simp at hp
  · intro element previous child
    constructor
    · intro habove
      obtain ⟨p, hp, -⟩ := hforest.exists_parent habove
      obtain ⟨before, after, hsplit, hput⟩ := hforest.putBetween_insertBefore hp child
      refine ⟨p, before, after, hsplit, ?_⟩
      rwa [insertFostered, if_pos (hforest.isSome_findParent?_iff.mpr habove)]
    · intro habove hprevious
      rw [insertFostered, if_neg (mt hforest.isSome_findParent?_iff.mp habove)]
      exact hforest.putBetween_append hprevious child
  · intro n target hallows
    exact ⟨hforest.children_reparent hallows.1 n, content_reparent n target⟩

/-- A node without children, as one just created, is accepted everywhere but in itself. -/
theorem accepts_of_childless {host : Option NodeId} {n : NodeId} (hn : n < c.items.size)
    (horphan : c.IsOrphan n) (hnil : c.children n = []) (hne : host ≠ some n) :
    c.Accepts host (.node n) := by
  refine ⟨hn, horphan, fun p hp hway => hne ?_⟩
  rw [hp, hway.eq_of_children_eq_nil hnil]

/-- A page with a row in a table, made top down, and an element that is not in it yet. -/
def tablePage : Construction :=
  [.createElement ⟨"html", .html, []⟩, .append root (.node 1),
    .createElement ⟨"table", .html, []⟩, .append 1 (.node 2),
    .createElement ⟨"tr", .html, []⟩, .append 2 (.node 3),
    .createElement ⟨"b", .html, []⟩].foldl Edit.run empty

theorem table_page_can_be_edited_on :
    tablePage.IsBuilt ∧ tablePage.findParent? 3 = some 2 ∧
      (tablePage.detach 2).children 1 = [] ∧ (tablePage.detach 2).children 2 = [3] ∧
      (tablePage.insertFostered 2 4 (.text "foo")).children 1 = [5, 2] ∧
      (tablePage.insertFostered 4 1 (.text "foo")).children 1 = [2, 5] ∧
      (tablePage.reparent 2 4).children 4 = [3] := by
  have hbuilt : tablePage.IsBuilt := by
    simp only [tablePage, List.foldl_cons, List.foldl_nil]
    refine .edit (.edit (.edit (.edit (.edit (.edit (.edit .empty _ ?_) _ ?_) _ ?_) _ ?_) _ ?_)
      _ ?_) _ ?_
    · trivial
    · exact accepts_of_childless (by decide) (by decide) (by decide) (by decide)
    · trivial
    · exact accepts_of_childless (by decide) (by decide) (by decide) (by decide)
    · trivial
    · exact accepts_of_childless (by decide) (by decide) (by decide) (by decide)
    · trivial
  obtain ⟨-, ⟨-, -, hparent⟩, hdetach, hfoster, hreparent⟩ := allowed_edits_build_a_forest hbuilt
  have htable : tablePage.IsAbove root 2 := .tail (.single (b := 1) (by decide)) (by decide)
  have hrow : tablePage.IsAbove root 3 := .tail htable (by decide)
  refine ⟨hbuilt, ?_, ?_, ?_, ?_, ?_, ?_⟩
  · obtain ⟨p, hp, -, hunique⟩ := hparent 3 hrow
    rw [hp, hunique 2 (by decide)]
  · rw [(hdetach 2 htable).2.1]
    decide
  · rw [(hdetach 2 htable).2.1]
    decide
  · decide
  · decide
  · rw [(hreparent 2 4 ⟨by decide, ?_⟩).1]
    · decide
    · intro m hm hway
      obtain rfl : m = 3 := by simpa using (show m ∈ [3] from hm)
      exact absurd (hway.eq_of_children_eq_nil (by decide)) (by decide)

end MediaQuery.Dom.Construction
