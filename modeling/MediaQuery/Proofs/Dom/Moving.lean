import Mathlib.Algebra.BigOperators.Intervals
import MediaQuery.Proofs.Dom.Edit

/-!
# Nodes that are put before others

A node of a document may be put before another one to move it there. `IsMovedBefore` says what that
means: the node stands at the new place and at no other, and all other nodes stand where they stood.
What `insertBefore` does falls short of it in one respect. It puts the node where it belongs and
leaves all others alone (`StandsBefore`), but it does not take the node away from where it was.

* `node_is_moved_only_without_a_parent` — a node is moved exactly if it had no parent, and a caller
  that takes it out first moves it
* `node_of_the_page_stands_twice` — a node that was not taken out
-/

namespace MediaQuery.Dom.Construction

open Finset (sum_congr sum_erase_add sum_eq_zero_iff range mem_range mem_erase)

variable {c c' : Construction} {sibling n p : NodeId}

/-! ## How often a node stands in a construction -/

/-- The number of places at which a node stands among the children of others. -/
def occurrences (c : Construction) (n : NodeId) : Nat :=
  ∑ p ∈ range c.items.size, (c.children p).count n

/-- The children of one node, and those of all others. -/
theorem occurrences_eq_add (hp : p < c.items.size) (n : NodeId) :
    c.occurrences n =
      ∑ m ∈ (range c.items.size).erase p, (c.children m).count n + (c.children p).count n :=
  (sum_erase_add _ _ (mem_range.mpr hp)).symm

/-- Where one node has other children, its children alone decide what has become of the number. -/
theorem occurrences_of_changed {children : List NodeId} (hsize : c'.items.size = c.items.size)
    (hp : p < c.items.size)
    (hchildren : ∀ m, c'.children m = if m = p then children else c.children m) (n : NodeId) :
    c'.occurrences n + (c.children p).count n = c.occurrences n + children.count n := by
  have hothers : ∑ m ∈ (range c.items.size).erase p, (c'.children m).count n =
      ∑ m ∈ (range c.items.size).erase p, (c.children m).count n := by
    refine sum_congr rfl fun m hm => ?_
    rw [hchildren, if_neg (mem_erase.mp hm).1]
  rw [occurrences_eq_add hp, occurrences_eq_add (hsize ▸ hp), hsize, hothers, hchildren,
    if_pos rfl]
  omega

theorem occurrences_eq_zero_iff : c.occurrences n = 0 ↔ c.IsOrphan n := by
  rw [occurrences, sum_eq_zero_iff, isOrphan_iff]
  simp only [mem_range, List.count_eq_zero]

/-- In a forest a node that has a parent stands at one place. -/
theorem IsForest.occurrences_eq_one (h : c.IsForest) (hp : c.IsParent p n) :
    c.occurrences n = 1 := by
  have hothers : ∑ m ∈ (range c.items.size).erase p, (c.children m).count n = 0 := by
    refine sum_eq_zero_iff.mpr fun m hm => List.count_eq_zero.mpr fun hn => ?_
    exact (mem_erase.mp hm).1 (h.parent_unique hn hp)
  rw [occurrences_eq_add hp.lt_size, hothers, List.count_eq_one_of_mem (h.nodup p) hp]

/-! ## Where a node is put -/

/-- In a construction made from another one a node stands directly before a sibling, in the
document, and all other nodes have their parents and their order. -/
structure StandsBefore (c : Construction) (sibling n : NodeId) (c' : Construction) : Prop where
  place : ∃ p before after, c'.children p = before ++ n :: sibling :: after
  isAbove : c'.IsAbove root n
  others : ∀ m, (c'.children m).filter (· != n) = (c.children m).filter (· != n)
  content_eq : ∀ m, c'.content m = c.content m

/-- A node has been moved before a sibling: it stands there, and nowhere else. -/
structure IsMovedBefore (c : Construction) (sibling n : NodeId) (c' : Construction) : Prop extends
    StandsBefore c sibling n c' where
  once : c'.occurrences n = 1

/-- The way from one node to another is there still as long as what may be gone is a node that the
way does not come by. -/
theorem isAbove_of_kept {a b : NodeId} (hkept : ∀ q m, m ≠ n → c.IsParent q m → c'.IsParent q m)
    (hway : c.IsAbove a b) (hbelow : ¬ c.IsAtOrAbove n b) : c'.IsAbove a b := by
  induction hway with
  | single hstep =>
    exact .single (hkept _ _ (fun heq => hbelow (heq ▸ .refl)) hstep)
  | tail hway hstep ih =>
    refine .tail (ih fun hmiddle => hbelow (hmiddle.tail hstep)) (hkept _ _ ?_ hstep)
    rintro rfl
    exact hbelow .refl

@[simp] theorem size_insertBefore_node (c : Construction) (sibling n : NodeId) :
    (c.insertBefore sibling (.node n)).items.size = c.items.size := by
  rw [insertBefore]
  split
  · rfl
  · exact size_setChildren ..

namespace IsForest

/-- A node that is put before a sibling stands there, and at one place more than before. -/
theorem standsBefore_insertBefore (h : c.IsForest) (hsibling : c.IsAbove root sibling)
    (n : NodeId) :
    StandsBefore c sibling n (c.insertBefore sibling (.node n)) ∧
      (∀ q m, c.IsParent q m → (c.insertBefore sibling (.node n)).IsParent q m) ∧
      (c.insertBefore sibling (.node n)).occurrences n = c.occurrences n + 1 := by
  obtain ⟨p, hp, hparent⟩ := h.exists_parent hsibling
  obtain ⟨before, after, hsplit, hput⟩ := h.putBetween_insertBefore hp (.node n)
  have hsize := c.size_insertBefore_node sibling n
  generalize c.insertBefore sibling (.node n) = c' at hput hsize ⊢
  cases hput with
  | node _ hchildren hcontent =>
    have hplace : c'.children p = before ++ n :: sibling :: after := by
      rw [hchildren, if_pos rfl]
    have hkept : ∀ q m, c.IsParent q m → c'.IsParent q m := by
      intro q m hm
      rw [IsParent, hchildren]
      split
      next hq =>
        rw [IsParent, hq, hsplit] at hm
        grind
      next => exact hm
    have hbelow : c.IsAtOrAbove root p := (h.findParent?_eq_some_iff.mp hp).2
    refine ⟨⟨⟨p, before, after, hplace⟩, ?_, fun m => ?_, hcontent⟩, hkept, ?_⟩
    · exact .tail' (hbelow.mono hkept) (show n ∈ c'.children p by rw [hplace]; simp)
    · rw [hchildren]
      split
      next hm => simp [hm, hsplit]
      next => rfl
    · have hcount := occurrences_of_changed hsize hparent.lt_size hchildren n
      rw [hsplit, List.count_append, List.count_append, List.count_cons_self] at hcount
      omega

end IsForest

theorem insertFostered_of_isAbove (h : c.IsForest) {element : NodeId}
    (habove : c.IsAbove root element) (previous : NodeId) (child : Child) :
    c.insertFostered element previous child = c.insertBefore element child := by
  rw [insertFostered, if_pos (h.isSome_findParent?_iff.mpr habove)]

/-- In a forest, put a node before a sibling of the document that it is not and does not contain. It
stands there then, and all other nodes stand where they stood. But it also stands where it was, so
that it has been moved exactly if it had no parent; a node of the document stands twice. If it is
taken out first, it is moved. What is fostered before an element of the document is put before it in
the same way. -/
theorem node_is_moved_only_without_a_parent (h : c.IsForest) (hsibling : c.IsAbove root sibling)
    (hbelow : ¬ c.IsAtOrAbove n sibling) :
    StandsBefore c sibling n (c.insertBefore sibling (.node n)) ∧
    (IsMovedBefore c sibling n (c.insertBefore sibling (.node n)) ↔ c.IsOrphan n) ∧
    (c.IsAbove root n →
      (c.insertBefore sibling (.node n)).occurrences n = 2 ∧
      (∀ p, c.IsParent p n → (c.insertBefore sibling (.node n)).IsParent p n) ∧
      IsMovedBefore c sibling n ((c.detach n).insertBefore sibling (.node n))) ∧
    ∀ previous,
      c.insertFostered sibling previous (.node n) = c.insertBefore sibling (.node n) ∧
      (c.IsAbove root n → (c.detach n).insertFostered sibling previous (.node n) =
        (c.detach n).insertBefore sibling (.node n)) := by
  obtain ⟨hstands, hkept, hcount⟩ := h.standsBefore_insertBefore hsibling n
  have hdetached : c.IsAbove root n → (c.detach n).IsAbove root sibling := fun hn =>
    isAbove_of_kept (fun q m hm hparent => by
      rw [IsParent, h.children_detach hn]
      exact List.mem_filter.mpr ⟨hparent, by simpa using hm⟩) hsibling hbelow
  refine ⟨hstands, ⟨fun hmoved => ?_, fun horphan => ⟨hstands, ?_⟩⟩, fun hn => ⟨?_, ?_, ?_⟩,
    fun previous => ⟨insertFostered_of_isAbove h hsibling previous _, fun hn => ?_⟩⟩
  · have honce := hmoved.once
    exact occurrences_eq_zero_iff.mp (by omega)
  · rw [hcount, occurrences_eq_zero_iff.mpr horphan]
  · obtain ⟨p, -, hparent⟩ := h.exists_parent hn
    rw [hcount, h.occurrences_eq_one hparent]
  · exact fun p => hkept p n
  · -- taken out, the node is nowhere
    have hchildren := h.children_detach hn
    have horphan : (c.detach n).IsOrphan n := fun q hq => by
      rw [IsParent, hchildren] at hq
      simp at hq
    obtain ⟨hput, -, hplaces⟩ := (h.detach n).standsBefore_insertBefore (hdetached hn) n
    refine ⟨⟨hput.place, hput.isAbove, fun m => ?_, fun m => ?_⟩, ?_⟩
    · rw [hput.others, hchildren, List.filter_filter]
      simp
    · rw [hput.content_eq, content_detach]
    · rw [hplaces, occurrences_eq_zero_iff.mpr horphan]
  · exact insertFostered_of_isAbove (h.detach n) (hdetached hn) previous _

/-- A page with two elements in a third one, made top down. -/
def pairPage : Construction :=
  [.createElement ⟨"p", .html, []⟩, .append root (.node 1), .createElement ⟨"a", .html, []⟩,
    .append 1 (.node 2), .createElement ⟨"b", .html, []⟩, .append 1 (.node 3)].foldl Edit.run empty

/-- The two elements are in the page, and the second one does not contain the first. -/
theorem pairPage_spec :
    pairPage.IsForest ∧ pairPage.IsAbove root 2 ∧ pairPage.IsAbove root 3 ∧
      ¬ pairPage.IsAtOrAbove 3 2 := by
  have hforest : pairPage.IsForest := by
    simp only [pairPage, List.foldl_cons, List.foldl_nil]
    refine IsBuilt.isForest ?_
    refine .edit (.edit (.edit (.edit (.edit (.edit .empty _ ?_) _ ?_) _ ?_) _ ?_) _ ?_) _ ?_
    · trivial
    · exact accepts_of_childless (by decide) (by decide) (by decide) (by decide)
    · trivial
    · exact accepts_of_childless (by decide) (by decide) (by decide) (by decide)
    · trivial
    · exact accepts_of_childless (by decide) (by decide) (by decide) (by decide)
  have htop : pairPage.IsAbove root 1 := .single (by decide)
  refine ⟨hforest, htop.tail (by decide), htop.tail (by decide), fun hway => ?_⟩
  exact absurd (hway.eq_of_children_eq_nil (by decide)) (by decide)

theorem node_taken_out_first_is_moved :
    pairPage.IsForest ∧ pairPage.IsAbove root 2 ∧ ¬ pairPage.IsAtOrAbove 3 2 ∧
      pairPage.IsAbove root 3 ∧ ((pairPage.detach 3).insertBefore 2 (.node 3)).children 1 = [3, 2] ∧
      IsMovedBefore pairPage 2 3 ((pairPage.detach 3).insertBefore 2 (.node 3)) := by
  obtain ⟨hforest, hsibling, hnode, hbelow⟩ := pairPage_spec
  obtain ⟨-, -, hmoves, -⟩ := node_is_moved_only_without_a_parent hforest hsibling hbelow
  exact ⟨hforest, hsibling, hbelow, hnode, by decide, (hmoves hnode).2.2⟩

/-- A node that was not taken out before it is put before its sibling, or fostered there, stands on
either side of it. -/
theorem node_of_the_page_stands_twice :
    pairPage.IsForest ∧ pairPage.IsAbove root 2 ∧ pairPage.IsAbove root 3 ∧
      ¬ pairPage.IsAtOrAbove 3 2 ∧ (pairPage.insertBefore 2 (.node 3)).children 1 = [3, 2, 3] ∧
      ¬ IsMovedBefore pairPage 2 3 (pairPage.insertBefore 2 (.node 3)) ∧
      ¬ IsMovedBefore pairPage 2 3 (pairPage.insertFostered 2 1 (.node 3)) := by
  obtain ⟨hforest, hsibling, hnode, hbelow⟩ := pairPage_spec
  exact ⟨hforest, hsibling, hnode, hbelow, by decide,
    fun hmoved => absurd hmoved.once (by decide), fun hmoved => absurd hmoved.once (by decide)⟩

end MediaQuery.Dom.Construction
