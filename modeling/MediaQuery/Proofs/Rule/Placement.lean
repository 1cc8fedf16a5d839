import MediaQuery.Proofs.Dom.Head
import MediaQuery.Rule.Injection

/-!
# Style elements in their place

However often what is active has been put into a document, the document is the one from the
beginning with one run of style elements in the head, at one place. `IsStyled` says so, and what
matters about such a document is read off from it: how it is written, what there is to see of the
style elements, and that they can be taken out again.
-/

namespace MediaQuery

open Dom (Document Node NodeId)

/-- What there is to see of a style element: its media attribute and its text. -/
def Dom.Node.shown (n : Node) : Option String × String :=
  (n.element?.bind (·.attr? "media"), n.textContent)

namespace Injection

variable {next : NodeId} {buckets : List Bucket} {children styles : List Node}

/-! ## The style elements -/

theorem exists_of_mem_elements {n : Node} (h : n ∈ elements next buckets) :
    ∃ (id : NodeId) (b : Bucket), next ≤ id ∧ n = Node.style id (id + 1) b.mediaType b.css := by
  induction buckets generalizing next with
  | nil => exact absurd h (by simp [elements])
  | cons b rest ih =>
    rcases List.mem_cons.mp h with rfl | h
    · exact ⟨next, b, Nat.le_refl _, rfl⟩
    · obtain ⟨id, b', hle, rfl⟩ := ih h
      exact ⟨id, b', Nat.le_trans (Nat.le_add_right next 2) hle, rfl⟩

/-- The identities of style elements begin where it was said. -/
theorem le_id_of_mem_elements {n : Node} (h : n ∈ elements next buckets) : next ≤ n.id := by
  obtain ⟨id, b, hle, rfl⟩ := exists_of_mem_elements h
  exact hle

/-- The identities of style elements are given out one after the other. -/
theorem idsAll_elements (next : Nat) (buckets : List Bucket) :
    Node.idsAll (elements next buckets) = List.range' next (2 * buckets.length) := by
  induction buckets generalizing next with
  | nil => rfl
  | cons b rest ih =>
    rw [elements, Node.idsAll, ih, List.length_cons, Nat.mul_succ, List.range'_succ,
      List.range'_succ]
    rfl

theorem mem_idsAll_elements_iff {next id : Nat} :
    id ∈ Node.idsAll (elements next buckets) ↔ next ≤ id ∧ id < next + 2 * buckets.length := by
  rw [idsAll_elements, List.mem_range'_1]

/-- A style element is not taken for the head. -/
theorem isHead_of_mem_elements {n : Node} (h : n ∈ elements next buckets) :
    Document.isHead n = false := by
  obtain ⟨id, b, -, rfl⟩ := exists_of_mem_elements h
  have hname : Ascii.sameName "style" "head" = false := by decide
  exact hname

theorem shown_style (id textId : NodeId) (media css : String) :
    (Node.style id textId media css).shown = (some media, css) := by
  have htype : Ascii.sameName "type" "media" = false := by decide
  have hmedia : Ascii.sameName "media" "media" = true := by decide
  rw [Node.shown, Node.textContent_style]
  simp [Node.style, Node.element?, Dom.Element.attr?, Dom.lookup, Dom.Attribute.isNamed, htype,
    hmedia]

/-- Style elements show the media types and the style text of the buckets. -/
theorem map_shown_elements :
    (elements next buckets).map Node.shown = buckets.map fun b => (some b.mediaType, b.css) := by
  induction buckets generalizing next with
  | nil => rfl
  | cons b rest ih =>
    rw [elements, List.map_cons, List.map_cons, shown_style, ih]

/-- The identities of style elements are not written. -/
theorem markupAll_elements (raw : Bool) (next' : NodeId) :
    Node.markupAll raw (elements next buckets) = Node.markupAll raw (elements next' buckets) := by
  induction buckets generalizing next next' with
  | nil => rfl
  | cons b rest ih =>
    rw [elements, elements, Node.markupAll, Node.markupAll, ih (next' + 2)]
    rfl

/-! ## Their place -/

theorem arrange_nil (styles children : List Node) :
    arrange [] styles children =
      (splitAtLastLink children).1 ++ styles ++ (splitAtLastLink children).2 := by
  have hremove : remove [] children = children := List.filter_eq_self.mpr fun n _ => rfl
  rw [arrange, hremove]

theorem arrange_eq (previous styles children : List Node) :
    arrange previous styles children = arrange [] styles (remove previous children) := by
  rw [arrange_nil]
  rfl

@[simp] theorem arrange_nil_nil (children : List Node) : arrange [] [] children = children := by
  rw [arrange_nil, List.append_nil, splitAtLastLink_append]

theorem mem_arrange_nil {n : Node} :
    n ∈ arrange [] styles children ↔ n ∈ styles ∨ n ∈ children := by
  have hchildren : n ∈ children ↔
      n ∈ (splitAtLastLink children).1 ∨ n ∈ (splitAtLastLink children).2 := by
    rw [← List.mem_append, splitAtLastLink_append]
  rw [arrange_nil, List.mem_append, List.mem_append, hchildren, or_assoc, or_left_comm]

/-- Among the children of the head are then the new style elements and what has stayed. -/
theorem mem_arrange {previous : List Node} {n : Node} :
    n ∈ arrange previous styles children ↔ n ∈ styles ∨ n ∈ remove previous children := by
  rw [arrange_eq, mem_arrange_nil]

/-- What is taken for the head was there before. -/
theorem mem_of_isHead_of_mem_arrange :
    ∀ n ∈ arrange [] (elements next buckets) children,
      Document.isHead n = true → n ∈ children := by
  intro n hn hhead
  rcases mem_arrange_nil.mp hn with hn | hn
  · exact absurd (isHead_of_mem_elements hn) (by simp [hhead])
  · exact hn

/-- Style elements that are put in and taken out leave the head where it was. -/
theorem headAt_arrange {d : Document} {path : List Dom.Layer}
    (hat : Dom.HeadAt d.children path children) (previous : List Node) (next : NodeId)
    (buckets : List Bucket) :
    Dom.HeadAt (d.withHeadChildren (arrange previous (elements next buckets) children)).children
      path (arrange previous (elements next buckets) children) := by
  refine Document.headAt_withHeadChildren hat fun n hn hhead => ?_
  rw [arrange_eq] at hn
  exact (List.mem_filter.mp (mem_of_isHead_of_mem_arrange n hn hhead)).1

/-- Taking out what was put in leaves what was there. -/
theorem remove_arrange (h : ∀ n ∈ children, ∀ old ∈ styles, old.id ≠ n.id) :
    remove styles (arrange [] styles children) = children := by
  have hkeep : ∀ part : List Node, (∀ n ∈ part, n ∈ children) → remove styles part = part := by
    intro part hpart
    refine List.filter_eq_self.mpr fun n hn => ?_
    simpa using h n (hpart n hn)
  have hdrop : remove styles styles = [] := by
    refine List.filter_eq_nil_iff.mpr fun n hn => ?_
    simpa using ⟨n, hn, rfl⟩
  have hsplit := splitAtLastLink_append children
  have happend : ∀ a b : List Node, remove styles (a ++ b) = remove styles a ++ remove styles b :=
    fun a b => List.filter_append ..
  rw [arrange_nil, happend, happend, hdrop, hkeep _ fun n hn => by rw [← hsplit]; simp [hn],
    hkeep _ fun n hn => by rw [← hsplit]; simp [hn], List.append_nil, hsplit]

/-- What is put in comes to stand where what was put in before stood. -/
theorem arrange_arrange (h : ∀ n ∈ children, ∀ old ∈ styles, old.id ≠ n.id) (styles' : List Node) :
    arrange styles styles' (arrange [] styles children) = arrange [] styles' children := by
  rw [arrange, remove_arrange h, arrange_nil]

theorem inject_eq {d : Document} (h : d.headChildren? = some children) (previous : List Node)
    (active : ActiveSet) :
    inject d previous active =
      ⟨{ d.withHeadChildren (arrange previous (elements d.nextId active.buckets) children) with
          nextId := d.nextId + 2 * active.buckets.length },
        elements d.nextId active.buckets,
        .replaced previous.length (elements d.nextId active.buckets).length⟩ := by
  rw [inject, h]
  rfl

end Injection

/-! ## Documents with style elements -/

open Injection

/-- A document and its style elements have come from a document `d` by putting style elements for
some buckets into the head; without a head nothing was put in. -/
inductive IsStyled (d : Document) (buckets : List Bucket) : Document → List Node → Prop where
  | noHead (h : d.headChildren? = none) : IsStyled d buckets d []
  | head {children : List Node} (h : d.headChildren? = some children) (next last : NodeId)
    (hnext : d.nextId ≤ next) (hlast : next + 2 * buckets.length ≤ last) :
    IsStyled d buckets
      { d.withHeadChildren (arrange [] (elements next buckets) children) with nextId := last }
      (elements next buckets)

namespace IsStyled

variable {d document document' : Document} {buckets : List Bucket} {injected injected' : List Node}

theorem refl (d : Document) : IsStyled d [] d [] := by
  cases h : d.headChildren? with
  | none => exact .noHead h
  | some children =>
    have hhead : IsStyled d [] { d.withHeadChildren (arrange [] [] children) with
        nextId := d.nextId } [] := .head h d.nextId d.nextId (Nat.le_refl _) (Nat.le_refl _)
    rwa [arrange_nil_nil, Document.withHeadChildren_self h] at hhead

/-- A style element has not the identity of a child of the head. -/
theorem id_ne_of_mem (hfresh : d.IsFresh) {children : List Node} {next : NodeId}
    (h : d.headChildren? = some children) (hnext : d.nextId ≤ next) :
    ∀ n ∈ children, ∀ old ∈ elements next buckets, old.id ≠ n.id := by
  intro n hn old hold he
  have hlt := hfresh n.id (Document.idsAll_subset_ids_of_headChildren? h
    (Node.ids_subset_idsAll hn n.id_mem_ids))
  have hle := le_id_of_mem_elements hold
  rw [he] at hle
  exact absurd (Nat.le_trans hnext hle) (Nat.not_le.mpr hlt)

/-- Putting in what is active leads to style elements for it, whatever was put in before. -/
theorem inject (hfresh : d.IsFresh) (h : IsStyled d buckets document injected)
    (active : ActiveSet) :
    IsStyled d active.buckets (inject document injected active).document
      (inject document injected active).injected := by
  cases h with
  | noHead h =>
    rw [Injection.inject, h]
    exact .noHead h
  | @head children h next last hnext hlast =>
    have hnew : ∀ n ∈ arrange [] (elements next buckets) children,
        Document.isHead n = true → n ∈ children := mem_of_isHead_of_mem_arrange
    have hchildren := Document.headChildren?_withHeadChildren h hnew
    -- what is taken out is what was put in, so the new elements go among the children of `d` again
    have hplace : arrange (elements next buckets) (elements last active.buckets)
        (arrange [] (elements next buckets) children) =
          arrange [] (elements last active.buckets) children :=
      arrange_arrange (id_ne_of_mem hfresh h hnext) _
    have hdocument := Document.withHeadChildren_withHeadChildren h hnew
      (arrange [] (elements last active.buckets) children)
    rw [inject_eq (d := { d.withHeadChildren _ with nextId := last }) hchildren, hplace]
    change IsStyled d _ { (d.withHeadChildren _).withHeadChildren _ with nextId := _ } _
    rw [hdocument]
    exact .head h last _ (Nat.le_trans hnext (Nat.le_trans (Nat.le_add_right _ _) hlast))
      (Nat.le_refl _)

/-- Documents with style elements for the same buckets are written alike. -/
theorem toHtml_eq (h : IsStyled d buckets document injected)
    (h' : IsStyled d buckets document' injected') : document.toHtml = document'.toHtml := by
  have hmarkup : document.markup = document'.markup := by
    cases h with
    | noHead h =>
      cases h' with
      | noHead => rfl
      | head h' => exact absurd (h.symm.trans h') (by simp)
    | @head children h next last =>
      cases h' with
      | noHead h' => exact absurd (h'.symm.trans h) (by simp)
      | @head children' h' next' last' =>
        obtain rfl : children = children' := Option.some.inj (h.symm.trans h')
        refine Document.markup_withHeadChildren_congr h fun raw => ?_
        rw [arrange_nil, arrange_nil, Node.markupAll_append, Node.markupAll_append,
          Node.markupAll_append, Node.markupAll_append, markupAll_elements raw next']
  rw [Document.toHtml, Document.toHtml, hmarkup]

/-- What there is to see of the style elements are the buckets, if there is a head. -/
theorem map_shown (h : IsStyled d buckets document injected) :
    injected.map Node.shown =
      if d.head?.isSome then buckets.map fun b => (some b.mediaType, b.css) else [] := by
  cases h with
  | noHead h => rw [if_neg (by simpa [Document.headChildren?] using h), List.map_nil]
  | head h =>
    obtain ⟨head, hhead, -⟩ := Option.map_eq_some_iff.mp h
    rw [if_pos (by rw [hhead]; rfl), map_shown_elements]

/-- Without the style elements the document is what it was. -/
theorem without_injected (hfresh : d.IsFresh) (h : IsStyled d buckets document injected) :
    { document.without (injected.map Node.id) with nextId := d.nextId } = d := by
  cases h with
  | noHead h =>
    have hnone : Node.withoutAll [] d.children = d.children :=
      Node.withoutAll_of_disjoint _ (by simp)
    rw [List.map_nil, Document.without, hnone]
  | @head children h next last hnext =>
    have hgone : ∀ id ∈ d.ids, id ∉ (elements next buckets).map Node.id := by
      intro id hid hmem
      obtain ⟨n, hn, rfl⟩ := List.mem_map.mp hmem
      exact absurd (Nat.le_trans hnext (le_id_of_mem_elements hn)) (Nat.not_le.mpr (hfresh _ hid))
    have hback : Node.withoutAll ((elements next buckets).map Node.id)
        (arrange [] (elements next buckets) children) = children := by
      have hkeep : ∀ part : List Node, (∀ id ∈ Node.idsAll part, id ∈ Node.idsAll children) →
          Node.withoutAll ((elements next buckets).map Node.id) part = part := fun part hpart =>
        Node.withoutAll_of_disjoint part fun id hid =>
          hgone id (Document.idsAll_subset_ids_of_headChildren? h (hpart id hid))
      have hsplit := splitAtLastLink_append children
      rw [arrange_nil, Node.withoutAll_append, Node.withoutAll_append,
        Node.withoutAll_of_mem fun n hn => List.mem_map_of_mem hn,
        hkeep _ fun id hid => by rw [← hsplit, Node.idsAll_append]; simp [hid],
        hkeep _ fun id hid => by rw [← hsplit, Node.idsAll_append]; simp [hid],
        List.append_nil, hsplit]
    have hchildren := Document.withoutAll_withHeadChildren h hgone hback
    cases d
    exact congrArg (Document.mk _ _ · _) hchildren

end IsStyled

end MediaQuery
