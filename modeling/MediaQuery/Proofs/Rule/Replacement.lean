import Mathlib.Data.List.Forall2
import MediaQuery.Proofs.Rule.Staleness

/-!
# Style elements in the place of others

Putting style elements into a document looks at the children of its head only. The previous ones
among them are taken out, wherever the host has moved them and however many are left; the others
keep their order, and the new ones come to stand in one run, behind the last link.

New style elements are told from all other nodes by identities that were not given out before
(`IsGivenOut`). Every step of a run sees to that, whatever the host does to the head.

* `style_elements_are_replaced` — what becomes of the document
-/

namespace MediaQuery

open Dom (Document Node NodeId HeadAt Layer fillAll)

variable {σ : Type}

/-! ## Nodes that occur once -/

namespace Dom

/-- The nodes of the whole are those around the children and those of the children. -/
theorem idsAll_fillAll_perm (path : List Layer) (children : List Node) :
    (Node.idsAll (fillAll path children)).Perm
      (Node.idsAll (fillAll path []) ++ Node.idsAll children) := by
  induction path with
  | nil => exact .refl _
  | cons l path ih =>
    rw [List.perm_iff_count] at ih ⊢
    intro id
    have hcount := ih id
    simp only [fillAll_cons, Layer.fill, Node.idsAll_append, Node.idsAll, Node.ids,
      List.count_append, List.count_cons] at hcount ⊢
    omega

theorem Node.idsAll_sublist {part nodes : List Node} (h : part.Sublist nodes) :
    (idsAll part).Sublist (idsAll nodes) := by
  induction h with
  | slnil => exact .refl _
  | cons n _ ih => exact ih.trans (List.sublist_append_right ..)
  | cons_cons n _ ih => exact (List.Sublist.refl _).append ih

end Dom

namespace Injection

variable {d : Document} {previous children : List Node} {buckets : List Bucket} {next : NodeId}

/-! ## The place -/

/-- A place in a list of nodes is behind its last link, or at its end if it has none. -/
inductive IsBehindLastLink (before after : List Node) : Prop where
  | link (earlier : List Node) (link : Node) (hlink : link.isTagged "link" = true)
    (hbefore : before = earlier ++ [link]) (hafter : ∀ n ∈ after, n.isTagged "link" = false)
  | noLink (hbefore : ∀ n ∈ before, n.isTagged "link" = false) (hafter : after = [])

theorem splitAtLastLink_of_link {link : Node} {after : List Node}
    (hlink : link.isTagged "link" = true) (hafter : ∀ n ∈ after, n.isTagged "link" = false)
    (earlier : List Node) :
    splitAtLastLink (earlier ++ link :: after) = (earlier ++ [link], after) := by
  have hnone : after.reverse.findIdx? (·.isTagged "link") = none := by
    simpa [List.findIdx?_eq_none_iff] using hafter
  have hfind : (earlier ++ link :: after).reverse.findIdx? (·.isTagged "link") =
      some after.length := by
    simp [List.findIdx?_append, hnone, List.findIdx?_cons, hlink]
  have hparts : earlier ++ link :: after = earlier ++ [link] ++ after := by simp
  have hlength : (earlier ++ link :: after).length - after.length = (earlier ++ [link]).length := by
    simp only [List.length_append, List.length_cons, List.length_nil]
    omega
  rw [splitAtLastLink, hfind]
  simp only
  rw [hlength, hparts, List.splitAt_eq, List.take_left, List.drop_left]

theorem isBehindLastLink_splitAtLastLink (children : List Node) :
    IsBehindLastLink (splitAtLastLink children).1 (splitAtLastLink children).2 := by
  cases hfind : children.reverse.find? (·.isTagged "link") with
  | none =>
    have hnone : ∀ n ∈ children, n.isTagged "link" = false := by
      simpa [List.find?_eq_none] using hfind
    have hindex : children.reverse.findIdx? (·.isTagged "link") = none := by
      simpa [List.findIdx?_eq_none_iff] using hnone
    rw [splitAtLastLink, hindex]
    exact .noLink hnone rfl
  | some link =>
    obtain ⟨hlink, behind, before, hreverse, hbehind⟩ := List.find?_eq_some_iff_append.mp hfind
    have hchildren : children = before.reverse ++ link :: behind.reverse := by
      rw [← List.reverse_reverse children, hreverse]
      simp
    have hafter : ∀ n ∈ behind.reverse, n.isTagged "link" = false := by simpa using hbehind
    rw [hchildren, splitAtLastLink_of_link hlink hafter]
    exact .link _ _ hlink rfl hafter

/-! ## The style elements -/

/-- A node is a style element for a bucket: for its media type, with its fragments as the lines of
the one text in it. -/
def IsStyleFor (n : Node) (b : Bucket) : Prop :=
  ∃ id textId, n = .element id ⟨"style", .html, [⟨"type", "text/css"⟩, ⟨"media", b.mediaType⟩]⟩
    [.text textId ("\n".intercalate b.fragments)]

theorem forall₂_elements (next : NodeId) (buckets : List Bucket) :
    List.Forall₂ IsStyleFor (elements next buckets) buckets := by
  induction buckets generalizing next with
  | nil => exact .nil
  | cons b rest ih => exact .cons ⟨next, next + 1, rfl⟩ (ih (next + 2))

/-- In the head with its new children there are the new style elements and what has stayed. -/
theorem idsAll_arrange_perm (previous styles children : List Node) :
    (Node.idsAll (arrange previous styles children)).Perm
      (Node.idsAll (remove previous children) ++ Node.idsAll styles) := by
  have hsplit := congrArg Node.idsAll (splitAtLastLink_append (remove previous children))
  rw [Node.idsAll_append] at hsplit
  rw [arrange_eq, arrange_nil, ← hsplit, Node.idsAll_append, Node.idsAll_append, List.append_assoc,
    List.append_assoc]
  exact List.Perm.append_left _ List.perm_append_comm

/-- Where no node occurs twice, none does when style elements have been put in. -/
theorem nodup_ids_inject (hfresh : d.IsFresh) (hids : d.ids.Nodup)
    (h : d.headChildren? = some children) (previous : List Node) (active : ActiveSet) :
    (inject d previous active).document.ids.Nodup := by
  obtain ⟨path, hat⟩ := Document.exists_headAt h
  have hall := Dom.idsAll_fillAll_perm path children
  rw [← hat.eq_fillAll] at hall
  have hstays : (Node.idsAll (fillAll path []) ++ Node.idsAll (remove previous children)).Sublist
      (Node.idsAll (fillAll path []) ++ Node.idsAll children) :=
    (List.Sublist.refl _).append (Node.idsAll_sublist List.filter_sublist)
  have hnew : (Node.idsAll (elements d.nextId active.buckets)).Nodup := by
    rw [idsAll_elements]
    exact List.nodup_range'
  have hapart : ∀ id ∈ Node.idsAll (fillAll path []) ++ Node.idsAll (remove previous children),
      ∀ id' ∈ Node.idsAll (elements d.nextId active.buckets), id ≠ id' := by
    rintro id hid _ hid' rfl
    have hlt := hfresh id (hall.mem_iff.mpr (hstays.subset hid))
    exact Nat.not_le.mpr hlt (mem_idsAll_elements_iff.mp hid').1
  have hperm : (inject d previous active).document.ids.Perm
      (Node.idsAll (fillAll path []) ++ Node.idsAll (remove previous children) ++
        Node.idsAll (elements d.nextId active.buckets)) := by
    rw [inject_eq h, List.append_assoc]
    change (Node.idsAll (d.withHeadChildren _).children).Perm _
    rw [Document.children_withHeadChildren hat]
    exact (Dom.idsAll_fillAll_perm ..).trans (.append_left _ (idsAll_arrange_perm ..))
  rw [hperm.nodup_iff]
  exact List.nodup_append.mpr ⟨hstays.nodup (hall.nodup_iff.mp hids), hnew, hapart⟩

/-! ## Identities that were given out -/

/-- The nodes of a document, and of some style elements that were put into it, have identities that
the document has given out. -/
structure IsGivenOut (d : Document) (injected : List Node) : Prop where
  fresh : d.IsFresh
  injected : ∀ id ∈ Node.idsAll injected, id < d.nextId

namespace IsGivenOut

theorem inject (h : IsGivenOut d previous) (active : ActiveSet) :
    IsGivenOut (inject d previous active).document (inject d previous active).injected := by
  cases hsome : d.headChildren? with
  | none =>
    rw [Injection.inject, hsome]
    exact ⟨h.fresh, fun id hid => absurd hid List.not_mem_nil⟩
  | some children =>
    have hnew : ∀ id ∈ Node.idsAll (elements d.nextId active.buckets),
        id < d.nextId + 2 * active.buckets.length := fun id hid =>
      (mem_idsAll_elements_iff.mp hid).2
    have hold : ∀ id ∈ d.ids, id < d.nextId + 2 * active.buckets.length := fun id hid =>
      Nat.lt_of_lt_of_le (h.fresh id hid) (Nat.le_add_right ..)
    rw [inject_eq hsome]
    refine ⟨fun id hid => ?_, hnew⟩
    rcases Document.ids_withHeadChildren_subset hsome hid with hid | hid
    · exact hold id hid
    · rw [(idsAll_arrange_perm ..).mem_iff, List.mem_append] at hid
      rcases hid with hid | hid
      · exact hold id (Document.idsAll_subset_ids_of_headChildren? hsome
          ((Node.idsAll_sublist List.filter_sublist).subset hid))
      · exact hnew id hid

theorem step {e : Engine σ} (h : IsGivenOut e.document e.injected) (step : Step σ) :
    IsGivenOut (step.run e).document (step.run e).injected := by
  cases step with
  | pass => exact h.inject _
  | host action =>
    cases action with
    | insertInHead position node =>
      obtain ⟨hfresh, hle⟩ := Document.isFresh_insertInHead h.fresh position node
      exact ⟨hfresh, fun id hid => Nat.lt_of_lt_of_le (h.injected id hid) hle⟩
    | removeFromHead position =>
      obtain ⟨hfresh, heq⟩ := Document.isFresh_removeFromHead h.fresh position
      exact ⟨hfresh, fun id hid => Nat.lt_of_lt_of_eq (h.injected id hid) heq.symm⟩
    | _ => exact h
  | _ => exact h

/-- Whatever has been done with an engine and with the head of its document, the identities in use
have been given out. -/
theorem runSteps {document : Document} (hfresh : document.IsFresh) (viewport : Viewport)
    (now : Nat) (host : σ) (steps : List (Step σ)) :
    IsGivenOut (runSteps steps (Engine.ofDocument document viewport now host)).document
      (runSteps steps (Engine.ofDocument document viewport now host)).injected :=
  runSteps_invariant (P := fun e => IsGivenOut e.document e.injected)
    (fun step _ _ h => h.step step) ⟨hfresh, fun _ hid => absurd hid List.not_mem_nil⟩

end IsGivenOut

/-! ## The document -/

/-- The head is where it was, and its children are what has stayed, with the new style elements
behind the last link. -/
theorem headAt_inject {path : List Layer} (hat : HeadAt d.children path children)
    (previous : List Node) (active : ActiveSet) :
    HeadAt (inject d previous active).document.children path
      ((splitAtLastLink (remove previous children)).1 ++ (inject d previous active).injected ++
        (splitAtLastLink (remove previous children)).2) := by
  rw [inject_eq (Document.headChildren?_of_headAt hat), ← arrange_nil, ← arrange_eq]
  exact headAt_arrange hat previous ..

/-- Without the previous style elements in its head, the document is one that style elements have
been put into, and nothing else. -/
theorem exists_isStyled (hfresh : d.IsFresh) (previous : List Node) (active : ActiveSet) :
    ∃ bare : Document, bare.IsFresh ∧ IsStyled bare active.buckets
      (inject d previous active).document (inject d previous active).injected := by
  cases hsome : d.headChildren? with
  | none =>
    rw [inject, hsome]
    exact ⟨d, hfresh, .noHead hsome⟩
  | some children =>
    have hold : ∀ n ∈ remove previous children, Document.isHead n = true → n ∈ children :=
      fun n hn _ => (List.mem_filter.mp hn).1
    have hbare : (d.withHeadChildren (remove previous children)).IsFresh := by
      intro id hid
      refine hfresh id ?_
      rcases Document.ids_withHeadChildren_subset hsome hid with hid | hid
      · exact hid
      · exact Document.idsAll_subset_ids_of_headChildren? hsome
          ((Node.idsAll_sublist List.filter_sublist).subset hid)
    have hagain := Document.withHeadChildren_withHeadChildren hsome hold
      (arrange [] (elements d.nextId active.buckets) (remove previous children))
    refine ⟨d.withHeadChildren (remove previous children), hbare, ?_⟩
    rw [inject_eq hsome, arrange_eq, ← hagain]
    exact .head (Document.headChildren?_withHeadChildren hsome hold) d.nextId _ (Nat.le_refl _)
      (Nat.le_refl _)

/-- Take any document in which no node occurs twice, any style elements that were put into it
before, wherever they are now, and any style text to be put in. Of the children of the head those
that are not previous style elements stay, in their order, and behind the last link among them, or
behind all if there is none, stands one style element for each bucket, in the order of the buckets.
These are the ones that are known from now on; their nodes are new, so that no node occurs twice
again. The head is where it was, and nothing around its children has changed. -/
theorem style_elements_are_replaced (d : Document) (previous children : List Node)
    (active : ActiveSet) (hids : d.ids.Nodup) (hgiven : IsGivenOut d previous)
    (hhead : d.headChildren? = some children) :
    let result := inject d previous active
    ∃ path before after,
      (HeadAt d.children path children ∧
        HeadAt result.document.children path (before ++ result.injected ++ after) ∧
        result.document.headChildren? = some (before ++ result.injected ++ after) ∧
        result.document.doctype = d.doctype ∧ result.document.mode = d.mode) ∧
      before ++ after = children.filter (fun n => decide (n.id ∉ previous.map Node.id)) ∧
      IsBehindLastLink before after ∧
      List.Forall₂ IsStyleFor result.injected active.buckets ∧
      (∀ id ∈ Node.idsAll result.injected, id ∉ d.ids ∧ id ∉ Node.idsAll previous) ∧
      result.document.ids.Nodup := by
  intro result
  obtain ⟨path, hat⟩ := Document.exists_headAt hhead
  have hnew : result.injected = elements d.nextId active.buckets := by
    simp only [result, inject_eq hhead]
  have hplace := headAt_inject hat previous active
  have hstays : remove previous children =
      children.filter fun n => decide (n.id ∉ previous.map Node.id) := by
    refine List.filter_congr fun n _ => ?_
    rw [Bool.eq_iff_iff]
    simp
  refine ⟨path, _, _, ⟨hat, hplace, Document.headChildren?_of_headAt hplace, ?_⟩,
    (splitAtLastLink_append _).trans hstays, isBehindLastLink_splitAtLastLink _, ?_, ?_,
    nodup_ids_inject hgiven.fresh hids hhead previous active⟩
  · simp only [result, inject_eq hhead]
    exact ⟨rfl, rfl⟩
  · rw [hnew]
    exact forall₂_elements ..
  · intro id hid
    rw [hnew] at hid
    have hle := (mem_idsAll_elements_iff.mp hid).1
    exact ⟨fun hmem => Nat.not_le.mpr (hgiven.fresh id hmem) hle,
      fun hmem => Nat.not_le.mpr (hgiven.injected id hmem) hle⟩

/-- A page on which the host has moved a style element before a link, and removed another. -/
def movedStyleDocument : Document where
  doctype := none
  mode := .noQuirks
  children := [.element 0 ⟨"html", .html, []⟩ [.element 1 ⟨"head", .html, []⟩
    [Node.style 4 5 "print" "a", .element 2 ⟨"link", .html, []⟩ [],
      .element 3 ⟨"title", .html, []⟩ []]]]
  nextId := 8

/-- The style elements that were put into the page. -/
def movedStyles : List Node := [Node.style 4 5 "print" "a", Node.style 6 7 "screen" "b"]

/-- Style text in two fragments. -/
def screenText : ActiveSet := ⟨[⟨"screen", ["b", "c"]⟩]⟩

theorem moved_style_is_replaced_behind_the_link :
    (movedStyleDocument.ids.Nodup ∧ IsGivenOut movedStyleDocument movedStyles ∧
      movedStyleDocument.headChildren?.isSome) ∧
      (∃ path before after,
        HeadAt (inject movedStyleDocument movedStyles screenText).document.children path
            (before ++ (inject movedStyleDocument movedStyles screenText).injected ++ after) ∧
          before ++ after =
            [.element 2 ⟨"link", .html, []⟩ [], .element 3 ⟨"title", .html, []⟩ []] ∧
          IsBehindLastLink before after) ∧
      (inject movedStyleDocument movedStyles screenText).document.toHtml =
        "<html><head><link><style type=\"text/css\" media=\"screen\">b\nc</style>" ++
          "<title></title></head></html>" := by
  have hids : movedStyleDocument.ids.Nodup := by decide +kernel
  have hgiven : IsGivenOut movedStyleDocument movedStyles :=
    ⟨by unfold Document.IsFresh; decide +kernel, by decide +kernel⟩
  obtain ⟨path, before, after, ⟨-, hplace, -⟩, hstay, hbehind, -⟩ :=
    style_elements_are_replaced movedStyleDocument movedStyles _ screenText hids hgiven rfl
  exact ⟨⟨hids, hgiven, rfl⟩, ⟨path, before, after, hplace, hstay, hbehind⟩, by decide +kernel⟩

end Injection

end MediaQuery
