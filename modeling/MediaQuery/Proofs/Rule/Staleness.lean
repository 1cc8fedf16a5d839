import MediaQuery.Dom.Listing
import MediaQuery.Proofs.Rule.Placement
import MediaQuery.Proofs.Run.Step

/-!
# No stale rule persists

The style elements that a pass has made are gone after the next one, however the host has worked on
the head in between, as long as the next pass looks for them where they were put. `Confined` says
that they are nowhere else, and every step keeps it so but one: a document element that stands in
for the head is relieved when a `head` is inserted into it, and style elements that are in it at
that moment stay there for good.

* `no_stale_rule_persists` — the law for every run without that step
* `stale_rule_stays` — what the step does
-/

namespace MediaQuery

open Dom (Document Node NodeId HeadAt Layer fillAll)

variable {σ : Type}

/-! ## Identities around the head -/

namespace Dom

theorem Node.mem_idsAll_iff {nodes : List Node} {id : NodeId} :
    id ∈ idsAll nodes ↔ ∃ n ∈ nodes, id ∈ n.ids := by
  constructor
  · induction nodes with
    | nil => exact fun h => absurd h List.not_mem_nil
    | cons n rest ih =>
      intro h
      rcases List.mem_append.mp h with h | h
      · exact ⟨n, List.mem_cons_self .., h⟩
      · obtain ⟨m, hm, hid⟩ := ih h
        exact ⟨m, List.mem_cons_of_mem _ hm, hid⟩
  · rintro ⟨n, hn, hid⟩
    exact ids_subset_idsAll hn hid

variable {path : List Layer} {children : List Node} {id : NodeId}

/-- The identities of the whole are those around the children and those of the children. -/
theorem mem_idsAll_fillAll_iff : id ∈ Node.idsAll (fillAll path children) ↔
    id ∈ Node.idsAll (fillAll path []) ∨ id ∈ Node.idsAll children := by
  constructor
  · induction path with
    | nil => exact Or.inr
    | cons l path ih =>
      simp only [fillAll_cons, Layer.fill, Node.idsAll_append, Node.idsAll, Node.ids,
        List.mem_append, List.mem_cons]
      rintro (h | (h | h) | h)
      · exact Or.inl (Or.inl h)
      · exact Or.inl (Or.inr (Or.inl (Or.inl h)))
      · rcases ih h with h | h
        · exact Or.inl (Or.inr (Or.inl (Or.inr h)))
        · exact Or.inr h
      · exact Or.inl (Or.inr (Or.inr h))
  · rintro (h | h)
    · exact idsAll_fillAll_nil_subset h
    · exact idsAll_subset_fillAll h

namespace Document

variable {d : Document}

/-- Other children in the head bring in no other identities than their own. -/
theorem ids_withHeadChildren_subset (h : d.headChildren? = some children)
    {children' : List Node} (hid : id ∈ (d.withHeadChildren children').ids) :
    id ∈ d.ids ∨ id ∈ Node.idsAll children' := by
  obtain ⟨path, hat⟩ := exists_headAt h
  rw [ids, children_withHeadChildren hat, mem_idsAll_fillAll_iff] at hid
  refine hid.imp_left fun haround => ?_
  rw [ids, hat.eq_fillAll]
  exact idsAll_fillAll_nil_subset haround

/-- Whether the document element has a head of its own. -/
def hasHead (d : Document) : Bool := d.documentElement?.any fun root => root.children.any isHead

theorem hasHead_of_root {l : Layer} (h : HeadAt d.children [l] children) : d.hasHead = false := by
  cases h with
  | root _ _ hfirst hnone h =>
    rw [hasHead, documentElement?, h, fillAll_cons, Layer.find?_fill hfirst rfl, Option.any_some]
    exact List.any_eq_false.mpr fun n hn => by simp [hnone n hn]

theorem hasHead_of_head {l l' : Layer} (h : HeadAt d.children [l, l'] children) :
    d.hasHead = true := by
  cases h with
  | head _ _ _ hfirst _ hhead h =>
    rw [hasHead, documentElement?, h, fillAll_cons, Layer.find?_fill hfirst rfl, Option.any_some]
    exact List.any_eq_true.mpr ⟨_, List.mem_append_right _ (List.mem_cons_self ..), hhead⟩

/-- Other children stand where those of the head do, if the document element has a head of its own
or gets none. -/
theorem headAt_fillAll {children' : List Node} (hat : HeadAt d.children path children)
    (hnew : ∀ n ∈ children', isHead n = true → n ∈ children ∨ d.hasHead = true) :
    HeadAt (fillAll path children') path children' := by
  cases hhead : d.hasHead with
  | false => exact hat.fillAll fun n hn h => (hnew n hn h).resolve_right (by simp [hhead])
  | true =>
    cases hat with
    | root l _ hfirst hnone h =>
      have hfalse := hasHead_of_root (.root l _ hfirst hnone h)
      exact absurd (hhead.symm.trans hfalse) (by simp)
    | head l l' _ hfirst hfirst' his _ => exact .head l l' children' hfirst hfirst' his rfl

/-- A node that is inserted is among the children, and nothing else is new there. -/
theorem mem_insertIdx_min {n m : Node} {position : Nat} :
    m ∈ children.insertIdx (min position children.length) n ↔ m = n ∨ m ∈ children :=
  List.mem_insertIdx (Nat.min_le_right ..)

theorem insertInHead_of_some (h : d.headChildren? = some children) (position : Nat)
    (node : NodeId → Node) :
    d.insertInHead position node =
      { d.withHeadChildren (children.insertIdx (min position children.length) (node d.nextId)) with
        nextId := Node.unusedId (d.nextId + 1) [node d.nextId] } := by
  rw [insertInHead, h]

theorem removeFromHead_of_some (h : d.headChildren? = some children) (position : Nat) :
    d.removeFromHead position = d.withHeadChildren (children.eraseIdx position) := by
  rw [removeFromHead, h]

theorem isFresh_insertInHead (h : d.IsFresh) (position : Nat) (node : NodeId → Node) :
    (d.insertInHead position node).IsFresh ∧ d.nextId ≤ (d.insertInHead position node).nextId := by
  cases hchildren : d.headChildren? with
  | none =>
    rw [insertInHead, hchildren]
    exact ⟨h, Nat.le_refl _⟩
  | some children =>
    obtain ⟨hle, hlt⟩ := Node.unusedId_bounds (d.nextId + 1) [node d.nextId]
    rw [insertInHead_of_some hchildren]
    refine ⟨fun id hid => ?_, Nat.le_of_succ_le hle⟩
    have hold : id ∈ d.ids → id < Node.unusedId (d.nextId + 1) [node d.nextId] :=
      fun hid => Nat.lt_of_lt_of_le (h id hid) (Nat.le_of_succ_le hle)
    rcases ids_withHeadChildren_subset hchildren hid with hid | hid
    · exact hold hid
    · obtain ⟨m, hm, hid⟩ := Node.mem_idsAll_iff.mp hid
      rcases mem_insertIdx_min.mp hm with rfl | hm
      · exact hlt id (by simpa [Node.idsAll] using hid)
      · exact hold (idsAll_subset_ids_of_headChildren? hchildren (Node.ids_subset_idsAll hm hid))

theorem isFresh_removeFromHead (h : d.IsFresh) (position : Nat) :
    (d.removeFromHead position).IsFresh ∧ (d.removeFromHead position).nextId = d.nextId := by
  cases hchildren : d.headChildren? with
  | none =>
    rw [removeFromHead, hchildren]
    exact ⟨h, rfl⟩
  | some children =>
    rw [removeFromHead_of_some hchildren]
    refine ⟨fun id hid => ?_, rfl⟩
    rcases ids_withHeadChildren_subset hchildren hid with hid | hid
    · exact h id hid
    · obtain ⟨m, hm, hid⟩ := Node.mem_idsAll_iff.mp hid
      exact h id (idsAll_subset_ids_of_headChildren? hchildren
        (Node.ids_subset_idsAll (List.mem_of_mem_eraseIdx hm) hid))

end Document

end Dom

/-! ## Where style elements may be -/

open Injection

/-- Of the style elements that were made, known by their identities, only the last ones, `injected`,
are left in a document, and only among the children of its head. -/
inductive Confined (made : List NodeId) (injected : List Node) (d : Document) : Prop where
  | noHead (h : d.headChildren? = none) (hids : ∀ id ∈ d.ids, id ∉ made)
  | head {path : List Layer} {children : List Node} (hat : HeadAt d.children path children)
    (haround : ∀ id ∈ Node.idsAll (fillAll path []), id ∉ made)
    (hchildren : ∀ n ∈ children, (∀ old ∈ injected, old.id ≠ n.id) → ∀ id ∈ n.ids, id ∉ made)

namespace Confined

variable {made : List NodeId} {injected : List Node} {d : Document}

theorem of_disjoint (h : ∀ id ∈ d.ids, id ∉ made) : Confined made injected d := by
  cases hchildren : d.headChildren? with
  | none => exact .noHead hchildren h
  | some children =>
    obtain ⟨path, hat⟩ := Document.exists_headAt hchildren
    rw [Document.ids, hat.eq_fillAll] at h
    exact .head hat (fun id hid => h id (Dom.idsAll_fillAll_nil_subset hid)) fun n hn _ id hid =>
      h id (Dom.idsAll_subset_fillAll (Node.ids_subset_idsAll hn hid))

/-- Where none of the last style elements is left, none is. -/
theorem disjoint (h : Confined made injected d) (hgone : ∀ old ∈ injected, old.id ∉ d.ids) :
    ∀ id ∈ d.ids, id ∉ made := by
  cases h with
  | noHead _ hids => exact hids
  | @head path children hat haround hchildren =>
    intro id hid
    rw [Document.ids, hat.eq_fillAll, Dom.mem_idsAll_fillAll_iff] at hid
    rcases hid with hid | hid
    · exact haround id hid
    · obtain ⟨n, hn, hid⟩ := Node.mem_idsAll_iff.mp hid
      refine hchildren n hn (fun old hold he => hgone old hold ?_) id hid
      rw [he, Document.ids, hat.eq_fillAll]
      exact Dom.idsAll_subset_fillAll (Node.ids_subset_idsAll hn n.id_mem_ids)

/-- A node may be inserted, unless it brings back a style element of an earlier pass than the last,
or takes over as the head while style elements are in the document. -/
structure Admits (made : List NodeId) (injected : List Node) (d : Document) (n : Node) : Prop where
  /-- It is one of the last style elements itself, or it brings none with it. -/
  bringsNone : (∀ old ∈ injected, old.id ≠ n.id) → ∀ id ∈ n.ids, id ∉ made
  keepsHead : Document.isHead n = true →
    d.hasHead = true ∨ ∀ old ∈ injected, old.id ≠ n.id ∧ old.id ∉ d.ids

theorem insertInHead (h : Confined made injected d) (position : Nat) {node : NodeId → Node}
    (hadmits : Admits made injected d (node d.nextId)) :
    Confined made injected (d.insertInHead position node) := by
  cases h with
  | noHead h hids =>
    rw [Document.insertInHead, h]
    exact .noHead h hids
  | @head path children hat haround hchildren =>
    have hsome := Document.headChildren?_of_headAt hat
    by_cases hkeeps : Document.isHead (node d.nextId) = true → d.hasHead = true
    · have hplace : HeadAt (fillAll path
          (children.insertIdx (min position children.length) (node d.nextId))) path
          (children.insertIdx (min position children.length) (node d.nextId)) := by
        refine Document.headAt_fillAll hat fun m hm hhead => ?_
        rcases Document.mem_insertIdx_min.mp hm with rfl | hm
        · exact Or.inr (hkeeps hhead)
        · exact Or.inl hm
      rw [← Document.children_withHeadChildren hat] at hplace
      rw [Document.insertInHead_of_some hsome]
      refine .head hplace haround fun m hm => ?_
      rcases Document.mem_insertIdx_min.mp hm with rfl | hm
      · exact hadmits.bringsNone
      · exact hchildren m hm
    · -- the node takes over as the head, so no style element may have been left
      rw [Classical.not_imp] at hkeeps
      have hgone := (hadmits.keepsHead hkeeps.1).resolve_left hkeeps.2
      have hnone := disjoint (.head hat haround hchildren) fun old hold => (hgone old hold).2
      rw [Document.insertInHead_of_some hsome]
      refine of_disjoint fun id hid => ?_
      rcases Document.ids_withHeadChildren_subset hsome hid with hid | hid
      · exact hnone id hid
      · obtain ⟨m, hm, hid⟩ := Node.mem_idsAll_iff.mp hid
        rcases Document.mem_insertIdx_min.mp hm with rfl | hm
        · exact hadmits.bringsNone (fun old hold => (hgone old hold).1) id hid
        · exact hnone id (Document.idsAll_subset_ids_of_headChildren? hsome
            (Node.ids_subset_idsAll hm hid))

theorem removeFromHead (h : Confined made injected d) (position : Nat) :
    Confined made injected (d.removeFromHead position) := by
  cases h with
  | noHead h hids =>
    rw [Document.removeFromHead, h]
    exact .noHead h hids
  | @head path children hat haround hchildren =>
    have hplace := Document.headAt_withHeadChildren hat
      fun m (hm : m ∈ children.eraseIdx position) _ => List.mem_of_mem_eraseIdx hm
    rw [Document.removeFromHead_of_some (Document.headChildren?_of_headAt hat)]
    exact .head hplace haround fun m hm => hchildren m (List.mem_of_mem_eraseIdx hm)

end Confined

/-! ## One pass -/

/-- The identities of style elements are those that are passed over for them. -/
theorem Injection.bounds_of_mem_elements {next : Nat} {buckets : List Bucket} {n : Node}
    (h : n ∈ elements next buckets) :
    ∀ id : Nat, id ∈ n.ids → next ≤ id ∧ id < next + 2 * buckets.length := fun _ hid =>
  mem_idsAll_elements_iff.mp (Node.ids_subset_idsAll h hid)

/-- What is true of a document and the style elements that were made for it: identities are given
out once, and the style elements are confined. -/
structure Tidy (made : List NodeId) (injected : List Node) (d : Document) : Prop where
  fresh : d.IsFresh
  made_lt : ∀ id ∈ made, id < d.nextId
  confined : Confined made injected d

namespace Tidy

variable {made : List NodeId} {injected : List Node} {d : Document}

/-- The new style elements have none of the old identities. -/
theorem not_mem_elements (h : ∀ id ∈ made, id < d.nextId) {buckets : List Bucket} {n : Node}
    (hn : n ∈ elements d.nextId buckets) : ∀ id ∈ n.ids, id ∉ made := by
  intro id hid hmade
  exact absurd (h id hmade) (Nat.not_lt.mpr (bounds_of_mem_elements hn id hid).1)

/-- An identity that was given out before is not that of a new style element. -/
theorem not_mem_map_id_elements {buckets : List Bucket} {id : NodeId} (hid : id < d.nextId) :
    id ∉ (elements d.nextId buckets).map Node.id := by
  intro hmem
  obtain ⟨n, hn, rfl⟩ := List.mem_map.mp hmem
  exact absurd hid (Nat.not_lt.mpr (le_id_of_mem_elements hn))

/-- An identity that was given out, and not to a style element. -/
def IsOther (made : List NodeId) (d : Document) (id : NodeId) : Prop := id ∉ made ∧ id < d.nextId

theorem IsOther.not_mem_append {id : NodeId} (h : IsOther made d id) (buckets : List Bucket) :
    id ∉ made ++ (elements d.nextId buckets).map Node.id := fun hid =>
  (List.mem_append.mp hid).elim h.1 (not_mem_map_id_elements h.2)

section

variable {path : List Layer} {children : List Node} (h : Tidy made injected d)
  (hat : HeadAt d.children path children)
include h hat

theorem isOther_around (haround : ∀ id ∈ Node.idsAll (fillAll path []), id ∉ made) :
    ∀ id ∈ Node.idsAll (fillAll path []), IsOther made d id := by
  intro id hid
  refine ⟨haround id hid, h.fresh id ?_⟩
  rw [Document.ids, hat.eq_fillAll]
  exact Dom.idsAll_fillAll_nil_subset hid

theorem isOther_of_mem_remove (hchildren : ∀ n ∈ children, (∀ old ∈ injected, old.id ≠ n.id) →
    ∀ id ∈ n.ids, id ∉ made) : ∀ n ∈ remove injected children, ∀ id ∈ n.ids, IsOther made d id := by
  intro n hn id hid
  obtain ⟨hn, hold⟩ := List.mem_filter.mp hn
  refine ⟨hchildren n hn (by simpa using hold) id hid, h.fresh id ?_⟩
  exact Document.idsAll_subset_ids_of_headChildren? (Document.headChildren?_of_headAt hat)
    (Node.ids_subset_idsAll hn hid)

end

/-- A pass takes out all style elements that were made before it, and confines its own. -/
theorem inject (h : Tidy made injected d) (active : ActiveSet) :
    (∀ id ∈ made, id ∉ (inject d injected active).document.ids) ∧
      Tidy (made ++ (inject d injected active).injected.map Node.id)
        (inject d injected active).injected (inject d injected active).document := by
  cases h.confined with
  | noHead hnone hids =>
    rw [Injection.inject, hnone]
    refine ⟨fun id hid hmem => hids id hmem hid, ?_⟩
    rw [List.map_nil, List.append_nil]
    exact ⟨h.fresh, h.made_lt, .noHead hnone hids⟩
  | @head path children hat haround hchildren =>
    have haround' := h.isOther_around hat haround
    have hstays := h.isOther_of_mem_remove hat hchildren
    have hplace := headAt_arrange hat injected d.nextId active.buckets
    -- what is in the document then stood in it before, and is no style element, or is new
    have hids : ∀ id ∈ Node.idsAll (d.withHeadChildren
        (arrange injected (elements d.nextId active.buckets) children)).children,
        IsOther made d id ∨ ∃ n ∈ elements d.nextId active.buckets, id ∈ n.ids := by
      intro id hid
      rw [hplace.eq_fillAll, Dom.mem_idsAll_fillAll_iff] at hid
      rcases hid with hid | hid
      · exact Or.inl (haround' id hid)
      · obtain ⟨n, hn, hid⟩ := Node.mem_idsAll_iff.mp hid
        rcases mem_arrange.mp hn with hn | hn
        · exact Or.inr ⟨n, hn, hid⟩
        · exact Or.inl (hstays n hn id hid)
    rw [inject_eq (Document.headChildren?_of_headAt hat)]
    refine ⟨fun id hmade hid => ?_, ⟨fun id hid => ?_, fun id hid => ?_,
      .head hplace (fun id hid => (haround' id hid).not_mem_append _)
        fun n hn hkept id hid => ?_⟩⟩
    · rcases hids id hid with hother | ⟨n, hn, hid⟩
      · exact hother.1 hmade
      · exact not_mem_elements h.made_lt hn id hid hmade
    · rcases hids id hid with hother | ⟨n, hn, hid⟩
      · exact Nat.lt_of_lt_of_le hother.2 (Nat.le_add_right ..)
      · exact (bounds_of_mem_elements hn id hid).2
    · rcases List.mem_append.mp hid with hid | hid
      · exact Nat.lt_of_lt_of_le (h.made_lt id hid) (Nat.le_add_right ..)
      · obtain ⟨n, hn, rfl⟩ := List.mem_map.mp hid
        exact (bounds_of_mem_elements hn n.id n.id_mem_ids).2
    · rcases mem_arrange.mp hn with hn | hn
      · exact absurd rfl (hkept n hn)
      · exact (hstays n hn id hid).not_mem_append _

end Tidy

/-! ## Runs -/

/-- The style elements that a step makes, by their identities. -/
def Step.created : Step σ → Engine σ → List NodeId
  | pass, e => e.apply.engine.injected.map Node.id
  | _, _ => []

theorem Step.created_of_ne_pass {step : Step σ} (h : step ≠ .pass) (e : Engine σ) :
    step.created e = [] := by
  cases step with
  | pass => exact absurd rfl h
  | _ => rfl

/-- The style elements that some steps make, by their identities. -/
def created : List (Step σ) → Engine σ → List NodeId
  | [], _ => []
  | step :: rest, e => step.created e ++ created rest (step.run e)

/-- What a step inserts into the document may be inserted. -/
def Step.IsOrderly (made : List NodeId) : Step σ → Engine σ → Prop
  | host (.insertInHead _ node), e =>
    Confined.Admits made e.injected e.document (node e.document.nextId)
  | _, _ => True

/-- Whatever the host inserts may be inserted, where these style elements were made before. -/
def IsOrderly : (made : List NodeId) → List (Step σ) → Engine σ → Prop
  | _, [], _ => True
  | made, step :: rest, e =>
    step.IsOrderly made e ∧ IsOrderly (made ++ step.created e) rest (step.run e)

theorem created_append (before after : List (Step σ)) :
    ∀ e : Engine σ, created (before ++ after) e =
      created before e ++ created after (runSteps before e) := by
  induction before with
  | nil => exact fun _ => rfl
  | cons step before ih =>
    intro e
    rw [List.cons_append, created, ih, created, List.append_assoc]
    rfl

theorem IsOrderly.left {made : List NodeId} {before after : List (Step σ)} {e : Engine σ}
    (h : IsOrderly made (before ++ after) e) : IsOrderly made before e := by
  induction before generalizing made e with
  | nil => trivial
  | cons step before ih => exact ⟨h.1, ih h.2⟩

/-- The document of an engine is tidy. -/
def Engine.IsTidy (made : List NodeId) (e : Engine σ) : Prop := Tidy made e.injected e.document

theorem Engine.isTidy_ofDocument {document : Document} (hfresh : document.IsFresh)
    (viewport : Viewport) (now : Nat) (host : σ) :
    (ofDocument document viewport now host).IsTidy [] where
  fresh := hfresh
  made_lt := fun _ hid => absurd hid List.not_mem_nil
  confined := .of_disjoint fun _ _ => List.not_mem_nil

theorem Engine.IsTidy.step {made : List NodeId} {e : Engine σ} (h : e.IsTidy made)
    {step : Step σ} (horderly : step.IsOrderly made e) :
    (step.run e).IsTidy (made ++ step.created e) := by
  cases step with
  | pass => exact (h.inject _).2
  | host action =>
    rw [Step.created_of_ne_pass (by simp), List.append_nil]
    cases action with
    | insertInHead position node =>
      obtain ⟨hfresh, hle⟩ := Document.isFresh_insertInHead h.fresh position node
      exact ⟨hfresh, fun id hid => Nat.lt_of_lt_of_le (h.made_lt id hid) hle,
        h.confined.insertInHead position horderly⟩
    | removeFromHead position =>
      obtain ⟨hfresh, heq⟩ := Document.isFresh_removeFromHead h.fresh position
      exact ⟨hfresh, fun id hid => Nat.lt_of_lt_of_eq (h.made_lt id hid) heq.symm,
        h.confined.removeFromHead position⟩
    | _ => exact h
  | _ =>
    rw [Step.created_of_ne_pass (by simp), List.append_nil]
    exact h

theorem Engine.IsTidy.runSteps {made : List NodeId} {steps : List (Step σ)} {e : Engine σ}
    (h : e.IsTidy made) (horderly : IsOrderly made steps e) :
    (runSteps steps e).IsTidy (made ++ created steps e) := by
  induction steps generalizing made e with
  | nil => rwa [created, List.append_nil]
  | cons step steps ih =>
    rw [created, ← List.append_assoc]
    exact ih (h.step horderly.1) horderly.2

namespace Engine

/-- Take any run from a document with fresh identities, in which whatever the host inserts may be
inserted: it brings back no style element of an earlier pass than the last, and if it is a `head`
then the document element has one already or no style element is in the document. After every pass
no style element of an earlier pass is anywhere in the document, so that those that are there are
among the last ones. -/
theorem no_stale_rule_persists (document : Document) (hfresh : document.IsFresh)
    (viewport : Viewport) (now : Nat) (host : σ) (ops : List (Operation σ))
    (horderly : IsOrderly [] (history ops (ofDocument document viewport now host))
      (ofDocument document viewport now host)) :
    let start := ofDocument document viewport now host
    ∀ before after, history ops start = before ++ .pass :: after →
      let e := (runSteps before start).apply.engine
      (∀ id ∈ created before start, id ∉ e.document.ids) ∧
        ∀ id ∈ created (before ++ [.pass]) start, id ∈ e.document.ids →
          id ∈ e.injected.map Node.id := by
  intro start before after hsplit e
  rw [hsplit] at horderly
  have htidy := (isTidy_ofDocument hfresh viewport now host).runSteps horderly.left
  rw [List.nil_append] at htidy
  have hgone : ∀ id ∈ created before start, id ∉ e.document.ids :=
    (htidy.inject ((runSteps before start).store.activeAt (runSteps before start).width)).1
  refine ⟨hgone, fun id hid hin => ?_⟩
  rw [created_append] at hid
  rcases List.mem_append.mp hid with hid | hid
  · exact absurd hin (hgone id hid)
  · rw [created, created, List.append_nil] at hid
    exact hid

/-- A document with nothing but a document element. -/
def rootDocument : Document :=
  (Dom.Row.construct [⟨0, .element ⟨"html", .html, []⟩⟩]).finish

/-- A head without children. -/
def emptyHead (id : NodeId) : Node := .element id ⟨"head", .html, []⟩ []

/-- A head is inserted before there are style elements, and a text and another head after. -/
def earlyHeadRun : List (Operation Unit) :=
  [.host (.insertInHead 0 emptyHead), .parse "@media print\x7ba\x7d" "" none,
    .host (.insertInHead 0 fun id => .text id "t"), .host (.insertInHead 2 emptyHead), .apply]

theorem early_head_leaves_nothing_behind :
    IsOrderly [] (history earlyHeadRun (ofDocument rootDocument (.ofWidth 500) 0 ()))
        (ofDocument rootDocument (.ofWidth 500) 0 ()) ∧
      ∃ before, history earlyHeadRun (ofDocument rootDocument (.ofWidth 500) 0 ()) =
          before ++ [.pass] ∧
        (created before (ofDocument rootDocument (.ofWidth 500) 0 ())).length = 1 ∧
        ∀ id ∈ created before (ofDocument rootDocument (.ofWidth 500) 0 ()),
          id ∉ (runSteps before
            (ofDocument rootDocument (.ofWidth 500) 0 ())).apply.engine.document.ids := by
  have horderly : IsOrderly [] (history earlyHeadRun (ofDocument rootDocument (.ofWidth 500) 0 ()))
      (ofDocument rootDocument (.ofWidth 500) 0 ()) :=
    ⟨⟨fun _ _ _ => List.not_mem_nil, fun _ => Or.inr fun _ hold => absurd hold List.not_mem_nil⟩,
      trivial, trivial,
      ⟨fun _ => by decide +kernel, fun hhead => absurd hhead (by decide +kernel)⟩,
      ⟨fun _ => by decide +kernel, fun _ => Or.inl (by decide +kernel)⟩,
      trivial, trivial⟩
  have h := no_stale_rule_persists rootDocument (Dom.Construction.isFresh_finish _) _ _ _
    earlyHeadRun horderly [.host _, .store _ _ _, .pass, .host _, .host _] [] rfl
  exact ⟨horderly, _, rfl, by decide +kernel, h.1⟩

end Engine

/-! ## A head that takes over -/

/-- Once the document element has a head of its own, no step changes what is around the children of
that head. -/
theorem Step.headAt_run {l l' : Layer} {children : List Node} (step : Step σ) {e : Engine σ}
    (hat : HeadAt e.document.children [l, l'] children) :
    ∃ children', HeadAt (step.run e).document.children [l, l'] children' := by
  rcases step.children_document_run e with h | ⟨children', h⟩
  · exact ⟨children, by rwa [h]⟩
  · rw [h, Document.children_withHeadChildren hat]
    cases hat with
    | head _ _ _ hfirst hfirst' hhead => exact ⟨children', .head l l' _ hfirst hfirst' hhead rfl⟩

/-- When a head is inserted into a document element that stood in for it, whatever was there before
comes to be around the children of the new head. -/
theorem Dom.Document.exists_headAt_of_insertInHead {d : Document} {children : List Node}
    (hsome : d.headChildren? = some children) (hnone : d.hasHead = false) (position : Nat)
    {node : NodeId → Node} (hhead : isHead (node d.nextId) = true) :
    ∃ l l', HeadAt (d.insertInHead position node).children [l, l'] (node d.nextId).children ∧
      ∀ n ∈ children, ∀ id ∈ n.ids, id ∉ (node d.nextId).ids →
        id ∈ Node.idsAll (fillAll [l, l'] []) := by
  obtain ⟨path, hat⟩ := exists_headAt hsome
  have hchildren := children_withHeadChildren hat
    (children.insertIdx (min position children.length) (node d.nextId))
  cases hat with
  | head l l' _ hfirst hfirst' his h =>
    have htrue := hasHead_of_head (.head l l' _ hfirst hfirst' his h)
    exact absurd (hnone.symm.trans htrue) (by simp)
  | root l _ hfirst hheads h =>
    -- the node that was inserted is the only head among its siblings
    have hfind : (children.insertIdx (min position children.length) (node d.nextId)).find? isHead =
        some (node d.nextId) := by
      obtain ⟨m, hm⟩ := Option.isSome_iff_exists.mp (List.find?_isSome.mpr
        ⟨node d.nextId, mem_insertIdx_min.mpr (Or.inl rfl), hhead⟩)
      rcases mem_insertIdx_min.mp (List.mem_of_find?_eq_some hm) with rfl | hmem
      · exact hm
      · exact absurd (List.find?_some hm) (by simp [hheads m hmem])
    obtain ⟨l', hfirst', hnode, hinner⟩ :=
      Layer.exists_of_find? (isElement_of_isHead hhead) hfind
    have his : l'.element.is "head" = true := by
      rw [hnode] at hhead
      exact hhead
    refine ⟨l, l', ?_, fun n hn id hid hnew => ?_⟩
    · rw [insertInHead_of_some hsome]
      refine .head l l' _ hfirst hfirst' his ?_
      rw [hchildren, hinner]
      rfl
    · have hmem : id ∈ Node.idsAll (fillAll [l'] (node d.nextId).children) := by
        rw [fillAll_cons, fillAll_nil, ← hinner]
        exact Node.ids_subset_idsAll (mem_insertIdx_min.mpr (Or.inr hn)) hid
      rcases Dom.mem_idsAll_fillAll_iff.mp hmem with haround | hbelow
      · have houter : id ∈ Node.idsAll (fillAll [l] (fillAll [l'] [])) :=
          Dom.idsAll_subset_fillAll haround
        exact houter
      · refine absurd ?_ hnew
        rw [hnode]
        exact List.mem_cons_of_mem _ hbelow

/-- What stands in a document element at the moment when a head is inserted into it stays in the
document for good, style elements too. -/
theorem stale_rule_stays {e : Engine σ} {children : List Node}
    (hsome : e.document.headChildren? = some children) (hnone : e.document.hasHead = false)
    (position : Nat) {node : NodeId → Node}
    (hhead : Document.isHead (node e.document.nextId) = true) (steps : List (Step σ)) :
    ∀ n ∈ children, ∀ id ∈ n.ids, id ∉ (node e.document.nextId).ids →
      id ∈ (runSteps (.host (.insertInHead position node) :: steps) e).document.ids := by
  intro n hn id hid hnew
  obtain ⟨l, l', hat, haround⟩ :=
    Document.exists_headAt_of_insertInHead hsome hnone position hhead
  have hstart : ∃ children', HeadAt ((Step.host (.insertInHead position node)).run
      e).document.children [l, l'] children' := ⟨_, hat⟩
  obtain ⟨children', hat'⟩ := runSteps_invariant
    (P := fun e' => ∃ children', HeadAt e'.document.children [l, l'] children')
    (fun step (_ : step ∈ steps) _ ⟨_, hat'⟩ => step.headAt_run hat') hstart
  rw [runSteps_cons, Document.ids, hat'.eq_fillAll]
  exact Dom.idsAll_fillAll_nil_subset (haround n hn id hid hnew)

namespace Engine

/-- A head is inserted while a style element is in the document element. -/
def lateHeadRun : List (Operation Unit) :=
  [.parse "@media print\x7ba\x7d" "" none, .host (.insertInHead 0 emptyHead), .apply]

theorem style_element_stays_beside_a_late_head :
    rootDocument.IsFresh ∧
      ∃ before, history lateHeadRun (ofDocument rootDocument (.ofWidth 500) 0 ()) =
          before ++ [.pass] ∧
        (∃ id ∈ created before (ofDocument rootDocument (.ofWidth 500) 0 ()),
          id ∈ (runSteps before
            (ofDocument rootDocument (.ofWidth 500) 0 ())).apply.engine.document.ids) ∧
        (runAll lateHeadRun (ofDocument rootDocument (.ofWidth 500) 0 ())).document.toHtml =
          "<html><head><style type=\"text/css\" media=\"print\">a</style></head>" ++
            "<style type=\"text/css\" media=\"print\">a</style></html>" :=
  ⟨Dom.Construction.isFresh_finish _, [.store _ _ _, .pass, .host _], rfl, by decide +kernel,
    by decide +kernel⟩

end Engine

end MediaQuery
