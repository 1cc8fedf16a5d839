import MediaQuery.Dom.Listing
import MediaQuery.Proofs.Rule.Placement
import MediaQuery.Proofs.Run.Step

/-!
# What a document shows does not depend on how it came about

The rules in the store and the width of the last pass decide what stands in the head of a document,
and the document that was there at first decides all else. Passes before the last one, listeners
that fail and resizes that were put off have left no trace.

Rules go to the store only for a pass that follows at once, so that the last pass has seen them all.

* `injection_is_independent_of_history` — the law for any two runs
-/

namespace MediaQuery

variable {σ : Type}

/-! ## What steps leave alone -/

/-- Whether a step leaves the document to the engine. -/
def Step.keepsDocument : Step σ → Bool
  | host action => (Operation.host action).keepsDocument
  | _ => true

/-- Whether a step adds nothing to the store. -/
def Step.keepsRules : Step σ → Bool
  | store .. | register _ => false
  | _ => true

/-- A host that leaves the document to the engine does so in all steps of a run. -/
theorem keepsDocument_of_mem_history {ops : List (Operation σ)} {e : Engine σ} {step : Step σ}
    (hops : ∀ op ∈ ops, op.keepsDocument = true) (h : step ∈ history ops e) :
    step.keepsDocument = true := by
  cases step with
  | host action => exact hops _ (host_mem_of_mem_history h)
  | _ => rfl

/-- Apart from passes, what leaves the document to the engine leaves it as it is. -/
theorem Step.document_run {step : Step σ} (hpass : step ≠ .pass) (h : step.keepsDocument = true)
    (e : Engine σ) : (step.run e).document = e.document ∧ (step.run e).injected = e.injected := by
  cases step with
  | pass => exact absurd rfl hpass
  | host action =>
    cases action with
    | insertInHead position node => exact absurd h Bool.false_ne_true
    | removeFromHead position => exact absurd h Bool.false_ne_true
    | _ => exact ⟨rfl, rfl⟩
  | _ => exact ⟨rfl, rfl⟩

theorem Step.store_run {step : Step σ} (h : step.keepsRules = true) (e : Engine σ) :
    (step.run e).store = e.store := by
  cases step with
  | store text href media => exact absurd h Bool.false_ne_true
  | register media => exact absurd h Bool.false_ne_true
  | host action => cases action <;> rfl
  | _ => rfl

theorem document_runSteps {steps : List (Step σ)} (hpass : .pass ∉ steps)
    (h : ∀ step ∈ steps, step.keepsDocument = true) (e : Engine σ) :
    (runSteps steps e).document = e.document ∧ (runSteps steps e).injected = e.injected := by
  refine runSteps_invariant (P := fun e' => e'.document = e.document ∧ e'.injected = e.injected)
    ?_ ⟨rfl, rfl⟩
  rintro step hstep e' ⟨hd, hi⟩
  obtain ⟨hd', hi'⟩ := Step.document_run (fun he => hpass (he ▸ hstep)) (h step hstep) e'
  exact ⟨hd'.trans hd, hi'.trans hi⟩

theorem store_runSteps {steps : List (Step σ)} (h : ∀ step ∈ steps, step.keepsRules = true)
    (e : Engine σ) : (runSteps steps e).store = e.store := by
  refine runSteps_invariant (P := fun e' => e'.store = e.store) ?_ rfl
  intro step hstep e' he'
  exact (Step.store_run (h step hstep) e').trans he'

/-! ## Rules are stored for a pass -/

/-- Whatever is added to the store, a pass comes after it. -/
def PassFollows : List (Step σ) → Prop
  | [] => True
  | step :: rest => (step.keepsRules = true ∨ .pass ∈ rest) ∧ PassFollows rest

theorem PassFollows.append {steps later : List (Step σ)} (h : PassFollows steps)
    (h' : PassFollows later) : PassFollows (steps ++ later) := by
  induction steps with
  | nil => exact h'
  | cons step rest ih => exact ⟨h.1.imp_right fun h => List.mem_append_left _ h, ih h.2⟩

/-- What comes last holds no additions to the store unless it holds a pass. -/
theorem PassFollows.keepsRules {before after : List (Step σ)} (h : PassFollows (before ++ after))
    (hpass : .pass ∉ after) : ∀ step ∈ after, step.keepsRules = true := by
  induction before with
  | nil =>
    induction after with
    | nil => simp
    | cons step rest ih =>
      obtain ⟨hfirst, hrest⟩ := h
      have hrules := ih (fun hp => hpass (by simp [hp])) hrest
      intro step' hmem
      rcases List.mem_cons.mp hmem with rfl | hmem
      · exact hfirst.resolve_right fun hp => hpass (by simp [hp])
      · exact hrules step' hmem
  | cons step rest ih => exact ih h.2

theorem Engine.passFollows_loadSteps (source : Source) (base : Option String)
    (links : List Dom.StylesheetLink) (asked : List String) (e : Engine σ) :
    PassFollows (loadSteps source base links asked e) :=
  loadSteps_induction trivial (fun _ _ ih => ⟨Or.inl rfl, ih⟩)
    (fun _ _ _ _ ih => ⟨Or.inl rfl, Or.inr (by simp), Or.inl rfl, ih⟩) source base links asked e

theorem Operation.passFollows_steps (op : Operation σ) (e : Engine σ) :
    PassFollows (op.steps e) := by
  cases op with
  | parse => exact ⟨Or.inr (by simp), Or.inl rfl, trivial⟩
  | matchMedia => exact ⟨Or.inr (by simp), Or.inl rfl, trivial⟩
  | apply => exact ⟨Or.inl rfl, trivial⟩
  | onViewportChange =>
    rw [steps]
    split
    · exact ⟨Or.inl rfl, Or.inl rfl, trivial⟩
    · exact ⟨Or.inl rfl, trivial⟩
  | runPending =>
    rw [steps]
    split
    · exact ⟨Or.inl rfl, trivial⟩
    · trivial
  | update source =>
    rw [steps]
    split
    · exact ⟨Or.inl rfl, trivial⟩
    · exact Engine.passFollows_loadSteps source _ _ [] e
  | host action => exact ⟨Or.inl rfl, trivial⟩

theorem passFollows_history (ops : List (Operation σ)) :
    ∀ e : Engine σ, PassFollows (history ops e) := by
  induction ops with
  | nil => intro e; trivial
  | cons op ops ih => intro e; exact (op.passFollows_steps e).append (ih _)

/-! ## The last pass -/

/-- The last pass of a run was at a width. -/
def LastPassAt (width : Float) (ops : List (Operation σ)) (e : Engine σ) : Prop :=
  ∃ before after, history ops e = before ++ .pass :: after ∧ .pass ∉ after ∧
    (runSteps before e).width = width

namespace Engine

variable {document : Dom.Document}

/-- An engine has done nothing else to a document than put style elements into its head. -/
def HasStyled (document : Dom.Document) (e : Engine σ) : Prop :=
  ∃ buckets, IsStyled document buckets e.document e.injected

/-- After a pass the style elements are those for what is active. -/
theorem HasStyled.apply {e : Engine σ} (hfresh : document.IsFresh) (h : e.HasStyled document) :
    IsStyled document (e.store.activeAt e.width).buckets e.apply.engine.document
      e.apply.engine.injected := by
  obtain ⟨buckets, h⟩ := h
  exact h.inject hfresh _

theorem HasStyled.step {e : Engine σ} (hfresh : document.IsFresh) (h : e.HasStyled document)
    {step : Step σ} (hstep : step.keepsDocument = true) : (step.run e).HasStyled document := by
  by_cases hpass : step = .pass
  · subst hpass
    exact ⟨_, h.apply hfresh⟩
  · obtain ⟨hd, hi⟩ := Step.document_run hpass hstep e
    rw [HasStyled, hd, hi]
    exact h

/-- After a run the style elements are those for what the rules in the store make active at the
width of the last pass. -/
theorem isStyled_of_lastPassAt (hfresh : document.IsFresh) {viewport : Viewport} {now : Nat}
    {host : σ} {ops : List (Operation σ)} {width : Float}
    (hkeeps : ∀ op ∈ ops, op.keepsDocument = true)
    (hlast : LastPassAt width ops (ofDocument document viewport now host)) :
    IsStyled document
      ((runAll ops (ofDocument document viewport now host)).store.activeAt width).buckets
      (runAll ops (ofDocument document viewport now host)).document
      (runAll ops (ofDocument document viewport now host)).injected := by
  obtain ⟨before, after, hsplit, hpass, rfl⟩ := hlast
  have hdocument : ∀ step ∈ before ++ .pass :: after, step.keepsDocument = true := by
    intro step hstep
    rw [← hsplit] at hstep
    exact keepsDocument_of_mem_history hkeeps hstep
  have hfollows := passFollows_history ops (ofDocument document viewport now host)
  rw [hsplit, ← List.singleton_append, ← List.append_assoc] at hfollows
  have hstart : (ofDocument document viewport now host).HasStyled document :=
    ⟨[], IsStyled.refl document⟩
  have hbefore : ∀ step ∈ before, step.keepsDocument = true :=
    fun step hstep => hdocument step (by simp [hstep])
  have hstyled := (runSteps_invariant (P := HasStyled document)
    (fun step hstep _ h => h.step hfresh (hbefore step hstep)) hstart).apply hfresh
  -- the steps after the last pass have changed neither the document nor the rules
  obtain ⟨hd, hi⟩ := document_runSteps hpass (fun step hstep => hdocument step (by simp [hstep]))
    (runSteps before (ofDocument document viewport now host)).apply.engine
  have hs := store_runSteps (hfollows.keepsRules hpass)
    (runSteps before (ofDocument document viewport now host)).apply.engine
  rw [← runSteps_history, hsplit, runSteps_append, runSteps_cons]
  change IsStyled document
    ((runSteps after (runSteps before _).apply.engine).store.activeAt _).buckets
    (runSteps after (runSteps before _).apply.engine).document
    (runSteps after (runSteps before _).apply.engine).injected
  rw [hd, hi, hs, store_apply]
  exact hstyled

/-- Take any two runs from one document, with fresh identities as in every document that was
constructed, which the host leaves to the engine, with the same rules in the store at the end and
the last pass at the same width. Whatever else happened in them, both documents are written alike and
show the same style elements: if the document has a head, one for each bucket of what the rules make
active at that width, and else none. Without the style elements the document is the one from the
beginning. -/
theorem injection_is_independent_of_history {σ₁ σ₂ : Type} (document : Dom.Document)
    (hfresh : document.IsFresh) (viewport₁ viewport₂ : Viewport) (now₁ now₂ : Nat) (host₁ : σ₁)
    (host₂ : σ₂) (ops₁ : List (Operation σ₁)) (ops₂ : List (Operation σ₂)) (width : Float)
    (hkeeps₁ : ∀ op ∈ ops₁, op.keepsDocument = true)
    (hkeeps₂ : ∀ op ∈ ops₂, op.keepsDocument = true)
    (hlast₁ : LastPassAt width ops₁ (ofDocument document viewport₁ now₁ host₁))
    (hlast₂ : LastPassAt width ops₂ (ofDocument document viewport₂ now₂ host₂))
    (hstore : (runAll ops₁ (ofDocument document viewport₁ now₁ host₁)).store =
      (runAll ops₂ (ofDocument document viewport₂ now₂ host₂)).store) :
    let e₁ := runAll ops₁ (ofDocument document viewport₁ now₁ host₁)
    let e₂ := runAll ops₂ (ofDocument document viewport₂ now₂ host₂)
    e₁.document.toHtml = e₂.document.toHtml ∧
      e₁.injected.map Dom.Node.shown = e₂.injected.map Dom.Node.shown ∧
      (e₁.injected.map Dom.Node.shown =
        if document.head?.isSome then
          (e₁.store.activeAt width).buckets.map fun b => (some b.mediaType, b.css)
        else []) ∧
      { e₁.document.without (e₁.injected.map Dom.Node.id) with nextId := document.nextId } =
        document := by
  intro e₁ e₂
  have h₁ := isStyled_of_lastPassAt hfresh hkeeps₁ hlast₁
  have h₂ := isStyled_of_lastPassAt hfresh hkeeps₂ hlast₂
  rw [← hstore] at h₂
  exact ⟨h₁.toHtml_eq h₂, h₁.map_shown.trans h₂.map_shown.symm, h₁.map_shown,
    h₁.without_injected hfresh⟩

/-- A document with nothing but a head. -/
def headDocument : Dom.Document :=
  (Dom.Row.construct [⟨0, .element ⟨"html", .html, []⟩⟩, ⟨1, .element ⟨"head", .html, []⟩⟩]).finish

/-- A live query for wide pages, and then a rule for narrow ones. -/
def plainRun : List (Operation Unit) :=
  [.matchMedia "(min-width: 600px)", .parse "@media (max-width: 599px){a}" "" none]

/-- The same, but the page becomes narrow only then, and a listener fails because of that. -/
def troubledRun : List (Operation Unit) :=
  [.matchMedia "(min-width: 600px)",
    .host (.act (.addListener 0 (.fail "refused") fun _ => .setWidth 500 .done)),
    .parse "@media (max-width: 599px){a}" "" none]

theorem injection_after_a_failed_pass :
    LastPassAt 500 plainRun (ofDocument headDocument (.ofWidth 500) 0 ()) ∧
      LastPassAt 500 troubledRun (ofDocument headDocument (.ofWidth 900) 0 ()) ∧
      (runAll plainRun (ofDocument headDocument (.ofWidth 500) 0 ())).store =
        (runAll troubledRun (ofDocument headDocument (.ofWidth 900) 0 ())).store ∧
      (runAll plainRun (ofDocument headDocument (.ofWidth 500) 0 ())).document.toHtml =
        (runAll troubledRun (ofDocument headDocument (.ofWidth 900) 0 ())).document.toHtml ∧
      (runAll plainRun (ofDocument headDocument (.ofWidth 500) 0 ())).injected.map Dom.Node.shown =
        [(some "all", "a")] := by
  have hplain : LastPassAt 500 plainRun (ofDocument headDocument (.ofWidth 500) 0 ()) :=
    ⟨[.register _, .pass, .store _ _ _], [], rfl, List.not_mem_nil, by decide +kernel⟩
  have htroubled : LastPassAt 500 troubledRun (ofDocument headDocument (.ofWidth 900) 0 ()) :=
    ⟨[.register _, .pass, .host _, .store _ _ _], [], rfl, List.not_mem_nil, by decide +kernel⟩
  have hstore : (runAll plainRun (ofDocument headDocument (.ofWidth 500) 0 ())).store =
      (runAll troubledRun (ofDocument headDocument (.ofWidth 900) 0 ())).store := by
    simp only [plainRun, troubledRun, runAll_cons, runAll_nil, Operation.run, Outcome.engine_map,
      engine_parse, engine_matchMedia, store_apply, storeSheet, register, HostAction.run,
      Outcome.pure, ofDocument]
  have h := injection_is_independent_of_history headDocument (Dom.Construction.isFresh_finish _)
    _ _ _ _ _ _ plainRun troubledRun 500 (by decide) (by decide) hplain htroubled hstore
  exact ⟨hplain, htroubled, hstore, h.1, by decide +kernel⟩

/-- In a document without any element there is no head that what is active could go to. -/
theorem nothing_is_injected_without_a_head :
    Dom.Document.IsFresh .empty ∧
      LastPassAt 500 [.parse "@media print{a}" "" none] (ofDocument .empty (.ofWidth 500) 0 ()) ∧
      (runAll [.parse "@media print{a}" "" none]
          (ofDocument .empty (.ofWidth 500) 0 ())).injected.map Dom.Node.shown ≠
        ((runAll [.parse "@media print{a}" "" none]
          (ofDocument .empty (.ofWidth 500) 0 ())).store.activeAt 500).buckets.map
            fun b => (some b.mediaType, b.css) :=
  ⟨fun _ hid => absurd hid List.not_mem_nil,
    ⟨[.store _ _ _], [], rfl, List.not_mem_nil, by decide +kernel⟩, by decide +kernel⟩

end Engine

end MediaQuery
