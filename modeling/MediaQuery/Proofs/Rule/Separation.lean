import MediaQuery.Proofs.Live.Renumbering
import MediaQuery.Proofs.Run.Loading
import MediaQuery.Proofs.Run.Lockstep

/-!
# Stylesheets and live queries keep apart

The rules of stylesheets and the conditions of live queries stand in one store, and one pass looks
at both. All the same they have nothing to do with each other: to the live queries, taking in a
stylesheet is a pass like any other, and so is the registration of a query to the document and to
the other queries.

Two engines are driven side by side for this. `SameQueries` holds between them where they differ in
the rules of stylesheets, and `Thinned` where the second one lacks some live queries.

* `stylesheets_and_queries_keep_apart` — the law for every state that can be reached, and for runs
-/

namespace MediaQuery

variable {σ : Type}

/-! ## Engines with other stylesheets -/

/-- What is noted about queries depends on what is found about those that there are. -/
theorem Shared.record_congr {s : Shared σ} {found found' : Nat → Bool}
    (h : ∀ i < s.queries.length, found' i = found i) : s.record found' = s.record found := by
  have hqueries : (s.record found').queries = (s.record found).queries := by
    apply List.ext_getElem?
    intro i
    simp only [record, List.getElem?_mapIdx]
    cases hq : s.queries[i]? with
    | none => rfl
    | some q => rw [h i (List.getElem?_eq_some_iff.mp hq).1]
  exact congrArg (fun queries => { s with queries }) hqueries

namespace Engine

/-- Two engines are the same to the live queries: they may differ in their stylesheets, and in what
that makes of their documents. -/
structure SameQueries (e e' : Engine σ) : Prop where
  shared : e'.shared = e.shared
  throttle : e'.throttle = e.throttle
  config : e'.config = e.config
  parsedSheets : e'.parsedSheets = e.parsedSheets
  mode : e'.document.mode = e.document.mode
  isTrue : e.HasTrueQueries
  isTrue' : e'.HasTrueQueries

namespace SameQueries

variable {e e' : Engine σ}

theorem refl (h : e.HasTrueQueries) : SameQueries e e := ⟨rfl, rfl, rfl, rfl, rfl, h, h⟩

theorem record_eq (h : SameQueries e e') :
    e'.shared.record (e'.store.matchesAt e'.width) =
      e.shared.record (e.store.matchesAt e.width) := by
  have hwidth : e'.width = e.width := by rw [width, width, h.shared, h.mode]
  rw [h.shared, hwidth]
  refine Shared.record_congr fun i hi => ?_
  obtain ⟨q, hq⟩ : ∃ q, e.shared.queries[i]? = some q := ⟨_, List.getElem?_eq_getElem hi⟩
  have hmedia : e.shared.medias[i]? = some q.media := by
    rw [Shared.medias, List.getElem?_map, hq, Option.map_some]
  -- what the store of either says about the query is what its text says
  rw [h.isTrue.links.matchesAt_eq i q.media hmedia,
    h.isTrue'.links.matchesAt_eq i q.media (h.shared ▸ hmedia)]

theorem apply (h : SameQueries e e') :
    Effect.Matches SameQueries id e.apply.effect e'.apply.effect := by
  have hrecord := h.record_eq
  refine ⟨⟨?_, ?_, h.config, h.parsedSheets, ?_, h.isTrue.apply, h.isTrue'.apply⟩, ?_, ?_⟩
  · change e'.apply.engine.shared = e.apply.engine.shared
    rw [shared_apply, shared_apply, hrecord]
  · change e'.apply.engine.throttle = e.apply.engine.throttle
    rw [throttle_apply, throttle_apply, h.throttle, h.shared]
  · change ((Step.pass : Step σ).run e').document.mode = ((Step.pass : Step σ).run e).document.mode
    rw [Step.mode_document_run, Step.mode_document_run, h.mode]
  · change e'.apply.failure? = e.apply.failure?
    rw [failure?_apply, failure?_apply, shared_evaluate, shared_evaluate, hrecord]
  · change e'.apply.report.calls = e.apply.report.calls.map id
    rw [calls_apply, calls_apply, hrecord, List.map_id]

/-- The rules of a stylesheet make no difference. -/
theorem storeSheet_left (h : SameQueries e e') (text href : String) (media : Option String) :
    SameQueries (e.storeSheet text href media) e' :=
  { h with isTrue := h.isTrue.step (.store text href media) }

theorem register (h : SameQueries e e') (media : String) :
    SameQueries (e.register media) (e'.register media) := by
  refine ⟨?_, h.throttle, h.config, h.parsedSheets, h.mode, h.isTrue.register media,
    h.isTrue'.register media⟩
  exact congrArg (fun s : Shared σ => { s with queries := s.queries ++ [LiveQuery.ofMedia media] })
    h.shared

theorem lockstep : Lockstep (SameQueries (σ := σ)) (fun _ _ => True) id where
  config := config
  throttle := throttle
  now h := by rw [h.shared]
  parsedSheets := parsedSheets
  storeSheet h text href media :=
    { h with
      isTrue := h.isTrue.step (.store text href media)
      isTrue' := h.isTrue'.step (.store text href media) }
  ask h href :=
    { h with
      parsedSheets := congrArg (· ++ [href]) h.parsedSheets
      isTrue := h.isTrue.step (.ask href)
      isTrue' := h.isTrue'.step (.ask href) }
  takeSignal {e e'} h :=
    { h with
      throttle := by
        change (e'.throttle.signal e'.shared.now).2 = (e.throttle.signal e.shared.now).2
        rw [h.throttle, h.shared]
      isTrue := h.isTrue.step .signal
      isTrue' := h.isTrue'.step .signal }
  pass h _ := h.apply

end SameQueries

end Engine

/-! ## Runs without some stylesheets -/

/-- An operation stands in the place of another one in a run that does not take in some stylesheets:
where it would take one in, it runs a pass. As the head has other children there, the host may edit
it in another way. -/
inductive Operation.WithoutSheet : Operation σ → Operation σ → Prop where
  | parse (text href : String) (media : Option String) :
    WithoutSheet (.parse text href media) .apply
  | edit {op op' : Operation σ} (h : op.keepsDocument = false) (h' : op'.keepsDocument = false) :
    WithoutSheet op op'
  | same (op : Operation σ) : WithoutSheet op op

namespace Engine

/-- Two documents link to the same stylesheets. -/
def LinksAlike (e e' : Engine σ) : Prop :=
  e'.document.stylesheetLinks = e.document.stylesheetLinks ∧
    e'.document.baseHref? = e.document.baseHref?

/-- Wherever two runs load the stylesheets of their documents, these link to the same. -/
def LoadsAlike : List (Operation σ) → List (Operation σ) → Engine σ → Engine σ → Prop
  | op :: ops, op' :: ops', e, e' =>
    ((∃ source, op = .update source) → LinksAlike e e') ∧
      LoadsAlike ops ops' (op.run e).engine (op'.run e').engine
  | _, _, _, _ => True

namespace SameQueries

variable {e e' : Engine σ}

/-- To edit the head is nothing to the live queries. -/
theorem edit (h : SameQueries e e') {op op' : Operation σ} (hop : op.keepsDocument = false)
    (hop' : op'.keepsDocument = false) :
    Effect.Matches SameQueries id (op.run e).effect (op'.run e').effect := by
  have hedit : ∀ {op : Operation σ}, op.keepsDocument = false → ∀ e : Engine σ,
      ∃ action, op = .host action ∧ ∃ document, action.run e = { e with document } := by
    intro op hop e
    cases op with
    | host action =>
      refine ⟨action, rfl, ?_⟩
      cases action with
      | insertInHead position node => exact ⟨_, rfl⟩
      | removeFromHead position => exact ⟨_, rfl⟩
      | _ => exact absurd hop (by simp [Operation.keepsDocument])
    | _ => exact absurd hop (by simp [Operation.keepsDocument])
  obtain ⟨action, rfl, document, hrun⟩ := hedit hop e
  obtain ⟨action', rfl, document', hrun'⟩ := hedit hop' e'
  have hmode := Step.mode_document_run (.host action) e
  have hmode' := Step.mode_document_run (.host action') e'
  refine ⟨?_, rfl, rfl⟩
  change SameQueries (action.run e) (action'.run e')
  refine ⟨?_, ?_, ?_, ?_, ?_, h.isTrue.step (.host action), h.isTrue'.step (.host action')⟩
  · rw [hrun, hrun', h.shared]
  · rw [hrun, hrun', h.throttle]
  · rw [hrun, hrun', h.config]
  · rw [hrun, hrun', h.parsedSheets]
  · exact hmode'.trans (h.mode.trans hmode.symm)

theorem host (h : SameQueries e e') (action : HostAction σ) :
    Effect.Matches SameQueries id ((Operation.host action).run e).effect
      ((Operation.host action).run e').effect := by
  by_cases hkeeps : (Operation.host action).keepsDocument = false
  · exact h.edit hkeeps hkeeps
  have htrue := h.isTrue.step (.host action)
  have htrue' := h.isTrue'.step (.host action)
  refine ⟨?_, rfl, rfl⟩
  cases action with
  | act program =>
    refine ⟨?_, h.throttle, h.config, h.parsedSheets, h.mode, htrue, htrue'⟩
    change (program.run e'.shared).2 = (program.run e.shared).2
    rw [h.shared]
  | configure config => exact ⟨h.shared, rfl, rfl, h.parsedSheets, h.mode, htrue, htrue'⟩
  | replaceClock now =>
    refine ⟨?_, h.throttle, h.config, h.parsedSheets, h.mode, htrue, htrue'⟩
    change { e'.shared with now } = { e.shared with now }
    rw [h.shared]
  | insertInHead position node => exact absurd rfl hkeeps
  | removeFromHead position => exact absurd rfl hkeeps

theorem run (h : SameQueries e e') {op op' : Operation σ} (hop : op.WithoutSheet op')
    (hlinks : (∃ source, op = .update source) → LinksAlike e e') :
    Effect.Matches SameQueries id (op.run e).effect (op'.run e').effect := by
  cases hop with
  | parse text href media =>
    rw [Operation.effect_run_parse]
    exact (h.storeSheet_left text href media).apply
  | edit hop hop' => exact h.edit hop hop'
  | same op =>
    cases op with
    | matchMedia media =>
      rw [Operation.effect_run_matchMedia, Operation.effect_run_matchMedia]
      exact (h.register media).apply
    | host action => exact h.host action
    | _ =>
      have halong := along_of_forall (P := fun _ _ => True) fun _ (_ : Engine σ) => trivial
      exact lockstep.run h (by simp) (by simp) hlinks (halong _ _)

/-- Runs that differ in the stylesheets that they take in are the same to the live queries. -/
theorem runAll {ops ops' : List (Operation σ)}
    (hops : List.Forall₂ Operation.WithoutSheet ops ops') :
    ∀ {e e' : Engine σ}, SameQueries e e' → LoadsAlike ops ops' e e' →
      SameQueries (runAll ops e) (MediaQuery.runAll ops' e') ∧
        reportedCalls ops' e' = reportedCalls ops e := by
  induction hops with
  | nil => exact fun h _ => ⟨h, rfl⟩
  | @cons op op' ops ops' hop _ ih =>
    intro e e' h hloads
    obtain ⟨hengine, -, hcalls⟩ := h.run hop hloads.1
    obtain ⟨hrest, hlater⟩ := ih hengine hloads.2
    have hfirst : (op'.run e').report.calls = (op.run e).report.calls :=
      hcalls.trans (List.map_id _)
    have hlast : reportedCalls ops' (op'.run e').engine = reportedCalls ops (op.run e).engine :=
      hlater
    rw [reportedCalls, reportedCalls, hfirst, hlast]
    exact ⟨hrest, rfl⟩

end SameQueries

/-- Where the host leaves the head alone, documents go on linking to the same stylesheets. -/
theorem loadsAlike_of_keepsDocument {document : Dom.Document} (hfresh : document.IsFresh)
    {ops ops' : List (Operation σ)} (hops : List.Forall₂ Operation.WithoutSheet ops ops') :
    (∀ op ∈ ops, op.keepsDocument = true) → ∀ {e e' : Engine σ}, e.HasStyled document →
      e'.HasStyled document → LoadsAlike ops ops' e e' := by
  induction hops with
  | nil => exact fun _ _ _ _ _ => trivial
  | @cons op op' _ _ hop _ ih =>
    intro hkeeps e e' h h'
    obtain ⟨hfirst, hrest⟩ := List.forall_mem_cons.mp hkeeps
    have hfirst' : op'.keepsDocument = true := by
      cases hop with
      | parse => rfl
      | edit hedit => exact absurd (hfirst.symm.trans hedit) (by simp)
      | same => exact hfirst
    refine ⟨fun _ => ?_, ih hrest (h.run hfresh hfirst) (h'.run hfresh hfirst')⟩
    obtain ⟨buckets, hstyled⟩ := h
    obtain ⟨buckets', hstyled'⟩ := h'
    exact ⟨hstyled'.links_eq.1.trans hstyled.links_eq.1.symm,
      hstyled'.links_eq.2.trans hstyled.links_eq.2.symm⟩

end Engine

/-! ## Engines with fewer queries -/

/-- The action of the host with other numbers for the queries that it names. -/
def HostAction.renumber (number : Nat → Nat) : HostAction σ → HostAction σ
  | act program => act (program.renumber number)
  | action => action

namespace Engine

/-- Style text that is active goes on to be the same when the same rules are added. -/
theorem activeTexts_storeBlocks_congr (blocks : List MediaBlock) {width : Float} :
    ∀ {store store' : RuleStore}, (∀ d ∈ store.descriptors, d.rule < store.size) →
      (∀ d ∈ store'.descriptors, d.rule < store'.size) →
      store'.activeTexts width = store.activeTexts width →
        (storeBlocks store' blocks).2.activeTexts width =
          (storeBlocks store blocks).2.activeTexts width := by
  intro store store' hrule hrule' htexts
  rw [storeBlocks_store, storeBlocks_store]
  induction blocks generalizing store store' with
  | nil => exact htexts
  | cons block rest ih =>
    refine ih (RuleStore.rule_lt_pushRule hrule _ _) (RuleStore.rule_lt_pushRule hrule' _ _) ?_
    rw [RuleStore.activeTexts_pushRule hrule, RuleStore.activeTexts_pushRule hrule', htexts]

/-- A live query adds no style text. -/
theorem activeTexts_register {e : Engine σ} (h : e.HasTrueQueries) (media : String)
    (width : Float) : (e.register media).store.activeTexts width = e.store.activeTexts width := by
  change (e.store.pushRule _ _).2.activeTexts width = _
  rw [RuleStore.activeTexts_pushRule h.links.rule_lt]
  simp [RuleBody.css?]

/-- Two engines are the same but for queries that the second one lacks, to which nobody listens in
the first one. -/
structure Thinned (r : Renumbering) (e e' : Engine σ) : Prop where
  shared : r.Thins e.shared e'.shared
  document : e'.document = e.document
  injected : e'.injected = e.injected
  config : e'.config = e.config
  throttle : e'.throttle = e.throttle
  parsedSheets : e'.parsedSheets = e.parsedSheets
  activeTexts : ∀ width, e'.store.activeTexts width = e.store.activeTexts width
  isTrue : e.HasTrueQueries
  isTrue' : e'.HasTrueQueries

/-- In a step only queries are named that are kept. -/
def NamesKept (keeps : Nat → Bool) (step : Step σ) (e : Engine σ) : Prop :=
  ∀ i ∈ step.names e, keeps i = true

instance (keeps : Nat → Bool) (step : Step σ) (e : Engine σ) : Decidable (NamesKept keeps step e) :=
  inferInstanceAs (Decidable (∀ i ∈ step.names e, keeps i = true))

namespace Thinned

variable {r : Renumbering} {e e' : Engine σ}

theorem width_eq (h : Thinned r e e') : e'.width = e.width := by
  rw [width, width, h.shared.viewport, h.document]

theorem injection_eq (h : Thinned r e e') :
    Injection.inject e'.document e'.injected (e'.store.activeAt e'.width) =
      Injection.inject e.document e.injected (e.store.activeAt e.width) := by
  rw [h.document, h.injected, h.width_eq, RuleStore.activeAt, RuleStore.activeAt, h.activeTexts]

/-- A pass finds the same about a query on both sides. -/
theorem record (h : Thinned r e e') :
    r.Thins (e.shared.record (e.store.matchesAt e.width))
      (e'.shared.record (e'.store.matchesAt e'.width)) := by
  refine h.shared.record fun i hi hkept => ?_
  have hq : e.shared.queries[i]? = some e.shared.queries[i] := List.getElem?_eq_getElem hi
  have hmedia : e.shared.medias[i]? = some e.shared.queries[i].media := by
    rw [Shared.medias, List.getElem?_map, hq, Option.map_some]
  have hmedia' : e'.shared.medias[r.number i]? = some e.shared.queries[i].media := by
    rw [Shared.medias, List.getElem?_map, h.shared.kept hkept, hq]
    rfl
  rw [h.isTrue.links.matchesAt_eq i _ hmedia, h.isTrue'.links.matchesAt_eq _ _ hmedia', h.width_eq]

/-- What a pass does to a document does not depend on the live queries. -/
theorem document_apply (h : Thinned r e e') :
    e'.apply.engine.document = e.apply.engine.document ∧
      e'.apply.engine.injected = e.apply.engine.injected :=
  ⟨congrArg Injection.Result.document h.injection_eq,
    congrArg Injection.Result.injected h.injection_eq⟩

theorem apply (h : Thinned r e e') (hnames : NamesKept r.keeps .pass e) :
    Effect.Matches (Thinned r) (Call.renumber r.number) e.apply.effect e'.apply.effect := by
  have hmoments : r.NamesKept ((Step.pass : Step σ).moments e) := fun m hm i hi =>
    hnames i (List.mem_flatMap.mpr ⟨m, hm, hi⟩)
  obtain ⟨hshared, hfailure, hcalls⟩ :=
    Renumbering.thinsRound_dispatch h.record (Renumbering.namesKept_cons.mp hmoments).2
  obtain ⟨hdocument, hinjected⟩ := h.document_apply
  refine ⟨⟨hshared, hdocument, hinjected, h.config, ?_, h.parsedSheets, h.activeTexts,
    h.isTrue.apply, h.isTrue'.apply⟩, ?_, hcalls⟩
  · change e'.apply.engine.throttle = e.apply.engine.throttle
    rw [throttle_apply, throttle_apply, h.throttle, h.shared.now]
  · change e'.apply.failure? = e.apply.failure?
    rw [failure?_apply, failure?_apply, shared_evaluate, shared_evaluate, hfailure]

theorem storeSheet (h : Thinned r e e') (text href : String) (media : Option String) :
    Thinned r (e.storeSheet text href media) (e'.storeSheet text href media) :=
  { h with
    activeTexts := fun width => activeTexts_storeBlocks_congr _ h.isTrue.links.rule_lt
      h.isTrue'.links.rule_lt (h.activeTexts width)
    isTrue := h.isTrue.step (.store text href media)
    isTrue' := h.isTrue'.step (.store text href media) }

theorem register_kept (h : Thinned r e e') (hkept : r.keeps e.shared.queries.length = true)
    (hnumber : r.number e.shared.queries.length = e'.shared.queries.length) (media : String) :
    Thinned r (e.register media) (e'.register media) :=
  { h with
    shared := h.shared.append_kept hkept hnumber (LiveQuery.ofMedia media)
    activeTexts := fun width => by
      rw [activeTexts_register h.isTrue, activeTexts_register h.isTrue', h.activeTexts]
    isTrue := h.isTrue.register media
    isTrue' := h.isTrue'.register media }

/-- A query that is registered on one side only is one that the other side lacks. -/
theorem register_left (h : Thinned r e e') (hleft : r.keeps e.shared.queries.length = false)
    (media : String) : Thinned r (e.register media) e' :=
  { h with
    shared := h.shared.append_left hleft rfl
    activeTexts := fun width => by rw [activeTexts_register h.isTrue, h.activeTexts]
    isTrue := h.isTrue.register media }

theorem lockstep (r : Renumbering) :
    Lockstep (Thinned (σ := σ) r) (NamesKept r.keeps) (Call.renumber r.number) where
  config := config
  throttle := throttle
  now h := h.shared.now
  parsedSheets := parsedSheets
  storeSheet := storeSheet
  ask h href :=
    { h with
      parsedSheets := congrArg (· ++ [href]) h.parsedSheets
      isTrue := h.isTrue.step (.ask href)
      isTrue' := h.isTrue'.step (.ask href) }
  takeSignal {e e'} h :=
    { h with
      throttle := by
        change (e'.throttle.signal e'.shared.now).2 = (e.throttle.signal e.shared.now).2
        rw [h.throttle, h.shared.now]
      isTrue := h.isTrue.step .signal
      isTrue' := h.isTrue'.step .signal }
  pass := apply

/-- An engine lacks the query that will be registered next. -/
theorem refl (h : e.HasTrueQueries) : Thinned (.leavingOut e.shared.queries.length) e e where
  shared := .leavingOut e.shared
  document := rfl
  injected := rfl
  config := rfl
  throttle := rfl
  parsedSheets := rfl
  activeTexts _ := rfl
  isTrue := h
  isTrue' := h

/-- Before anything is registered there is nothing to leave out. -/
theorem ofDocument (keeps : Nat → Bool) (document : Dom.Document) (viewport : Viewport) (now : Nat)
    (host : σ) : Thinned (.keeping keeps) (ofDocument document viewport now host)
      (ofDocument document viewport now host) where
  shared :=
    { kept := fun _ => by simp [Engine.ofDocument]
      silent := fun _ hq => absurd hq (by simp [Engine.ofDocument])
      numbers := rfl
      viewport := rfl
      now := rfl
      host := rfl }
  document := rfl
  injected := rfl
  config := rfl
  throttle := rfl
  parsedSheets := rfl
  activeTexts _ := rfl
  isTrue := hasTrueQueries_ofDocument document viewport now host
  isTrue' := hasTrueQueries_ofDocument document viewport now host

/-- What the host does, it does on both sides, under the numbers that queries have there. -/
theorem host (h : Thinned r e e') (action : HostAction σ)
    (hnames : NamesKept r.keeps (.host action) e) :
    Thinned r (action.run e) ((action.renumber r.number).run e') := by
  have htrue := h.isTrue.step (.host action)
  have htrue' := h.isTrue'.step (.host (action.renumber r.number))
  cases action with
  | act program =>
    have hshared := (Renumbering.thins_run program h.shared hnames).2
    exact { h with shared := hshared, isTrue := htrue, isTrue' := htrue' }
  | configure config =>
    exact { h with config := rfl, throttle := rfl, isTrue := htrue, isTrue' := htrue' }
  | replaceClock now =>
    obtain ⟨hkept, hsilent, hnumbers, hviewport, -, hhost⟩ := h.shared
    exact { h with
      shared := ⟨hkept, hsilent, hnumbers, hviewport, rfl, hhost⟩
      isTrue := htrue
      isTrue' := htrue' }
  | insertInHead position node =>
    have hdocument := congrArg (·.insertInHead position node) h.document
    exact { h with document := hdocument, isTrue := htrue, isTrue' := htrue' }
  | removeFromHead position =>
    have hdocument := congrArg (·.removeFromHead position) h.document
    exact { h with document := hdocument, isTrue := htrue, isTrue' := htrue' }

end Thinned

end Engine

/-! ## Runs without some queries -/

/-- What stands in the place of an operation in a run that does not register some queries: where it
would register one, under a number that is not kept, it runs a pass. -/
def Operation.withoutQuery (keeps : Nat → Bool) (number : Nat) : Operation σ → Operation σ
  | matchMedia media => if keeps number then matchMedia media else apply
  | host action => host (action.renumber (Renumbering.rank keeps))
  | op => op

/-- A run that does not register the queries whose numbers are not kept. -/
def withoutQueries (keeps : Nat → Bool) : List (Operation σ) → Engine σ → List (Operation σ)
  | [], _ => []
  | op :: ops, e =>
    op.withoutQuery keeps e.shared.queries.length :: withoutQueries keeps ops (op.run e).engine

namespace Engine

namespace Thinned

variable {keeps : Nat → Bool} {e e' : Engine σ}

theorem run (h : Thinned (.keeping keeps) e e') (op : Operation σ)
    (hnames : Along (NamesKept keeps) (op.steps e) e) :
    Effect.Matches (Thinned (.keeping keeps)) (Call.renumber (Renumbering.rank keeps))
      (op.run e).effect ((op.withoutQuery keeps e.shared.queries.length).run e').effect := by
  cases op with
  | matchMedia media =>
    rw [Operation.effect_run_matchMedia, Operation.withoutQuery]
    cases hkept : keeps e.shared.queries.length with
    | true =>
      rw [if_pos rfl, Operation.effect_run_matchMedia]
      exact (h.register_kept hkept h.shared.rank_eq media).apply hnames.2.1
    | false =>
      rw [if_neg Bool.false_ne_true]
      exact (h.register_left hkept media).apply hnames.2.1
  | host action => exact ⟨h.host action hnames.1, rfl, rfl⟩
  | _ =>
    have hlinks := And.intro (congrArg Dom.Document.stylesheetLinks h.document)
      (congrArg Dom.Document.baseHref? h.document)
    exact (lockstep _).run h (by simp) (by simp) (fun _ => hlinks) hnames

/-- Without queries that nobody names, a run goes on as it does with them. -/
theorem runAll (ops : List (Operation σ)) : ∀ {e e' : Engine σ}, Thinned (.keeping keeps) e e' →
    Along (NamesKept keeps) (history ops e) e →
      Thinned (.keeping keeps) (runAll ops e)
        (MediaQuery.runAll (withoutQueries keeps ops e) e') := by
  induction ops with
  | nil => exact fun h _ => h
  | cons op ops ih =>
    intro e e' h hnames
    obtain ⟨hfirst, hrest⟩ := along_append.mp hnames
    rw [← engine_run] at hrest
    exact ih (h.run op hfirst).engine hrest

end Thinned

/-! ## Both sides -/

/-- To the live queries, with all that their listeners reach, and to the throttle, taking in a
stylesheet is a pass. -/
theorem parse_is_a_pass {e : Engine σ} (h : e.HasTrueQueries) (text href : String)
    (media : Option String) :
    (e.parse text href media).engine.shared = e.apply.engine.shared ∧
      (e.parse text href media).report.calls = e.apply.report.calls ∧
      (e.parse text href media).failure? = e.apply.failure? ∧
      (e.parse text href media).engine.throttle = e.apply.engine.throttle := by
  have hmatches := ((SameQueries.refl h).storeSheet_left text href media).apply
  rw [← effect_parse] at hmatches
  obtain ⟨hengine, hfailure, hcalls⟩ := hmatches
  rw [List.map_id] at hcalls
  exact ⟨hengine.shared.symm, hcalls.symm, hfailure.symm, hengine.throttle.symm⟩

/-- To the document the registration of a query is a pass, and to the other queries too, if no
listener that is called in it names the new query. -/
theorem registration_is_a_pass {e : Engine σ} (h : e.HasTrueQueries) (media : String) :
    (e.matchMedia media).engine.document = e.apply.engine.document ∧
      (e.matchMedia media).engine.injected = e.apply.engine.injected ∧
      (NamesKept (· != e.shared.queries.length) .pass (e.register media) →
        (e.matchMedia media).engine.shared.queries.take e.shared.queries.length =
            e.apply.engine.shared.queries ∧
          (e.matchMedia media).engine.shared.viewport = e.apply.engine.shared.viewport ∧
          (e.matchMedia media).engine.shared.now = e.apply.engine.shared.now ∧
          (e.matchMedia media).engine.shared.host = e.apply.engine.shared.host ∧
          (e.matchMedia media).report.calls = e.apply.report.calls ∧
          (e.matchMedia media).failure? = e.apply.failure?) := by
  have hleft : (Renumbering.leavingOut e.shared.queries.length).keeps e.shared.queries.length =
      false := by
    simp [Renumbering.leavingOut]
  have hthinned := (Thinned.refl h).register_left hleft media
  obtain ⟨hdocument, hinjected⟩ := hthinned.document_apply
  rw [engine_matchMedia]
  refine ⟨hdocument.symm, hinjected.symm, fun hnames => ?_⟩
  obtain ⟨hengine, hfailure, hcalls⟩ := hthinned.apply hnames
  have hlength : e.apply.engine.shared.queries.length = e.shared.queries.length := by
    rw [← Shared.length_medias, medias_apply h.settled, Shared.length_medias]
  have hrename : Call.renumber (Renumbering.leavingOut e.shared.queries.length).number = id := rfl
  rw [hrename, List.map_id] at hcalls
  refine ⟨hengine.shared.take_queries hlength, hengine.shared.viewport.symm,
    hengine.shared.now.symm, hengine.shared.host.symm, hcalls.symm, ?_⟩
  exact (congrArg Effect.failure (e.effect_matchMedia media)).trans hfailure.symm

/-- Take any run. In the state at its end, taking in a stylesheet is a pass to the live queries, to
all that their listeners reach, and to the throttle; and the registration of a query is a pass to
the document, and to the other queries if no listener names the new one already while it is being
registered.

So runs that differ in the stylesheets that they take in are the same to the live queries, unless
the host edits the head so that loading the stylesheets of the document finds other links. And if
some queries are not registered, to which nobody listens and which no listener looks at, the
document is the same as with them. -/
theorem stylesheets_and_queries_keep_apart (document : Dom.Document) (viewport : Viewport)
    (now : Nat) (host : σ) (ops : List (Operation σ)) :
    let start := ofDocument document viewport now host
    let e := MediaQuery.runAll ops start
    (∀ text href media,
      (e.parse text href media).engine.shared = e.apply.engine.shared ∧
      (e.parse text href media).report.calls = e.apply.report.calls ∧
      (e.parse text href media).failure? = e.apply.failure? ∧
      (e.parse text href media).engine.throttle = e.apply.engine.throttle) ∧
    (∀ media,
      (e.matchMedia media).engine.document = e.apply.engine.document ∧
      (e.matchMedia media).engine.injected = e.apply.engine.injected ∧
      (NamesKept (· != e.shared.queries.length) .pass (e.register media) →
        (e.matchMedia media).engine.shared.queries.take e.shared.queries.length =
            e.apply.engine.shared.queries ∧
          (e.matchMedia media).engine.shared.viewport = e.apply.engine.shared.viewport ∧
          (e.matchMedia media).engine.shared.now = e.apply.engine.shared.now ∧
          (e.matchMedia media).engine.shared.host = e.apply.engine.shared.host ∧
          (e.matchMedia media).report.calls = e.apply.report.calls ∧
          (e.matchMedia media).failure? = e.apply.failure?)) ∧
    (∀ ops', List.Forall₂ Operation.WithoutSheet ops ops' →
      (document.IsFresh ∧ ∀ op ∈ ops, op.keepsDocument = true) ∨ LoadsAlike ops ops' start start →
        (MediaQuery.runAll ops' start).shared = e.shared ∧
        (MediaQuery.runAll ops' start).throttle = e.throttle ∧
        reportedCalls ops' start = reportedCalls ops start) ∧
    ∀ keeps : Nat → Bool, Along (NamesKept keeps) (history ops start) start →
      (MediaQuery.runAll (withoutQueries keeps ops start) start).document = e.document ∧
      (MediaQuery.runAll (withoutQueries keeps ops start) start).injected = e.injected := by
  intro start e
  have hstart : start.HasTrueQueries := hasTrueQueries_ofDocument document viewport now host
  have he : e.HasTrueQueries := by
    have := hasTrueQueries_runSteps document viewport now host (history ops start)
    rwa [runSteps_history] at this
  refine ⟨parse_is_a_pass he, registration_is_a_pass he, fun ops' hops hloads => ?_,
    fun keeps hnames => ?_⟩
  · have hloads : LoadsAlike ops ops' start start := by
      rcases hloads with ⟨hfresh, hkeeps⟩ | hloads
      · have hstyled : start.HasStyled document := ⟨[], IsStyled.refl document⟩
        exact loadsAlike_of_keepsDocument hfresh hops hkeeps hstyled hstyled
      · exact hloads
    obtain ⟨hsame, hcalls⟩ := (SameQueries.refl hstart).runAll hops hloads
    exact ⟨hsame.shared, hsame.throttle, hcalls⟩
  · have hthinned := (Thinned.ofDocument keeps document viewport now host).runAll ops hnames
    exact ⟨hthinned.document, hthinned.injected⟩

/-- A live query that nobody listens to, and one whose listener fails when the page becomes wide. A
stylesheet is taken in then, and after that the page becomes narrow again. -/
def crossedRun : List (Operation Unit) :=
  [.matchMedia "print", .matchMedia "(min-width: 600px)",
    .host (.act (.addListener 1 (.fail "refused") fun _ => .setWidth 700 .done)),
    .parse "@media (min-width: 600px){a}" "" none, .host (.act (.setWidth 500 .done))]

/-- The same without the stylesheet. -/
def sheetlessRun : List (Operation Unit) :=
  crossedRun.take 3 ++ [.apply, .host (.act (.setWidth 500 .done))]

theorem crossed_run_without_its_sheet_or_its_first_query :
    let start := ofDocument headDocument (.ofWidth 500) 0 ()
    let e := MediaQuery.runAll crossedRun start
    (NamesKept (· != 2) .pass (e.register "screen") ∧
        (e.matchMedia "screen").failure? = e.apply.failure? ∧
        e.apply.failure? = some (.listener "(min-width: 600px)" "refused")) ∧
      (List.Forall₂ Operation.WithoutSheet crossedRun sheetlessRun ∧
        (∀ op ∈ crossedRun, op.keepsDocument = true) ∧
        reportedCalls sheetlessRun start = reportedCalls crossedRun start ∧
        (reportedCalls crossedRun start).length = 1) ∧
      Along (NamesKept (· != 0)) (history crossedRun start) start ∧
        (withoutQueries (· != 0) crossedRun start).length = 5 ∧
        (MediaQuery.runAll (withoutQueries (· != 0) crossedRun start) start).document =
          e.document ∧
        e.injected.map Dom.Node.shown = [(some "all", "a")] := by
  intro start e
  have hsheetless : List.Forall₂ Operation.WithoutSheet crossedRun sheetlessRun :=
    .cons (.same _) (.cons (.same _) (.cons (.same _) (.cons (.parse _ _ _)
      (.cons (.same _) .nil))))
  have hkeeps : ∀ op ∈ crossedRun, op.keepsDocument = true := by decide
  have hnew : NamesKept (· != 2) .pass (e.register "screen") := by decide +kernel
  have hnames : Along (NamesKept (· != 0)) (history crossedRun start) start := by decide +kernel
  obtain ⟨-, hregister, hsheets, hqueries⟩ :=
    stylesheets_and_queries_keep_apart headDocument (.ofWidth 500) 0 () crossedRun
  obtain ⟨-, -, hothers⟩ := hregister "screen"
  have hlength : e.shared.queries.length = 2 := by decide +kernel
  rw [hlength] at hothers
  obtain ⟨-, -, -, -, -, hfails⟩ := hothers hnew
  have hcalls := (hsheets sheetlessRun hsheetless
    (Or.inl ⟨Dom.Construction.isFresh_finish _, hkeeps⟩)).2.2
  have hdocument := (hqueries (· != 0) hnames).1
  exact ⟨⟨hnew, hfails, by decide +kernel⟩, ⟨hsheetless, hkeeps, hcalls, by decide +kernel⟩,
    hnames, rfl, hdocument, by decide +kernel⟩

end Engine

end MediaQuery
