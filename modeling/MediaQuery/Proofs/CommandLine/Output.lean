import MediaQuery.CommandLine.Run
import MediaQuery.Proofs.Rule.Provenance
import MediaQuery.Proofs.Rule.Separation

/-!
# What a call writes

Nobody listens to the queries of a call, and nothing in it changes the viewport. So its passes do
not fail, however many there are, and all are at one width; and what they leave in the document is
what the rules in the store make active at that width, even if no pass was run at all. The queries
that a call reports on add no style text, and what they tell is decided by their own texts.

* `call_writes_what_is_active` — output, report and exit code of every call
-/

namespace MediaQuery

open Dom (Document StylesheetLink)

variable {σ : Type}

/-! ## Engines that nobody listens to -/

theorem Shared.IsSilent.pardoned_eq {s : Shared σ} (h : s.IsSilent) : s.pardoned = s := by
  have hqueries : s.queries.map LiveQuery.pardoned = s.queries := by
    refine (List.map_congr_left fun q hq => ?_).trans (List.map_id _)
    rw [LiveQuery.pardoned, h q hq]
    have hnone := h q hq
    cases q
    simp_all
  rw [pardoned, hqueries]

namespace Engine

/-- Nobody listens to the queries of an engine, and conditions are tested at a width. -/
structure IsUnattended (width : Float) (e : Engine σ) : Prop where
  silent : e.shared.IsSilent
  width_eq : e.width = width

end Engine

/-- An operation is not the host's, or is one in which the host only chooses settings. -/
def Operation.LetsBe (op : Operation σ) : Prop :=
  ∀ action, op = .host action → ∃ config, action = .configure config

namespace Engine.IsUnattended

variable {e : Engine σ} {w : Float}

theorem register (h : e.IsUnattended w) (media : String) : (e.register media).IsUnattended w :=
  ⟨isSilent_register h.silent media, h.width_eq⟩

theorem apply (h : e.IsUnattended w) : e.apply.engine.IsUnattended w := by
  obtain ⟨-, hsilent, hviewport⟩ := (h.silent.record (e.store.matchesAt e.width)).settleAll
    (List.range (e.shared.record (e.store.matchesAt e.width)).queries.length)
  have hwidth : e.apply.engine.width = e.width :=
    width_congr hviewport (Step.pass.mode_document_run e)
  exact ⟨hsilent, hwidth.trans h.width_eq⟩

theorem step (h : e.IsUnattended w) {step : Step σ}
    (hhost : ∀ action, step = .host action → ∃ config, action = .configure config) :
    (step.run e).IsUnattended w := by
  cases step with
  | register media => exact h.register media
  | pass => exact h.apply
  | host action =>
    obtain ⟨config, rfl⟩ := hhost action rfl
    exact ⟨h.silent, h.width_eq⟩
  | _ => exact ⟨h.silent, h.width_eq⟩

/-- Some of the steps of a run leave an engine unattended, if the host lets it be. -/
theorem runSteps {ops : List (Operation σ)} (hops : ∀ op ∈ ops, op.LetsBe) (start : Engine σ)
    {steps : List (Step σ)} (hsteps : ∀ step ∈ steps, step ∈ history ops start)
    (h : e.IsUnattended w) : (runSteps steps e).IsUnattended w := by
  refine runSteps_invariant (P := IsUnattended w) (fun step hstep _ h => h.step ?_) h
  rintro action rfl
  exact hops _ (host_mem_of_mem_history (hsteps _ hstep)) action rfl

theorem runAll {ops : List (Operation σ)} (hops : ∀ op ∈ ops, op.LetsBe) (h : e.IsUnattended w) :
    (runAll ops e).IsUnattended w := by
  rw [← runSteps_history]
  exact h.runSteps hops e fun _ => id

/-- Where nobody listens, no operation fails. -/
theorem result_run (h : e.IsUnattended w) (op : Operation σ) : (op.run e).result = .ok () := by
  have hpardoned : e.pardoned = e := by rw [pardoned, h.silent.pardoned_eq]
  have hok := result_run_pardoned op e
  rwa [hpardoned] at hok

end Engine.IsUnattended

theorem Operation.LetsBe.keepsDocument {op : Operation σ} (h : op.LetsBe) :
    op.keepsDocument = true := by
  cases op with
  | host action =>
    obtain ⟨config, rfl⟩ := h action rfl
    rfl
  | _ => rfl

namespace Engine

variable {document : Document} {w : Float}

/-- However many passes were run, and if none was, the document shows what the rules in the store
make active. -/
theorem isStyled_runAll (hfresh : document.IsFresh) {viewport : Viewport} {now : Nat} {host : σ}
    {ops : List (Operation σ)} (hops : ∀ op ∈ ops, op.LetsBe)
    (h : (ofDocument document viewport now host).IsUnattended w) :
    IsStyled document
      ((runAll ops (ofDocument document viewport now host)).store.activeAt w).buckets
      (runAll ops (ofDocument document viewport now host)).document
      (runAll ops (ofDocument document viewport now host)).injected := by
  let start := ofDocument document viewport now host
  have hkeeps : ∀ op ∈ ops, op.keepsDocument = true := fun op hop => (hops op hop).keepsDocument
  by_cases hpass : .pass ∈ history ops start
  · obtain ⟨after, before, hsplit, hafter⟩ :=
      List.eq_append_cons_of_mem (List.mem_reverse.mpr hpass)
    have hlast : history ops start = before.reverse ++ .pass :: after.reverse := by
      rw [← List.reverse_reverse (history ops start), hsplit]
      simp
    have hbefore : (runSteps before.reverse start).IsUnattended w :=
      h.runSteps hops start fun step hstep => by simp [hlast, List.mem_reverse.mp hstep]
    exact isStyled_of_lastPassAt hfresh hkeeps
      ⟨_, _, hlast, fun hmem => hafter (List.mem_reverse.mp hmem), hbefore.width_eq⟩
  · -- without a pass nothing was stored, and the document is as it was
    have hfollows : PassFollows ([] ++ history ops start) := passFollows_history ops start
    obtain ⟨hd, hi⟩ := document_runSteps hpass
      (fun step hstep => keepsDocument_of_mem_history hkeeps hstep) start
    have hs := store_runSteps (hfollows.keepsRules hpass) start
    rw [runSteps_history] at hd hi hs
    rw [hd, hi, hs]
    exact .refl document

end Engine

/-! ## The sheets of a document -/

/-- The rules of the sheets that a source has for some links. -/
def rulesFor (answer : String → Except Failure (Option String)) (links : List StylesheetLink) :
    List Rule :=
  links.flatMap fun link =>
    match answer link.href with
    | .ok (some text) => Rule.ofSheet text link.href link.media
    | _ => []

namespace Engine

variable {answer : String → Except Failure (Option String)}

theorem store_parsesOf (links : List StylesheetLink) : ∀ e : Engine σ,
    (runAll (parsesOf answer links) e).store = e.store.pushAll (rulesFor answer links) := by
  induction links with
  | nil => exact fun _ => rfl
  | cons link rest ih =>
    intro e
    unfold parsesOf rulesFor at ih ⊢
    rw [List.filterMap_cons, List.flatMap_cons, RuleStore.pushAll_append]
    cases hanswer : answer link.href with
    | error failure => exact ih e
    | ok found =>
      cases found with
      | none => exact ih e
      | some text =>
        rw [runAll_cons, ih, ← storeBlocks_ofSheet]
        rfl

/-- An engine that nobody listens to takes in all sheets that a source has, in one attempt. -/
theorem store_update {document : Document} {w : Float} {e : Engine σ} (h : e.IsUnattended w)
    (hstyled : e.HasStyled document) (hnative : e.config.native = false)
    (hparsed : e.parsedSheets = []) :
    (e.update (.ofFunction answer)).engine.store = e.store.pushAll
      (rulesFor answer (firstLinks (document.ownLinks e.config.pageHost))) := by
  have hop : (.update (.ofFunction answer) : Operation σ).Loads (.ofFunction answer) := .update
  obtain ⟨more, rest, hsplit, htakes, hok⟩ := run_takes hop hnative hstyled
  have hremaining : e.remaining document = firstLinks (document.ownLinks e.config.pageHost) := by
    rw [remaining, hparsed]
    exact List.filter_eq_self.mpr fun link _ => rfl
  rw [hok rfl (h.result_run _), List.append_nil, hremaining] at hsplit
  rw [hsplit, ← store_parsesOf]
  exact htakes.store_eq

end Engine

/-! ## Calls -/

namespace CommandLine

/-- The widths that a call measures a page by. -/
def Options.viewport (options : Options) : Viewport :=
  match options.bodyWidth with
  | some width => (Viewport.ofWidth options.width).withBody width
  | none => Viewport.ofWidth options.width

/-- The width that a call tests conditions at. -/
def Options.widthOn (options : Options) (d : Document) : Float :=
  options.viewport.effectiveWidth (d.mode == .quirks)

/-- The rules of the sheets that can be read beside the document, one sheet for each reference to
the host of the page, for its first link. -/
def Options.store (options : Options) (read : String → Except ReadError String) (d : Document) :
    RuleStore :=
  RuleStore.empty.pushAll (rulesFor (Source.fetchFile read (directoryOf options.input))
    (firstLinks (d.ownLinks options.host)))

/-- What is reported on a query: whether some condition of it holds at a width. -/
def reportOn (width : Float) (media : String) : String :=
  media ++ " -> " ++ toString ((Condition.readList media.toList).any (·.isActive width)) ++ "\n"

/-- What is reported on a query that was just registered is decided by its text. -/
theorem exists_registered {e : Engine Unit} {w : Float} (h : e.IsUnattended w)
    (hqueries : e.HasTrueQueries) (media : String) :
    ∃ q, (e.matchMedia media).engine.shared.queries[e.shared.queries.length]? = some q ∧
      reportLine q.view = reportOn w media := by
  have hregister := h.register media
  have hafter := hqueries.register media
  have hmedias : (e.matchMedia media).engine.shared.medias = e.shared.medias ++ [media] := by
    rw [Engine.engine_matchMedia, Engine.medias_apply hafter.settled]
    simp [Engine.register, Shared.medias, LiveQuery.ofMedia]
  have hlast := congrArg (fun medias => medias[e.shared.queries.length]?) hmedias
  rw [← Shared.length_medias, List.getElem?_concat_length, Shared.medias, List.getElem?_map,
    Shared.length_medias] at hlast
  obtain ⟨q, hq, hmedia⟩ := Option.map_eq_some_iff.mp hlast
  have haccurate : q.IsAccurateAt (e.register media).width :=
    hafter.leavesQueriesTrue.ok (hregister.result_run .apply) q (List.mem_of_getElem? hq)
  have hmatching : q.isMatching = (Condition.readList media.toList).any (·.isActive w) := by
    rw [LiveQuery.IsAccurateAt, hmedia, hregister.width_eq] at haccurate
    rw [Bool.eq_iff_iff, haccurate, List.any_eq_true]
  refine ⟨q, hq, ?_⟩
  rw [reportLine, reportOn, ← hmatching, ← hmedia]
  rfl

/-- Queries are reported on one after the other, whatever was registered before them. -/
theorem reportAll_eq {w : Float} (queries : List String) : ∀ {e : Engine Unit},
    e.IsUnattended w → e.HasTrueQueries →
      reportAll e queries =
        (String.join (queries.map (reportOn w)), .ok (runAll (queries.map .matchMedia) e)) := by
  induction queries with
  | nil => exact fun _ _ => rfl
  | cons media rest ih =>
    intro e h hqueries
    have hafter : (e.matchMedia media).engine.IsUnattended w := (h.register media).apply
    have hqueries' : (e.matchMedia media).engine.HasTrueQueries :=
      (hqueries.register media).apply
    have hresult : (e.matchMedia media).result = .ok e.shared.queries.length := by
      have hok : (e.register media).apply.result = .ok () := (h.register media).result_run .apply
      rw [Engine.result_matchMedia, hok]
      rfl
    obtain ⟨q, hq, hline⟩ := exists_registered h hqueries media
    rw [reportAll]
    simp only [hresult, hq, Option.map_some, Option.getD_some, hline, ih hafter hqueries']
    rw [List.map_cons, String.join_cons]
    rfl

theorem activeAt_runAll_matchMedia {w : Float} (queries : List String) : ∀ {e : Engine Unit},
    e.HasTrueQueries →
      (runAll (queries.map .matchMedia) e).store.activeAt w = e.store.activeAt w := by
  induction queries with
  | nil => exact fun _ => rfl
  | cons media rest ih =>
    intro e h
    have hqueries : (e.matchMedia media).engine.HasTrueQueries := (h.register media).apply
    have htexts : (e.matchMedia media).engine.store.activeTexts w = e.store.activeTexts w :=
      Engine.activeTexts_register h media w
    rw [List.map_cons, runAll_cons]
    refine (ih hqueries).trans ?_
    rw [RuleStore.activeAt, RuleStore.activeAt, htexts]

/-- The operations of a call before it reports on queries. -/
def operations (options : Options) (read : String → Except ReadError String) :
    List (Operation Unit) :=
  [.host (.configure { Config.default with
      throttleMs := options.throttleMs, pageHost := options.host }),
    .update (Source.ofDirectory read (directoryOf options.input))]

theorem runOn_of_ok {html : String} {options : Options} {read : String → Except ReadError String}
    {lines : String} {e : Engine Unit}
    (hupdate : ((engine options html).update
      (Source.ofDirectory read (directoryOf options.input))).result = .ok ())
    (hreport : reportAll ((engine options html).update
      (Source.ofDirectory read (directoryOf options.input))).engine options.queries =
        (lines, .ok e)) :
    runOn html options read = ⟨0, e.document.toHtml ++ "\n", intro ++ lines⟩ := by
  dsimp only [runOn]
  generalize (engine options html).update _ = outcome at hupdate hreport ⊢
  simp only [hupdate, hreport]

/-- What a call writes, where its document can be read. -/
theorem runOn_eq (html : String) (options : Options) (read : String → Except ReadError String) :
    runOn html options read =
      ⟨0, (Injection.inject (Html.parse html) []
          ((options.store read (Html.parse html)).activeAt
            (options.widthOn (Html.parse html)))).document.toHtml ++ "\n",
        intro ++ String.join
          (options.queries.map (reportOn (options.widthOn (Html.parse html))))⟩ := by
  let d := Html.parse html
  let w := options.widthOn d
  let start := Engine.ofDocument d options.viewport 0 ()
  let source := Source.ofDirectory read (directoryOf options.input)
  let loaded := ((engine options html).update source).engine
  have hfresh : d.IsFresh := Dom.Construction.isFresh_finish _
  have hstart : start.IsUnattended w := ⟨fun q hq => absurd hq List.not_mem_nil, rfl⟩
  have hengine : (engine options html).IsUnattended w := ⟨hstart.silent, rfl⟩
  have hops : ∀ op ∈ operations options read ++ options.queries.map .matchMedia, op.LetsBe := by
    intro op hop action he
    subst he
    exact ⟨_, by simpa [operations] using hop⟩
  have hloaded : loaded = runAll (operations options read) start := rfl
  have hunattended : loaded.IsUnattended w := by
    rw [hloaded]
    exact hstart.runAll fun op hop => hops op (List.mem_append_left _ hop)
  have hqueries : loaded.HasTrueQueries := by
    rw [hloaded, ← runSteps_history]
    exact Engine.hasTrueQueries_runSteps d options.viewport 0 () _
  have hstore : loaded.store = options.store read d :=
    Engine.store_update hengine ⟨[], .refl d⟩ rfl rfl
  have hresult : ((engine options html).update source).result = .ok () :=
    hengine.result_run (.update source)
  have hreport := reportAll_eq options.queries hunattended hqueries
  -- the queries have added passes, but no style text
  have hstyled := Engine.isStyled_runAll hfresh hops hstart
  rw [runAll_append, ← hloaded, activeAt_runAll_matchMedia options.queries hqueries, hstore]
    at hstyled
  have hhtml := hstyled.toHtml_eq
    ((IsStyled.refl d).inject hfresh ((options.store read d).activeAt w))
  rw [runOn_of_ok hresult hreport, hhtml]

/-- Take any call that is accepted, and any document that it can read, with any files beside it,
whether they can be read or not, and whatever is in them. It ends well. It writes the document with
style elements for what is active, at the width of the call, of the rules of the sheets that can be
read, one for each reference to the host of the page, for its first link; and it reports on its
queries in order, on each whether some condition of it holds at that width. So what is written does
not depend on the queries, nor on the time for which resizes are put off, and what is reported on a
query depends on the width alone. -/
theorem call_writes_what_is_active (arguments : List String)
    (read : String → Except ReadError String) (options : Options) (html : String)
    (harguments : Request.ofArguments arguments = .ok (.run options))
    (hinput : read options.input = .ok html) :
    let document := Html.parse html
    let width := options.widthOn document
    let active := (options.store read document).activeAt width
    run arguments read =
        ⟨0, (Injection.inject document [] active).document.toHtml ++ "\n",
          intro ++ String.join (options.queries.map (reportOn width))⟩ ∧
      ∀ arguments' queries throttleMs,
        Request.ofArguments arguments' = .ok (.run { options with queries, throttleMs }) →
          (run arguments' read).stdout = (run arguments read).stdout := by
  intro document width active
  have hrun : ∀ arguments' options', Request.ofArguments arguments' = .ok (.run options') →
      options'.input = options.input → run arguments' read = runOn html options' read := by
    intro arguments' options' h hsame
    simp only [run, h, hsame, hinput]
  rw [hrun arguments options harguments rfl]
  refine ⟨runOn_eq html options read, fun arguments' queries throttleMs h => ?_⟩
  rw [hrun arguments' _ h rfl, runOn_eq, runOn_eq]
  rfl

/-- A page with links to two stylesheets, of which one is there. -/
def sampleFiles (path : String) : Except ReadError String :=
  if path = "page.html" then
    .ok "<link rel=stylesheet href=a.css><link rel=stylesheet href=b.css>"
  else if path = "a.css" then .ok "@media (min-width: 600px)\x7bp\x7b\x7d\x7d"
  else .error .notFound

/-- A call for the page, with a query. -/
def sampleOptions : Options where
  input := "page.html"
  width := defaultWidth
  bodyWidth := none
  queries := ["(max-width: 600px)"]
  throttleMs := 30
  host := none

theorem missing_sheet_is_passed_over :
    Request.ofArguments ["-q", "(max-width: 600px)", "page.html"] = .ok (.run sampleOptions) ∧
      run ["-q", "(max-width: 600px)", "page.html"] sampleFiles =
        ⟨0, "<html><head><link rel=\"stylesheet\" href=\"a.css\">" ++
            "<link rel=\"stylesheet\" href=\"b.css\">" ++
            "<style type=\"text/css\" media=\"all\">p\x7b\x7d</style></head><body></body></html>\n",
          intro ++ "(max-width: 600px) -> false\n"⟩ ∧
      (run ["page.html"] sampleFiles).stdout =
        (run ["-q", "(max-width: 600px)", "page.html"] sampleFiles).stdout := by
  have harguments : Request.ofArguments ["-q", "(max-width: 600px)", "page.html"] =
      .ok (.run sampleOptions) := rfl
  have hwithout : Request.ofArguments ["page.html"] =
      .ok (.run { sampleOptions with queries := [], throttleMs := 30 }) := rfl
  have h := call_writes_what_is_active _ sampleFiles sampleOptions _ harguments rfl
  exact ⟨harguments, h.1.trans (by decide +kernel), h.2 _ _ _ hwithout⟩

end CommandLine

end MediaQuery
