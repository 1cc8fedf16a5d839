import MediaQuery.Proofs.Run.Loading

/-!
# What a source is asked for

An engine notes a reference as asked for before it knows what the source has for it, and no attempt
to load stylesheets asks for a reference that is noted. So the references of a run are asked for
once, whatever becomes of them: a sheet that could not be read when its turn came is not read later
either.

* `attempts_ask_for_what_is_new` — what an attempt asks for, after any run
* `unread_sheet_is_not_tried_again` — a sheet that stays out for good
-/

namespace MediaQuery

variable {σ : Type}

open Dom (Document StylesheetLink)

/-! ## What is noted -/

/-- What some steps ask for is noted behind what was noted before. -/
theorem parsedSheets_runSteps (steps : List (Step σ)) : ∀ e : Engine σ,
    (runSteps steps e).parsedSheets = e.parsedSheets ++ askedFor steps := by
  induction steps with
  | nil => intro e; exact (List.append_nil _).symm
  | cons step steps ih =>
    intro e
    rw [runSteps_cons, ih, askedFor_cons]
    by_cases hask : ∃ href, step = .ask href
    · obtain ⟨href, rfl⟩ := hask
      exact List.append_assoc ..
    · have hnone : askedFor [step] = [] := by
        cases step with
        | ask href => exact absurd ⟨href, rfl⟩ hask
        | _ => rfl
      rw [hnone, Step.parsedSheets_run fun href heq => hask ⟨href, heq⟩]
      rfl

theorem parsedSheets_run (op : Operation σ) (e : Engine σ) :
    (op.run e).engine.parsedSheets = e.parsedSheets ++ (op.run e).report.fetched := by
  rw [engine_run, fetched_run, parsedSheets_runSteps]

/-- What is noted after a run is what was noted before and what was asked for in the run. -/
theorem parsedSheets_runAll (ops : List (Operation σ)) : ∀ e : Engine σ,
    (runAll ops e).parsedSheets = e.parsedSheets ++ reportedFetches ops e := by
  induction ops with
  | nil => intro e; exact (List.append_nil _).symm
  | cons op ops ih =>
    intro e
    rw [runAll_cons, ih, parsedSheets_run, reportedFetches, List.append_assoc]

/-! ## What is asked for -/

namespace Engine

/-- Whatever a source answers, an attempt to load some links asks for the first of those that are
due, and for all of them if it succeeds. -/
theorem load_asks (source : Source) (base : Option String) (links : List StylesheetLink) :
    ∀ (asked : List String) (e : Engine σ), ∃ rest,
      (e.dueLinks base links).map (·.href) =
        (load source base links asked e).report.fetched ++ rest ∧
      ((load source base links asked e).result = .ok () → rest = []) := by
  induction links with
  | nil => exact fun asked e => ⟨[], rfl, fun _ => rfl⟩
  | cons link rest ih =>
    intro asked e
    by_cases hover : Url.isSameOrigin link.href base e.config.pageHost = false ∨
        link.href ∈ e.parsedSheets
    · obtain ⟨-, hfetched, hresult⟩ := load_cons_of_passed_over source rest asked hover
      rw [dueLinks_cons_of_passed_over rest hover, hfetched, hresult]
      exact ih asked e
    · obtain ⟨horigin, hasked⟩ := not_or.mp hover
      rw [Bool.not_eq_false] at horigin
      obtain ⟨e', htaken, hend⟩ := load_cons_of_new source base rest asked hasked horigin
      have hnoted : e'.config = e.config ∧ e'.parsedSheets = e.parsedSheets ++ [link.href] := by
        rcases htaken with ⟨rfl, -⟩ | ⟨text, -, rfl⟩ <;> exact ⟨rfl, rfl⟩
      rw [dueLinks_cons_of_new rest hasked horigin hnoted.1 hnoted.2, List.map_cons]
      rcases hend with ⟨-, hfetched, hfails⟩ | ⟨-, hfetched, hresult⟩
      · rw [hfetched]
        exact ⟨_, rfl, fun hok => absurd hok hfails⟩
      · obtain ⟨left, hsplit, hok⟩ := ih (asked ++ [link.href]) e'
        rw [hfetched, hresult]
        exact ⟨left, congrArg (link.href :: ·) hsplit, hok⟩

/-- The references of a document to stylesheets of the page itself that are not noted, each once. -/
def newReferences (e : Engine σ) : List String :=
  (((e.document.ownLinks e.config.pageHost).map (·.href)).filter
    fun href => !e.parsedSheets.contains href).eraseDups

theorem mem_newReferences {e : Engine σ} {href : String} :
    href ∈ e.newReferences ↔
      (∃ link ∈ e.document.ownLinks e.config.pageHost, link.href = href) ∧
        href ∉ e.parsedSheets := by
  simp [newReferences, List.mem_eraseDups]

theorem update_asks (e : Engine σ) (hnative : e.config.native = false) (source : Source) :
    (e.update source).report.fetched <+: e.newReferences ∧
      ((e.update source).result = .ok () →
        (e.update source).report.fetched = e.newReferences) := by
  have hnew : e.newReferences =
      (e.dueLinks e.document.baseHref? e.document.stylesheetLinks).map (·.href) := by
    rw [newReferences, ← filter_eraseDups, ← map_firstLinks, List.filter_map]
    rfl
  have hupdate : e.update source =
      load source e.document.baseHref? e.document.stylesheetLinks [] e :=
    if_neg (by simp [hnative])
  obtain ⟨rest, hsplit, hok⟩ :=
    load_asks source e.document.baseHref? e.document.stylesheetLinks [] e
  rw [hnew, hupdate, hsplit]
  refine ⟨List.prefix_append _ _, fun hresult => ?_⟩
  rw [hok hresult, List.append_nil]

end Engine

/-- No operation asks for a reference that is noted. -/
theorem not_mem_fetched_of_mem_parsedSheets {op : Operation σ} {e : Engine σ} {href : String}
    (h : href ∈ e.parsedSheets) : href ∉ (op.run e).report.fetched := by
  intro hfetched
  have hask : .ask href ∈ op.steps e := by
    rw [fetched_run] at hfetched
    obtain ⟨step, hstep, heq⟩ := List.mem_filterMap.mp hfetched
    split at heq
    · rwa [← Option.some.inj heq]
    · exact absurd heq (by simp)
  obtain ⟨source, rfl⟩ := Operation.eq_update_of_ask_mem hask
  cases hnative : e.config.native with
  | true => simp [Operation.steps, hnative] at hask
  | false =>
    have hnew := (e.update_asks hnative source).1.subset hfetched
    exact (Engine.mem_newReferences.mp hnew).2 h

/-- What was noted once is asked for in no later run. -/
theorem not_mem_reportedFetches {ops : List (Operation σ)} {href : String} :
    ∀ {e : Engine σ}, href ∈ e.parsedSheets → href ∉ reportedFetches ops e := by
  induction ops with
  | nil => intro e _; exact List.not_mem_nil
  | cons op ops ih =>
    intro e h
    rw [reportedFetches, List.mem_append, not_or]
    refine ⟨not_mem_fetched_of_mem_parsedSheets h, ih ?_⟩
    rw [parsedSheets_run]
    exact List.mem_append_left _ h

/-! ## What is taken in -/

/-- The references under which an attempt to load stylesheets takes in a text. -/
def Operation.taken (op : Operation σ) (e : Engine σ) : List String :=
  match op with
  | .update source =>
    ((Operation.update source).steps e).filterMap fun step =>
      match step with
      | .store _ href _ => some href
      | _ => none
  | _ => []

/-- The references under which the attempts of a run to load stylesheets take in texts. -/
def takenSheets : List (Operation σ) → Engine σ → List String
  | [], _ => []
  | op :: ops, e => op.taken e ++ takenSheets ops (op.run e).engine

namespace Engine

/-- Take any run on a document whose page is not shown by something that knows media queries itself,
and an attempt to load stylesheets after it that succeeds. It asks for the references of the
document to stylesheets of the page itself that were not asked for in the run, each once and in
document order. So it asks for every sheet that has not been taken in exactly if all those that were
asked for have been; and one that was asked for in vain is never asked for again. -/
theorem attempts_ask_for_what_is_new (document : Document) (viewport : Viewport) (now : Nat)
    (host : σ) (ops : List (Operation σ)) (source : Source)
    (hnative : (runAll ops (ofDocument document viewport now host)).config.native = false)
    (hok : ((runAll ops (ofDocument document viewport now host)).update source).result = .ok ()) :
    let start := ofDocument document viewport now host
    let e := runAll ops start
    let own := e.document.ownLinks e.config.pageHost
    let fetched := (e.update source).report.fetched
    fetched = ((own.map (·.href)).filter
        fun href => !(reportedFetches ops start).contains href).eraseDups ∧
      ((∀ link ∈ own, link.href ∉ takenSheets ops start → link.href ∈ fetched) ↔
        ∀ link ∈ own, link.href ∈ reportedFetches ops start → link.href ∈ takenSheets ops start) ∧
      ∀ later, ∀ href ∈ reportedFetches ops start, href ∉ reportedFetches later e := by
  intro start e own fetched
  have hnoted : e.parsedSheets = reportedFetches ops start := parsedSheets_runAll ops start
  have hfetched : fetched = e.newReferences := (e.update_asks hnative source).2 hok
  have hmem : ∀ link ∈ own, link.href ∈ fetched ↔ link.href ∉ reportedFetches ops start := by
    intro link hlink
    rw [hfetched, mem_newReferences, hnoted]
    exact and_iff_right ⟨link, hlink, rfl⟩
  refine ⟨?_, ⟨fun hall link hlink hasked => ?_, fun hall link hlink htaken => ?_⟩, ?_⟩
  · rw [hfetched, newReferences, hnoted]
  · by_contra htaken
    exact (hmem link hlink).mp (hall link hlink htaken) hasked
  · exact (hmem link hlink).mpr fun hasked => htaken (hall link hlink hasked)
  · intro later href hasked
    exact not_mem_reportedFetches (by rwa [hnoted])

/-- A run in which a listener ends an attempt to load stylesheets. -/
def interruptedRun : List (Operation Unit) := failingSetup ++ [loadOneSheet]

/-- The next attempt asks for the other sheet, and so for every sheet that has not been taken in. -/
theorem attempt_asks_for_the_other_sheet :
    let start := ofDocument linkedDocument (.ofWidth 500) 0 ()
    let e := runAll interruptedRun start
    let o := e.update (.ofFunction oneSheet)
    e.config.native = false ∧ o.result = .ok () ∧ o.report.fetched = ["b.css"] ∧
      ∀ link ∈ e.document.ownLinks e.config.pageHost,
        link.href ∉ takenSheets interruptedRun start → link.href ∈ o.report.fetched := by
  have hnative : (runAll interruptedRun
      (ofDocument linkedDocument (.ofWidth 500) 0 ())).config.native = false := by decide +kernel
  have hnone : ((runAll interruptedRun (ofDocument linkedDocument (.ofWidth 500) 0 ())).update
      (.ofFunction oneSheet)).failure? = none := by decide +kernel
  obtain ⟨_, hok⟩ := Outcome.failure?_eq_none_iff.mp hnone
  obtain ⟨hfetched, hiff, -⟩ := attempts_ask_for_what_is_new linkedDocument (.ofWidth 500) 0 ()
    interruptedRun (.ofFunction oneSheet) hnative hok
  exact ⟨hnative, hok, hfetched.trans (by decide +kernel), hiff.mpr (by decide +kernel)⟩

/-- A source that can not read one sheet and does not know any other. -/
def noSheet (href : String) : Except Failure (Option String) :=
  if href = "a.css" then .error (.sheet href .notFound) else .ok none

theorem unread_sheet_is_not_tried_again :
    let start : Engine Unit := ofDocument linkedDocument (.ofWidth 500) 0 ()
    let e := runAll [.update (.ofFunction noSheet)] start
    let o := e.update (.ofFunction oneSheet)
    e.config.native = false ∧ o.result = .ok () ∧
      ∃ link ∈ e.document.ownLinks e.config.pageHost,
        link.href ∉ takenSheets [.update (.ofFunction noSheet)] start ∧
          (oneSheet link.href = .ok (some "@media print{a}")) ∧
          link.href ∉ o.report.fetched := by
  intro start e o
  have hnone : o.failure? = none := by decide +kernel
  obtain ⟨_, hresult⟩ := Outcome.failure?_eq_none_iff.mp hnone
  exact ⟨rfl, hresult, ⟨"a.css", none⟩, by decide +kernel, by decide +kernel, rfl,
    by decide +kernel⟩

end Engine

end MediaQuery
