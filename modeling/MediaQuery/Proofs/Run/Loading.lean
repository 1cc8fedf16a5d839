import MediaQuery.Proofs.Rule.Independence
import MediaQuery.Proofs.Rule.Sheets
import MediaQuery.Proofs.Run.Failures

/-!
# Stylesheets are loaded once, however often loading is interrupted

A listener that fails ends the loading of stylesheets, and the next attempt goes on behind the sheet
at which the last one ended: its rules are in the store, and its reference is noted as asked for.
`Loaded` holds how far an engine has come against the links that it is to load, the first for each
reference of the page itself. An attempt takes some more of them off the front of those that are
left, and all of them if it succeeds.

* `loading_resumes_where_it_stopped` — the law for every run
-/

namespace MediaQuery

variable {σ : Type}

open Dom (Document StylesheetLink)

/-! ## What is to be loaded -/

/-- The links to stylesheets from the host of the page, in document order. -/
def Dom.Document.ownLinks (d : Document) (pageHost : Option String) : List StylesheetLink :=
  d.stylesheetLinks.filter fun link => Url.isSameOrigin link.href d.baseHref? pageHost

/-- Some links without those whose reference came up before. -/
def firstLinks : List StylesheetLink → List StylesheetLink
  | [] => []
  | link :: rest => link :: (firstLinks rest).filter (·.href != link.href)

/-- The links of a list whose references are not among some. -/
def unasked (asked : List String) (links : List StylesheetLink) : List StylesheetLink :=
  links.filter fun link => !asked.contains link.href

theorem nodup_firstLinks (links : List StylesheetLink) :
    ((firstLinks links).map (·.href)).Nodup := by
  induction links with
  | nil => exact .nil
  | cons link rest ih =>
    rw [firstLinks, List.map_cons, List.nodup_cons]
    refine ⟨?_, ih.sublist (List.filter_sublist.map _)⟩
    intro hmem
    obtain ⟨other, hother, hhref⟩ := List.mem_map.mp hmem
    have hne := (List.mem_filter.mp hother).2
    rw [hhref] at hne
    simp at hne

/-- To leave out repetitions and to leave out some references can be done in any order. -/
theorem filter_eraseDups (keep : String → Bool) (hrefs : List String) :
    hrefs.eraseDups.filter keep = (hrefs.filter keep).eraseDups := by
  cases hrefs with
  | nil => rfl
  | cons href rest =>
    have ih := filter_eraseDups keep (rest.filter fun other => !other == href)
    rw [List.eraseDups_cons, List.filter_cons, List.filter_cons, ih, List.filter_filter]
    by_cases hkeep : keep href = true
    · rw [if_pos hkeep, if_pos hkeep, List.eraseDups_cons, List.filter_filter]
      simp only [Bool.and_comm]
    · -- a reference that is left out need not be looked for among the others
      rw [if_neg hkeep, if_neg hkeep]
      congr 1
      refine List.filter_congr fun other _ => ?_
      by_cases hsame : other = href
      · simp [hsame, hkeep]
      · simp [hsame]
termination_by hrefs.length
decreasing_by
  have hle := List.length_filter_le (fun other => !other == href) rest
  simp only [List.length_cons]
  omega

/-- The references of the links that are kept are those of all, each once. -/
theorem map_firstLinks (links : List StylesheetLink) :
    (firstLinks links).map (·.href) = (links.map (·.href)).eraseDups := by
  induction links with
  | nil => rfl
  | cons link rest ih =>
    have hfilter : ((firstLinks rest).filter (·.href != link.href)).map (·.href) =
        ((firstLinks rest).map (·.href)).filter (· != link.href) := by
      rw [List.filter_map]
      rfl
    rw [firstLinks, List.map_cons, List.map_cons, List.eraseDups_cons, hfilter, ih,
      filter_eraseDups]
    rfl

/-- The calls by which the sheets that a source has for some links are taken in, one after the
other. -/
def parsesOf (answer : String → Except Failure (Option String)) (links : List StylesheetLink) :
    List (Operation σ) :=
  links.filterMap fun link =>
    match answer link.href with
    | .ok (some text) => some (.parse text link.href link.media)
    | _ => none

/-- A link that comes first is asked for, and its reference is left out from then on. -/
theorem unasked_firstLinks_cons {asked : List String} {link : StylesheetLink}
    (h : link.href ∉ asked) (rest : List StylesheetLink) :
    unasked asked (firstLinks (link :: rest)) =
      link :: unasked (asked ++ [link.href]) (firstLinks rest) := by
  rw [firstLinks, unasked, List.filter_cons, if_pos (by simpa using h), List.filter_filter,
    unasked]
  congr 1
  refine List.filter_congr fun other _ => ?_
  by_cases hsame : other.href = link.href
  · simp [hsame]
  · simp [hsame]

/-- A link whose reference was asked for makes no difference. -/
theorem unasked_firstLinks_cons_of_mem {asked : List String} {link : StylesheetLink}
    (h : link.href ∈ asked) (rest : List StylesheetLink) :
    unasked asked (firstLinks (link :: rest)) = unasked asked (firstLinks rest) := by
  rw [firstLinks, unasked, List.filter_cons, if_neg (by simpa using h), List.filter_filter,
    unasked]
  refine List.filter_congr fun other _ => ?_
  by_cases hsame : other.href = link.href
  · simp [hsame, h]
  · simp [hsame]

/-- What was asked for in the beginning of a list of different references is left out, and no
more. -/
theorem unasked_append {done rest : List StylesheetLink}
    (h : ((done ++ rest).map (·.href)).Nodup) :
    unasked (done.map (·.href)) (done ++ rest) = rest := by
  rw [List.map_append] at h
  have hdisjoint := (List.nodup_append.mp h).2.2
  rw [unasked, List.filter_append]
  have hdone : done.filter (fun link => !(done.map (·.href)).contains link.href) = [] := by
    refine List.filter_eq_nil_iff.mpr fun link hlink => ?_
    have hmem : link.href ∈ done.map (·.href) := List.mem_map_of_mem hlink
    simpa using hmem
  have hrest : rest.filter (fun link => !(done.map (·.href)).contains link.href) = rest := by
    refine List.filter_eq_self.mpr fun link hlink => ?_
    have hnot : link.href ∉ done.map (·.href) := fun hmem =>
      hdisjoint _ hmem _ (List.mem_map_of_mem hlink) rfl
    simpa using hnot
  rw [hdone, hrest]
  rfl

theorem unasked_asked (asked asked' : List String) (links : List StylesheetLink) :
    unasked (asked ++ asked') links = unasked asked' (unasked asked links) := by
  rw [unasked, unasked, unasked, List.filter_filter]
  refine List.filter_congr fun link _ => ?_
  simp [Bool.and_comm]

/-! ## One attempt -/

namespace Engine

/-- Between two engines some links were loaded, and apart from the sheets that a source had for them
nothing was taken in. -/
structure Takes (answer : String → Except Failure (Option String)) (e e' : Engine σ)
    (fetched : List String) (links : List StylesheetLink) : Prop where
  fetched_eq : fetched = links.map (·.href)
  config_eq : e'.config = e.config
  parsedSheets_eq : e'.parsedSheets = e.parsedSheets ++ links.map (·.href)
  store_eq : e'.store = (runAll (parsesOf answer links) e).store

variable {answer : String → Except Failure (Option String)}

/-- What calls of `parse` do to the store depends on the store alone. -/
theorem store_parsesOf_congr (links : List StylesheetLink) : ∀ {e e' : Engine σ},
    e'.store = e.store →
      (runAll (parsesOf answer links) e').store = (runAll (parsesOf answer links) e).store := by
  induction links with
  | nil => intro e e' h; exact h
  | cons link rest ih =>
    intro e e' h
    unfold parsesOf at ih ⊢
    rw [List.filterMap_cons]
    split
    · exact ih h
    · next op hop =>
      rw [runAll_cons, runAll_cons]
      refine ih ?_
      split at hop
      · obtain rfl := Option.some.inj hop
        change (e'.storeSheet _ _ _).store = (e.storeSheet _ _ _).store
        rw [storeSheet, storeSheet, h]
      · exact absurd hop (by simp)

namespace Takes

variable {e e' e'' : Engine σ} {fetched fetched' : List String} {links links' : List StylesheetLink}

theorem nothing (hconfig : e'.config = e.config) (hparsed : e'.parsedSheets = e.parsedSheets)
    (hstore : e'.store = e.store) : Takes answer e e' [] [] :=
  ⟨rfl, hconfig, by rw [hparsed]; exact (List.append_nil _).symm, hstore⟩

theorem append (h : Takes answer e e' fetched links) (h' : Takes answer e' e'' fetched' links') :
    Takes answer e e'' (fetched ++ fetched') (links ++ links') := by
  have hparses : parsesOf (σ := σ) answer (links ++ links') =
      parsesOf answer links ++ parsesOf answer links' := List.filterMap_append
  refine ⟨?_, h'.config_eq.trans h.config_eq, ?_, ?_⟩
  · rw [h.fetched_eq, h'.fetched_eq, List.map_append]
  · rw [h'.parsedSheets_eq, h.parsedSheets_eq, List.map_append, List.append_assoc]
  · rw [h'.store_eq, hparses, runAll_append]
    exact store_parsesOf_congr links' h.store_eq

end Takes

section

variable {e : Engine σ} {link : StylesheetLink}

/-- Where a source has no sheet, a reference is noted as asked for. -/
theorem takes_missing (h : ∀ text, answer link.href ≠ .ok (some text)) :
    e.Takes answer (e.ask link.href) [link.href] [link] := by
  have hparses : parsesOf (σ := σ) answer [link] = [] := by
    refine List.filterMap_eq_nil_iff.mpr fun other hother => ?_
    rw [List.mem_singleton.mp hother]
    split
    · next text htext => exact absurd htext (h text)
    · rfl
  exact ⟨rfl, rfl, rfl, by rw [hparses]; rfl⟩

/-- A sheet that it has is taken in, whether or not a listener fails then. -/
theorem takes_sheet {text : String} (h : answer link.href = .ok (some text)) :
    e.Takes answer ((e.ask link.href).parse text link.href link.media).engine [link.href]
      [link] := by
  have hparses : parsesOf (σ := σ) answer [link] = [.parse text link.href link.media] := by
    simp [parsesOf, h]
  exact ⟨rfl, rfl, rfl, by rw [hparses]; rfl⟩

/-- A link that is left to load is asked for. What a source has for it is taken in, and the attempt
ends there or goes on behind it. -/
theorem load_cons_of_new (source : Source) (base : Option String) (rest : List StylesheetLink)
    (asked : List String) (hasked : link.href ∉ e.parsedSheets)
    (horigin : Url.isSameOrigin link.href base e.config.pageHost = true) :
    ∃ e' : Engine σ,
      (e' = e.ask link.href ∧ (∀ text, source.fetch asked link.href ≠ .ok (some text)) ∨
        ∃ text, source.fetch asked link.href = .ok (some text) ∧
          e' = ((e.ask link.href).parse text link.href link.media).engine) ∧
      let o := load source base (link :: rest) asked e
      let later := load source base rest (asked ++ [link.href]) e'
      (o.engine = e' ∧ o.report.fetched = [link.href] ∧ o.result ≠ .ok ()) ∨
        o.engine = later.engine ∧ o.report.fetched = link.href :: later.report.fetched ∧
          o.result = later.result := by
  rw [load, if_neg (by simpa using hasked), if_neg (by simpa using horigin)]
  cases hanswer : source.fetch asked link.href with
  | error failure =>
    exact ⟨e.ask link.href, Or.inl ⟨rfl, by simp⟩, Or.inr ⟨rfl, rfl, rfl⟩⟩
  | ok found =>
    cases found with
    | none => exact ⟨e.ask link.href, Or.inl ⟨rfl, by simp⟩, Or.inr ⟨rfl, rfl, rfl⟩⟩
    | some text =>
      refine ⟨_, Or.inr ⟨text, rfl, rfl⟩, ?_⟩
      let later := fun (e : Engine σ) (_ : List Descriptor) =>
        load source base rest (asked ++ [link.href]) e
      cases hparse : ((e.ask link.href).parse text link.href link.media).result with
      | error failure =>
        have hend := Outcome.andThen_of_error hparse later
        have hengine := congrArg Outcome.engine hend
        have hfetched := congrArg (fun o => link.href :: o.report.fetched) hend
        have hresult := congrArg Outcome.result hend
        exact Or.inl ⟨hengine, hfetched, fun hok => absurd (hresult.symm.trans hok) (by simp)⟩
      | ok added =>
        obtain ⟨hengine, hresult⟩ := Outcome.andThen_of_ok hparse later
        have hreport := Outcome.report_andThen_of_ok hparse later
        have hfetched := congrArg (fun report => link.href :: report.fetched) hreport
        exact Or.inr ⟨hengine, hfetched, hresult⟩

/-- If the source answers to each reference by itself, the link is taken in this way. -/
theorem load_cons_cases (answer : String → Except Failure (Option String)) (base : Option String)
    (rest : List StylesheetLink) (asked : List String) (hasked : link.href ∉ e.parsedSheets)
    (horigin : Url.isSameOrigin link.href base e.config.pageHost = true) :
    ∃ e' : Engine σ, e.Takes answer e' [link.href] [link] ∧
      let o := load (.ofFunction answer) base (link :: rest) asked e
      let later := load (.ofFunction answer) base rest (asked ++ [link.href]) e'
      (o.engine = e' ∧ o.report.fetched = [link.href] ∧ o.result ≠ .ok ()) ∨
        o.engine = later.engine ∧ o.report.fetched = link.href :: later.report.fetched ∧
          o.result = later.result := by
  obtain ⟨e', htaken, hend⟩ :=
    load_cons_of_new (.ofFunction answer) base rest asked hasked horigin
  refine ⟨e', ?_, hend⟩
  rcases htaken with ⟨rfl, hnone⟩ | ⟨text, htext, rfl⟩
  · exact takes_missing hnone
  · exact takes_sheet htext

end

/-- The links that an attempt to load some is to take up: those of the page itself whose references
were not asked for, the first for each. -/
def dueLinks (e : Engine σ) (base : Option String) (links : List StylesheetLink) :
    List StylesheetLink :=
  unasked e.parsedSheets (firstLinks (links.filter fun link =>
    Url.isSameOrigin link.href base e.config.pageHost))

section

variable {e e' : Engine σ} {link : StylesheetLink} {base : Option String}

theorem dueLinks_cons_of_new (rest : List StylesheetLink) (hasked : link.href ∉ e.parsedSheets)
    (horigin : Url.isSameOrigin link.href base e.config.pageHost = true)
    (hconfig : e'.config = e.config) (hparsed : e'.parsedSheets = e.parsedSheets ++ [link.href]) :
    e.dueLinks base (link :: rest) = link :: e'.dueLinks base rest := by
  rw [dueLinks, dueLinks, List.filter_cons, if_pos horigin, unasked_firstLinks_cons hasked, hconfig,
    hparsed]

/-- A link of another host, or one that was asked for, is not due. -/
theorem dueLinks_cons_of_passed_over (rest : List StylesheetLink)
    (hover : Url.isSameOrigin link.href base e.config.pageHost = false ∨
      link.href ∈ e.parsedSheets) :
    e.dueLinks base (link :: rest) = e.dueLinks base rest := by
  rw [dueLinks, dueLinks, List.filter_cons]
  split
  · next horigin =>
    exact unasked_firstLinks_cons_of_mem (hover.resolve_left (by simp [horigin])) _
  · rfl

/-- All that comes of a link that is not taken up is an entry of the log. -/
theorem load_cons_of_passed_over (source : Source) (rest : List StylesheetLink)
    (asked : List String) (hover : Url.isSameOrigin link.href base e.config.pageHost = false ∨
      link.href ∈ e.parsedSheets) :
    let o := load source base (link :: rest) asked e
    let later := load source base rest asked e
    o.engine = later.engine ∧ o.report.fetched = later.report.fetched ∧
      o.result = later.result := by
  rw [load]
  -- whether it was asked for is looked at first
  split
  · exact ⟨rfl, rfl, rfl⟩
  · next hasked =>
    have hforeign := hover.resolve_right (by simpa using hasked)
    rw [if_pos (by simpa using hforeign)]
    exact ⟨rfl, rfl, rfl⟩

end

/-- An attempt to load some links takes some off the front of those that are due, and all of them
if it succeeds. -/
theorem load_takes (answer : String → Except Failure (Option String)) (base : Option String)
    (links : List StylesheetLink) : ∀ (asked : List String) (e : Engine σ), ∃ more rest,
      e.dueLinks base links = more ++ rest ∧
        e.Takes answer (load (.ofFunction answer) base links asked e).engine
          (load (.ofFunction answer) base links asked e).report.fetched more ∧
        ((load (.ofFunction answer) base links asked e).result = .ok () → rest = []) := by
  induction links with
  | nil => exact fun asked e => ⟨[], [], rfl, .nothing rfl rfl rfl, fun _ => rfl⟩
  | cons link rest ih =>
    intro asked e
    by_cases hover : Url.isSameOrigin link.href base e.config.pageHost = false ∨
        link.href ∈ e.parsedSheets
    · obtain ⟨hengine, hfetched, hresult⟩ :=
        load_cons_of_passed_over (.ofFunction answer) rest asked hover
      rw [dueLinks_cons_of_passed_over rest hover, hengine, hfetched, hresult]
      exact ih asked e
    · obtain ⟨horigin, hasked⟩ := not_or.mp hover
      rw [Bool.not_eq_false] at horigin
      obtain ⟨e', hlink, hend⟩ := load_cons_cases answer base rest asked hasked horigin
      rw [dueLinks_cons_of_new rest hasked horigin hlink.config_eq hlink.parsedSheets_eq]
      obtain ⟨hengine, hfetched, hfails⟩ | ⟨hengine, hfetched, hresult⟩ := hend
      · -- the sheet is in the store, and the others are left for the next attempt
        rw [hengine, hfetched]
        exact ⟨[link], _, rfl, hlink, fun hok => absurd hok hfails⟩
      · obtain ⟨more, left, hsplit, htakes, hok⟩ := ih (asked ++ [link.href]) e'
        rw [hengine, hfetched, hresult]
        exact ⟨link :: more, left, congrArg (link :: ·) hsplit, hlink.append htakes, hok⟩

end Engine

/-! ## Runs -/

/-- What can be done with an engine in order to load stylesheets from one source, and between two
attempts to: passes, and what a host does to listeners, viewport and clock. -/
inductive Operation.Loads (source : Source) : Operation σ → Prop where
  | update : Loads source (.update source)
  | apply : Loads source .apply
  | onViewportChange : Loads source .onViewportChange
  | runPending : Loads source .runPending
  | act (program : Program σ) : Loads source (.host (.act program))
  | replaceClock (now : Nat) : Loads source (.host (.replaceClock now))

theorem Operation.Loads.keepsDocument {op : Operation σ} {source : Source} (h : op.Loads source) :
    op.keepsDocument = true := by
  cases h <;> rfl

/-- The references that a source is asked for in a run. -/
def reportedFetches : List (Operation σ) → Engine σ → List String
  | [], _ => []
  | op :: ops, e => (op.run e).report.fetched ++ reportedFetches ops (op.run e).engine

/-- A reference is asked for only while stylesheets are loaded. -/
theorem Operation.eq_update_of_ask_mem {op : Operation σ} {e : Engine σ} {href : String}
    (h : .ask href ∈ op.steps e) : ∃ source, op = .update source := by
  cases op with
  | update source => exact ⟨source, rfl⟩
  | onViewportChange => rw [steps] at h; split at h <;> simp at h
  | runPending => rw [steps] at h; split at h <;> simp at h
  | _ => simp [steps] at h

theorem update_mem_of_ask_mem_history {ops : List (Operation σ)} {href : String} :
    ∀ {e : Engine σ}, .ask href ∈ history ops e → ∃ source, .update source ∈ ops := by
  induction ops with
  | nil => intro e h; exact absurd h (by simp [history])
  | cons op ops ih =>
    intro e h
    rcases List.mem_append.mp h with h | h
    · obtain ⟨source, rfl⟩ := Operation.eq_update_of_ask_mem h
      exact ⟨source, List.mem_cons_self ..⟩
    · obtain ⟨source, hmem⟩ := ih h
      exact ⟨source, List.mem_cons_of_mem _ hmem⟩

/-- What is noted as asked for was asked for. -/
theorem Step.parsedSheets_run {step : Step σ} (h : ∀ href, step ≠ .ask href) (e : Engine σ) :
    (step.run e).parsedSheets = e.parsedSheets := by
  cases step with
  | ask href => exact absurd rfl (h href)
  | host action => cases action <;> rfl
  | _ => rfl

namespace Engine

variable {answer : String → Except Failure (Option String)} {document : Document}

theorem HasStyled.run {e : Engine σ} (hfresh : document.IsFresh) (h : e.HasStyled document)
    {op : Operation σ} (hop : op.keepsDocument = true) : (op.run e).engine.HasStyled document := by
  rw [engine_run]
  refine runSteps_invariant (P := HasStyled document) (fun step hstep _ h => ?_) h
  refine h.step hfresh ?_
  cases step with
  | host action =>
    obtain rfl := Operation.eq_host_of_mem_steps hstep
    exact hop
  | _ => rfl

theorem HasStyled.runAll {ops : List (Operation σ)} (hfresh : document.IsFresh)
    (hops : ∀ op ∈ ops, op.keepsDocument = true) : ∀ {e : Engine σ}, e.HasStyled document →
      (runAll ops e).HasStyled document := by
  induction ops with
  | nil => intro e h; exact h
  | cons op ops ih =>
    intro e h
    exact ih (fun op' hmem => hops op' (List.mem_cons_of_mem _ hmem))
      (h.run hfresh (hops op (List.mem_cons_self ..)))

/-- The links that an engine is still to load for a document. -/
def remaining (document : Document) (e : Engine σ) : List StylesheetLink :=
  unasked e.parsedSheets (firstLinks (document.ownLinks e.config.pageHost))

/-- An operation takes some of the remaining links off their front, and all of them if it is an
attempt to load them that succeeds. -/
theorem run_takes {op : Operation σ} {e : Engine σ} (hop : op.Loads (.ofFunction answer))
    (hnative : e.config.native = false) (hstyled : e.HasStyled document) :
    ∃ more rest, e.remaining document = more ++ rest ∧
      e.Takes answer (op.run e).engine (op.run e).report.fetched more ∧
      (op = .update (.ofFunction answer) → (op.run e).result = .ok () → rest = []) := by
  cases hop with
  | update =>
    -- the engine looks at its own document, which has style elements in its head by now
    obtain ⟨buckets, hd⟩ := hstyled
    obtain ⟨hlinks, hbase⟩ := hd.links_eq
    have hremaining : e.remaining document =
        e.dueLinks e.document.baseHref? e.document.stylesheetLinks := by
      rw [remaining, Document.ownLinks, dueLinks, hlinks, hbase]
    have hrun : (Operation.update (.ofFunction answer)).run e =
        load (.ofFunction answer) e.document.baseHref? e.document.stylesheetLinks [] e :=
      if_neg (by simp [hnative])
    obtain ⟨more, rest, hsplit, htakes, hok⟩ :=
      load_takes answer e.document.baseHref? e.document.stylesheetLinks [] e
    rw [hremaining, hrun]
    exact ⟨more, rest, hsplit, htakes, fun _ => hok⟩
  | apply => exact ⟨[], _, rfl, .nothing rfl rfl rfl, fun h => absurd h (by simp)⟩
  | onViewportChange =>
    refine ⟨[], _, rfl, ?_, fun h => absurd h (by simp)⟩
    change e.Takes answer e.onViewportChange.engine e.onViewportChange.report.fetched []
    rw [onViewportChange_eq]
    cases (e.throttle.signal e.shared.now).1 <;> exact .nothing rfl rfl rfl
  | runPending =>
    refine ⟨[], _, rfl, ?_, fun h => absurd h (by simp)⟩
    change e.Takes answer e.runPending.engine e.runPending.report.fetched []
    unfold runPending
    split <;> exact .nothing rfl rfl rfl
  | act program => exact ⟨[], _, rfl, .nothing rfl rfl rfl, fun h => absurd h (by simp)⟩
  | replaceClock now => exact ⟨[], _, rfl, .nothing rfl rfl rfl, fun h => absurd h (by simp)⟩

/-- What is left to load after some links were taken is what was behind them. -/
theorem Takes.remaining_eq {e e' : Engine σ} {fetched : List String}
    {more rest : List StylesheetLink} (h : e.Takes answer e' fetched more)
    (hsplit : e.remaining document = more ++ rest) : e'.remaining document = rest := by
  have hnodup : ((more ++ rest).map (·.href)).Nodup := by
    rw [← hsplit]
    exact (nodup_firstLinks _).sublist (List.filter_sublist.map _)
  rw [remaining, h.parsedSheets_eq, h.config_eq, unasked_asked]
  change unasked _ (e.remaining document) = rest
  rw [hsplit, unasked_append hnodup]

/-- A run takes some of the remaining links off their front, and all of them if an attempt to load
them succeeds in it. -/
theorem runAll_takes {ops : List (Operation σ)} (hfresh : document.IsFresh)
    (hops : ∀ op ∈ ops, op.Loads (.ofFunction answer)) : ∀ {e : Engine σ},
      e.config.native = false → e.HasStyled document →
      ∃ more rest, e.remaining document = more ++ rest ∧
        e.Takes answer (runAll ops e) (reportedFetches ops e) more ∧
        ∀ before after, ops = before ++ .update (.ofFunction answer) :: after →
          ((runAll before e).update (.ofFunction answer)).result = .ok () → rest = [] := by
  induction ops with
  | nil =>
    intro e _ _
    refine ⟨[], _, rfl, .nothing rfl rfl rfl, fun before after h => ?_⟩
    exact absurd h (by simp)
  | cons op ops ih =>
    intro e hnative hstyled
    have hop := hops op (List.mem_cons_self ..)
    obtain ⟨more, rest, hsplit, htakes, hok⟩ := run_takes hop hnative hstyled
    have hnative' : (op.run e).engine.config.native = false := by
      rw [htakes.config_eq]
      exact hnative
    obtain ⟨more', rest', hsplit', htakes', hok'⟩ :=
      ih (fun op' hmem => hops op' (List.mem_cons_of_mem _ hmem)) hnative'
        (hstyled.run hfresh hop.keepsDocument)
    rw [htakes.remaining_eq hsplit] at hsplit'
    refine ⟨more ++ more', rest', ?_, htakes.append htakes', fun before after h hresult => ?_⟩
    · rw [hsplit, hsplit', List.append_assoc]
    · cases before with
      | nil =>
        obtain ⟨rfl, rfl⟩ := List.cons.inj h
        -- once an attempt succeeds nothing is left, and so it stays
        have hrest := hok rfl hresult
        rw [hrest] at hsplit'
        exact (List.append_eq_nil_iff.mp hsplit'.symm).2
      | cons first before =>
        obtain ⟨rfl, rfl⟩ := List.cons.inj h
        exact hok' before after rfl hresult

/-- Take a document, with fresh identities as in every document that was constructed, whose page is
not shown by something that knows media queries itself, a source that answers to each reference by
itself, and any run of attempts to load the stylesheets of the document with passes and resizes
between them, whatever the listeners do. What the source is asked for are the references of the
document to stylesheets of the page itself, each once and in document order, up to some point; and
all of them as soon as an attempt succeeds. The rules in the store are then those that come from
taking in one sheet for each reference, the one for its first link, in document order and without
an interruption. -/
theorem loading_resumes_where_it_stopped (document : Document) (hfresh : document.IsFresh)
    (viewport : Viewport) (now : Nat) (host : σ) (setup ops : List (Operation σ))
    (answer : String → Except Failure (Option String))
    (hsetup : ∀ op ∈ setup, op.keepsDocument = true ∧ ∀ source, op ≠ .update source)
    (hnative : (runAll setup (ofDocument document viewport now host)).config.native = false)
    (hops : ∀ op ∈ ops, op.Loads (.ofFunction answer)) :
    let e := runAll setup (ofDocument document viewport now host)
    let own := document.ownLinks e.config.pageHost
    reportedFetches ops e <+: (own.map (·.href)).eraseDups ∧
      (reportedFetches ops e).Nodup ∧
      ∀ before after, ops = before ++ .update (.ofFunction answer) :: after →
        ((runAll before e).update (.ofFunction answer)).result = .ok () →
          reportedFetches ops e = (own.map (·.href)).eraseDups ∧
            (runAll ops e).store = (runAll (parsesOf answer (firstLinks own)) e).store := by
  intro e own
  have hstyled : e.HasStyled document :=
    HasStyled.runAll hfresh (fun op hop => (hsetup op hop).1) ⟨[], .refl document⟩
  -- nothing was asked for before the run, as there was no attempt
  have hparsed : e.parsedSheets = [] := by
    let start := ofDocument document viewport now host
    have hhistory : (runSteps (history setup start) start).parsedSheets = [] := by
      refine runSteps_invariant (P := fun e => e.parsedSheets = []) (fun step hstep e he => ?_) rfl
      rw [Step.parsedSheets_run ?_ e, he]
      rintro href rfl
      obtain ⟨source, hmem⟩ := update_mem_of_ask_mem_history hstep
      exact (hsetup _ hmem).2 source rfl
    rwa [runSteps_history] at hhistory
  have hremaining : e.remaining document = firstLinks own := by
    rw [remaining, hparsed]
    exact List.filter_eq_self.mpr fun link _ => rfl
  obtain ⟨more, rest, hsplit, htakes, hok⟩ := runAll_takes hfresh hops hnative hstyled
  rw [hremaining] at hsplit
  have hfetched := htakes.fetched_eq
  rw [← map_firstLinks, hsplit, List.map_append, ← hfetched]
  refine ⟨List.prefix_append _ _, ?_, fun before after h hresult => ?_⟩
  · have hnodup := nodup_firstLinks own
    rw [hsplit, List.map_append, ← hfetched] at hnodup
    exact (List.nodup_append.mp hnodup).1
  · rw [hok before after h hresult, List.map_nil, List.append_nil, List.append_nil]
    exact ⟨rfl, htakes.store_eq⟩

/-- A document with links to two stylesheets, to one of them twice, and to one of another host. -/
def linkedDocument : Document :=
  (Dom.Row.construct ([⟨0, .element ⟨"html", .html, []⟩⟩, ⟨1, .element ⟨"head", .html, []⟩⟩] ++
    ["a.css", "//[::1]/c.css", "a.css", "b.css"].map fun href =>
      ⟨2, .element ⟨"link", .html, [⟨"rel", "stylesheet"⟩, ⟨"href", href⟩]⟩⟩)).finish

/-- A source that has one stylesheet. -/
def oneSheet (href : String) : Except Failure (Option String) :=
  if href = "a.css" then .ok (some "@media print{a}") else .ok none

/-- An attempt to load stylesheets from it. -/
def loadOneSheet : Operation Unit := .update (.ofFunction oneSheet)

/-- A live query comes to match, and a listener is there that fails. -/
def failingSetup : List (Operation Unit) :=
  [.matchMedia "(min-width: 600px)",
    .host (.act (.addListener 0 (.fail "refused") fun _ => .setWidth 700 .done))]

/-- The first attempt fails after the first sheet, and the second one goes on with the other. -/
theorem second_attempt_loads_the_rest :
    let e := runAll failingSetup (ofDocument linkedDocument (.ofWidth 500) 0 ())
    reportedFetches [loadOneSheet] e = ["a.css"] ∧
      reportedFetches [loadOneSheet, loadOneSheet] e = ["a.css", "b.css"] ∧
      (runAll [loadOneSheet, loadOneSheet] e).store =
        (runAll [.parse "@media print{a}" "a.css" none] e).store := by
  have hsetup : ∀ op ∈ failingSetup, op.keepsDocument = true ∧ ∀ source, op ≠ .update source := by
    intro op hop
    rcases List.mem_cons.mp hop with rfl | hop
    · exact ⟨rfl, fun source => by simp⟩
    · rw [List.mem_singleton.mp hop]
      exact ⟨rfl, fun source => by simp⟩
  have hops : ∀ op ∈ [loadOneSheet, loadOneSheet], op.Loads (.ofFunction oneSheet) := by
    intro op hop
    obtain rfl : op = loadOneSheet := by simpa using hop
    exact .update
  have hlinks : firstLinks (linkedDocument.ownLinks (runAll failingSetup
      (ofDocument linkedDocument (.ofWidth 500) 0 ())).config.pageHost) =
      [⟨"a.css", none⟩, ⟨"b.css", none⟩] := by decide +kernel
  have hok : ((runAll [loadOneSheet] (runAll failingSetup
      (ofDocument linkedDocument (.ofWidth 500) 0 ()))).update (.ofFunction oneSheet)).failure? =
        none := by decide +kernel
  have hparses : parsesOf (σ := Unit) oneSheet [⟨"a.css", none⟩, ⟨"b.css", none⟩] =
      [.parse "@media print{a}" "a.css" none] := by
    simp [parsesOf, oneSheet]
  have hlaw := loading_resumes_where_it_stopped linkedDocument (Dom.Construction.isFresh_finish _)
    (.ofWidth 500) 0 () failingSetup [loadOneSheet, loadOneSheet] oneSheet hsetup rfl hops
  obtain ⟨_, hresult⟩ := Outcome.failure?_eq_none_iff.mp hok
  obtain ⟨hfetched, hstore⟩ := hlaw.2.2 [loadOneSheet] [] rfl hresult
  rw [hlinks, hparses] at hstore
  rw [← map_firstLinks, hlinks] at hfetched
  exact ⟨by decide +kernel, hfetched, hstore⟩

end Engine

end MediaQuery
