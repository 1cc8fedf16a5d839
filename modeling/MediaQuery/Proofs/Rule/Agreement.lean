import MediaQuery.Proofs.Css.Stylesheet
import MediaQuery.Proofs.Rule.Grouping
import MediaQuery.Proofs.Rule.Independence
import MediaQuery.Proofs.Rule.Provenance

/-!
# Stylesheets and live queries agree

A media query list can guard a media rule, it can be the media attribute of a stylesheet, and it can
be the text of a live query. The three are cut out of their surroundings in different ways and end
in different places, but they come to the same: at every width a live query matches exactly if there
is something in the document that its text guards, and there is one fragment of style text for each
entry of the list that holds.

* `sheets_and_queries_agree` — the law for every list and every width
-/

namespace MediaQuery

variable {σ : Type}

/-! ## One list, in two places of a stylesheet -/

/-- A stylesheet, with the media attribute that it is loaded with, holds one rule, and a media query
list guards it. -/
inductive GuardedBy (query : String) : (text : String) → (media : Option String) → Prop where
  /-- The list stands in front of the only block. -/
  | block (body : String) (hquery : Css.IsPrelude query.toList) (hbody : Css.IsBody body.toList) :
    GuardedBy query ("@media " ++ query ++ "\x7b" ++ body ++ "\x7d") none
  /-- The list is the media attribute of a sheet without blocks. -/
  | whole (text : String) (hquery : Blank.allBlank query.toList = false)
    (htext : Css.mediaBlocks text.toList = []) : GuardedBy query text (some query)

theorem Css.IsPrelude.space {cs : List Char} (h : IsPrelude cs) : IsPrelude (' ' :: cs) := by
  obtain ⟨ls, hls, rfl, hopen, hend⟩ := h
  exact ⟨.bare ' ' :: ls, ⟨rfl, by simp, hls⟩, rfl, by simp [hopen], by simp [hend]⟩

/-- The one block of a stylesheet is read back. -/
theorem Css.mediaBlocks_block {query body : List Char} (hquery : IsPrelude query)
    (hbody : IsBody body) :
    mediaBlocks (keyword ++ ((' ' :: query) ++ '{' :: (body ++ ['}']))) =
      [⟨' ' :: query, body⟩] := by
  have hword : IsKeyword keyword := by decide +kernel
  exact mediaBlocks_rule hword ⟨' ', query, rfl, Or.inl rfl⟩ hquery.space hbody

/-- However a list guards a stylesheet, the conditions are those that the list states. -/
theorem GuardedBy.exists_rule {query text : String} {media : Option String}
    (h : GuardedBy query text media) (href : String) : ∃ guard css,
      Rule.ofSheet text href media = [⟨guard, .css css⟩] ∧
        Condition.readList guard = Condition.readList query.toList := by
  cases h with
  | block body hquery hbody =>
    have htext : ("@media " ++ query ++ "\x7b" ++ body ++ "\x7d").toList =
        Css.keyword ++ ((' ' :: query.toList) ++ '{' :: (body.toList ++ ['}'])) := by
      have hword : "@media ".toList = Css.keyword ++ [' '] := by decide +kernel
      simp [hword]
    have hspace : IsPadded (' ' :: query.toList) query.toList :=
      ⟨[' '], [], rfl, rfl, by simp⟩
    refine ⟨' ' :: query.toList,
      String.ofList (Css.relocate body.toList (Css.directory href.toList)), ?_,
      Condition.readList_padded hspace⟩
    unfold Rule.ofSheet Rule.parts
    rw [htext, Css.mediaBlocks_block hquery hbody]
    rfl
  | whole text hquery htext =>
    refine ⟨Blank.trim query.toList,
      String.ofList (Css.relocate text.toList (Css.directory href.toList)), ?_,
      (Condition.readList_padded (Blank.isPadded_trim _)).symm⟩
    unfold Rule.ofSheet Rule.parts
    rw [htext]
    simp only [hquery]
    rfl

/-! ## Fragments in buckets -/

/-- The style texts of all buckets, bucket by bucket. -/
def ActiveSet.fragments (a : ActiveSet) : List String := a.buckets.flatMap Bucket.fragments

namespace ActiveSet

/-- Nothing is lost where style texts are gathered. -/
theorem length_fragments_ofList (texts : List (String × String)) :
    (ofList texts).fragments.length = texts.length :=
  (isGrouping_ofList texts).length_eq

/-- There are buckets exactly if there is style text to gather. -/
theorem buckets_ofList_ne_nil_iff (texts : List (String × String)) :
    (ofList texts).buckets ≠ [] ↔ texts ≠ [] := by
  constructor
  · rintro h rfl
    exact h rfl
  · intro h hnone
    have hlength := length_fragments_ofList texts
    rw [fragments, hnone] at hlength
    exact h (List.length_eq_zero_iff.mp hlength.symm)

end ActiveSet

namespace RuleStore

variable {s : RuleStore}

/-- The style text that one more rule makes active. -/
theorem activeTexts_push (h : ∀ d ∈ s.descriptors, d.rule < s.size) (r : Rule) (width : Float) :
    (s.push r).activeTexts width = s.activeTexts width ++
      (r.conditions.filter (·.isActive width)).filterMap fun c =>
        r.body.css?.map fun css => (c.mediaType, css) :=
  activeTexts_pushRule h r.body r.conditions width

/-- What is active where one rule of a stylesheet and one live query are stored. -/
theorem length_activeTexts_pair (guard query : List Char) (css : String) (number : Nat)
    (width : Float) :
    (((empty.push ⟨guard, .css css⟩).push ⟨query, .query number⟩).activeTexts width).length =
      ((Condition.readList guard).filter (·.isActive width)).length := by
  have hheld := holds_empty.push ⟨guard, .css css⟩
  rw [activeTexts_push hheld.rule_lt, activeTexts_push holds_empty.rule_lt]
  simp [RuleBody.css?, activeTexts, empty, Rule.conditions]

end RuleStore

/-! ## Documents keep their document element -/

namespace Dom

theorem any_modifyFirst (test : Node → Bool) {f : Node → Node}
    (hf : ∀ n, test n = true → test (f n) = true) (nodes : List Node) :
    (modifyFirst test f nodes).any test = nodes.any test := by
  induction nodes with
  | nil => rfl
  | cons n rest ih =>
    rw [modifyFirst]
    split
    · next hn => simp [hn, hf n hn]
    · simp [ih]

namespace Document

theorem isSome_documentElement? (d : Document) :
    d.documentElement?.isSome = d.children.any Node.isElement := by
  rw [Bool.eq_iff_iff, documentElement?, List.find?_isSome, List.any_eq_true]

theorem isElement_setHeadChildren (children : List Node) {root : Node}
    (h : root.isElement = true) : (setHeadChildren children root).isElement = true := by
  cases root with
  | text id content => exact absurd h (by simp [Node.isElement, Node.element?])
  | element id e cs =>
    rw [setHeadChildren]
    split <;> rfl

/-- Other children in the head do not take the document element away. -/
theorem any_isElement_withHeadChildren (d : Document) (children : List Node) :
    (d.withHeadChildren children).children.any Node.isElement = d.children.any Node.isElement :=
  any_modifyFirst Node.isElement (fun _ => isElement_setHeadChildren children) _

theorem isSome_headChildren? (d : Document) :
    d.headChildren?.isSome = d.documentElement?.isSome := by
  rw [headChildren?, head?, Option.isSome_map, Option.isSome_map]

end Document

end Dom

/-- No step takes the document element away. -/
theorem Step.isSome_documentElement? (step : Step σ) (e : Engine σ) :
    (step.run e).document.documentElement?.isSome = e.document.documentElement?.isSome := by
  rw [Dom.Document.isSome_documentElement?, Dom.Document.isSome_documentElement?]
  rcases step.children_document_run e with h | ⟨children, h⟩
  · rw [h]
  · rw [h, Dom.Document.any_isElement_withHeadChildren]

/-- Only registration changes which queries there are. -/
theorem Step.medias_run {step : Step σ} {e : Engine σ} (h : e.HasTrueQueries)
    (hkeeps : step.keepsRules = true) : (step.run e).shared.medias = e.shared.medias := by
  cases step with
  | register media => exact absurd hkeeps Bool.false_ne_true
  | pass => exact Engine.medias_apply h.settled
  | host action =>
    cases action with
    | act program =>
      change (program.run e.shared).2.medias = e.shared.medias
      rw [Shared.medias_eq_map_bare, bare_run, ← Shared.medias_eq_map_bare]
    | _ => rfl
  | _ => rfl

/-! ## The two sides -/

namespace Engine

/-- One stylesheet is stored that a media query list guards, then one live query for the same list,
and the document has an element to put style elements into. -/
structure HoldsBoth (query : String) (e : Engine σ) : Prop where
  isTrue : e.HasTrueQueries
  medias : e.shared.medias = [query]
  root : e.document.documentElement?.isSome = true
  store : ∃ guard css, e.store = (RuleStore.empty.push ⟨guard, .css css⟩).push
      ⟨query.toList, .query 0⟩ ∧ Condition.readList guard = Condition.readList query.toList

theorem HoldsBoth.step {query : String} {e : Engine σ} (h : e.HoldsBoth query) {step : Step σ}
    (hkeeps : step.keepsRules = true) : (step.run e).HoldsBoth query where
  isTrue := h.isTrue.step step
  medias := (step.medias_run h.isTrue hkeeps).trans h.medias
  root := (step.isSome_documentElement? e).trans h.root
  store := by
    rw [Step.store_run hkeeps]
    exact h.store

/-- A pass comes to the same on both sides: style elements are put into the document exactly if the
live query matches, and there is a fragment for each entry of the list that holds. -/
structure Agrees (query : String) (e : Engine σ) : Prop where
  injected : ∃ q, e.apply.engine.shared.queries = [q] ∧ q.media = query ∧
    (e.apply.engine.injected ≠ [] ↔ q.isMatching = true)
  fragments : (e.store.activeAt e.width).fragments.length =
    ((Condition.readList query.toList).filter (·.isActive e.width)).length

/-- There are style elements after a pass exactly if style text is active. -/
theorem injected_apply_ne_nil_iff {e : Engine σ} (h : e.document.documentElement?.isSome = true) :
    e.apply.engine.injected ≠ [] ↔ e.store.activeTexts e.width ≠ [] := by
  obtain ⟨children, hchildren⟩ :=
    Option.isSome_iff_exists.mp ((Dom.Document.isSome_headChildren? _).trans h)
  have hinjected : e.apply.engine.injected =
      Injection.elements e.document.nextId (e.store.activeAt e.width).buckets :=
    congrArg Injection.Result.injected (Injection.inject_eq hchildren e.injected _)
  rw [hinjected, ← ActiveSet.buckets_ofList_ne_nil_iff, ne_eq, ← List.length_eq_zero_iff,
    Injection.length_elements, List.length_eq_zero_iff]
  rfl

theorem HoldsBoth.agrees {query : String} {e : Engine σ} (h : e.HoldsBoth query)
    (hok : e.apply.result = .ok ()) : e.Agrees query := by
  obtain ⟨guard, css, hstore, hguard⟩ := h.store
  have hlength : (e.store.activeTexts e.width).length =
      ((Condition.readList query.toList).filter (·.isActive e.width)).length := by
    rw [hstore, RuleStore.length_activeTexts_pair, hguard]
  constructor
  · have hmedias := (medias_apply h.isTrue.settled).trans h.medias
    obtain ⟨q, hq, hmedia⟩ := List.map_eq_singleton_iff.mp hmedias
    have haccurate : q.isMatching = true ↔
        ∃ c ∈ Condition.readList q.media.toList, c.isActive e.width = true :=
      h.isTrue.leavesQueriesTrue.ok hok q (by rw [hq]; exact List.mem_singleton_self q)
    refine ⟨q, hq, hmedia, ?_⟩
    rw [injected_apply_ne_nil_iff h.root, haccurate, hmedia, ne_eq, ← List.length_eq_zero_iff,
      hlength, List.length_eq_zero_iff, List.filter_eq_nil_iff]
    simp
  · exact (ActiveSet.length_fragments_ofList _).trans hlength

theorem medias_register (e : Engine σ) (media : String) :
    (e.register media).shared.medias = e.shared.medias ++ [media] := by
  simp [register, Shared.medias, LiveQuery.ofMedia]

/-- A stylesheet that is taken in registers no query. -/
theorem queries_parse (document : Dom.Document) (viewport : Viewport) (now : Nat) (host : σ)
    (text href : String) (media : Option String) :
    ((ofDocument document viewport now host).parse text href media).engine.shared.queries = [] := by
  have hstored := (hasTrueQueries_ofDocument document viewport now host).step
    (.store text href media)
  exact List.map_eq_nil_iff.mp (medias_apply hstored.settled)

/-- When a stylesheet that a list guards has been taken in and the live query has been registered,
both are held. -/
theorem holdsBoth_of_guardedBy {query text : String} {media : Option String}
    (h : GuardedBy query text media) (href : String) {document : Dom.Document}
    (hroot : document.documentElement?.isSome = true) (viewport : Viewport) (now : Nat)
    (host : σ) :
    (runSteps [.store text href media, .pass, .register query]
      (ofDocument document viewport now host)).HoldsBoth query where
  isTrue := hasTrueQueries_runSteps document viewport now host _
  medias := by
    have hnone := queries_parse document viewport now host text href media
    refine (medias_register _ query).trans ?_
    have hmedias : ((ofDocument document viewport now host).parse text href
        media).engine.shared.medias = [] := by
      rw [Shared.medias, hnone, List.map_nil]
    exact congrArg (· ++ [query]) hmedias
  root := by
    simp only [runSteps_cons, runSteps_nil, Step.isSome_documentElement?]
    exact hroot
  store := by
    obtain ⟨guard, css, hrules, hguard⟩ := h.exists_rule href
    refine ⟨guard, css, ?_, hguard⟩
    rw [store_runSteps_eq _ (hasTrueQueries_ofDocument document viewport now host)]
    simp only [rulesOf, Step.rules, hrules]
    rfl

/-- Take a document with a document element, a stylesheet that a media query list guards, as the
prelude of its only block or as its media attribute, and a live query for the same list. Both are
taken in successfully, and every pass from then on that succeeds comes to the same on both sides,
whatever the host and listeners do in between and however wide the viewport is. -/
theorem sheets_and_queries_agree (query text href : String) (media : Option String)
    (hguarded : GuardedBy query text media) (document : Dom.Document)
    (hroot : document.documentElement?.isSome = true) (viewport : Viewport) (now : Nat) (host : σ)
    (later : List (Operation σ)) :
    let start := ofDocument document viewport now host
    let parsed := start.parse text href media
    let first := [.store text href media, .pass, .register query]
    (∃ added, parsed.result = .ok added) ∧
      (parsed.engine.matchMedia query).result = .ok 0 ∧
      ∀ before after,
        history (.parse text href media :: .matchMedia query :: later) start =
          first ++ (before ++ .pass :: after) →
        (∀ step ∈ before, step.keepsRules = true) →
        (runSteps (first ++ before) start).apply.result = .ok () →
        (runSteps (first ++ before) start).Agrees query := by
  intro start parsed first
  have hqueries : parsed.engine.shared.queries = [] :=
    queries_parse document viewport now host text href media
  have hsilent : parsed.engine.shared.IsSilent := by
    intro q hq
    rw [hqueries] at hq
    exact absurd hq List.not_mem_nil
  refine ⟨?_, ?_, ?_⟩
  · have hok := result_apply_of_isSilent (e := start.storeSheet text href media)
      (fun q hq => absurd hq List.not_mem_nil)
    exact ⟨_, (result_parse ..).trans (congrArg _ hok)⟩
  · rw [result_matchMedia, result_apply_of_isSilent (isSilent_register hsilent query), hqueries]
    rfl
  · intro before after _ hkeeps hok
    rw [runSteps_append] at hok ⊢
    have hboth := holdsBoth_of_guardedBy hguarded href hroot viewport now host
    exact (runSteps_invariant (P := HoldsBoth query)
      (fun step hstep _ h => h.step (hkeeps step hstep)) hboth).agrees hok

/-- A list of two entries guards the only block of a sheet. The page is wide at first, and when it
has become narrow both entries hold. -/
theorem two_entries_agree_on_a_narrow_page :
    GuardedBy "screen, (max-width: 600px)" "@media screen, (max-width: 600px)\x7ba\x7d" none ∧
      headDocument.documentElement?.isSome = true ∧
      Agrees "screen, (max-width: 600px)"
        (runSteps [.store "@media screen, (max-width: 600px)\x7ba\x7d" "" none, .pass,
          .register "screen, (max-width: 600px)", .pass, .host (.act (.setWidth 500 .done))]
          (ofDocument headDocument (.ofWidth 900) 0 ())) ∧
      ((Condition.readList "screen, (max-width: 600px)".toList).filter
        (·.isActive 500)).length = 2 := by
  have hguarded : GuardedBy "screen, (max-width: 600px)"
      ("@media " ++ "screen, (max-width: 600px)" ++ "\x7b" ++ "a" ++ "\x7d") none :=
    .block "a" (Css.isPrelude_of_plain (forall_mem_of_all (by decide +kernel)))
      ⟨[.bare 'a'], ⟨rfl, by simp, trivial⟩, by decide +kernel, .lexeme (by simp) (by simp) .nil⟩
  have hroot : headDocument.documentElement?.isSome = true := by decide +kernel
  have h := sheets_and_queries_agree _ _ "" none hguarded headDocument hroot (.ofWidth 900) 0 ()
    [.host (.act (.setWidth 500 .done)), .apply]
  have hagrees := h.2.2 [.pass, .host (.act (.setWidth 500 .done))] [] rfl
    (by simp [Step.keepsRules]) (by decide +kernel)
  exact ⟨hguarded, hroot, hagrees, by decide +kernel⟩

end Engine

end MediaQuery
