import Mathlib.Data.List.TakeWhile
import MediaQuery.Proofs.Condition.Entries
import MediaQuery.Proofs.Live.Accuracy

/-!
# Where the rules in the store come from

A rule is a body together with the media query list that it came with. The store of an engine holds
the rules of the steps that were taken, one after the other, and nothing else: `Holds` says how, and
`rulesOf` lists the rules. Whether a listener fails makes no difference to it, because rules are
stored before any listener is called.

* `store_holds_the_rules_of_the_run` — the law for every run
-/

namespace MediaQuery

variable {σ : Type}

/-! ## Rules -/

/-- A body and the media query list that it came with. -/
structure Rule where
  guard : List Char
  body : RuleBody

namespace Rule

/-- The conditions of which one must hold. -/
def conditions (r : Rule) : List Condition := Condition.readList r.guard

/-- The parts of a stylesheet that are guarded, as they were written: its media rules, or else the
sheet as a whole if it was loaded with a media attribute that is not blank. -/
def parts (text : String) (media : Option String) : List Css.RawBlock :=
  match Css.mediaBlocks text.toList, media with
  | [], some m => if Blank.allBlank m.toList then [] else [⟨Blank.trim m.toList, text.toList⟩]
  | blocks, _ => blocks

/-- The rules of the stylesheet `text` found at `href`, loaded with the media attribute `media`. -/
def ofSheet (text href : String) (media : Option String) : List Rule :=
  (parts text media).map fun part =>
    ⟨part.prelude, .css (String.ofList (Css.relocate part.body (Css.directory href.toList)))⟩

end Rule

/-- The rules that a step stores, if that many queries were registered before. -/
def Step.rules (queries : Nat) : Step σ → List Rule
  | store text href media => Rule.ofSheet text href media
  | register media => [⟨media.toList, .query queries⟩]
  | _ => []

/-- The number of queries after a step. -/
def Step.queries (queries : Nat) : Step σ → Nat
  | register _ => queries + 1
  | _ => queries

/-- The rules that some steps store, if that many queries were registered before. -/
def rulesOf : (queries : Nat) → List (Step σ) → List Rule
  | _, [] => []
  | queries, step :: rest => step.rules queries ++ rulesOf (step.queries queries) rest

/-! ## Stores that hold rules -/

namespace RuleStore

variable {s : RuleStore} {rules : List Rule}

/-- The store with one more rule. -/
def push (s : RuleStore) (r : Rule) : RuleStore := (s.pushRule r.body r.conditions).2

/-- The store with some more rules. -/
def pushAll (s : RuleStore) (rules : List Rule) : RuleStore := rules.foldl push s

/-- The store holds these rules in their order, each under its index, and nothing else. -/
structure Holds (s : RuleStore) (rules : List Rule) : Prop where
  bodies_eq : s.bodies = rules.map Rule.body
  rule_lt : ∀ d ∈ s.descriptors, d.rule < s.size
  sorted : s.descriptors.Pairwise fun d d' => d.rule ≤ d'.rule
  /-- The conditions of a rule are those that its media query list states, in order. -/
  conditions_eq : ∀ i r, rules[i]? = some r →
    (s.descriptors.filter (·.rule == i)).map Descriptor.condition = Condition.readList r.guard
  /-- No body goes without a condition. -/
  exists_descriptor : ∀ i < s.size, ∃ d ∈ s.descriptors, d.rule = i

/-- The conditions that a store has under an index, in order. -/
def conditionsAt (s : RuleStore) (i : Nat) : List Condition :=
  (s.descriptors.filter (·.rule == i)).map Descriptor.condition

theorem size_push (s : RuleStore) (r : Rule) : (s.push r).size = s.size + 1 := by
  simp [push, pushRule, size]

/-- A new rule has its conditions under the next index, and no other index gets any. -/
theorem conditionsAt_push (s : RuleStore) (r : Rule) (i : Nat) :
    (s.push r).conditionsAt i = s.conditionsAt i ++ if s.size = i then r.conditions else [] := by
  change ((s.descriptors ++ r.conditions.map fun c => (⟨c, s.size⟩ : Descriptor)).filter
    (·.rule == i)).map Descriptor.condition = _
  rw [List.filter_append, List.map_append, conditionsAt, List.filter_map, List.map_map]
  split
  · next he => simp [Function.comp_def, he]
  · next he => simp [Function.comp_def, he]

theorem conditionsAt_size (h : ∀ d ∈ s.descriptors, d.rule < s.size) :
    s.conditionsAt s.size = [] := by
  rw [conditionsAt, List.map_eq_nil_iff, List.filter_eq_nil_iff]
  intro d hd
  simpa using Nat.ne_of_lt (h d hd)

theorem holds_empty : empty.Holds [] where
  bodies_eq := rfl
  rule_lt := by simp [empty]
  sorted := .nil
  conditions_eq := by simp
  exists_descriptor := by simp [size, empty]

theorem Holds.size_eq (h : s.Holds rules) : s.size = rules.length := by
  rw [size, h.bodies_eq, List.length_map]

/-- One more rule is held under the next index. -/
theorem Holds.push (h : s.Holds rules) (r : Rule) : (s.push r).Holds (rules ++ [r]) where
  bodies_eq := by
    rw [List.map_append, ← h.bodies_eq]
    rfl
  rule_lt := rule_lt_pushRule h.rule_lt _ _
  sorted := by
    refine List.pairwise_append.mpr ⟨h.sorted, ?_, ?_⟩
    · exact List.pairwise_map.mpr (List.pairwise_iff_getElem.mpr fun _ _ _ _ _ => Nat.le_refl _)
    · intro d hd d' hd'
      obtain ⟨c, -, rfl⟩ := List.mem_map.mp hd'
      exact Nat.le_of_lt (h.rule_lt d hd)
  conditions_eq := by
    intro i r' hr'
    refine (conditionsAt_push s r i).trans ?_
    by_cases hi : i < rules.length
    · rw [List.getElem?_append_left hi] at hr'
      rw [if_neg (by rw [h.size_eq]; omega), List.append_nil]
      exact h.conditions_eq i r' hr'
    · obtain rfl : i = rules.length := by
        have hlt := (List.getElem?_eq_some_iff.mp hr').1
        rw [List.length_append, List.length_singleton] at hlt
        omega
      rw [List.getElem?_concat_length] at hr'
      obtain rfl := Option.some.inj hr'
      rw [← h.size_eq, conditionsAt_size h.rule_lt, if_pos rfl]
      rfl
  exists_descriptor := by
    intro i hi
    rw [size_push] at hi
    by_cases hlt : i < s.size
    · obtain ⟨d, hd, hrule⟩ := h.exists_descriptor i hlt
      exact ⟨d, List.mem_append_left _ hd, hrule⟩
    · obtain ⟨c, rest, hc⟩ := List.exists_cons_of_ne_nil (Condition.readList_ne_nil r.guard)
      refine ⟨⟨c, s.size⟩, List.mem_append_right _ (List.mem_map.mpr ⟨c, ?_, rfl⟩), by
        change s.size = i; omega⟩
      rw [Rule.conditions, hc]
      exact List.mem_cons_self ..

theorem Holds.pushAll (h : s.Holds rules) (more : List Rule) :
    (s.pushAll more).Holds (rules ++ more) := by
  induction more generalizing s rules with
  | nil => rwa [List.append_nil]
  | cons r more ih =>
    rw [List.append_cons]
    exact ih (h.push r)

/-- What is in a store stays in front of what is added. -/
theorem prefix_pushAll (s : RuleStore) (more : List Rule) :
    s.bodies <+: (s.pushAll more).bodies ∧ s.descriptors <+: (s.pushAll more).descriptors := by
  induction more generalizing s with
  | nil => exact ⟨List.prefix_rfl, List.prefix_rfl⟩
  | cons r more ih =>
    obtain ⟨hb, hd⟩ := ih (s.push r)
    exact ⟨(List.prefix_append _ _).trans hb, (List.prefix_append _ _).trans hd⟩

@[simp] theorem pushAll_append (s : RuleStore) (a b : List Rule) :
    s.pushAll (a ++ b) = (s.pushAll a).pushAll b := List.foldl_append

end RuleStore

/-! ## Storing stylesheets -/

theorem Blank.trim_eq_nil_iff (cs : List Char) : trim cs = [] ↔ allBlank cs = true := by
  constructor
  · intro h
    rw [Condition.allBlank_padded (isPadded_trim cs), h]
    rfl
  · intro h
    have hleft : trimLeft cs = [] := List.dropWhile_eq_nil_iff.mpr (List.all_eq_true.mp h)
    rw [trim, hleft]
    rfl

/-- The guarded blocks of a stylesheet are what its rules are read from. -/
theorem MediaBlock.ofSheet_eq_map (text href : String) (media : Option String) :
    ofSheet text href media = (Rule.parts text media).map fun part =>
      guarded part.prelude part.body (Css.directory href.toList) := by
  unfold ofSheet Rule.parts
  cases Css.mediaBlocks text.toList with
  | cons block rest => rfl
  | nil =>
    cases media with
    | none => rfl
    | some m =>
      have hempty : (Blank.trim m.toList).isEmpty = Blank.allBlank m.toList := by
        rw [Bool.eq_iff_iff, List.isEmpty_iff, Blank.trim_eq_nil_iff]
      simp only [Option.map_some, Option.filter_some, hempty]
      cases Blank.allBlank m.toList <;> rfl

namespace Engine

open RuleStore (Holds)

/-- Storing a stylesheet is adding its rules. -/
theorem storeBlocks_ofSheet (store : RuleStore) (text href : String) (media : Option String) :
    (storeBlocks store (MediaBlock.ofSheet text href media)).2 =
      store.pushAll (Rule.ofSheet text href media) := by
  rw [storeBlocks_store, MediaBlock.ofSheet_eq_map, Rule.ofSheet, RuleStore.pushAll,
    List.foldl_map, List.foldl_map]
  rfl

/-- What is given back of a stylesheet are the descriptors that were added. -/
theorem descriptors_storeBlocks (blocks : List MediaBlock) (store : RuleStore) :
    (storeBlocks store blocks).2.descriptors =
      store.descriptors ++ (storeBlocks store blocks).1 := by
  refine List.foldlRecOn
    (motive := fun stored : List Descriptor × RuleStore =>
      stored.2.descriptors = store.descriptors ++ stored.1)
    blocks _ (List.append_nil _).symm ?_
  rintro ⟨added, s⟩ h block -
  have hstored : s.descriptors = store.descriptors ++ added := h
  simp [RuleStore.pushRule, hstored]

end Engine

/-! ## Passes without listeners -/

namespace Shared

/-- Nobody listens to any query. -/
def IsSilent (s : Shared σ) : Prop := ∀ q ∈ s.queries, q.listeners = []

variable {s : Shared σ}

theorem IsSilent.record (h : s.IsSilent) (found : Nat → Bool) : (s.record found).IsSilent := by
  intro q hq
  obtain ⟨i, hi⟩ := List.getElem?_of_mem hq
  rw [Shared.record, List.getElem?_mapIdx] at hi
  obtain ⟨q', hq', rfl⟩ := Option.map_eq_some_iff.mp hi
  exact h q' (List.mem_of_getElem? hq')

theorem IsSilent.modifyQuery_commit (h : s.IsSilent) (number : Nat) :
    (s.modifyQuery number LiveQuery.commit).IsSilent := by
  intro q hq
  obtain ⟨i, hi⟩ := List.getElem?_of_mem hq
  rw [Shared.modifyQuery, List.getElem?_modify] at hi
  obtain ⟨q', hq', rfl⟩ := Option.map_eq_some_iff.mp hi
  split
  · exact h q' (List.mem_of_getElem? hq')
  · exact h q' (List.mem_of_getElem? hq')

theorem IsSilent.settle (h : s.IsSilent) (number : Nat) :
    (s.settle number).failure = none ∧ (s.settle number).shared.IsSilent ∧
      (s.settle number).shared.viewport = s.viewport := by
  rw [Shared.settle]
  cases hq : s.queries[number]? with
  | none => exact ⟨rfl, h, rfl⟩
  | some q =>
    have hslots : q.nextSlot = 0 := by
      rw [LiveQuery.nextSlot, h q (List.mem_of_getElem? hq), List.length_nil]
    simp only [hslots]
    split
    · exact ⟨rfl, h.modifyQuery_commit number, rfl⟩
    · exact ⟨rfl, h, rfl⟩

/-- Where nobody listens, nothing fails, and a round leaves it so and the viewport alone. -/
theorem IsSilent.settleAll (h : s.IsSilent) (numbers : List Nat) :
    (s.settleAll numbers).failure = none ∧ (s.settleAll numbers).shared.IsSilent ∧
      (s.settleAll numbers).shared.viewport = s.viewport := by
  induction numbers generalizing s with
  | nil => exact ⟨rfl, h, rfl⟩
  | cons number rest ih =>
    obtain ⟨hok, hsilent, hviewport⟩ := h.settle number
    obtain ⟨hrest, hsilent', hviewport'⟩ := ih hsilent
    rw [Shared.settleAll, Round.andThen_of_ok hok]
    exact ⟨hrest, hsilent', hviewport'.trans hviewport⟩

theorem isSilent_bare (s : Shared σ) : IsSilent { s with queries := s.bare } := by
  intro q hq
  obtain ⟨q', -, rfl⟩ := List.mem_map.mp hq
  rfl

end Shared

namespace Engine

theorem result_apply_of_isSilent {e : Engine σ} (h : e.shared.IsSilent) :
    e.apply.result = .ok () :=
  (result_apply_eq_ok_iff e).mpr ((h.record _).settleAll _).1

theorem isSilent_register {e : Engine σ} (h : e.shared.IsSilent) (media : String) :
    (e.register media).shared.IsSilent := by
  intro q hq
  rcases List.mem_append.mp hq with hq | hq
  · exact h q hq
  · rw [List.mem_singleton.mp hq]
    rfl

/-- The engine with all listeners taken away. -/
def silenced (e : Engine σ) : Engine σ :=
  { e with shared := { e.shared with queries := e.shared.bare } }

end Engine

/-! ## Steps and runs -/

theorem Step.length_queries {e : Engine σ} (h : e.HasTrueQueries) (step : Step σ) :
    (step.run e).shared.queries.length = step.queries e.shared.queries.length := by
  cases step with
  | register media => exact List.length_append
  | pass =>
    have hmedias := congrArg List.length (Engine.medias_apply h.settled)
    rwa [Shared.length_medias, Shared.length_medias] at hmedias
  | host action =>
    cases action with
    | act program =>
      change (program.run e.shared).2.queries.length = e.shared.queries.length
      rw [← Shared.length_bare, bare_run, Shared.length_bare]
    | _ => rfl
  | _ => rfl

/-- A step adds its rules to the store and leaves it alone otherwise. -/
theorem Step.store_eq (step : Step σ) (e : Engine σ) :
    (step.run e).store = e.store.pushAll (step.rules e.shared.queries.length) := by
  cases step with
  | store text href media => exact Engine.storeBlocks_ofSheet e.store text href media
  | host action => cases action <;> rfl
  | _ => rfl

theorem store_runSteps_eq (steps : List (Step σ)) : ∀ {e : Engine σ}, e.HasTrueQueries →
    (runSteps steps e).store = e.store.pushAll (rulesOf e.shared.queries.length steps) := by
  induction steps with
  | nil => exact fun _ => rfl
  | cons step steps ih =>
    intro e h
    rw [runSteps_cons, ih (h.step step), step.store_eq, step.length_queries h, rulesOf,
      RuleStore.pushAll_append]

namespace Engine

variable {e : Engine σ}

/-- Rules that a run has stored stay in front of those that are stored later. -/
theorem prefix_runAll (h : e.HasTrueQueries) (ops : List (Operation σ)) :
    e.store.bodies <+: (runAll ops e).store.bodies ∧
      e.store.descriptors <+: (runAll ops e).store.descriptors := by
  rw [← runSteps_history, store_runSteps_eq _ h]
  exact RuleStore.prefix_pushAll _ _

/-- What a stylesheet does to the store of an engine. -/
structure ParseStores (e : Engine σ) (text href : String) (media : Option String) : Prop where
  /-- The rules of the sheet are added, whether or not a listener fails. -/
  store_eq : (e.parse text href media).engine.store = e.store.pushAll (Rule.ofSheet text href media)
  /-- What is given back is what was added. -/
  descriptors_eq : ∀ added, (e.parse text href media).result = .ok added →
    (e.parse text href media).engine.store.descriptors = e.store.descriptors ++ added
  /-- Without listeners the sheet is taken in successfully, and the same rules are added. -/
  silenced : (∃ added, (e.silenced.parse text href media).result = .ok added) ∧
    (e.silenced.parse text href media).engine.store = (e.parse text href media).engine.store

/-- What a new live query does to the store of an engine. -/
structure MatchMediaStores (e : Engine σ) (media : String) : Prop where
  store_eq : (e.matchMedia media).engine.store =
    e.store.push ⟨media.toList, .query e.shared.queries.length⟩
  silenced : (e.silenced.matchMedia media).result = .ok e.shared.queries.length ∧
    (e.silenced.matchMedia media).engine.store = (e.matchMedia media).engine.store

theorem result_matchMedia (e : Engine σ) (media : String) :
    (e.matchMedia media).result =
      (e.register media).apply.result.map fun _ => e.shared.queries.length := rfl

theorem parseStores (e : Engine σ) (text href : String) (media : Option String) :
    e.ParseStores text href media where
  store_eq := storeBlocks_ofSheet e.store text href media
  descriptors_eq := by
    intro added hok
    have hadded : (storeBlocks e.store (MediaBlock.ofSheet text href media)).1 = added := by
      rw [result_parse] at hok
      cases hresult : (e.storeSheet text href media).apply.result with
      | error failure =>
        rw [hresult] at hok
        exact absurd hok (by simp [Except.map])
      | ok _ =>
        rw [hresult] at hok
        exact Except.ok.inj hok
    rw [← hadded]
    exact descriptors_storeBlocks _ e.store
  silenced := by
    refine ⟨?_, rfl⟩
    have hok := result_apply_of_isSilent (e := e.silenced.storeSheet text href media)
      e.shared.isSilent_bare
    rw [result_parse, hok]
    exact ⟨_, rfl⟩

theorem matchMediaStores (e : Engine σ) (media : String) : e.MatchMediaStores media where
  store_eq := rfl
  silenced := by
    have hlength : e.silenced.shared.queries.length = e.shared.queries.length :=
      e.shared.length_bare
    have hok := result_apply_of_isSilent (isSilent_register e.shared.isSilent_bare media
      (e := e.silenced))
    constructor
    · rw [result_matchMedia, hok, hlength]
      rfl
    · change e.store.push ⟨media.toList, .query e.silenced.shared.queries.length⟩ = _
      rw [hlength]
      rfl

/-- After any run, whatever failed in it, the store holds the rules of the steps that were taken,
and what it held after the first operations stands unchanged in front. A stylesheet or a live query
adds its rules whether or not a listener fails: they are those that are added when nobody listens
and all goes well. A stylesheet that is taken in successfully gives back what it added. -/
theorem store_holds_the_rules_of_the_run (document : Dom.Document) (viewport : Viewport)
    (now : Nat) (host : σ) (ops : List (Operation σ)) :
    let start := ofDocument document viewport now host
    let e := runAll ops start
    e.store.Holds (rulesOf 0 (history ops start)) ∧
      (∀ before after, ops = before ++ after →
        (runAll before start).store.bodies <+: e.store.bodies ∧
          (runAll before start).store.descriptors <+: e.store.descriptors) ∧
      (∀ text href media, e.ParseStores text href media) ∧
      ∀ media, e.MatchMediaStores media := by
  intro start e
  have hstart : start.HasTrueQueries := hasTrueQueries_ofDocument document viewport now host
  refine ⟨?_, ?_, e.parseStores, e.matchMediaStores⟩
  · have hstore := store_runSteps_eq (history ops start) hstart
    rw [runSteps_history] at hstore
    rw [hstore]
    exact RuleStore.holds_empty.pushAll _
  · rintro before after rfl
    have hbefore : (runAll before start).HasTrueQueries := by
      rw [← runSteps_history]
      exact hasTrueQueries_runSteps document viewport now host _
    have hafter : e = runAll after (runAll before start) := List.foldl_append
    rw [hafter]
    exact prefix_runAll hbefore after

end Engine

end MediaQuery
