import Mathlib.Data.List.Basic
import MediaQuery.Engine.Basic

/-!
# Conditions of live queries in the store

The store knows live queries by their numbers. `Links` says that it knows all of them, in order of
registration, and that the conditions which it holds for a number are those that the text of the
query states, so that what `matchesAt` finds about a number is what the text means. Rules of
stylesheets and new queries keep it so.
-/

namespace MediaQuery

namespace RuleStore

variable {s : RuleStore} {medias : List String}

/-- The store holds the live queries, of which the texts are given in order of registration, and for
each of them exactly the conditions that its text states. -/
structure Links (s : RuleStore) (medias : List String) : Prop where
  rule_lt : ∀ d ∈ s.descriptors, d.rule < s.size
  queries_eq : s.queries = List.range medias.length
  matchesAt_eq : ∀ number media, medias[number]? = some media → ∀ width : Float,
    s.matchesAt width number = (Condition.readList media.toList).any (·.isActive width)

theorem links_empty : Links empty [] where
  rule_lt := by simp [empty]
  queries_eq := rfl
  matchesAt_eq := by simp

theorem Links.number_lt (h : s.Links medias) {number : Nat}
    (hn : RuleBody.query number ∈ s.bodies) : number < medias.length := by
  have hmem : number ∈ s.queries := List.mem_filterMap.mpr ⟨_, hn, rfl⟩
  rw [h.queries_eq] at hmem
  exact List.mem_range.mp hmem

/-- A rule adds to the live queries in the store what its body adds. -/
theorem queries_pushRule (body : RuleBody) (conditions : List Condition) :
    (s.pushRule body conditions).2.queries = s.queries ++ body.query?.toList := by
  simp only [queries, pushRule, List.filterMap_append, List.filterMap_cons, List.filterMap_nil]
  cases body.query? <;> rfl

/-- A body that is there stays in its place. -/
theorem body?_pushRule_of_lt {rule : Nat} (h : rule < s.size) (body : RuleBody)
    (conditions : List Condition) : (s.pushRule body conditions).2.body? rule = s.body? rule := by
  simp only [pushRule, body?]
  exact List.getElem?_append_left h

theorem body?_pushRule_self (body : RuleBody) (conditions : List Condition) :
    (s.pushRule body conditions).2.body? s.size = some body := by
  simp [pushRule, body?, size]

/-- What a store with one more rule finds about a live query. -/
theorem matchesAt_pushRule (h : ∀ d ∈ s.descriptors, d.rule < s.size) (body : RuleBody)
    (conditions : List Condition) (width : Float) (number : Nat) :
    (s.pushRule body conditions).2.matchesAt width number =
      (s.matchesAt width number ||
        (conditions.any (·.isActive width) && body.query? == some number)) := by
  have hold : (s.descriptors.any fun d => d.condition.isActive width &&
      ((s.pushRule body conditions).2.body? d.rule).bind RuleBody.query? == some number) =
        s.matchesAt width number := by
    rw [Bool.eq_iff_iff, matchesAt, List.any_eq_true, List.any_eq_true]
    exact exists_congr fun d => and_congr_right fun hd => by rw [body?_pushRule_of_lt (h d hd)]
  have hnew : ((conditions.map fun condition => (⟨condition, s.size⟩ : Descriptor)).any fun d =>
      d.condition.isActive width &&
        ((s.pushRule body conditions).2.body? d.rule).bind RuleBody.query? == some number) =
      (conditions.any (·.isActive width) && body.query? == some number) := by
    rw [List.any_map]
    simp only [Function.comp_def, body?_pushRule_self, Option.bind_some]
    cases body.query? == some number <;> simp
  rw [← hold, ← hnew, ← List.any_append]
  rfl

/-- The style text that one more rule makes active. -/
theorem activeTexts_pushRule (h : ∀ d ∈ s.descriptors, d.rule < s.size) (body : RuleBody)
    (conditions : List Condition) (width : Float) :
    (s.pushRule body conditions).2.activeTexts width = s.activeTexts width ++
      (conditions.filter (·.isActive width)).filterMap fun c =>
        body.css?.map fun css => (c.mediaType, css) := by
  have hold : s.descriptors.filterMap ((s.pushRule body conditions).2.activeText? width) =
      s.activeTexts width := by
    refine List.filterMap_congr fun d hd => ?_
    rw [activeText?, activeText?, body?_pushRule_of_lt (h d hd)]
  have hnew : (conditions.map fun c => (⟨c, s.size⟩ : Descriptor)).filterMap
      ((s.pushRule body conditions).2.activeText? width) =
        (conditions.filter (·.isActive width)).filterMap fun c =>
          body.css?.map fun css => (c.mediaType, css) := by
    rw [List.filterMap_map, List.filterMap_filter]
    refine List.filterMap_congr fun c _ => ?_
    simp only [Function.comp_apply, activeText?, body?_pushRule_self, Option.bind_some]
  rw [← hold, ← hnew, ← List.filterMap_append]
  rfl

theorem rule_lt_pushRule (h : ∀ d ∈ s.descriptors, d.rule < s.size) (body : RuleBody)
    (conditions : List Condition) : ∀ d ∈ (s.pushRule body conditions).2.descriptors,
      d.rule < (s.pushRule body conditions).2.size := by
  intro d hd
  have hsize : (s.pushRule body conditions).2.size = s.size + 1 := by simp [pushRule, size]
  rw [hsize]
  rcases List.mem_append.mp hd with hd | hd
  · exact Nat.lt_succ_of_lt (h d hd)
  · obtain ⟨c, _, rfl⟩ := List.mem_map.mp hd
    exact Nat.lt_succ_self _

/-- Rules of stylesheets do not touch live queries. -/
theorem Links.pushCss (h : s.Links medias) (css : String) (conditions : List Condition) :
    (s.pushRule (.css css) conditions).2.Links medias where
  rule_lt := rule_lt_pushRule h.rule_lt _ _
  queries_eq := by rw [queries_pushRule, h.queries_eq]; exact List.append_nil _
  matchesAt_eq := by
    intro number media hm width
    rw [matchesAt_pushRule h.rule_lt, h.matchesAt_eq number media hm width]
    simp [RuleBody.query?]

/-- A number that was not given out matches nowhere. -/
theorem Links.matchesAt_new (h : s.Links medias) (width : Float) :
    s.matchesAt width medias.length = false := by
  rw [matchesAt, List.any_eq_false]
  intro d _ hd
  simp only [Bool.and_eq_true, beq_iff_eq] at hd
  obtain ⟨body, hbody, hq⟩ := Option.bind_eq_some_iff.mp hd.2
  cases body with
  | css text => simp [RuleBody.query?] at hq
  | query number =>
    have hn : number = medias.length := by simpa [RuleBody.query?] using hq
    exact absurd (h.number_lt (List.mem_of_getElem? hbody)) (by omega)

/-- A new live query comes with the conditions that its text states. -/
theorem Links.register (h : s.Links medias) (media : String) :
    (s.pushRule (.query medias.length) (Condition.readList media.toList)).2.Links
      (medias ++ [media]) where
  rule_lt := rule_lt_pushRule h.rule_lt _ _
  queries_eq := by
    rw [queries_pushRule, h.queries_eq, List.length_append, List.length_singleton, List.range_succ]
    rfl
  matchesAt_eq := by
    intro number text hm width
    rw [matchesAt_pushRule h.rule_lt]
    by_cases hn : number < medias.length
    -- the new conditions carry the new number only, and no old one carries it
    · rw [List.getElem?_append_left hn] at hm
      rw [h.matchesAt_eq number text hm width]
      have : medias.length ≠ number := by omega
      simp [RuleBody.query?, this]
    · have heq : number = medias.length := by
        have := (List.getElem?_eq_some_iff.mp hm).1
        rw [List.length_append, List.length_singleton] at this
        omega
      subst heq
      have htext : text = media := by simpa using hm.symm
      rw [h.matchesAt_new, htext]
      simp [RuleBody.query?]

end RuleStore

namespace Engine

/-- Storing blocks is adding one rule after the other. -/
theorem storeBlocks_store (blocks : List MediaBlock) (store : RuleStore) :
    (storeBlocks store blocks).2 =
      blocks.foldl (fun s block => (s.pushRule (.css block.body) block.conditions).2) store := by
  unfold storeBlocks
  exact (List.foldl_hom Prod.snd fun _ _ => rfl).symm

theorem links_storeBlocks {medias : List String} (blocks : List MediaBlock) :
    ∀ {store : RuleStore}, store.Links medias → (storeBlocks store blocks).2.Links medias := by
  intro store h
  rw [storeBlocks_store]
  induction blocks generalizing store with
  | nil => exact h
  | cons block rest ih => exact ih (h.pushCss block.body block.conditions)

end Engine

end MediaQuery
