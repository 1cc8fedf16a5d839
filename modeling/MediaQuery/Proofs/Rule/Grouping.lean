import Mathlib.Data.List.Nodup
import MediaQuery.Rule.Active

/-!
# How active style text is gathered

Gathered by media type, style texts fall into groups: one for each type that occurs, the types in
the order in which they first occur, and in each group the texts of its type in the order in which
they came. `IsGrouping` says so without a word on how they are gathered; one more text keeps it so
(`IsGrouping.insert`), and with that the buckets of an active set are such groups, whatever the
order in which bodies and descriptors went into the store.

* `active_texts_are_grouped` — the law for every store and every width
-/

namespace MediaQuery

variable {texts : List (String × String)} {buckets : List Bucket} {mediaType css : String}

/-! ## Groups -/

/-- The texts of a media type, in order. -/
def textsOf (mediaType : String) (texts : List (String × String)) : List String :=
  (texts.filter (·.1 == mediaType)).map Prod.snd

/-- Buckets are the groups of a list of style texts with their media types. -/
structure IsGrouping (texts : List (String × String)) (buckets : List Bucket) : Prop where
  /-- There is a bucket for each media type that occurs, and for no other. -/
  mem_types_iff : ∀ mediaType,
    mediaType ∈ buckets.map Bucket.mediaType ↔ mediaType ∈ texts.map Prod.fst
  /-- No media type has two buckets. -/
  nodup : (buckets.map Bucket.mediaType).Nodup
  /-- A bucket stands before another if its media type occurs before the other's. -/
  ordered : (buckets.map Bucket.mediaType).Pairwise fun a b =>
    (texts.map Prod.fst).idxOf a < (texts.map Prod.fst).idxOf b
  /-- A bucket holds the texts of its media type, in order, and no other. -/
  fragments_eq : ∀ b ∈ buckets, b.fragments = textsOf b.mediaType texts
  /-- No bucket is empty. -/
  fragments_ne_nil : ∀ b ∈ buckets, b.fragments ≠ []
  /-- Nothing is lost, and nothing is there twice. -/
  length_eq : (buckets.flatMap Bucket.fragments).length = texts.length

theorem isGrouping_nil : IsGrouping [] [] where
  mem_types_iff := by simp
  nodup := .nil
  ordered := .nil
  fragments_eq := by simp
  fragments_ne_nil := by simp
  length_eq := rfl

theorem textsOf_of_not_mem (h : mediaType ∉ texts.map Prod.fst) : textsOf mediaType texts = [] := by
  have hnone : texts.filter (·.1 == mediaType) = [] := by
    rw [List.filter_eq_nil_iff]
    rintro text hmem heq
    exact h (List.mem_map.mpr ⟨text, hmem, by simpa using heq⟩)
  rw [textsOf, hnone, List.map_nil]

theorem textsOf_concat (t : String) (texts : List (String × String)) (mediaType css : String) :
    textsOf t (texts ++ [(mediaType, css)]) =
      textsOf t texts ++ if mediaType = t then [css] else [] := by
  by_cases h : mediaType = t <;> simp [textsOf, h]

/-- A text goes to the end of the first bucket of its media type, or into a new one at the end if
there is none. -/
theorem Bucket.insert_cases (mediaType css : String) (buckets : List Bucket) :
    (mediaType ∉ buckets.map Bucket.mediaType ∧
        Bucket.insert mediaType css buckets = buckets ++ [⟨mediaType, [css]⟩]) ∨
      ∃ before fragments after, buckets = before ++ ⟨mediaType, fragments⟩ :: after ∧
        Bucket.insert mediaType css buckets =
          before ++ ⟨mediaType, fragments ++ [css]⟩ :: after := by
  induction buckets with
  | nil => exact Or.inl ⟨by simp, rfl⟩
  | cons b rest ih =>
    obtain ⟨t, fragments⟩ := b
    by_cases ht : t = mediaType
    · subst ht
      exact Or.inr ⟨[], fragments, rest, rfl, by simp [Bucket.insert]⟩
    · have hinsert : Bucket.insert mediaType css (⟨t, fragments⟩ :: rest) =
          ⟨t, fragments⟩ :: Bucket.insert mediaType css rest := by simp [Bucket.insert, ht]
      rw [hinsert]
      rcases ih with ⟨hnew, heq⟩ | ⟨before, fragments', after, rfl, heq⟩
      · exact Or.inl ⟨by simpa [Ne.symm ht] using hnew, by rw [heq]; rfl⟩
      · exact Or.inr ⟨⟨t, fragments⟩ :: before, fragments', after, rfl, by rw [heq]; rfl⟩

namespace IsGrouping

/-- The first occurrence of a media type is where it was. -/
theorem idxOf_concat (h : IsGrouping texts buckets) (mediaType css : String) :
    (buckets.map Bucket.mediaType).Pairwise fun a b =>
      ((texts ++ [(mediaType, css)]).map Prod.fst).idxOf a <
        ((texts ++ [(mediaType, css)]).map Prod.fst).idxOf b := by
  have hidx : ∀ t ∈ buckets.map Bucket.mediaType,
      ((texts ++ [(mediaType, css)]).map Prod.fst).idxOf t = (texts.map Prod.fst).idxOf t := by
    intro t ht
    rw [List.map_append]
    exact List.idxOf_append_of_mem ((h.mem_types_iff t).mp ht)
  exact h.ordered.imp_of_mem fun ha hb hlt => by rwa [hidx _ ha, hidx _ hb]

/-- The first text of its media type makes a group of its own, behind the others. -/
theorem concat_new (h : IsGrouping texts buckets) (hnew : mediaType ∉ texts.map Prod.fst) :
    IsGrouping (texts ++ [(mediaType, css)]) (buckets ++ [⟨mediaType, [css]⟩]) where
  mem_types_iff t := by
    simp only [List.map_append, List.mem_append, h.mem_types_iff t]
    rfl
  nodup := by
    rw [List.map_append]
    refine List.nodup_append.mpr ⟨h.nodup, List.nodup_singleton _, ?_⟩
    rintro t ht last hlast rfl
    obtain rfl : t = mediaType := by simpa using hlast
    exact hnew ((h.mem_types_iff t).mp ht)
  ordered := by
    rw [List.map_append (f := Bucket.mediaType)]
    refine List.pairwise_append.mpr
      ⟨h.idxOf_concat mediaType css, List.pairwise_singleton _ mediaType, ?_⟩
    intro t ht last hlast
    -- the new type comes up behind all others
    obtain rfl : last = mediaType := by simpa using hlast
    have hmem : t ∈ texts.map Prod.fst := (h.mem_types_iff t).mp ht
    have hlt : (texts.map Prod.fst).idxOf t < (texts.map Prod.fst).length :=
      List.idxOf_lt_length_of_mem hmem
    rw [List.map_append, List.idxOf_append_of_mem hmem, List.idxOf_append_of_notMem hnew]
    exact Nat.lt_of_lt_of_le hlt (Nat.le_add_right _ _)
  fragments_eq b hb := by
    rcases List.mem_append.mp hb with hb | hb
    · have hmem : b.mediaType ∈ texts.map Prod.fst :=
        (h.mem_types_iff _).mp (List.mem_map_of_mem hb)
      have hne : mediaType ≠ b.mediaType := fun heq => hnew (heq ▸ hmem)
      rw [textsOf_concat, if_neg hne, List.append_nil]
      exact h.fragments_eq b hb
    · obtain rfl := List.mem_singleton.mp hb
      rw [textsOf_concat, if_pos rfl, textsOf_of_not_mem hnew]
      rfl
  fragments_ne_nil b hb := by
    rcases List.mem_append.mp hb with hb | hb
    · exact h.fragments_ne_nil b hb
    · rw [List.mem_singleton.mp hb]
      exact List.cons_ne_nil _ _
  length_eq := by simp [h.length_eq]

/-- A further text of its media type goes to the end of its group. -/
theorem concat_old {before after : List Bucket} {fragments : List String}
    (h : IsGrouping texts (before ++ ⟨mediaType, fragments⟩ :: after)) :
    IsGrouping (texts ++ [(mediaType, css)])
      (before ++ ⟨mediaType, fragments ++ [css]⟩ :: after) := by
  have htypes : (before ++ ⟨mediaType, fragments ++ [css]⟩ :: after).map Bucket.mediaType =
      (before ++ ⟨mediaType, fragments⟩ :: after).map Bucket.mediaType := by simp
  have hmem : mediaType ∈ texts.map Prod.fst :=
    (h.mem_types_iff mediaType).mp (by simp)
  have hnodup := h.nodup
  rw [List.map_append, List.map_cons, List.nodup_middle, List.nodup_cons, List.mem_append] at hnodup
  -- the other buckets are of other media types
  have hother : ∀ b, b ∈ before ∨ b ∈ after → mediaType ≠ b.mediaType := by
    intro b hb heq
    have htype := hb.imp (List.mem_map_of_mem (f := Bucket.mediaType))
      (List.mem_map_of_mem (f := Bucket.mediaType))
    exact hnodup.1 (heq ▸ htype)
  constructor
  · intro t
    rw [htypes, h.mem_types_iff t, List.map_append, List.mem_append]
    refine ⟨Or.inl, fun ht => ht.elim id fun ht => ?_⟩
    rwa [List.mem_singleton.mp ht]
  · rw [htypes]
    exact h.nodup
  · rw [htypes]
    exact h.idxOf_concat _ _
  · intro b hb
    rw [List.mem_append, List.mem_cons] at hb
    rw [textsOf_concat]
    rcases or_left_comm.mp hb with rfl | hb
    · rw [if_pos rfl, ← h.fragments_eq ⟨mediaType, fragments⟩ (by simp)]
    · rw [if_neg (hother b hb), List.append_nil]
      exact h.fragments_eq b (by simp only [List.mem_append, List.mem_cons]; tauto)
  · intro b hb
    rw [List.mem_append, List.mem_cons] at hb
    rcases or_left_comm.mp hb with rfl | hb
    · simp
    · exact h.fragments_ne_nil b (by simp only [List.mem_append, List.mem_cons]; tauto)
  · have hlength := h.length_eq
    simp only [List.flatMap_append, List.flatMap_cons, List.length_append, List.length_singleton]
      at hlength ⊢
    omega

theorem insert (h : IsGrouping texts buckets) (mediaType css : String) :
    IsGrouping (texts ++ [(mediaType, css)]) (Bucket.insert mediaType css buckets) := by
  rcases Bucket.insert_cases mediaType css buckets with
    ⟨hnew, heq⟩ | ⟨before, fragments, after, rfl, heq⟩
  · rw [heq]
    exact h.concat_new fun hmem => hnew ((h.mem_types_iff _).mpr hmem)
  · rw [heq]
    exact h.concat_old

/-- The bucket of a media type is found if the type occurs. -/
theorem find?_eq (h : IsGrouping texts buckets) (mediaType : String) :
    buckets.find? (·.mediaType == mediaType) =
      if mediaType ∈ texts.map Prod.fst then some ⟨mediaType, textsOf mediaType texts⟩
      else none := by
  cases hfind : buckets.find? (·.mediaType == mediaType) with
  | none =>
    rw [List.find?_eq_none] at hfind
    rw [if_neg]
    rw [← h.mem_types_iff, List.mem_map]
    rintro ⟨b, hb, rfl⟩
    exact hfind b hb (beq_self_eq_true _)
  | some b =>
    have hb : b ∈ buckets := List.mem_of_find?_eq_some hfind
    obtain rfl : b.mediaType = mediaType := by simpa using List.find?_some hfind
    rw [if_pos ((h.mem_types_iff _).mp (List.mem_map_of_mem hb)), ← h.fragments_eq b hb]

end IsGrouping

theorem ActiveSet.isGrouping_ofList (texts : List (String × String)) :
    IsGrouping texts (ofList texts).buckets := by
  have hfold : ∀ (rest done : List (String × String)) (a : ActiveSet), IsGrouping done a.buckets →
      IsGrouping (done ++ rest) (rest.foldl (fun a text => a.push text.1 text.2) a).buckets := by
    intro rest
    induction rest with
    | nil =>
      intro done a h
      rwa [List.append_nil]
    | cons text rest ih =>
      intro done a h
      rw [List.append_cons]
      exact ih _ _ (h.insert text.1 text.2)
  exact hfold texts [] empty isGrouping_nil

/-! ## Stores -/

/-- What is done to a store to add something to it. -/
inductive Addition where
  | body (body : RuleBody)
  /-- A descriptor for a body that is not there is refused. -/
  | descriptor (condition : Condition) (rule : Nat)

namespace RuleStore

variable {s : RuleStore} {width : Float}

/-- The store after an addition. -/
def add (s : RuleStore) : Addition → RuleStore
  | .body body => (s.pushBody body).2
  | .descriptor condition rule => (s.pushDescriptor condition rule).2

/-- The store that some additions make out of an empty one. -/
def ofAdditions (additions : List Addition) : RuleStore := additions.foldl add empty

/-- The style texts of descriptors, with their media types: those whose body is style text and whose
condition holds at a width. -/
inductive Lists (s : RuleStore) (width : Float) :
    List Descriptor → List (String × String) → Prop where
  | nil : Lists s width [] []
  | active {d : Descriptor} {ds : List Descriptor} {css : String} {texts : List (String × String)}
    (hbody : s.bodies[d.rule]? = some (.css css)) (hactive : d.condition.isActive width = true)
    (h : Lists s width ds texts) : Lists s width (d :: ds) ((d.condition.mediaType, css) :: texts)
  | inactive {d : Descriptor} {ds : List Descriptor} {texts : List (String × String)}
    (hactive : d.condition.isActive width = false) (h : Lists s width ds texts) :
    Lists s width (d :: ds) texts
  | query {d : Descriptor} {ds : List Descriptor} {number : Nat} {texts : List (String × String)}
    (hbody : s.bodies[d.rule]? = some (.query number)) (h : Lists s width ds texts) :
    Lists s width (d :: ds) texts

/-- A descriptor is added only for a body that is there, and bodies stay. -/
theorem rule_lt_add (h : ∀ d ∈ s.descriptors, d.rule < s.size) (addition : Addition) :
    ∀ d ∈ (s.add addition).descriptors, d.rule < (s.add addition).size := by
  cases addition with
  | body body =>
    intro d hd
    have hsize : (s.add (.body body)).size = s.size + 1 := size_pushBody s body
    have hlt := h d hd
    omega
  | descriptor condition rule =>
    by_cases hrule : rule < s.size
    · have hadd : s.add (.descriptor condition rule) =
          { s with descriptors := s.descriptors ++ [⟨condition, rule⟩] } := by
        simp [add, pushDescriptor, hrule]
      rw [hadd]
      intro d hd
      rcases List.mem_append.mp hd with hd | hd
      · exact h d hd
      · rwa [List.mem_singleton.mp hd]
    · have hadd : s.add (.descriptor condition rule) = s := by simp [add, pushDescriptor, hrule]
      rwa [hadd]

theorem rule_lt_ofAdditions (additions : List Addition) :
    ∀ d ∈ (ofAdditions additions).descriptors, d.rule < (ofAdditions additions).size :=
  List.foldlRecOn (motive := fun s : RuleStore => ∀ d ∈ s.descriptors, d.rule < s.size)
    additions add (by simp [empty]) fun _ h addition _ => rule_lt_add h addition

/-- Where every descriptor has a body, the active texts are those that are listed. -/
theorem lists_filterMap {ds : List Descriptor} (h : ∀ d ∈ ds, d.rule < s.size) :
    s.Lists width ds (ds.filterMap (s.activeText? width)) := by
  induction ds with
  | nil => exact .nil
  | cons d ds ih =>
    have hrest := ih fun d' hd' => h d' (List.mem_cons_of_mem _ hd')
    obtain ⟨body, hbody⟩ : ∃ body, s.bodies[d.rule]? = some body :=
      ⟨_, List.getElem?_eq_getElem (h d List.mem_cons_self)⟩
    cases hactive : d.condition.isActive width with
    | false =>
      rw [List.filterMap_cons_none (by simp [activeText?, hactive])]
      exact .inactive hactive hrest
    | true =>
      cases body with
      | css text =>
        rw [List.filterMap_cons_some (b := (d.condition.mediaType, text))
          (by simp [activeText?, hactive, body?, hbody, RuleBody.css?])]
        exact .active hbody hactive hrest
      | query number =>
        rw [List.filterMap_cons_none (by simp [activeText?, hactive, body?, hbody, RuleBody.css?])]
        exact .query hbody hrest

/-- Whatever was added to a store in whatever order, the buckets at a width are the groups of the
style texts that are active then, in the order of their descriptors; and the bucket of a media type
is found exactly if the type occurs among them. -/
theorem active_texts_are_grouped (additions : List Addition) (width : Float) :
    let s := ofAdditions additions
    ∃ texts, s.Lists width s.descriptors texts ∧
      IsGrouping texts (s.activeAt width).buckets ∧
      ∀ mediaType, (s.activeAt width).get? mediaType =
        if mediaType ∈ texts.map Prod.fst then some ⟨mediaType, textsOf mediaType texts⟩
        else none := by
  intro s
  have hgroups : IsGrouping (s.activeTexts width) (s.activeAt width).buckets :=
    ActiveSet.isGrouping_ofList _
  exact ⟨s.activeTexts width, lists_filterMap (rule_lt_ofAdditions additions), hgroups,
    hgroups.find?_eq⟩

end RuleStore

end MediaQuery
