import MediaQuery.Proofs.Dom.Forest

/-!
# The attributes of an element as an ordered map

Two calls change the attributes of an element: one sets an attribute, the other adds those of a list
that the element does not have. Whatever the calls and their order, the attributes are a map from
names, letter case set aside, to values, and the names stay in the order they came in.

What one call does is said three times, of the names (`names_run`), of the value of a name
(`attr?_run`) and of the attributes it does not speak of (`filter_run`). What a sequence of calls
does follows by induction.

* `attributes_are_an_ordered_map` — the names, the values and all that is left alone
-/

namespace MediaQuery.Dom

variable {e : Element}

/-! ## The names of a list -/

/-- No two names of a list are the same. -/
def AreDistinct (names : List String) : Prop :=
  names.Pairwise fun a b => Ascii.sameName a b = false

instance (names : List String) : Decidable (AreDistinct names) :=
  inferInstanceAs (Decidable (names.Pairwise fun a b => Ascii.sameName a b = false))

/-- A list of names with another one at the end, unless it is among them. -/
def addName (held : List String) (name : String) : List String :=
  if held.any (Ascii.sameName · name) then held else held ++ [name]

/-- The names that are mentioned and not held, each once and as it is first spelled. -/
def newNames (held mentioned : List String) : List String :=
  (mentioned.filter fun name => !held.any (Ascii.sameName · name)).eraseDupsBy Ascii.sameName

theorem AreDistinct.addName {held : List String} (h : AreDistinct held) (name : String) :
    AreDistinct (addName held name) := by
  unfold Dom.addName
  split
  next => exact h
  next hnew =>
    refine List.pairwise_append.mpr ⟨h, List.pairwise_singleton _ _, fun a ha b hb => ?_⟩
    rw [List.mem_singleton.mp hb]
    exact Bool.eq_false_iff.mpr fun hsame => hnew (List.any_eq_true.mpr ⟨a, ha, hsame⟩)

theorem AreDistinct.foldl_addName {held : List String} (h : AreDistinct held)
    (mentioned : List String) : AreDistinct (mentioned.foldl Dom.addName held) := by
  induction mentioned generalizing held with
  | nil => exact h
  | cons name rest ih => exact ih (h.addName name)

/-- Names that are added one by one come in the order of their first mention. -/
theorem foldl_addName (held mentioned : List String) :
    mentioned.foldl addName held = held ++ newNames held mentioned := by
  induction mentioned generalizing held with
  | nil => simp [newNames]
  | cons name rest ih =>
    rw [List.foldl_cons, ih, addName, newNames, newNames, List.filter_cons]
    split
    next hheld => simp [hheld]
    next hnew =>
      -- from now on the name is held, and is left out wherever it comes again
      have hlater : (rest.filter fun other => !(held ++ [name]).any (Ascii.sameName · other)) =
          rest.filter fun other => decide (Ascii.sameName other name = false) &&
            !held.any (Ascii.sameName · other) := by
        refine List.filter_congr fun other _ => ?_
        rw [List.any_append, Ascii.sameName_comm other name]
        simp [Bool.and_comm]
      rw [if_pos (by simpa using hnew), List.eraseDupsBy_cons, List.filter_filter, hlater,
        List.append_assoc, List.singleton_append]

/-! ## One call -/

namespace Element

/-- The names of the attributes. -/
def names (e : Element) : List String := e.attributes.map Attribute.name

/-- A call that changes attributes. -/
inductive Change where
  | set (name value : String)
  | addMissing (offered : List Attribute)

namespace Change

/-- The element after a call. -/
def run (e : Element) : Change → Element
  | set name value => e.setAttr name value
  | addMissing offered => e.addMissing offered

/-- The names that a call speaks of, in order. -/
def mentioned : Change → List String
  | set name _ => [name]
  | addMissing offered => offered.map Attribute.name

/-- The value that a call sets a name to. -/
def setTo? (name : String) : Change → Option String
  | set other value => if Ascii.sameName other name then some value else none
  | addMissing _ => none

/-- The attributes that a call offers to an element. -/
def offered : Change → List Attribute
  | set _ _ => []
  | addMissing offered => offered

end Change

end Element

theorem map_name_assign (name value : String) (attributes : List Attribute) :
    (assign name value attributes).map Attribute.name =
      addName (attributes.map Attribute.name) name := by
  induction attributes with
  | nil => rfl
  | cons a rest ih =>
    rw [assign, Attribute.isNamed, addName, List.map_cons, List.any_cons]
    by_cases hsame : Ascii.sameName a.name name = true
    · rw [if_pos hsame, hsame, Bool.true_or, if_pos rfl]
      rfl
    · rw [if_neg hsame, Bool.eq_false_iff.mpr hsame, Bool.false_or, List.map_cons, ih, addName]
      split <;> rfl

theorem map_name_offer (attributes offered : List Attribute) :
    (offer attributes offered).map Attribute.name =
      (offered.map Attribute.name).foldl addName (attributes.map Attribute.name) := by
  unfold offer
  induction offered generalizing attributes with
  | nil => rfl
  | cons a rest ih =>
    rw [List.foldl_cons, ih, List.map_cons, List.foldl_cons, addName, List.any_map]
    congr 1
    rw [apply_ite (List.map Attribute.name), List.map_append]
    rfl

theorem lookup_cons (name : String) (a : Attribute) (rest : List Attribute) :
    lookup name (a :: rest) = if a.isNamed name then some a.value else lookup name rest := by
  rw [lookup, List.find?_cons]
  cases a.isNamed name <;> rfl

theorem lookup_append (name : String) (a b : List Attribute) :
    lookup name (a ++ b) = (lookup name a).or (lookup name b) := by
  rw [lookup, List.find?_append, Option.map_or]
  rfl

/-- Only the name that is set has another value, and letter case does not make it another name. -/
theorem lookup_assign (name other value : String) (attributes : List Attribute) :
    lookup name (assign other value attributes) =
      if Ascii.sameName other name then some value else lookup name attributes := by
  induction attributes with
  | nil => rw [assign, lookup_cons]; rfl
  | cons a rest ih =>
    rw [assign]
    split
    next hnamed =>
      rw [lookup_cons, lookup_cons, Attribute.isNamed, Attribute.isNamed,
        Ascii.sameName_congr hnamed]
      split <;> rfl
    next hnamed =>
      rw [lookup_cons, ih, lookup_cons]
      split
      next ha =>
        -- a name that the first attribute goes by is not the one that is set
        have hother : ¬ Ascii.sameName other name = true := fun hsame =>
          hnamed ((Ascii.sameName_congr ha other).trans ((Ascii.sameName_comm ..).trans hsame))
        rw [if_neg hother]
      next => rfl

/-- What an element has is not replaced by what it is offered. -/
theorem lookup_offer (name : String) (attributes offered : List Attribute) :
    lookup name (offer attributes offered) =
      (lookup name attributes).or (lookup name offered) := by
  unfold offer
  induction offered generalizing attributes with
  | nil => simp [lookup]
  | cons a rest ih =>
    rw [List.foldl_cons, ih, lookup_cons]
    split
    next htaken =>
      split
      next ha =>
        -- the name is taken, so that it has a value already
        obtain ⟨b, hb, hsame⟩ := List.any_eq_true.mp htaken
        have hsome : (lookup name attributes).isSome = true := by
          rw [lookup, Option.isSome_map, List.find?_isSome]
          exact ⟨b, hb, (Ascii.sameName_congr hsame name).trans ha⟩
        rw [Option.or_of_isSome hsome, Option.or_of_isSome hsome]
      next => rfl
    next =>
      rw [lookup_append, lookup_cons, Option.or_assoc]
      split <;> rfl

theorem filter_assign {keep : Attribute → Bool} {name : String}
    (h : ∀ a : Attribute, a.isNamed name = true → keep a = false) (value : String)
    (attributes : List Attribute) :
    (assign name value attributes).filter keep = attributes.filter keep := by
  induction attributes with
  | nil => simp [assign, h ⟨name, value⟩ (Ascii.sameName_refl name)]
  | cons a rest ih =>
    rw [assign]
    split
    next hnamed => simp [h a hnamed, h ⟨a.name, value⟩ hnamed]
    next => rw [List.filter_cons, ih, List.filter_cons]

theorem filter_offer {keep : Attribute → Bool} {offered : List Attribute}
    (h : ∀ a ∈ offered, keep a = false) (attributes : List Attribute) :
    (offer attributes offered).filter keep = attributes.filter keep := by
  unfold offer
  induction offered generalizing attributes with
  | nil => rfl
  | cons a rest ih =>
    obtain ⟨ha, hrest⟩ := List.forall_mem_cons.mp h
    rw [List.foldl_cons, ih hrest]
    split
    next => rfl
    next => simp [ha]

namespace Element.Change

theorem names_run (change : Change) (e : Element) :
    (change.run e).names = change.mentioned.foldl addName e.names := by
  cases change with
  | set name value => exact map_name_assign name value e.attributes
  | addMissing offered => exact map_name_offer e.attributes offered

theorem attr?_run (change : Change) (e : Element) (name : String) :
    (change.run e).attr? name =
      (change.setTo? name).or ((e.attr? name).or (lookup name change.offered)) := by
  cases change with
  | set other value =>
    rw [run, attr?, setAttr, lookup_assign, setTo?]
    split
    · rfl
    · exact (Option.or_none ..).symm
  | addMissing offered => exact lookup_offer name e.attributes offered

/-- A call leaves alone, value and place, the attributes that go by none of its names. -/
theorem filter_run {keep : Attribute → Bool} {change : Change}
    (h : ∀ name ∈ change.mentioned, ∀ a : Attribute, a.isNamed name = true → keep a = false)
    (e : Element) : (change.run e).attributes.filter keep = e.attributes.filter keep := by
  cases change with
  | set name value => exact filter_assign (h name List.mem_cons_self) value e.attributes
  | addMissing offered =>
    exact filter_offer (fun a ha => h a.name (List.mem_map_of_mem ha) a (Ascii.sameName_refl _))
      e.attributes

end Element.Change

/-! ## Sequences of calls -/

namespace Element

/-- The element after some calls, one after the other. -/
def revise (e : Element) (changes : List Change) : Element := changes.foldl Change.run e

/-- The value that the last call that sets a name gives it. -/
def lastSet? (name : String) (changes : List Change) : Option String :=
  changes.reverse.findSome? (Change.setTo? name)

/-- The value with which a name is offered first. -/
def firstOffered? (name : String) (changes : List Change) : Option String :=
  lookup name (changes.flatMap Change.offered)

/-- Whether no call speaks of an attribute. -/
def isLeftAloneBy (changes : List Change) (a : Attribute) : Bool :=
  !(changes.flatMap Change.mentioned).any a.isNamed

/-- By some calls an element has become another one. -/
structure IsRevision (e : Element) (changes : List Change) (revised : Element) : Prop where
  tag_eq : revised.tag = e.tag
  vocabulary_eq : revised.vocabulary = e.vocabulary
  areDistinct : AreDistinct revised.names
  /-- The names that were there stay as they are; new ones follow as they are first mentioned. -/
  names_eq : revised.names = e.names ++ newNames e.names (changes.flatMap Change.mentioned)
  /-- What was set last counts, then what was there, then what was offered first. -/
  attr?_eq : ∀ name, revised.attr? name =
    (lastSet? name changes).or ((e.attr? name).or (firstOffered? name changes))
  filter_eq : revised.attributes.filter (isLeftAloneBy changes) =
    e.attributes.filter (isLeftAloneBy changes)

theorem revise_cons (e : Element) (change : Change) (rest : List Change) :
    e.revise (change :: rest) = (change.run e).revise rest := rfl

theorem names_revise (e : Element) (changes : List Change) :
    (e.revise changes).names = (changes.flatMap Change.mentioned).foldl addName e.names := by
  induction changes generalizing e with
  | nil => rfl
  | cons change rest ih =>
    rw [revise_cons, ih, Change.names_run, List.flatMap_cons, List.foldl_append]

theorem attr?_revise (e : Element) (changes : List Change) (name : String) :
    (e.revise changes).attr? name =
      (lastSet? name changes).or ((e.attr? name).or (firstOffered? name changes)) := by
  induction changes generalizing e with
  | nil => exact (Option.or_none ..).symm
  | cons change rest ih =>
    have hlast : lastSet? name (change :: rest) =
        (lastSet? name rest).or (change.setTo? name) := by
      rw [lastSet?, List.reverse_cons, List.findSome?_append, ← lastSet?, List.findSome?_singleton]
    have hfirst : firstOffered? name (change :: rest) =
        (lookup name change.offered).or (firstOffered? name rest) := by
      rw [firstOffered?, List.flatMap_cons, lookup_append, ← firstOffered?]
    rw [revise_cons, ih, Change.attr?_run, hlast, hfirst]
    simp only [Option.or_assoc]

theorem filter_revise {keep : Attribute → Bool} {changes : List Change}
    (h : ∀ name ∈ changes.flatMap Change.mentioned, ∀ a : Attribute, a.isNamed name = true →
      keep a = false) (e : Element) :
    (e.revise changes).attributes.filter keep = e.attributes.filter keep := by
  induction changes generalizing e with
  | nil => rfl
  | cons change rest ih =>
    rw [List.flatMap_cons] at h
    obtain ⟨hchange, hrest⟩ := List.forall_mem_append.mp h
    rw [revise_cons, ih hrest, Change.filter_run hchange]

theorem tag_revise (e : Element) (changes : List Change) :
    (e.revise changes).tag = e.tag ∧ (e.revise changes).vocabulary = e.vocabulary := by
  induction changes generalizing e with
  | nil => exact ⟨rfl, rfl⟩
  | cons change rest ih =>
    obtain ⟨htag, hvocabulary⟩ := ih (change.run e)
    cases change <;> exact ⟨htag, hvocabulary⟩

theorem isRevision_revise (h : AreDistinct e.names) (changes : List Change) :
    IsRevision e changes (e.revise changes) where
  tag_eq := (tag_revise e changes).1
  vocabulary_eq := (tag_revise e changes).2
  areDistinct := by
    rw [names_revise]
    exact h.foldl_addName _
  names_eq := by rw [names_revise, foldl_addName]
  attr?_eq := attr?_revise e changes
  filter_eq := by
    refine filter_revise (fun name hname a ha => ?_) e
    rw [isLeftAloneBy, Bool.not_eq_false', List.any_eq_true]
    exact ⟨name, hname, ha⟩

end Element

/-! ## Elements under construction -/

/-- A function applied to tag and attributes of an element; other contents stay as they are. -/
def Content.mapElement (f : Element → Element) : Content → Content
  | .element e => .element (f e)
  | other => other

namespace Construction

open Element (Change)

variable {c : Construction} {n : NodeId}

/-- A construction after a call for one of its nodes. -/
def change (c : Construction) (n : NodeId) : Change → Construction
  | .set name value => c.setAttr n name value
  | .addMissing offered => c.addMissing n offered

/-- A construction after calls for some of its nodes, one after the other. -/
def revise (c : Construction) (calls : List (NodeId × Change)) : Construction :=
  calls.foldl (fun c call => c.change call.1 call.2) c

/-- The calls for one node. -/
def changesOf (n : NodeId) (calls : List (NodeId × Change)) : List Change :=
  (calls.filter (·.1 == n)).map Prod.snd

theorem change_eq (c : Construction) (n : NodeId) (change : Change) :
    c.change n change = c.modifyElement n change.run := by
  cases change <;> rfl

theorem content_modifyElement (n : NodeId) (f : Element → Element) (m : NodeId) :
    (c.modifyElement n f).content m =
      if m = n then (c.content m).mapElement f else c.content m := by
  rw [modifyElement, content, getElem?_modify, content]
  by_cases hm : m = n
  · rw [if_pos hm.symm, if_pos hm]
    cases c.items[m]? with
    | none => rfl
    | some item => cases hitem : item.content <;> simp [hitem, Content.mapElement]
  · rw [if_neg (Ne.symm hm), if_neg hm]

theorem changesOf_cons (n : NodeId) (call : NodeId × Change) (rest : List (NodeId × Change)) :
    changesOf n (call :: rest) =
      if n = call.1 then call.2 :: changesOf n rest else changesOf n rest := by
  rw [changesOf, List.filter_cons]
  by_cases hn : n = call.1
  · rw [if_pos (by simp [hn]), if_pos hn]
    rfl
  · rw [if_neg (by simpa using Ne.symm hn), if_neg hn]
    rfl

theorem revise_cons (c : Construction) (call : NodeId × Change) (rest : List (NodeId × Change)) :
    c.revise (call :: rest) = (c.modifyElement call.1 call.2.run).revise rest := by
  rw [← change_eq]
  rfl

/-- A node is changed by the calls for it, and by no others. -/
theorem content_revise (c : Construction) (calls : List (NodeId × Change)) (m : NodeId) :
    (c.revise calls).content m =
      (c.content m).mapElement fun e => e.revise (changesOf m calls) := by
  induction calls generalizing c with
  | nil => cases hcontent : c.content m <;> exact hcontent
  | cons call rest ih =>
    rw [revise_cons, ih, content_modifyElement, changesOf_cons]
    split
    next => cases c.content m <;> rfl
    next => rfl

theorem children_revise (c : Construction) (calls : List (NodeId × Change)) (m : NodeId) :
    (c.revise calls).children m = c.children m := by
  induction calls generalizing c with
  | nil => rfl
  | cons call rest ih =>
    rw [revise_cons, ih, children_modifyElement]

theorem content_eq_of_element? (h : c.element? n = some e) : c.content n = .element e := by
  unfold element? at h
  split at h
  next heq => rw [heq, Option.some.inj h]
  next => exact absurd h (by simp)

/-- Let the names of an element be distinct, and let any calls set attributes and add missing ones,
to that element and to others. Then its names are still distinct, those that were there stand as
they stood and the new ones behind them in the order of their first mention; a name has the value
that it was last set to, or else the value it had, or else the value it was first offered with; and
attributes that no call speaks of stay as they are. Neither other nodes than elements nor the
children of any node change. -/
theorem attributes_are_an_ordered_map (helement : c.element? n = some e)
    (hdistinct : AreDistinct e.names) (calls : List (NodeId × Change)) :
    (∃ revised, (c.revise calls).element? n = some revised ∧
      e.IsRevision (changesOf n calls) revised) ∧
    (∀ m, c.element? m = none → (c.revise calls).content m = c.content m) ∧
    ∀ m, (c.revise calls).children m = c.children m := by
  refine ⟨⟨_, ?_, Element.isRevision_revise hdistinct _⟩, fun m hm => ?_, c.children_revise calls⟩
  · rw [element?, content_revise, content_eq_of_element? helement]
    rfl
  · rw [content_revise]
    unfold element? at hm
    cases hcontent : c.content m with
    | element held => simp [hcontent] at hm
    | document => rfl
    | text held => rfl

/-- A link with two attributes, beside another element. -/
def linkPage : Construction :=
  ((empty.create (.element ⟨"link", .html, [⟨"HREF", "a.css"⟩, ⟨"rel", "icon"⟩]⟩)).2.create
    (.element ⟨"style", .html, []⟩)).2

/-- The link is offered a medium in two spellings and another reference, and then set. -/
def linkCalls : List (NodeId × Change) :=
  [(1, .addMissing [⟨"Media", "screen"⟩, ⟨"MEDIA", "tv"⟩, ⟨"href", "b.css"⟩]),
    (2, .set "media" "all"), (1, .set "media" "print"), (1, .set "REL" "stylesheet"),
    (1, .addMissing [⟨"rel", "icon"⟩, ⟨"id", "main"⟩])]

theorem link_is_revised :
    linkPage.element? 1 = some ⟨"link", .html, [⟨"HREF", "a.css"⟩, ⟨"rel", "icon"⟩]⟩ ∧
      AreDistinct ["HREF", "rel"] ∧
      ∃ revised, (linkPage.revise linkCalls).element? 1 = some revised ∧
        revised.attributes =
          [⟨"HREF", "a.css"⟩, ⟨"rel", "stylesheet"⟩, ⟨"Media", "print"⟩, ⟨"id", "main"⟩] ∧
        (⟨"link", .html, [⟨"HREF", "a.css"⟩, ⟨"rel", "icon"⟩]⟩ : Element).IsRevision
          (changesOf 1 linkCalls) revised := by
  have hlink : linkPage.element? 1 =
      some ⟨"link", .html, [⟨"HREF", "a.css"⟩, ⟨"rel", "icon"⟩]⟩ := by decide
  have hdistinct : AreDistinct ["HREF", "rel"] := by decide
  obtain ⟨⟨revised, hrevised, hrevision⟩, -⟩ :=
    attributes_are_an_ordered_map hlink hdistinct linkCalls
  refine ⟨hlink, hdistinct, revised, hrevised, ?_, hrevision⟩
  have hattributes : ((linkPage.revise linkCalls).element? 1).map Element.attributes = some
      [⟨"HREF", "a.css"⟩, ⟨"rel", "stylesheet"⟩, ⟨"Media", "print"⟩, ⟨"id", "main"⟩] := by decide
  rw [hrevised] at hattributes
  exact Option.some.inj hattributes

end Construction

end MediaQuery.Dom
