import MediaQuery.Proofs.Live.Causes
import MediaQuery.Proofs.Live.Rounds

/-!
# Slots are given out once

Listeners come and go while others are being called, so the slots of a query are kept books of: the
moments of a run say which slots were given out and which were emptied, and `Ledger` holds this
against the listeners that are there. A slot is given out once and emptied at most once, and what is
in it is the listener that got it.

* `Path.ledger` — the books are right about every state of a run
* `Path.listenerAt?_eq` — a listener stays in its slot until it goes away
-/

namespace MediaQuery

variable {σ : Type} {number slot : Nat}

/-! ## The books -/

/-- The slot of a query that a listener gets at a moment, if one does. -/
def Moment.added? (number : Nat) (m : Moment σ) : Option Nat :=
  match m.event with
  | .added query slot => if query = number then some slot else none
  | _ => none

/-- The slot of a query from which a listener goes away at a moment, if one does. -/
def Moment.removed? (number : Nat) (m : Moment σ) : Option Nat :=
  match m.event with
  | .removed query slot => if query = number then some slot else none
  | _ => none

/-- The slots of a query that were given out, in order. -/
def addedSlots (number : Nat) (ms : List (Moment σ)) : List Nat :=
  ms.filterMap (Moment.added? number)

/-- The slots of a query that were emptied, in order. -/
def removedSlots (number : Nat) (ms : List (Moment σ)) : List Nat :=
  ms.filterMap (Moment.removed? number)

/-- The state right after some moments. -/
def stateAfter : Shared σ → List (Moment σ) → Shared σ
  | s, [] => s
  | _, m :: rest => stateAfter m.shared rest

/-- The listeners of a query, slot by slot. A query that is not there has none. -/
def Shared.slots (s : Shared σ) (number : Nat) : List (Option (Program σ)) :=
  ((s.queries[number]?).map LiveQuery.listeners).getD []

theorem removedSlots_append (ms ms' : List (Moment σ)) :
    removedSlots number (ms ++ ms') = removedSlots number ms ++ removedSlots number ms' :=
  List.filterMap_append

section

variable {m : Moment σ}

theorem addedSlots_concat_of_none (h : m.added? number = none) (ms : List (Moment σ)) :
    addedSlots number (ms ++ [m]) = addedSlots number ms := by
  simp [addedSlots, h]

theorem addedSlots_concat_of_some (h : m.added? number = some slot) (ms : List (Moment σ)) :
    addedSlots number (ms ++ [m]) = addedSlots number ms ++ [slot] := by
  simp [addedSlots, h]

theorem removedSlots_concat_of_none (h : m.removed? number = none) (ms : List (Moment σ)) :
    removedSlots number (ms ++ [m]) = removedSlots number ms := by
  simp [removedSlots, h]

theorem removedSlots_concat_of_some (h : m.removed? number = some slot) (ms : List (Moment σ)) :
    removedSlots number (ms ++ [m]) = removedSlots number ms ++ [slot] := by
  simp [removedSlots, h]

end

theorem Path.stateAfter_eq {s s' : Shared σ} {p p' : Option Pending} {ms : List (Moment σ)}
    (h : Path s p ms s' p') : stateAfter s ms = s' := by
  induction h with
  | nil => rfl
  | cons _ _ ih => exact ih

/-! ## What happens to slots -/

namespace Shared

variable {s : Shared σ}

theorem slots_of_some {q : LiveQuery σ} (hq : s.queries[number]? = some q) :
    s.slots number = q.listeners := by
  rw [slots, hq]
  rfl

theorem slots_of_none (hq : s.queries[number]? = none) : s.slots number = [] := by
  rw [slots, hq]
  rfl

/-- The listener in a slot is the one that is kept there. -/
theorem listenerAt?_eq (s : Shared σ) (number slot : Nat) :
    s.listenerAt? number slot = ((s.slots number)[slot]?).join := by
  unfold listenerAt?
  cases hq : s.queries[number]? with
  | none => rw [slots_of_none hq]; rfl
  | some q => rw [slots_of_some hq]; rfl

theorem lt_of_listenerAt? (h : s.listenerAt? number slot ≠ none) :
    slot < (s.slots number).length := by
  refine Nat.lt_of_not_le fun hle => h ?_
  rw [listenerAt?_eq, List.getElem?_eq_none_iff.mpr hle]
  rfl

theorem slots_modifyQuery_of_ne {changed : Nat} (h : changed ≠ number)
    (f : LiveQuery σ → LiveQuery σ) : (s.modifyQuery changed f).slots number = s.slots number := by
  simp [slots, modifyQuery, h]

theorem slots_modifyQuery_self {q : LiveQuery σ} (hq : s.queries[number]? = some q)
    (f : LiveQuery σ → LiveQuery σ) : (s.modifyQuery number f).slots number = (f q).listeners := by
  simp [slots, modifyQuery, hq]

/-- A listener that comes gets the slot behind the others. -/
theorem slots_addListener {listener : Program σ}
    (h : (s.addListener number listener).1 = some slot) :
    (s.slots number).length = slot ∧
      (s.addListener number listener).2.slots number = s.slots number ++ [some listener] := by
  obtain ⟨q, hq, rfl⟩ := Option.map_eq_some_iff.mp h
  rw [slots_of_some hq]
  exact ⟨rfl, slots_modifyQuery_self hq _⟩

theorem slots_removeListener (s : Shared σ) (number slot : Nat) :
    (s.removeListener number slot).2.slots number = (s.slots number).set slot none := by
  cases hq : s.queries[number]? with
  | none =>
    have hqueries := modifyQuery_of_none hq (·.removeListener slot)
    rw [slots_of_none hq, removeListener, slots_of_none (by rw [hqueries, hq])]
    rfl
  | some q =>
    rw [slots_of_some hq]
    exact slots_modifyQuery_self hq _

end Shared

/-- At a moment, the listeners of a query stay as they are, or one gets the next slot, or one goes
away from its slot. -/
theorem Moves.slots_cases {s : Shared σ} {p p' : Option Pending} {m : Moment σ}
    (h : Moves s p m p') (number : Nat) :
    (m.added? number = none ∧ m.removed? number = none ∧
      m.shared.slots number = s.slots number) ∨
    (∃ listener, m.added? number = some (s.slots number).length ∧ m.removed? number = none ∧
      m.shared.slots number = s.slots number ++ [some listener]) ∨
    ∃ slot, m.added? number = none ∧ m.removed? number = some slot ∧
      s.listenerAt? number slot ≠ none ∧
      m.shared.slots number = (s.slots number).set slot none := by
  cases h with
  | @other s' _ h =>
    -- a query that is new has no listeners, and one that was not there had none
    refine Or.inl ⟨rfl, rfl, ?_⟩
    cases hq : s.queries[number]? with
    | some q =>
      obtain ⟨q', hq', -, hl⟩ := h.keeps number q hq
      rw [Shared.slots_of_some hq, Shared.slots_of_some hq', hl]
    | none =>
      rw [Shared.slots_of_none hq]
      cases hq' : s'.queries[number]? with
      | some q' => rw [Shared.slots_of_some hq', h.silent number q' hq hq']
      | none => exact Shared.slots_of_none hq'
  | @added _ query slot listener h =>
    by_cases hc : query = number
    · subst hc
      obtain ⟨hlength, hslots⟩ := Shared.slots_addListener h
      rw [hlength]
      exact Or.inr (Or.inl ⟨listener, if_pos rfl, rfl, hslots⟩)
    · exact Or.inl ⟨if_neg hc, rfl, Shared.slots_modifyQuery_of_ne hc _⟩
  | @removed _ query slot h =>
    by_cases hc : query = number
    · subst hc
      refine Or.inr (Or.inr ⟨slot, rfl, if_pos rfl, ?_, Shared.slots_removeListener s query slot⟩)
      exact Option.isSome_iff_ne_none.mp h
    · exact Or.inl ⟨rfl, if_neg hc, Shared.slots_modifyQuery_of_ne hc _⟩
  | @changed changed q hq h =>
    refine Or.inl ⟨rfl, rfl, ?_⟩
    by_cases hc : changed = number
    · subst hc
      rw [Shared.slots_of_some hq]
      exact Shared.slots_modifyQuery_self hq _
    · exact Shared.slots_modifyQuery_of_ne hc _
  | called => exact Or.inl ⟨rfl, rfl, rfl⟩
  | failed => exact Or.inl ⟨rfl, rfl, rfl⟩
  | ended => exact Or.inl ⟨rfl, rfl, rfl⟩

/-! ## The books are right -/

/-- The books on the slots of a query are right about a state. -/
structure Ledger (number : Nat) (ms : List (Moment σ)) (s : Shared σ) : Prop where
  /-- The slots that were given out are those that the query has. -/
  added_eq : addedSlots number ms = List.range (s.slots number).length
  removed_nodup : (removedSlots number ms).Nodup
  removed_subset : removedSlots number ms ⊆ addedSlots number ms
  /-- There is a listener in a slot from when it is given out until it is emptied. -/
  listenerAt?_iff : ∀ slot, s.listenerAt? number slot ≠ none ↔
    slot ∈ addedSlots number ms ∧ slot ∉ removedSlots number ms
  count_eq : (s.slots number).countP Option.isSome + (removedSlots number ms).length =
    (addedSlots number ms).length

theorem ledger_nil {s : Shared σ} (h : s.slots number = []) : Ledger number [] s where
  added_eq := by rw [h]; rfl
  removed_nodup := .nil
  removed_subset := List.Subset.refl _
  listenerAt?_iff := by simp [Shared.listenerAt?_eq, h, addedSlots]
  count_eq := by rw [h]; rfl

namespace Ledger

variable {s : Shared σ} {p p' : Option Pending} {m : Moment σ} {ms : List (Moment σ)}

theorem mem_added_iff (h : Ledger number ms s) :
    slot ∈ addedSlots number ms ↔ slot < (s.slots number).length := by
  rw [h.added_eq, List.mem_range]

/-- What does not concern the slots of a query leaves the books on them as they are. -/
theorem keep (h : Ledger number ms s) (hadded : m.added? number = none)
    (hremoved : m.removed? number = none) (hslots : m.shared.slots number = s.slots number) :
    Ledger number (ms ++ [m]) m.shared := by
  have ha := addedSlots_concat_of_none hadded ms
  have hr := removedSlots_concat_of_none hremoved ms
  refine ⟨?_, ?_, ?_, ?_, ?_⟩
  · rw [ha, hslots, h.added_eq]
  · rw [hr]
    exact h.removed_nodup
  · rw [ha, hr]
    exact h.removed_subset
  · intro i
    rw [ha, hr, ← h.listenerAt?_iff i, Shared.listenerAt?_eq, Shared.listenerAt?_eq, hslots]
  · rw [ha, hr, hslots]
    exact h.count_eq

/-- The books stay right when a listener gets a slot. -/
theorem add (h : Ledger number ms s) {listener : Program σ}
    (hadded : m.added? number = some (s.slots number).length) (hremoved : m.removed? number = none)
    (hslots : m.shared.slots number = s.slots number ++ [some listener]) :
    Ledger number (ms ++ [m]) m.shared := by
  have ha := addedSlots_concat_of_some hadded ms
  have hr := removedSlots_concat_of_none hremoved ms
  refine ⟨?_, ?_, ?_, ?_, ?_⟩
  · rw [ha, hslots, h.added_eq, List.length_append, List.length_singleton, List.range_succ]
  · rw [hr]
    exact h.removed_nodup
  · rw [ha, hr]
    exact List.subset_append_of_subset_left _ h.removed_subset
  · intro i
    have hold := h.listenerAt?_iff i
    rw [Shared.listenerAt?_eq] at hold
    rw [ha, hr, Shared.listenerAt?_eq, hslots, List.mem_append, List.mem_singleton]
    rcases Nat.lt_trichotomy i (s.slots number).length with hi | rfl | hi
    · rw [List.getElem?_append_left hi, hold]
      simp [Nat.ne_of_lt hi]
    · -- a slot that was emptied is one of those that the query had before
      have hnew : (s.slots number).length ∉ removedSlots number ms := fun hmem =>
        absurd (h.mem_added_iff.mp (h.removed_subset hmem)) (Nat.lt_irrefl _)
      simp [hnew]
    · have hnone : (s.slots number ++ [some listener])[i]? = none := by
        rw [List.getElem?_eq_none_iff, List.length_append, List.length_singleton]
        omega
      have hfree : i ∉ addedSlots number ms := fun hmem => by
        have hlt := h.mem_added_iff.mp hmem
        omega
      simp [hnone, hfree, Nat.ne_of_gt hi]
  · rw [ha, hr, hslots, List.countP_append, List.length_append, List.length_singleton,
      ← h.count_eq, List.countP_singleton]
    simp
    omega

/-- The books stay right when a listener goes away. -/
theorem remove (h : Ledger number ms s) (hadded : m.added? number = none)
    (hremoved : m.removed? number = some slot) (hslot : s.listenerAt? number slot ≠ none)
    (hslots : m.shared.slots number = (s.slots number).set slot none) :
    Ledger number (ms ++ [m]) m.shared := by
  have ha := addedSlots_concat_of_none hadded ms
  have hr := removedSlots_concat_of_some hremoved ms
  -- there is a listener in the slot, so it was given out and not emptied before
  obtain ⟨hin, hout⟩ := (h.listenerAt?_iff slot).mp hslot
  have hlt : slot < (s.slots number).length := h.mem_added_iff.mp hin
  refine ⟨?_, ?_, ?_, ?_, ?_⟩
  · rw [ha, hslots, h.added_eq, List.length_set]
  · rw [hr]
    exact List.nodup_append.mpr ⟨h.removed_nodup, by simp, by
      intro i hi j hj
      rw [List.mem_singleton.mp hj]
      rintro rfl
      exact hout hi⟩
  · rw [ha, hr]
    refine List.append_subset.mpr ⟨h.removed_subset, ?_⟩
    intro i hi
    rw [List.mem_singleton.mp hi]
    exact hin
  · intro i
    have hold := h.listenerAt?_iff i
    rw [Shared.listenerAt?_eq] at hold
    rw [ha, hr, Shared.listenerAt?_eq, hslots, List.mem_append, List.mem_singleton]
    by_cases hi : i = slot
    · subst hi
      simp [hlt]
    · rw [List.getElem?_set_ne (Ne.symm hi), hold]
      simp [hi]
  · have hget : (s.slots number)[slot].isSome = true := by
      rw [Shared.listenerAt?_eq, List.getElem?_eq_getElem hlt] at hslot
      exact Option.isSome_iff_ne_none.mpr hslot
    have hpos : 0 < (s.slots number).countP Option.isSome :=
      List.countP_pos_iff.mpr ⟨_, List.getElem_mem hlt, hget⟩
    have hcount := h.count_eq
    rw [ha, hr, hslots, List.countP_set hlt, hget, List.length_append, List.length_singleton]
    simp
    omega

/-- The books stay right whatever happens. -/
theorem move (h : Ledger number ms s) (hm : Moves s p m p') :
    Ledger number (ms ++ [m]) m.shared := by
  rcases hm.slots_cases number with ⟨hadded, hremoved, hslots⟩ |
    ⟨listener, hadded, hremoved, hslots⟩ | ⟨slot, hadded, hremoved, hslot, hslots⟩
  · exact h.keep hadded hremoved hslots
  · exact h.add hadded hremoved hslots
  · exact h.remove hadded hremoved hslot hslots

end Ledger

namespace Path

variable {s s' : Shared σ} {p p' : Option Pending} {ms before : List (Moment σ)}

theorem ledger_append (h : Path s p ms s' p') : ∀ {before : List (Moment σ)},
    Ledger number before s → Ledger number (before ++ ms) s' := by
  induction h with
  | nil => intro before hb; rwa [List.append_nil]
  | @cons _ _ _ _ _ m rest hm _ ih =>
    intro before hb
    rw [List.append_cons]
    exact ih (hb.move hm)

/-- The books that are kept from when a query had no slots are right. -/
theorem ledger (h : Path s p ms s' p') (hs : s.slots number = []) : Ledger number ms s' := by
  have hledger := h.ledger_append (ledger_nil hs)
  rwa [List.nil_append] at hledger

/-- A listener stays in its slot until it goes away. -/
theorem listenerAt?_eq (h : Path s p ms s' p') (hl : s.listenerAt? number slot ≠ none)
    (hr : slot ∉ removedSlots number ms) :
    s'.listenerAt? number slot = s.listenerAt? number slot := by
  induction h with
  | nil => rfl
  | @cons s _ _ _ _ m rest hm hrest ih =>
    have hstep : m.shared.listenerAt? number slot = s.listenerAt? number slot := by
      have hlt := Shared.lt_of_listenerAt? hl
      rw [Shared.listenerAt?_eq, Shared.listenerAt?_eq]
      rcases hm.slots_cases number with ⟨-, -, hslots⟩ | ⟨listener, -, -, hslots⟩ |
        ⟨gone, -, hremoved, -, hslots⟩
      · rw [hslots]
      · rw [hslots, List.getElem?_append_left hlt]
      · have hne : gone ≠ slot := by
          rintro rfl
          apply hr
          exact List.mem_filterMap.mpr ⟨m, List.mem_cons_self .., hremoved⟩
        rw [hslots, List.getElem?_set_ne hne]
    rw [← hstep]
    refine ih (by rwa [hstep]) fun hmem => hr ?_
    rw [← List.singleton_append, removedSlots_append]
    exact List.mem_append_right _ hmem

end Path

end MediaQuery
