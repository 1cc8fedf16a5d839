import MediaQuery.Proofs.Live.Notification
import MediaQuery.Proofs.Live.Slots

/-!
# Whose turn it is in a round of calls

A round of calls goes through the slots that were given out before it began, and the listeners that
it calls may empty them before it gets there. `roundTo` is the round as far as it comes before a
slot, so its state is the one that the round finds when it comes there. `IsRound` says which
listeners are called, and `SlotsAgree` what can be said of the slots of a query at any moment of a
run: which slot a listener gets that comes then, and when it can go away again.

* `slots_are_given_out_once` — the law for every run
-/

namespace MediaQuery

variable {σ : Type} {number slot : Nat}

theorem Round.andThen_assoc (r : Round σ) (next later : Shared σ → Round σ) :
    (r.andThen next).andThen later = r.andThen fun s => (next s).andThen later := by
  cases hr : r.failure with
  | some failure => simp [Round.andThen_of_failure hr]
  | none =>
    rw [Round.andThen_of_ok hr, Round.andThen_of_ok hr]
    unfold Round.andThen
    cases hn : (next r.shared).failure <;> simp [hn]

namespace Shared

variable {s : Shared σ}

/-! ## The turns of a round -/

theorem notify_append (number : Nat) (slots later : List Nat) : ∀ s : Shared σ,
    s.notify number (slots ++ later) =
      (s.notify number slots).andThen fun s => s.notify number later := by
  induction slots with
  | nil => intro s; rfl
  | cons slot rest ih =>
    intro s
    rw [List.cons_append, notify, notify, Round.andThen_assoc]
    congr 1
    funext s'
    exact ih s'

/-- A round of calls for a query as far as it comes before a slot. -/
def roundTo (s : Shared σ) (number slot : Nat) : Round σ := s.notify number (List.range slot)

theorem roundTo_succ (s : Shared σ) (number slot : Nat) :
    s.roundTo number (slot + 1) =
      (s.roundTo number slot).andThen fun s => s.call number slot := by
  rw [roundTo, List.range_succ, notify_append]
  simp [notify, roundTo]

/-- Whether a round comes to a slot, and a listener is there at that time. -/
def isCalled (s : Shared σ) (number slot : Nat) : Bool :=
  (s.roundTo number slot).failure.isNone &&
    ((s.roundTo number slot).shared.listenerAt? number slot).isSome

/-- The listener in a slot is called if there is one. -/
theorem map_calls_call (s : Shared σ) (number slot : Nat) :
    (s.call number slot).calls.map (fun call => (call.query, call.slot)) =
      if (s.listenerAt? number slot).isSome then [(number, slot)] else [] := by
  unfold call listenerAt?
  cases s.queries[number]? with
  | none => rfl
  | some q =>
    rw [Option.bind_some]
    simp only
    cases q.listener? slot <;> rfl

theorem map_calls_roundTo (s : Shared σ) (number bound : Nat) :
    (s.roundTo number bound).calls.map (fun call => (call.query, call.slot)) =
      ((List.range bound).filter (s.isCalled number)).map (number, ·) := by
  induction bound with
  | zero => rfl
  | succ bound ih =>
    have hcall := map_calls_call (s.roundTo number bound).shared number bound
    rw [roundTo_succ, calls_andThen, List.map_append, ih, List.range_succ, List.filter_append,
      List.map_append]
    congr 1
    cases hf : (s.roundTo number bound).failure with
    | some failure => simp [isCalled, hf]
    | none =>
      rw [hcall]
      by_cases hl : ((s.roundTo number bound).shared.listenerAt? number bound).isSome = true
      · simp [isCalled, hf, hl]
      · simp [isCalled, hf, hl]

/-- A round comes to a slot unless a listener fails that it calls before. -/
theorem failure_roundTo_eq_none_iff (s : Shared σ) (number slot : Nat) :
    (s.roundTo number slot).failure = none ↔
      ∀ earlier < slot, (s.roundTo number earlier).shared.cause? number earlier = none := by
  induction slot with
  | zero => exact ⟨fun _ earlier h => absurd h (Nat.not_lt_zero _), fun _ => rfl⟩
  | succ slot ih =>
    have hstep : (s.roundTo number (slot + 1)).failure = none ↔
        (s.roundTo number slot).failure = none ∧
          (s.roundTo number slot).shared.cause? number slot = none := by
      rw [roundTo_succ]
      cases hf : (s.roundTo number slot).failure with
      | some failure => simp [hf]
      | none => simp [Round.andThen_of_ok hf, failure_call]
    rw [hstep, ih]
    constructor
    · rintro ⟨hearlier, hslot⟩ earlier h
      rcases Nat.lt_succ_iff_lt_or_eq.mp h with h | rfl
      · exact hearlier earlier h
      · exact hslot
    · intro h
      exact ⟨fun earlier hlt => h earlier (Nat.lt_succ_of_lt hlt), h slot (Nat.lt_succ_self slot)⟩

/-- A call that fails is one of a listener that is there, and its failure is the last of its
moments. -/
theorem exists_failed_call {failure : Failure} (h : (s.call number slot).failure = some failure) :
    ∃ m ∈ s.callMoments number slot, m.event = .failed number slot := by
  unfold call at h
  unfold callMoments
  cases hq : s.queries[number]? with
  | none => simp [hq, Round.idle] at h
  | some q =>
    cases hl : q.listener? slot with
    | none => simp [hq, hl, Round.idle] at h
    | some listener =>
      cases hcause : (listener.run s).1 with
      | none => simp [hq, hl, hcause] at h
      | some cause =>
        exact ⟨⟨.failed number slot, (listener.run s).2⟩, by simp [hl, hcause], rfl⟩

/-- A round comes to its end, or a listener fails in it. -/
theorem exists_end_notify (number : Nat) (slots : List Nat) : ∀ s : Shared σ,
    ∃ m ∈ s.notifyMoments number slots,
      m.event = .ended number ∨ ∃ slot, m.event = .failed number slot := by
  induction slots with
  | nil => exact fun s => ⟨⟨.ended number, s⟩, List.mem_singleton_self _, Or.inl rfl⟩
  | cons slot rest ih =>
    intro s
    rw [notifyMoments]
    cases hf : (s.call number slot).failure with
    | none =>
      obtain ⟨m, hm, hend⟩ := ih (s.call number slot).shared
      exact ⟨m, List.mem_append_right _ hm, hend⟩
    | some failure =>
      obtain ⟨m, hm, hfailed⟩ := exists_failed_call hf
      exact ⟨m, List.mem_append_left _ hm, Or.inr ⟨slot, hfailed⟩⟩

end Shared

/-! ## Rounds among the moments of a run -/

theorem stateAfter_append (ms ms' : List (Moment σ)) : ∀ s : Shared σ,
    stateAfter s (ms ++ ms') = stateAfter (stateAfter s ms) ms' := by
  induction ms with
  | nil => intro s; rfl
  | cons m rest ih => intro s; exact ih m.shared

namespace Shared

theorem stateAfter_call (s : Shared σ) (number slot : Nat) :
    stateAfter s (s.callMoments number slot) = (s.call number slot).shared := by
  unfold callMoments call
  cases s.queries[number]? with
  | none => rfl
  | some q =>
    simp only
    cases q.listener? slot with
    | none => rfl
    | some listener =>
      have hrun := (path_program listener s none).stateAfter_eq
      simp only [stateAfter, stateAfter_append, hrun]
      cases (listener.run s).1 <;> rfl

/-- A round that nobody ends early is a round for its first slots, and one for the others. -/
theorem notifyMoments_append (number : Nat) (slots later : List Nat) : ∀ {s : Shared σ},
    (s.notify number slots).failure = none →
    ∃ earlier, s.notifyMoments number (slots ++ later) =
        earlier ++ (s.notify number slots).shared.notifyMoments number later ∧
      stateAfter s earlier = (s.notify number slots).shared ∧
      callsAmong earlier = (s.notify number slots).calls := by
  induction slots with
  | nil => intro s _; exact ⟨[], rfl, rfl, rfl⟩
  | cons slot rest ih =>
    intro s h
    rw [notify] at h
    cases hf : (s.call number slot).failure with
    | some failure =>
      rw [Round.andThen_of_failure hf, hf] at h
      exact absurd h (by simp)
    | none =>
      rw [Round.andThen_of_ok hf] at h
      obtain ⟨earlier, hmoments, hstate, hcalls⟩ := ih h
      refine ⟨s.callMoments number slot ++ earlier, ?_, ?_, ?_⟩
      · rw [List.cons_append, notifyMoments, hf, hmoments, notify, Round.andThen_of_ok hf,
          List.append_assoc]
      · rw [stateAfter_append, stateAfter_call, hstate, notify, Round.andThen_of_ok hf]
      · rw [callsAmong_append, callsAmong_call, hcalls, notify, Round.andThen_of_ok hf]

end Shared

/-- Wherever a query tells something new among some moments, the round of calls for all of its
slots follows. -/
def RoundsFollow (number : Nat) : List (Moment σ) → Prop
  | [] => True
  | m :: rest =>
    (m.event = .changed number → ∃ later, rest =
      m.shared.notifyMoments number (List.range (m.shared.slots number).length) ++ later) ∧
      RoundsFollow number rest

namespace RoundsFollow

variable {ms ms' : List (Moment σ)}

theorem append (h : RoundsFollow number ms) (h' : RoundsFollow number ms') :
    RoundsFollow number (ms ++ ms') := by
  induction ms with
  | nil => exact h'
  | cons m rest ih =>
    refine ⟨fun hm => ?_, ih h.2⟩
    obtain ⟨later, hrest⟩ := h.1 hm
    refine ⟨later ++ ms', ?_⟩
    rw [← List.append_assoc, ← hrest]
    rfl

theorem cons {m : Moment σ} (hm : m.event ≠ .changed number) (h : RoundsFollow number ms) :
    RoundsFollow number (m :: ms) := ⟨fun he => absurd he hm, h⟩

theorem at_split {before rest : List (Moment σ)} {s₀ : Shared σ}
    (h : RoundsFollow number (before ++ ⟨.changed number, s₀⟩ :: rest)) :
    ∃ later, rest = s₀.notifyMoments number (List.range (s₀.slots number).length) ++ later := by
  induction before with
  | nil => exact h.1 rfl
  | cons m before ih => exact ih h.2

theorem of_ne_changed (h : ∀ m ∈ ms, m.event ≠ .changed number) : RoundsFollow number ms := by
  induction ms with
  | nil => trivial
  | cons m rest ih =>
    obtain ⟨hm, hrest⟩ := List.forall_mem_cons.mp h
    exact cons hm (ih hrest)

/-- No query tells anything new while a listener runs. -/
theorem program (program : Program σ) (s : Shared σ) : RoundsFollow number (program.moments s) := by
  refine of_ne_changed fun m hm hchanged => ?_
  have hevent := program.isByListener_moments s m hm
  rw [hchanged] at hevent
  exact absurd hevent (by simp [Event.isByListener])

theorem call (s : Shared σ) (query slot : Nat) :
    RoundsFollow number (s.callMoments query slot) := by
  unfold Shared.callMoments
  cases s.queries[query]? with
  | none => trivial
  | some q =>
    simp only
    cases q.listener? slot with
    | none => trivial
    | some listener =>
      refine cons (by simp) ((program listener s).append ?_)
      cases (listener.run s).1 with
      | none => trivial
      | some cause => exact cons (by simp) trivial

/-- No query tells anything new in the middle of a round. -/
theorem notify (query : Nat) (slots : List Nat) : ∀ s : Shared σ,
    RoundsFollow number (s.notifyMoments query slots) := by
  induction slots with
  | nil => intro s; exact cons (by simp) trivial
  | cons slot rest ih =>
    intro s
    rw [Shared.notifyMoments]
    refine (call s query slot).append ?_
    cases (s.call query slot).failure with
    | some failure => trivial
    | none => exact ih _

theorem settle (s : Shared σ) (query : Nat) : RoundsFollow number (s.settleMoments query) := by
  unfold Shared.settleMoments
  cases hq : s.queries[query]? with
  | none => trivial
  | some q =>
    by_cases hc : q.isChanged = true
    · simp only [hc, if_true]
      refine ⟨fun he => ⟨[], ?_⟩, notify query _ _⟩
      -- the round is for the slots that the query has when it takes over what the pass found
      obtain rfl : query = number := by simpa using he
      rw [Shared.slots_modifyQuery_self hq, List.append_nil]
      rfl
    · simp only [hc]
      trivial

theorem settleAll (queries : List Nat) : ∀ s : Shared σ,
    RoundsFollow number (s.settleAllMoments queries) := by
  induction queries with
  | nil => intro s; trivial
  | cons query rest ih =>
    intro s
    rw [Shared.settleAllMoments]
    refine (settle s query).append ?_
    cases (s.settle query).failure with
    | some failure => trivial
    | none => exact ih _

theorem step (step : Step σ) (e : Engine σ) : RoundsFollow number (step.moments e) := by
  cases step with
  | store text href media => trivial
  | register media => exact cons (by simp) trivial
  | ask href => trivial
  | signal => trivial
  | pass => exact cons (by simp) (settleAll _ _)
  | host action =>
    cases action with
    | act listener => exact program listener e.shared
    | replaceClock now => exact cons (by simp) trivial
    | _ => trivial

theorem momentsOf (steps : List (Step σ)) : ∀ e : Engine σ,
    RoundsFollow number (momentsOf steps e) := by
  induction steps with
  | nil => intro e; trivial
  | cons first rest ih => intro e; exact (step first e).append (ih _)

end RoundsFollow

/-! ## What holds at any moment -/

/-- What can be said of the slots of a query in a run that has started from a state and come as far
as some moments. -/
structure SlotsAgree (number : Nat) (start : Shared σ) (ms : List (Moment σ)) : Prop where
  /-- A listener that comes to a query gets the slot behind all those that were given out, and a
  query that is not there gives none. -/
  slot_eq : ∀ listener : Program σ, ((stateAfter start ms).addListener number listener).1 =
    if number < (stateAfter start ms).queries.length then some (addedSlots number ms).length
    else none
  /-- Nobody had this slot before. -/
  adds : ∀ (listener : Program σ) (slot : Nat),
    ((stateAfter start ms).addListener number listener).1 = some slot → slot ∉ addedSlots number ms
  /-- The listener is in its slot then, and no other slot of any query holds another one. -/
  comes : ∀ (listener : Program σ) (query other : Nat),
    ((stateAfter start ms).addListener number listener).2.listenerAt? query other =
      if query = number ∧
          ((stateAfter start ms).addListener number listener).1 = some other then some listener
      else (stateAfter start ms).listenerAt? query other
  /-- What is in a slot is the listener that got it, until it goes away. -/
  holds : ∀ (before after : List (Moment σ)) (slot : Nat) (s₀ : Shared σ),
    ms = before ++ ⟨.added number slot, s₀⟩ :: after →
      ∃ listener, (stateAfter start before).addListener number listener = (some slot, s₀) ∧
        (slot ∉ removedSlots number ms →
          (stateAfter start ms).listenerAt? number slot = some listener)
  /-- To remove it succeeds if it is the first time. -/
  removes_iff : ∀ slot, ((stateAfter start ms).removeListener number slot).1 = true ↔
    slot ∈ addedSlots number ms ∧ slot ∉ removedSlots number ms
  /-- It goes away, and no other listener of any query does. -/
  removes : ∀ slot query other,
    ((stateAfter start ms).removeListener number slot).2.listenerAt? query other =
      if query = number ∧ other = slot then none
      else (stateAfter start ms).listenerAt? query other
  /-- The listeners that are counted are those that came, less those that went away. -/
  counts : ∀ q, (stateAfter start ms).queries[number]? = some q →
    q.listenerCount + (removedSlots number ms).length = (addedSlots number ms).length

/-- What can be said of a round of calls for a query that has given out some slots, from the state
in which it begins. -/
structure IsRound (number : Nat) (slots : List Nat) (s : Shared σ) (round : List (Moment σ)) :
    Prop where
  moments_eq : round = s.notifyMoments number slots
  /-- It comes to a slot, in this state, when it has made the calls for those before it. -/
  comes : ∀ slot ∈ slots, (s.roundTo number slot).failure = none →
    ∃ earlier later, round = earlier ++ later ∧
      stateAfter s earlier = (s.roundTo number slot).shared ∧
      callsAmong earlier = (s.roundTo number slot).calls
  /-- Unless a listener fails before. -/
  comes_iff : ∀ slot, (s.roundTo number slot).failure = none ↔
    ∀ earlier < slot, (s.roundTo number earlier).shared.cause? number earlier = none
  /-- It calls the listeners that are there when it comes to their slots. -/
  calls_eq : (callsAmong round).map (fun call => (call.query, call.slot)) =
    (slots.filter (s.isCalled number)).map (number, ·)
  increasing : ((callsAmong round).map Call.slot).Pairwise (· < ·)

/-- A listener that comes is in the slot that it got, and no other slot is another one. -/
theorem Shared.listenerAt?_addListener (s : Shared σ) (number : Nat) (listener : Program σ)
    (query other : Nat) :
    (s.addListener number listener).2.listenerAt? query other =
      if query = number ∧ (s.addListener number listener).1 = some other then some listener
      else s.listenerAt? query other := by
  rw [listenerAt?_eq, listenerAt?_eq]
  by_cases hquery : query = number
  · subst hquery
    cases hslot : (s.addListener query listener).1 with
    | none =>
      have hq : s.queries[query]? = none := Option.map_eq_none_iff.mp hslot
      rw [if_neg (by simp), addListener, slots, slots, modifyQuery_of_none hq]
    | some slot =>
      obtain ⟨hlength, hslots⟩ := slots_addListener hslot
      rw [hslots]
      rcases Nat.lt_trichotomy other slot with hlt | rfl | hgt
      · rw [if_neg fun h => Nat.ne_of_gt hlt (Option.some.inj h.2),
          List.getElem?_append_left (by omega)]
      · rw [if_pos ⟨rfl, rfl⟩, ← hlength, List.getElem?_concat_length]
        rfl
      · rw [if_neg fun h => Nat.ne_of_lt hgt (Option.some.inj h.2),
          List.getElem?_eq_none_iff.mpr (by rw [List.length_append, List.length_singleton]; omega),
          List.getElem?_eq_none_iff.mpr (by omega)]
  · rw [if_neg fun h => hquery h.1, addListener, slots_modifyQuery_of_ne (Ne.symm hquery)]

theorem Shared.listenerAt?_removeListener (s : Shared σ) (number slot query other : Nat) :
    (s.removeListener number slot).2.listenerAt? query other =
      if query = number ∧ other = slot then none else s.listenerAt? query other := by
  rw [listenerAt?_eq, listenerAt?_eq]
  by_cases hquery : query = number
  · subst hquery
    rw [slots_removeListener]
    by_cases hslot : other = slot
    · subst hslot
      rw [if_pos ⟨rfl, rfl⟩, List.getElem?_set_self']
      cases (s.slots query)[other]? <;> rfl
    · rw [if_neg fun h => hslot h.2, List.getElem?_set_ne (Ne.symm hslot)]
  · rw [if_neg fun h => hquery h.1, removeListener, slots_modifyQuery_of_ne (Ne.symm hquery)]

theorem Path.slotsAgree {s s' : Shared σ} {p p' : Option Pending} {ms : List (Moment σ)}
    (h : Path s p ms s' p') (hs : s.slots number = []) : SlotsAgree number s ms := by
  have hledger : Ledger number ms (stateAfter s ms) := by
    rw [h.stateAfter_eq]
    exact h.ledger hs
  have hadded : (addedSlots number ms).length = ((stateAfter s ms).slots number).length := by
    rw [hledger.added_eq, List.length_range]
  refine ⟨?_, ?_, ?_, ?_, ?_, ?_, ?_⟩
  · intro listener
    split
    next hlt =>
      have hq := List.getElem?_eq_getElem hlt
      rw [hadded, Shared.slots_of_some hq, Shared.addListener, hq]
      rfl
    next hge =>
      rw [Shared.addListener, List.getElem?_eq_none_iff.mpr (Nat.le_of_not_lt hge)]
      rfl
  · intro listener slot hslot hmem
    have hlt := hledger.mem_added_iff.mp hmem
    rw [(Shared.slots_addListener hslot).1] at hlt
    exact Nat.lt_irrefl _ hlt
  · exact fun listener query other => Shared.listenerAt?_addListener _ number listener query other
  · rintro before after slot s₀ rfl
    -- the listener is in its slot right after it came, and stays there in what follows
    obtain ⟨s₁, p₁, hbefore, hrest⟩ := h.split
    rw [h.stateAfter_eq, hbefore.stateAfter_eq]
    cases hrest with
    | cons hadded hafter =>
      cases hadded with
      | @added _ _ _ listener hslot =>
        have hl := s₁.listenerAt?_addListener number listener number slot
        rw [if_pos ⟨rfl, hslot⟩] at hl
        refine ⟨listener, Prod.ext hslot rfl, fun hr => ?_⟩
        have hstays := hafter.listenerAt?_eq (by rw [hl]; simp) fun hmem => hr ?_
        · rw [hstays, hl]
        · rw [List.append_cons, removedSlots_append]
          exact List.mem_append_right _ hmem
  · intro slot
    rw [← hledger.listenerAt?_iff]
    exact Option.isSome_iff_ne_none
  · exact fun slot query other => Shared.listenerAt?_removeListener _ number slot query other
  · intro q hq
    have hcount := hledger.count_eq
    rw [Shared.slots_of_some hq, List.countP_eq_length_filter] at hcount
    exact hcount

theorem isRound_notifyMoments (s : Shared σ) (number bound : Nat) :
    IsRound number (List.range bound) s (s.notifyMoments number (List.range bound)) := by
  have hcalls : (callsAmong (s.notifyMoments number (List.range bound))).map
      (fun call => (call.query, call.slot)) =
        ((List.range bound).filter (s.isCalled number)).map (number, ·) := by
    rw [Shared.callsAmong_notify]
    exact s.map_calls_roundTo number bound
  refine ⟨rfl, ?_, s.failure_roundTo_eq_none_iff number, hcalls, ?_⟩
  · intro slot hslot hf
    have hsplit : List.range bound = List.range slot ++ List.range' slot (bound - slot) := by
      have hle := Nat.le_of_lt (List.mem_range.mp hslot)
      have happend : List.range' 0 slot ++ List.range' (0 + slot) (bound - slot) =
          List.range' 0 (slot + (bound - slot)) := List.range'_append_1
      rw [Nat.zero_add, Nat.add_sub_cancel' hle] at happend
      rw [List.range_eq_range', List.range_eq_range', happend]
    obtain ⟨earlier, hround, hstate, hcalls⟩ :=
      Shared.notifyMoments_append number (List.range slot) (List.range' slot (bound - slot)) hf
    rw [← hsplit] at hround
    exact ⟨earlier, _, hround, hstate, hcalls⟩
  · have hslots : (callsAmong (s.notifyMoments number (List.range bound))).map Call.slot =
        (List.range bound).filter (s.isCalled number) := by
      have hsnd := congrArg (List.map Prod.snd) hcalls
      simpa [List.map_map, Function.comp_def] using hsnd
    rw [hslots]
    exact List.pairwise_lt_range.filter _

namespace Engine

section

variable {document : Dom.Document} {viewport : Viewport} {now : Nat} {host : σ}
  {ops : List (Operation σ)} {before rest after : List (Moment σ)} {s s₀ : Shared σ}

/-- Where a query tells something new, a round follows for the slots that were given out before. -/
theorem exists_round_of_changed
    (hrun : runMoments ops (ofDocument document viewport now host) =
      before ++ ⟨.changed number, s₀⟩ :: rest) :
    ∃ round later, rest = round ++ later ∧ IsRound number (addedSlots number before) s₀ round := by
  have hpath := path_runMoments document viewport now host ops
  have hrounds : RoundsFollow number (runMoments ops (ofDocument document viewport now host)) :=
    .momentsOf _ _
  rw [hrun] at hpath hrounds
  obtain ⟨later, hrest⟩ := hrounds.at_split
  refine ⟨_, later, hrest, ?_⟩
  -- the slots that the query has when it tells something new are those given out before
  obtain ⟨s₁, p₁, hbefore, hchange⟩ := hpath.split
  have hadded : addedSlots number before = List.range (s₀.slots number).length := by
    cases hchange with
    | cons hchanged _ =>
      cases hchanged with
      | changed hq _ =>
        rw [(hbefore.ledger rfl).added_eq, Shared.slots_of_some hq,
          Shared.slots_modifyQuery_self hq]
        rfl
  rw [hadded]
  exact isRound_notifyMoments s₀ number _

/-- A listener is called in a round only, which began when its query told something new. -/
theorem exists_round_of_called {view : QueryView}
    (hrun : runMoments ops (ofDocument document viewport now host) =
      before ++ ⟨.called ⟨number, slot, view⟩, s⟩ :: after) :
    ∃ earlier s₀ inside rest later, before = earlier ++ ⟨.changed number, s₀⟩ :: inside ∧
      after = rest ++ later ∧
      IsRound number (addedSlots number earlier) s₀
        (inside ++ ⟨.called ⟨number, slot, view⟩, s⟩ :: rest) := by
  have hpath := path_runMoments document viewport now host ops
  rw [hrun] at hpath
  obtain ⟨s₁, p₁, hbefore, hcall⟩ := hpath.split
  have hdue : Pending.isDue number slot p₁ = true := by
    cases hcall with
    | cons hcalled _ =>
      cases hcalled with
      | called _ hnext hbound _ _ => exact Pending.isDue_iff.mpr ⟨rfl, hnext, hbound⟩
  rcases hbefore.awaits hdue with ⟨earlier, s₀, inside, rfl, hquiet⟩ | ⟨hstart, -⟩
  · rw [List.append_assoc, List.cons_append] at hrun
    obtain ⟨round, later, hrest, hround⟩ := exists_round_of_changed hrun
    -- the round has not come to its end before the call, so the call is one of its moments
    obtain ⟨m, hm, hend⟩ := Shared.exists_end_notify number (addedSlots number earlier) s₀
    rw [← hround.moments_eq] at hm
    have hopen : m ∉ inside := by
      intro hmem
      obtain ⟨hended, hfailed, -⟩ := hquiet m hmem
      rcases hend with hend | ⟨i, hend⟩
      · exact hended hend
      · exact hfailed i hend
    rcases List.append_eq_append_iff.mp hrest with ⟨tail, hsplit, htail⟩ | ⟨tail, hsplit, -⟩
    · cases tail with
      | nil => exact absurd (by simpa [hsplit] using hm) hopen
      | cons first rest =>
        rw [List.cons_append] at htail
        obtain ⟨rfl, rfl⟩ := List.cons.inj htail
        exact ⟨earlier, s₀, inside, rest, later, rfl, rfl, hsplit ▸ hround⟩
    · exact absurd (hsplit ▸ List.mem_append_left tail hm) hopen
  · exact absurd hstart (by simp)

end

/-- Take any run and any query. No slot is given out twice, and none is emptied twice. At any
moment, also while listeners are being called, the slots that the query has are those of the books:
a listener that comes gets the next slot, which nobody had before, is the one that goes away when
the slot is emptied, which succeeds once, and is counted until then. And wherever the query tells
something new, a round follows for the slots that were given out before, which calls the listeners
that are still there when it comes to them, until one fails; nobody is called outside of a round.
The moments lead to the state that the operations leave, and their calls are those that the
operations report. -/
theorem slots_are_given_out_once (document : Dom.Document) (viewport : Viewport) (now : Nat)
    (host : σ) (ops : List (Operation σ)) (number : Nat) :
    let start := ofDocument document viewport now host
    let ms := runMoments ops start
    (addedSlots number ms).Nodup ∧ (removedSlots number ms).Nodup ∧
      (∀ before after, ms = before ++ after → SlotsAgree number start.shared before) ∧
      (∀ before s₀ rest, ms = before ++ ⟨.changed number, s₀⟩ :: rest →
        ∃ round later, rest = round ++ later ∧
          IsRound number (addedSlots number before) s₀ round) ∧
      (∀ before slot view s after, ms = before ++ ⟨.called ⟨number, slot, view⟩, s⟩ :: after →
        ∃ earlier s₀ inside rest later, before = earlier ++ ⟨.changed number, s₀⟩ :: inside ∧
          after = rest ++ later ∧
          IsRound number (addedSlots number earlier) s₀
            (inside ++ ⟨.called ⟨number, slot, view⟩, s⟩ :: rest)) ∧
      stateAfter start.shared ms = (runAll ops start).shared ∧
      reportedCalls ops start = callsAmong ms := by
  intro start ms
  have hpath := path_runMoments document viewport now host ops
  have hslots : start.shared.slots number = [] := rfl
  have hledger := hpath.ledger hslots
  refine ⟨?_, hledger.removed_nodup, ?_, ?_, ?_, hpath.stateAfter_eq, reportedCalls_eq ops start⟩
  · rw [hledger.added_eq]
    exact List.nodup_range
  · intro before after hrun
    rw [show runMoments ops start = before ++ after from hrun] at hpath
    obtain ⟨s₁, p₁, hbefore, -⟩ := hpath.split
    exact hbefore.slotsAgree hslots
  · exact fun before s₀ rest hrun => exists_round_of_changed hrun
  · exact fun before slot view s after hrun => exists_round_of_called hrun

/-- A run in which a listener empties its own slot and the next one while it is called, and adds
another listener. -/
def emptiedSlotsRun : List (Operation Unit) :=
  [.matchMedia "(min-width: 600px)",
    .host (.act (.addListener 0
      (.removeListener 0 0 fun _ => .removeListener 0 1 fun _ =>
        .addListener 0 .done fun _ => .done)
      fun _ => .addListener 0 .done fun _ => .addListener 0 .done fun _ => .setWidth 700 .done)),
    .apply]

/-- The round is for the first three slots: the second one is passed over, and the listener that
comes to the fourth is not called. The slot that a listener gets after the run is a new one, though
two of the others are empty. -/
theorem emptied_slots_are_not_given_out_again :
    let start := ofDocument .empty (.ofWidth 500) 0 ()
    let ms := runMoments emptiedSlotsRun start
    addedSlots 0 ms = [0, 1, 2, 3] ∧ removedSlots 0 ms = [0, 1] ∧
      (∃ before s₀ round later, ms = before ++ ⟨.changed 0, s₀⟩ :: (round ++ later) ∧
        IsRound 0 [0, 1, 2] s₀ round) ∧
      (reportedCalls emptiedSlotsRun start).map Call.slot = [0, 2] ∧
      ((runAll emptiedSlotsRun start).shared.addListener 0 .done).1 = some 4 := by
  intro start ms
  obtain ⟨-, -, hagree, hrounds, -, hstate, -⟩ :=
    slots_are_given_out_once .empty (.ofWidth 500) 0 () emptiedSlotsRun 0
  have hadded : addedSlots 0 ms = [0, 1, 2, 3] := by decide +kernel
  refine ⟨hadded, by decide +kernel, ?_, by decide +kernel, ?_⟩
  · obtain ⟨s₀, hrun⟩ := exists_moment ms 7 (e := .changed 0) (by decide +kernel)
    obtain ⟨round, later, hrest, hround⟩ := hrounds _ _ _ hrun
    have hbefore : addedSlots 0 (ms.take 7) = [0, 1, 2] := by decide +kernel
    rw [hbefore] at hround
    exact ⟨_, s₀, round, later, hrest ▸ hrun, hround⟩
  · have hslot := (hagree ms [] (List.append_nil ms).symm).slot_eq .done
    rw [hstate, hadded, if_pos (by decide +kernel)] at hslot
    exact hslot

end Engine

end MediaQuery
