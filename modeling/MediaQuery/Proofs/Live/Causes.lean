import MediaQuery.Proofs.Live.Accuracy
import MediaQuery.Proofs.Live.Reports

/-!
# Who fails

A round of calls fails in one way only: a listener that is called fails. `cause?` says of a listener
why it would fail if it was called, and `FailsAs` holds the moments of what runs against the failure
that it ends with: the listener called last gave the cause, and no listener before it failed.

* `failsAs_settleAll` — the law for the rounds of a pass
-/

namespace MediaQuery

variable {σ : Type}

namespace Shared

/-- The listener in a slot of a query. -/
def listenerAt? (s : Shared σ) (number slot : Nat) : Option (Program σ) :=
  (s.queries[number]?).bind (·.listener? slot)

/-- Why the listener in a slot of a query fails if it is called, if it does. -/
def cause? (s : Shared σ) (number slot : Nat) : Option String :=
  (s.listenerAt? number slot).bind fun listener => (listener.run s).1

end Shared

namespace Moment

/-- Why the listener that is called at a moment fails, if one is called and it does. -/
def cause? (m : Moment σ) : Option String :=
  m.call?.bind fun call => m.shared.cause? call.query call.slot

end Moment

/-- Some moments end with a failure, or with none: it is that of the listener which was called last,
with the text of its query. -/
inductive FailsAs : List (Moment σ) → Option Failure → Prop where
  | ok {ms : List (Moment σ)} (h : ∀ m ∈ ms, m.cause? = none) : FailsAs ms none
  | failed {before after : List (Moment σ)} {m : Moment σ} {call : Call} {media cause : String}
    (hbefore : ∀ m' ∈ before, m'.cause? = none) (hcall : m.call? = some call)
    (hmedia : m.shared.medias[call.query]? = some media) (hcause : m.cause? = some cause)
    (hafter : callsAmong after = []) :
    FailsAs (before ++ m :: after) (some (.listener media cause))

theorem cause?_eq_none_of_callsAmong {ms : List (Moment σ)} (h : callsAmong ms = []) :
    ∀ m ∈ ms, m.cause? = none := by
  intro m hm
  have hcall : m.call? = none := List.filterMap_eq_nil_iff.mp h m hm
  rw [Moment.cause?, hcall, Option.bind_none]

namespace FailsAs

variable {ms ms' : List (Moment σ)} {failure : Option Failure}

/-- Where nobody is called, nothing fails. -/
theorem of_callsAmong (h : callsAmong ms = []) : FailsAs ms none :=
  ok (cause?_eq_none_of_callsAmong h)

/-- What went well is followed by what may fail. -/
theorem append (h : FailsAs ms none) (h' : FailsAs ms' failure) : FailsAs (ms ++ ms') failure := by
  cases h with
  | ok h =>
    cases h' with
    | ok h' =>
      refine ok fun m hm => ?_
      rcases List.mem_append.mp hm with hm | hm
      · exact h m hm
      · exact h' m hm
    | failed hbefore hcall hmedia hcause hafter =>
      rw [← List.append_assoc]
      refine failed (fun m hm => ?_) hcall hmedia hcause hafter
      rcases List.mem_append.mp hm with hm | hm
      · exact h m hm
      · exact hbefore m hm

/-- There is a failure exactly if a listener that is called fails. -/
theorem isSome_iff (h : FailsAs ms failure) :
    failure.isSome = true ↔ ∃ m ∈ ms, m.cause? ≠ none := by
  cases h with
  | ok h =>
    refine ⟨fun hsome => absurd hsome (by simp), ?_⟩
    rintro ⟨m, hm, hcause⟩
    exact absurd (h m hm) hcause
  | @failed _ _ m _ _ _ _ _ _ hcause =>
    exact ⟨fun _ => ⟨m, by simp, by simp [hcause]⟩, fun _ => rfl⟩

end FailsAs

namespace Shared

/-! ## Rounds of calls -/

/-- A call fails exactly if its listener does. -/
theorem failure_call (s : Shared σ) (number slot : Nat) :
    (s.call number slot).failure =
      (s.cause? number slot).map (.listener ((s.medias[number]?).getD "")) := by
  unfold call cause? listenerAt?
  cases hq : s.queries[number]? with
  | none => rfl
  | some q =>
    simp only [Option.bind_some]
    cases q.listener? slot with
    | none => rfl
    | some listener =>
      have hmedia : s.medias[number]? = some q.media := by rw [medias, List.getElem?_map, hq]; rfl
      rw [hmedia]
      rfl

theorem failsAs_call (s : Shared σ) (number slot : Nat) :
    FailsAs (s.callMoments number slot) (s.call number slot).failure := by
  unfold callMoments call
  cases hq : s.queries[number]? with
  | none => exact .of_callsAmong rfl
  | some q =>
    simp only
    cases hl : q.listener? slot with
    | none => exact .of_callsAmong rfl
    | some listener =>
      have hcause : Moment.cause? ⟨.called ⟨number, slot, q.view⟩, s⟩ = (listener.run s).1 := by
        simp [Moment.cause?, Moment.call?, cause?, listenerAt?, hq, hl]
      cases hrun : (listener.run s).1 with
      | none =>
        rw [hrun] at hcause
        simp only [hrun]
        refine FailsAs.ok fun m hm => ?_
        rcases List.mem_cons.mp hm with rfl | hm
        · exact hcause
        · refine cause?_eq_none_of_callsAmong ?_ m hm
          rw [callsAmong_append, callsAmong_program]
          rfl
      | some cause =>
        rw [hrun] at hcause
        simp only [hrun]
        -- the call is the first of its moments, so that nothing has failed before it
        have hnone : ∀ m ∈ ([] : List (Moment σ)), m.cause? = none :=
          fun m hm => absurd hm List.not_mem_nil
        refine FailsAs.failed hnone rfl ?_ hcause ?_
        · rw [medias, List.getElem?_map, hq]
          rfl
        · rw [callsAmong_append, callsAmong_program]
          rfl

theorem failsAs_notify (number : Nat) (slots : List Nat) :
    ∀ s : Shared σ, FailsAs (s.notifyMoments number slots) (s.notify number slots).failure := by
  induction slots with
  | nil => exact fun s => .of_callsAmong rfl
  | cons slot rest ih =>
    intro s
    have hcall := failsAs_call s number slot
    rw [notifyMoments, notify]
    cases hf : (s.call number slot).failure with
    | some failure =>
      rw [hf] at hcall
      rw [Round.andThen_of_failure hf, hf, List.append_nil]
      exact hcall
    | none =>
      rw [hf] at hcall
      rw [Round.andThen_of_ok hf]
      exact hcall.append (ih _)

theorem failsAs_settle (s : Shared σ) (number : Nat) :
    FailsAs (s.settleMoments number) (s.settle number).failure := by
  unfold settleMoments settle
  cases s.queries[number]? with
  | none => exact .of_callsAmong rfl
  | some q =>
    by_cases hc : q.isChanged = true
    · simp only [hc, if_true]
      rw [← List.singleton_append]
      exact FailsAs.append (.of_callsAmong rfl) (failsAs_notify _ _ _)
    · simp only [hc]
      exact .of_callsAmong rfl

/-- The rounds of a pass fail as the listener does that is called last in them. -/
theorem failsAs_settleAll (numbers : List Nat) : ∀ s : Shared σ,
    FailsAs (s.settleAllMoments numbers) (s.settleAll numbers).failure := by
  induction numbers with
  | nil => exact fun s => .of_callsAmong rfl
  | cons number rest ih =>
    intro s
    have hfirst := failsAs_settle s number
    rw [settleAllMoments, settleAll]
    cases hf : (s.settle number).failure with
    | some failure =>
      rw [hf] at hfirst
      rw [Round.andThen_of_failure hf, hf, List.append_nil]
      exact hfirst
    | none =>
      rw [hf] at hfirst
      rw [Round.andThen_of_ok hf]
      exact hfirst.append (ih _)

end Shared

end MediaQuery
