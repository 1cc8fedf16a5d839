import Mathlib.Data.List.Chain
import MediaQuery.Proofs.Live.Reports
import MediaQuery.Proofs.Live.Rounds

/-!
# A listener is told of every change, once

The calls of one listener are held against the changes of its query. `owed` is what the listener
must still be told in the round that is under way, and `Path.account` is the balance: what is owed
at first and every change after it is what the listener is told and what is owed at last. A listener
is owed nothing when it is added, and nobody is owed anything between operations.

* `listener_is_told_of_every_change` — the law for every run
-/

namespace MediaQuery

variable {σ : Type} {number slot : Nat}

/-! ## What a query tells and a listener sees -/

namespace Shared

/-- What a query tells the world. -/
def tells (s : Shared σ) (number : Nat) : Bool := (s.queries[number]?).any LiveQuery.isMatching

/-- Whether there is a listener in a slot of a query. -/
def hasListener (s : Shared σ) (number slot : Nat) : Bool :=
  ((s.queries[number]?).bind (·.listener? slot)).isSome

theorem tells_of_some {s : Shared σ} {q : LiveQuery σ} (hq : s.queries[number]? = some q) :
    s.tells number = q.isMatching := by
  rw [tells, hq, Option.any_some]

theorem tells_eq_of_bare_eq {s s' : Shared σ} (h : s'.bare = s.bare) (number : Nat) :
    s'.tells number = s.tells number := by
  have hany : ∀ t : Shared σ, t.tells number = (t.bare[number]?).any LiveQuery.isMatching := by
    intro t
    rw [tells, getElem?_bare]
    cases t.queries[number]? <;> rfl
  rw [hany, hany, h]

/-- A slot that holds a listener lies below the next free one. -/
theorem hasListener_eq_true_iff {s : Shared σ} : s.hasListener number slot = true ↔
    ∃ q, s.queries[number]? = some q ∧ q.listener? slot ≠ none := by
  rw [hasListener, Option.isSome_bind]
  cases s.queries[number]? <;> simp [Option.isSome_iff_ne_none]

end Shared

theorem LiveQuery.lt_nextSlot {q : LiveQuery σ} (h : q.listener? slot ≠ none) :
    slot < q.nextSlot := by
  by_contra hle
  exact h (by simp [listener?, List.getElem?_eq_none_iff.mpr (Nat.le_of_not_lt hle)])

/-- The values that a query takes on, one after the other, after it has told `told`. -/
def flips (number : Nat) : (told : Bool) → List (Moment σ) → List Bool
  | _, [] => []
  | told, m :: rest =>
    (if m.shared.tells number = told then [] else [m.shared.tells number]) ++
      flips number (m.shared.tells number) rest

/-- What the listener in a slot of a query sees of it, if it is called at a moment. -/
def Moment.seenBy (number slot : Nat) (m : Moment σ) : Option Bool :=
  match m.event with
  | .called call =>
    if call.query = number ∧ call.slot = slot then some call.view.isMatching else none
  | _ => none

/-- What the listener in a slot of a query sees of it, call by call. -/
def seen (number slot : Nat) (ms : List (Moment σ)) : List Bool :=
  ms.filterMap (Moment.seenBy number slot)

/-- The listener in a slot of a query stays there all the time, and no listener of the query in an
earlier slot fails. -/
def StaysOn (number slot : Nat) (ms : List (Moment σ)) : Prop :=
  ∀ m ∈ ms, m.shared.hasListener number slot = true ∧
    ∀ earlier < slot, m.event ≠ .failed number earlier

instance (ms : List (Moment σ)) : Decidable (StaysOn number slot ms) :=
  inferInstanceAs (Decidable (∀ m ∈ ms, _ ∧ ∀ earlier < slot, _))

/-- A query has changed, and the round of calls that began then has neither come to a slot nor to
its end. -/
def Awaits (number slot : Nat) (ms : List (Moment σ)) : Prop :=
  ∃ earlier s later, ms = earlier ++ ⟨.changed number, s⟩ :: later ∧
    ∀ m ∈ later, m.event ≠ .ended number ∧ (∀ i, m.event ≠ .failed number i) ∧
      ∀ call, m.event = .called call → call.query = number ∧ call.slot < slot

/-- Each value that a query takes on is the opposite of the one before. -/
theorem isChain_flips (ms : List (Moment σ)) :
    ∀ told : Bool, List.IsChain (· ≠ ·) (told :: flips number told ms) := by
  induction ms with
  | nil => intro told; exact .singleton told
  | cons m rest ih =>
    intro told
    rw [flips]
    by_cases h : m.shared.tells number = told
    · rw [if_pos h, List.nil_append, h]
      exact ih told
    · rw [if_neg h, List.singleton_append]
      exact .cons_cons (Ne.symm h) (ih _)

/-! ## The balance -/

namespace Pending

/-- Whether a round of calls has yet to come to a slot of a query. -/
def isDue (number slot : Nat) : Option Pending → Bool
  | some p => p.query == number && decide (p.next ≤ slot) && decide (slot < p.bound)
  | none => false

@[simp] theorem isDue_none : isDue number slot none = false := rfl

theorem isDue_of_ne {query next bound : Nat} (h : query ≠ number) :
    isDue number slot (some ⟨query, next, bound⟩) = false := by
  simp [isDue, h]

theorem isDue_iff {query next bound : Nat} :
    isDue number slot (some ⟨query, next, bound⟩) = true ↔
      query = number ∧ next ≤ slot ∧ slot < bound := by
  simp [isDue, and_assoc]

/-- A round does not come back to a slot that it has gone past. -/
theorem isDue_of_lt {query next bound : Nat} (h : slot < next) :
    isDue number slot (some ⟨query, next, bound⟩) = false := by
  simp [isDue, Nat.not_le_of_lt h]

section

variable {q : LiveQuery σ} {next bound i : Nat}

/-- A round that begins has yet to come to all slots that hold listeners. -/
theorem isDue_start (hl : q.listener? slot ≠ none) :
    isDue number slot (some ⟨number, 0, q.nextSlot⟩) = true :=
  isDue_iff.mpr ⟨rfl, Nat.zero_le _, q.lt_nextSlot hl⟩

/-- A round that has no listener before it any more is done with all slots that hold one. -/
theorem isDue_of_skip (hl : q.listener? slot ≠ none)
    (hskip : ∀ j, next ≤ j → j < bound → q.listener? j = none) :
    isDue number slot (some ⟨number, next, bound⟩) = false := by
  rw [Bool.eq_false_iff]
  intro hdue
  obtain ⟨-, hle, hlt⟩ := isDue_iff.mp hdue
  exact hl (hskip slot hle hlt)

/-- A call of the next listener that is there does not take its turn from any other one: the slots
that are passed over are empty. -/
theorem isDue_call_of_ne (hl : q.listener? slot ≠ none) (hnext : next ≤ i)
    (hskip : ∀ j, next ≤ j → j < i → q.listener? j = none) (hi : i ≠ slot) :
    isDue number slot (some ⟨number, next, bound⟩) =
      isDue number slot (some ⟨number, i + 1, bound⟩) := by
  have hside : next ≤ slot ↔ i + 1 ≤ slot := by
    constructor
    · intro hle
      by_contra hlt
      exact hl (hskip slot hle (by omega))
    · omega
  simp [isDue, hside]

end

end Pending

/-- What the listener in a slot of a query must still be told in a round of calls. -/
def owed (number slot : Nat) (s : Shared σ) (p : Option Pending) : List Bool :=
  if Pending.isDue number slot p then [s.tells number] else []

variable {s s' : Shared σ} {p p' : Option Pending} {m : Moment σ} {ms : List (Moment σ)}

/-- What a query tells changes only when it is said to. -/
theorem Moves.tells_eq (h : Moves s p m p') (hl : s.hasListener number slot = true)
    (hne : m.event ≠ .changed number) : m.shared.tells number = s.tells number := by
  cases h with
  | other h =>
    obtain ⟨q, hq, -⟩ := Shared.hasListener_eq_true_iff.mp hl
    obtain ⟨q', hq', hm, -⟩ := h.keeps number q hq
    rw [Shared.tells_of_some hq', Shared.tells_of_some hq, hm]
  | added h => exact Shared.tells_eq_of_bare_eq (Shared.bare_addListener s _ _) number
  | removed h => exact Shared.tells_eq_of_bare_eq (Shared.bare_removeListener s _ _) number
  | @changed changed q hq h =>
    have hc : changed ≠ number := fun he => hne (by rw [he])
    simp [Shared.tells, Shared.modifyQuery, hc]
  | called => rfl
  | failed => rfl
  | ended => rfl

/-- A listener is called for a change that it is owed, and with what it is owed. -/
theorem Moves.account (h : Moves s p m p') (hl : s.hasListener number slot = true)
    (hf : ∀ earlier < slot, m.event ≠ .failed number earlier) :
    owed number slot s p ++
        (if m.shared.tells number = s.tells number then [] else [m.shared.tells number]) =
      (m.seenBy number slot).toList ++ owed number slot m.shared p' := by
  have htells := h.tells_eq hl
  obtain ⟨q, hq, hlq⟩ := Shared.hasListener_eq_true_iff.mp hl
  cases h with
  | other h => simp [owed, Moment.seenBy, htells]
  | added h => simp [owed, Moment.seenBy, htells]
  | removed h => simp [owed, Moment.seenBy, htells]
  | @changed changed q' hq' h =>
    by_cases hc : changed = number
    · -- the round that begins takes in the slot of the listener
      subst hc
      obtain rfl : q' = q := Option.some.inj (hq'.symm.trans hq)
      have hnew : (s.modifyQuery changed LiveQuery.commit).tells changed = q'.pass := by
        simp [Shared.tells, Shared.modifyQuery, hq, LiveQuery.commit]
      simp [owed, Pending.isDue_start hlq, hnew, Shared.tells_of_some hq, h, Moment.seenBy]
    · have := htells (by simpa using hc)
      simp [owed, this, Pending.isDue_of_ne hc, Moment.seenBy]
  | @called query next i bound q' hq' hnext hbound hskip hslot =>
    by_cases hc : query = number
    · subst hc
      obtain rfl : q' = q := Option.some.inj (hq'.symm.trans hq)
      by_cases hi : i = slot
      · subst hi
        have hdue : Pending.isDue query i (some ⟨query, next, bound⟩) = true :=
          Pending.isDue_iff.mpr ⟨rfl, hnext, hbound⟩
        have hdone : Pending.isDue query i (some ⟨query, i + 1, bound⟩) = false :=
          Pending.isDue_of_lt (Nat.lt_succ_self i)
        simp [owed, hdue, hdone, Moment.seenBy, Shared.tells_of_some hq, LiveQuery.view]
      · simp [owed, Pending.isDue_call_of_ne hlq hnext hskip hi, Moment.seenBy, hi]
    · simp [owed, Pending.isDue_of_ne hc, Moment.seenBy, hc]
  | @failed query i bound =>
    have hdone : Pending.isDue number slot (some ⟨query, i + 1, bound⟩) = false := by
      by_cases hc : query = number
      · have hle : slot ≤ i := Nat.le_of_not_lt fun hlt => hf i hlt (by rw [hc])
        exact Pending.isDue_of_lt (Nat.lt_succ_of_le hle)
      · exact Pending.isDue_of_ne hc
    simp [owed, hdone, Moment.seenBy]
  | @ended query next bound q' hq' hskip =>
    have hdone : Pending.isDue number slot (some ⟨query, next, bound⟩) = false := by
      by_cases hc : query = number
      · subst hc
        obtain rfl : q' = q := Option.some.inj (hq'.symm.trans hq)
        exact Pending.isDue_of_skip hlq hskip
      · exact Pending.isDue_of_ne hc
    simp [owed, hdone, Moment.seenBy]

/-- Over any stretch in which a listener stays on, what it is owed at first and every change of its
query is what it is told and what it is owed at last. -/
theorem Path.account (h : Path s p ms s' p') (hl : s.hasListener number slot = true)
    (hs : StaysOn number slot ms) :
    owed number slot s p ++ flips number (s.tells number) ms =
      seen number slot ms ++ owed number slot s' p' := by
  induction h with
  | nil => simp [flips, seen]
  | @cons s s' p p' p'' m rest hm hrest ih =>
    obtain ⟨hstays, hf⟩ := hs m (by simp)
    have hseen : seen number slot (m :: rest) =
        (m.seenBy number slot).toList ++ seen number slot rest := by
      rw [seen, List.filterMap_cons]
      cases m.seenBy number slot <;> rfl
    rw [flips, ← List.append_assoc, hm.account hl hf, List.append_assoc,
      ih hstays fun m' hm' => hs m' (by simp [hm']), hseen, List.append_assoc]

/-! ## What is owed -/

/-- A round of calls goes no further than the listeners that its query has. -/
def Shared.Bounds (s : Shared σ) (p : Option Pending) : Prop :=
  ∀ r ∈ p, ∃ q, s.queries[r.query]? = some q ∧ r.bound ≤ q.nextSlot

/-- Slots are never taken back. -/
theorem Moves.nextSlot_le (h : Moves s p m p') {i : Nat} {q : LiveQuery σ}
    (hq : s.queries[i]? = some q) :
    ∃ q', m.shared.queries[i]? = some q' ∧ q.nextSlot ≤ q'.nextSlot := by
  cases h with
  | other h =>
    obtain ⟨q', hq', -, hl⟩ := h.keeps i q hq
    exact ⟨q', hq', by simp [LiveQuery.nextSlot, hl]⟩
  | @added _ query _ listener h =>
    by_cases hi : query = i
    · exact ⟨q.addListener listener, by simp [Shared.addListener, Shared.modifyQuery, hi, hq],
        by simp⟩
    · exact ⟨q, by simp [Shared.addListener, Shared.modifyQuery, hi, hq], Nat.le_refl _⟩
  | @removed _ query emptied h =>
    by_cases hi : query = i
    · exact ⟨q.removeListener emptied, by simp [Shared.removeListener, Shared.modifyQuery, hi, hq],
        by simp⟩
    · exact ⟨q, by simp [Shared.removeListener, Shared.modifyQuery, hi, hq], Nat.le_refl _⟩
  | @changed query q' hq' h =>
    by_cases hi : query = i
    · exact ⟨q.commit, by simp [Shared.modifyQuery, hi, hq], Nat.le_refl _⟩
    · exact ⟨q, by simp [Shared.modifyQuery, hi, hq], Nat.le_refl _⟩
  | called => exact ⟨q, hq, Nat.le_refl _⟩
  | failed => exact ⟨q, hq, Nat.le_refl _⟩
  | ended => exact ⟨q, hq, Nat.le_refl _⟩

theorem Moves.bounds (h : Moves s p m p') (hb : s.Bounds p) : m.shared.Bounds p' := by
  have hkeep : ∀ r : Pending, (∃ q, s.queries[r.query]? = some q ∧ r.bound ≤ q.nextSlot) →
      ∃ q, m.shared.queries[r.query]? = some q ∧ r.bound ≤ q.nextSlot := by
    rintro r ⟨q, hq, hle⟩
    obtain ⟨q', hq', hle'⟩ := h.nextSlot_le hq
    exact ⟨q', hq', Nat.le_trans hle hle'⟩
  intro r hr
  cases h with
  | other => exact hkeep r (hb r hr)
  | added => exact hkeep r (hb r hr)
  | removed => exact hkeep r (hb r hr)
  | @changed query q hq =>
    obtain rfl : _ = r := Option.some.inj hr
    exact hkeep _ ⟨q, hq, Nat.le_refl _⟩
  | @called query next i bound q hq =>
    obtain rfl : _ = r := Option.some.inj hr
    exact hkeep _ (hb ⟨query, next, bound⟩ rfl)
  | failed => exact absurd hr (by simp)
  | ended => exact absurd hr (by simp)

theorem Path.bounds (h : Path s p ms s' p') (hb : s.Bounds p) : s'.Bounds p' := by
  induction h with
  | nil => exact hb
  | cons hm _ ih => exact ih (hm.bounds hb)

/-- A listener that is added while a round is under way has no part in it. -/
theorem Moves.isDue_added {s₀ : Shared σ} (h : Moves s p ⟨.added number slot, s₀⟩ p')
    (hb : s.Bounds p) : p' = p ∧ Pending.isDue number slot p = false ∧
      s₀.hasListener number slot = true := by
  cases h with
  | @added _ _ _ listener h =>
    obtain ⟨q, hq, hslot⟩ := Option.map_eq_some_iff.mp h
    refine ⟨rfl, ?_, ?_⟩
    · cases p with
      | none => rfl
      | some r =>
        rw [Bool.eq_false_iff]
        intro hdue
        obtain ⟨hc, -, hlt⟩ := Pending.isDue_iff.mp hdue
        obtain ⟨q', hq', hle⟩ := hb r rfl
        rw [hc] at hq'
        obtain rfl : q' = q := Option.some.inj (hq'.symm.trans hq)
        omega
    · rw [Shared.hasListener_eq_true_iff]
      refine ⟨q.addListener listener, by simp [Shared.addListener, Shared.modifyQuery, hq], ?_⟩
      rw [← hslot, LiveQuery.listener?_addListener_self]
      simp

/-- A listener is owed something only while the round that began with a change is under way. -/
theorem Path.awaits (h : Path s p ms s' p') (hdue : Pending.isDue number slot p' = true) :
    Awaits number slot ms ∨ (Pending.isDue number slot p = true ∧
      ∀ m ∈ ms, m.event ≠ .ended number ∧ (∀ i, m.event ≠ .failed number i) ∧
        ∀ call, m.event = .called call → call.query = number ∧ call.slot < slot) := by
  induction h with
  | nil => exact Or.inr ⟨hdue, by simp⟩
  | @cons s s' p p' p'' m rest hm hrest ih =>
    rcases ih hdue with ⟨earlier, t, later, hsplit, hquiet⟩ | ⟨hdue', hquiet⟩
    · exact Or.inl ⟨m :: earlier, t, later, by rw [hsplit]; rfl, hquiet⟩
    · cases hm with
      | other => exact Or.inr ⟨hdue', by simpa using hquiet⟩
      | added => exact Or.inr ⟨hdue', by simpa using hquiet⟩
      | removed => exact Or.inr ⟨hdue', by simpa using hquiet⟩
      | changed hq hne =>
        obtain ⟨rfl, -⟩ := Pending.isDue_iff.mp hdue'
        exact Or.inl ⟨[], _, rest, rfl, hquiet⟩
      | called hq hnext hbound hskip hslot =>
        obtain ⟨rfl, hle, hlt⟩ := Pending.isDue_iff.mp hdue'
        refine Or.inr ⟨Pending.isDue_iff.mpr ⟨rfl, by omega, hlt⟩, ?_⟩
        intro m' hm'
        rcases List.mem_cons.mp hm' with rfl | hm'
        · refine ⟨by simp, by simp, ?_⟩
          intro call hcall
          obtain rfl := Event.called.inj hcall
          exact ⟨rfl, hle⟩
        · exact hquiet m' hm'
      | failed => exact absurd hdue' (by simp [Pending.isDue])
      | ended => exact absurd hdue' (by simp [Pending.isDue])

/-- A listener is told of every change from when it is added. -/
theorem Path.seen_cases {s₀ : Shared σ} {before mid : List (Moment σ)} (hb : s.Bounds p)
    (h : Path s p (before ++ ⟨.added number slot, s₀⟩ :: mid) s' p')
    (hs : StaysOn number slot mid) :
    flips number (s₀.tells number) mid = seen number slot mid ++ owed number slot s' p' ∧
      (Pending.isDue number slot p' = true → Awaits number slot mid) := by
  obtain ⟨s₁, p₁, hbefore, hrest⟩ := h.split
  cases hrest with
  | cons hadded hmid =>
    obtain ⟨rfl, hdue, hl⟩ := hadded.isDue_added (hbefore.bounds hb)
    refine ⟨?_, fun h => ?_⟩
    · have haccount := hmid.account hl hs
      rwa [owed, hdue, if_neg (by simp), List.nil_append] at haccount
    · rcases hmid.awaits h with hawaits | ⟨hdue', -⟩
      · exact hawaits
      · rw [hdue] at hdue'
        exact absurd hdue' (by simp)

namespace Engine

/-- Take any run, a listener that is added somewhere in it, also while listeners are being called,
and a stretch from there on in which it stays and no listener of its query in an earlier slot fails.
What the listener sees of its query from call to call alternates, and the first value is the
opposite of what the query told when the listener was added. It sees each value that the query takes
on, and nothing else; only the last one may be missing, and only while the round of calls that began
with it has not come to the listener. Between operations none is missing. The calls are those that
the operations report. -/
theorem listener_is_told_of_every_change (document : Dom.Document) (viewport : Viewport) (now : Nat)
    (host : σ) (ops : List (Operation σ)) (number slot : Nat) (s₀ : Shared σ)
    (before mid after : List (Moment σ))
    (hrun : runMoments ops (ofDocument document viewport now host) =
      before ++ ⟨.added number slot, s₀⟩ :: (mid ++ after))
    (hstays : StaysOn number slot mid) :
    List.IsChain (· ≠ ·) (s₀.tells number :: seen number slot mid) ∧
      (seen number slot mid = flips number (s₀.tells number) mid ∨
        (∃ told, flips number (s₀.tells number) mid = seen number slot mid ++ [told]) ∧
          Awaits number slot mid) ∧
      (after = [] → seen number slot mid = flips number (s₀.tells number) mid) ∧
      reportedCalls ops (ofDocument document viewport now host) =
        callsAmong before ++ (callsAmong mid ++ callsAmong after) := by
  have hstart : (ofDocument document viewport now host).shared.Bounds none :=
    fun r hr => absurd hr (by simp)
  have hpath := path_runMoments document viewport now host ops
  have hchain : List.IsChain (· ≠ ·)
      (s₀.tells number :: flips number (s₀.tells number) mid) := isChain_flips mid _
  rw [hrun] at hpath
  have hall := hpath
  rw [← List.cons_append, ← List.append_assoc] at hpath
  obtain ⟨s', p', hpart, hafter⟩ := hpath.split
  obtain ⟨hflips, hawaits⟩ := hpart.seen_cases hstart hstays
  refine ⟨?_, ?_, ?_, ?_⟩
  · rw [hflips, ← List.cons_append] at hchain
    exact hchain.left_of_append
  · cases hdue : Pending.isDue number slot p' with
    | false =>
      rw [owed, hdue, if_neg (by simp), List.append_nil] at hflips
      exact Or.inl hflips.symm
    | true =>
      rw [owed, hdue, if_pos rfl] at hflips
      exact Or.inr ⟨⟨_, hflips⟩, hawaits hdue⟩
  · rintro rfl
    rw [List.append_nil] at hall
    obtain ⟨hflips, -⟩ := hall.seen_cases hstart hstays
    simpa [owed] using hflips.symm
  · rw [reportedCalls_eq, hrun, callsAmong_append, callsAmong_cons_of_none rfl, callsAmong_append]

/-- A run in which a listener adds another one to its own query while it is called, and in which
the pass that makes this query change again is ended first by a listener of another query. -/
def lateListenerRun : List (Operation Unit) :=
  [.matchMedia "(max-width: 599px)", .matchMedia "(min-width: 600px)",
    .host (.act (.addListener 1 (.addListener 1 .done fun _ => .done) fun _ =>
      .setWidth 700 .done)),
    .apply,
    .host (.act (.addListener 0 (.fail "refused") fun _ => .setWidth 500 .done)),
    .apply, .apply]

theorem late_listener_is_told_after_a_failed_pass :
    ∃ (s₀ : Shared Unit) (before mid : List (Moment Unit)),
      runMoments lateListenerRun (ofDocument .empty (.ofWidth 500) 0 ()) =
          before ++ ⟨.added 1 1, s₀⟩ :: (mid ++ []) ∧
        StaysOn 1 1 mid ∧ .failed 0 0 ∈ mid.map Moment.event ∧ seen 1 1 mid = [false] ∧
        seen 1 1 mid = flips 1 (s₀.tells 1) mid := by
  obtain ⟨s₀, hrun⟩ := exists_moment
    (runMoments lateListenerRun (ofDocument .empty (.ofWidth 500) 0 ())) 13 (e := .added 1 1)
    (by decide +kernel)
  have hstays : StaysOn 1 1 ((runMoments lateListenerRun
      (ofDocument .empty (.ofWidth 500) 0 ())).drop 14) := by decide +kernel
  refine ⟨s₀, _, _, hrun, hstays, by decide +kernel, by decide +kernel, ?_⟩
  exact (listener_is_told_of_every_change _ _ _ _ _ 1 1 s₀ _ _ _ hrun hstays).2.2.1 rfl

end Engine

end MediaQuery
