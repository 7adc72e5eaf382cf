import Courier.Proofs.Retry.Moves
import Mathlib.Data.List.Range
import Mathlib.Order.Bounds.Basic

/-! Where a retried call stops. What it meets on its way is given beforehand; the call then goes on as
long as there is no reason to stop, and its answer is that of the first attempt that gives one. -/

namespace Courier.Retry

variable {ρ ε : Type}

/-- All that a call can meet. Attempts are counted from one, and the pause after an attempt has the
number of that attempt. -/
structure Course (ρ ε : Type) where
  outcome : Nat → Except ε ρ
  /-- The token has fired when the attempt ends. -/
  fired : Nat → Bool
  /-- What would be drawn for the pause. -/
  jitter : Nat → Binary64
  /-- The token fires during the pause and is heard before the pause ends of itself. -/
  wins : Nat → Bool

namespace Course

/-- What happens next to a call. -/
def next? (w : Course ρ ε) (c : Call ρ ε) : Option (Event ρ ε) :=
  match c.phase with
  | .attempting =>
    some (.returned (w.outcome c.attempts) (w.fired c.attempts) (w.jitter c.attempts))
  | .pausing .. => some (if w.wins c.attempts then .cut else .resumed)
  | _ => none

/-- From `c` on, each of the events is what happens next. -/
def Tells (w : Course ρ ε) (p : Policy) (retryable : ε → Bool) (c : Call ρ ε)
    (es : List (Event ρ ε)) : Prop :=
  ∀ x ∈ trace (Call.step p retryable) c es, w.next? x.1 = some x.2

/-- The attempt is not followed by a pause. -/
def Final (w : Course ρ ε) (p : Policy) (retryable : ε → Bool) (n : Nat) : Prop :=
  ∀ e, w.outcome n = .error e → retryable e = false ∨
    (∃ limit, p.maxAttempts = some limit ∧ limit.toNat < n) ∨ w.fired n = true

/-- The attempts with which the call may stop. -/
def stops (w : Course ρ ε) (p : Policy) (retryable : ε → Bool) : Set Nat :=
  {n | 1 ≤ n ∧ (w.Final p retryable n ∨ w.wins n = true)}

end Course

/-- What the operation came to, attempt by attempt. -/
def answers (es : List (Event ρ ε)) : List (Except ε ρ) :=
  es.filterMap fun | .returned r _ _ => some r | _ => none

theorem allows_eq_false {p : Policy} {n : Nat} (begun : 1 ≤ n) :
    p.allows (n - 1) = false ↔ ∃ limit, p.maxAttempts = some limit ∧ limit.toNat < n := by
  unfold Policy.allows
  cases p.maxAttempts with
  | none => simp
  | some limit =>
    simp only [decide_eq_false_iff_not, Option.some.injEq, exists_eq_left']
    omega

section

variable {w : Course ρ ε} {p : Policy} {retryable : ε → Bool} {c d : Call ρ ε}
  {es fs : List (Event ρ ε)} {n : Nat}

theorem Course.final_iff (begun : 1 ≤ n) {e : ε} (failed : w.outcome n = .error e) :
    w.Final p retryable n ↔
      p.verdict (n - 1) (w.fired n) (retryable e) (w.jitter n) = .stop := by
  rw [verdict_stop_iff, allows_eq_false begun]
  constructor
  · intro final
    exact final e failed
  · intro reason f other
    cases failed.symm.trans other
    exact reason

/-- Where the pauses can be computed, the call goes on from an attempt that is not the last one. -/
theorem Course.pause_of_going (begun : 1 ≤ n) {e : ε} (failed : w.outcome n = .error e)
    (going : ¬ w.Final p retryable n)
    (defined : ∀ i, p.allows i = true → (p.pause? i (w.jitter (i + 1))).isSome = true) :
    ∃ length, p.verdict (n - 1) (w.fired n) (retryable e) (w.jitter n) = .pause length ∧
      p.pause? (n - 1) (w.jitter n) = some length := by
  rw [final_iff begun failed] at going
  have reasons := mt verdict_stop_iff.mpr going
  simp only [not_or, Bool.not_eq_false, Bool.not_eq_true] at reasons
  have computed := defined (n - 1) reasons.2.1
  rw [Nat.sub_add_cancel begun] at computed
  obtain ⟨length, pause⟩ := Option.isSome_iff_exists.mp computed
  refine ⟨length, ?_, pause⟩
  simp [Policy.verdict, reasons, pause]

/-- Where a call stands, and what it has met. -/
structure Along (w : Course ρ ε) (p : Policy) (retryable : ε → Bool) (es : List (Event ρ ε))
    (c : Call ρ ε) : Prop where
  begun : 1 ≤ c.attempts
  /-- There was no reason to stop before. -/
  earlier : c.attempts ∈ lowerBounds (w.stops p retryable)
  pauses : c.pauses.map some =
    (List.range c.pauses.length).map fun i => p.pause? i (w.jitter (i + 1))
  stands : match c.phase with
    | .attempting => c.pauses.length + 1 = c.attempts ∧
        answers es = (List.range' 1 (c.attempts - 1)).map w.outcome
    | .pausing _ last => c.pauses.length = c.attempts ∧ ¬ w.Final p retryable c.attempts ∧
        w.outcome c.attempts = .error last ∧
        answers es = (List.range' 1 c.attempts).map w.outcome
    | .done result => c.attempts ∈ w.stops p retryable ∧ result = w.outcome c.attempts ∧
        (c.pauses.length + 1 = c.attempts ∨ c.pauses.length = c.attempts ∧ w.wins c.attempts = true) ∧
        answers es = (List.range' 1 c.attempts).map w.outcome
    | .broken => False

theorem outcomes_next {β : Type} (f : Nat → β) (begun : 1 ≤ n) :
    (List.range' 1 (n - 1)).map f ++ [f n] = (List.range' 1 n).map f := by
  obtain ⟨k, rfl⟩ := Nat.exists_eq_add_of_le' begun
  rw [Nat.add_sub_cancel, List.range'_concat, List.map_append, List.map_singleton, Nat.one_mul,
    Nat.add_comm 1 k]

theorem along_start : Along w p retryable [] (.start : Call ρ ε) :=
  ⟨Nat.le_refl 1, fun _ reason => reason.1, rfl, rfl, rfl⟩

theorem Along.returned {canceled : Bool} {jitter : Binary64} {r : Except ε ρ}
    (along : Along w p retryable es c) (attempting : c.phase = .attempting)
    (told : w.next? c = some (.returned r canceled jitter)) :
    r = w.outcome c.attempts ∧ canceled = w.fired c.attempts ∧ jitter = w.jitter c.attempts ∧
      c.pauses.length + 1 = c.attempts ∧
      answers (es ++ [.returned r canceled jitter]) =
        (List.range' 1 c.attempts).map w.outcome := by
  have stands := along.stands
  simp only [attempting] at stands
  simp only [Course.next?, attempting, Option.some.injEq, Event.returned.injEq] at told
  obtain ⟨rfl, rfl, rfl⟩ := told
  refine ⟨rfl, rfl, rfl, stands.1, ?_⟩
  rw [answers, filterMap_concat, ← answers, stands.2]
  exact outcomes_next w.outcome along.begun

theorem Along.next (along : Along w p retryable es c) {e : Event ρ ε}
    (defined : ∀ i, p.allows i = true → (p.pause? i (w.jitter (i + 1))).isSome = true)
    (told : w.next? c = some e) (moved : c.step p retryable e = some d) :
    Along w p retryable (es ++ [e]) d := by
  have ⟨begun, earlier, pauses, stands⟩ := along
  cases moves_of_step moved with
  | succeed v canceled jitter attempting =>
    obtain ⟨outcome, _, _, slept, met⟩ := along.returned attempting told
    have final : w.Final p retryable c.attempts := by
      intro e failed
      cases outcome.trans failed
    exact ⟨begun, earlier, pauses, ⟨begun, .inl final⟩, outcome, .inl slept, met⟩
  | fail e canceled jitter attempting =>
    obtain ⟨outcome, rfl, rfl, slept, met⟩ := along.returned attempting told
    have same := failed_attempts p retryable c e (w.fired c.attempts) (w.jitter c.attempts)
    have after := failed_eq p retryable c e (w.fired c.attempts) (w.jitter c.attempts)
    generalize c.failed p retryable e (w.fired c.attempts) (w.jitter c.attempts) = d at *
    by_cases final : w.Final p retryable c.attempts
    · rw [(Course.final_iff begun outcome.symm).mp final] at after
      obtain ⟨phase, none_added⟩ := after
      refine ⟨same ▸ begun, same ▸ earlier, none_added ▸ pauses, ?_⟩
      simp only [phase, same, none_added]
      exact ⟨⟨begun, .inl final⟩, outcome, .inl slept, met⟩
    · obtain ⟨length, again, computed⟩ := Course.pause_of_going begun outcome.symm final defined
      rw [again] at after
      obtain ⟨phase, added⟩ := after
      have number : c.attempts - 1 = c.pauses.length := by omega
      refine ⟨same ▸ begun, same ▸ earlier, ?_, ?_⟩
      · -- The pause that is begun has the number of the attempt before it.
        rw [added, List.map_append, pauses, List.length_append, List.length_singleton,
          List.range_succ, List.map_append, List.map_singleton, List.map_singleton, ← computed, number,
          slept]
      · simp only [phase, same, added, List.length_append, List.length_singleton]
        exact ⟨slept, final, outcome.symm, met⟩
  | breakOff attempting => simp [Course.next?, attempting] at told
  | resume length last pausing =>
    simp only [pausing] at stands
    obtain ⟨slept, going, failed, met⟩ := stands
    have loses : w.wins c.attempts = false := by
      simpa [Course.next?, pausing] using told
    have here : c.attempts ∉ w.stops p retryable := by
      rintro ⟨_, final | wins⟩
      · exact going final
      · simp [loses] at wins
    refine ⟨Nat.le_add_left 1 _, ?_, pauses, ?_⟩
    · intro i reason
      have least := earlier reason
      have other : c.attempts ≠ i := fun same => here (same ▸ reason)
      exact Nat.lt_of_le_of_ne least other
    · refine ⟨by simp [slept], ?_⟩
      rw [answers, filterMap_concat, ← answers, met]
      simp
  | cut length last pausing =>
    simp only [pausing] at stands
    obtain ⟨slept, going, failed, met⟩ := stands
    have wins : w.wins c.attempts = true := by
      simpa [Course.next?, pausing] using told
    refine ⟨begun, earlier, pauses, ⟨begun, .inr wins⟩, failed.symm, .inr ⟨slept, wins⟩, ?_⟩
    rw [answers, filterMap_concat, ← answers, met]
    simp

theorem tells_snoc {e : Event ρ ε} {b : Call ρ ε} (ran : run (Call.step p retryable) b es = some c)
    (moved : c.step p retryable e = some d) :
    w.Tells p retryable b (es ++ [e]) ↔ w.Tells p retryable b es ∧ w.next? c = some e := by
  unfold Course.Tells
  rw [trace_snoc ran moved, List.forall_mem_append, List.forall_mem_singleton]

theorem along_of_run
    (defined : ∀ i, p.allows i = true → (p.pause? i (w.jitter (i + 1))).isSome = true)
    (ran : run (Call.step p retryable) .start es = some c) (told : w.Tells p retryable .start es) :
    Along w p retryable es c := by
  refine run_invariant (P := fun es c => w.Tells p retryable .start es → Along w p retryable es c)
    (fun _ => along_start) ?_ ran told
  intro es c e d before along moved told
  obtain ⟨earlier, now⟩ := (tells_snoc before moved).mp told
  exact (along earlier).next defined now moved

/-! What is given beforehand leaves the call one way to go. -/

/-- A run that is told what comes next, with the state it leads to. -/
def Course.Leads (w : Course ρ ε) (p : Policy) (retryable : ε → Bool) (es : List (Event ρ ε))
    (c : Call ρ ε) : Prop :=
  run (Call.step p retryable) .start es = some c ∧ w.Tells p retryable .start es

theorem Course.Leads.snoc (leads : w.Leads p retryable es c) {e : Event ρ ε}
    (told : w.next? c = some e) (moved : c.step p retryable e = some d) :
    w.Leads p retryable (es ++ [e]) d :=
  ⟨run_snoc.mpr ⟨c, leads.1, moved⟩, (tells_snoc leads.1 moved).mpr ⟨leads.2, told⟩⟩

theorem Course.Leads.pause (leads : w.Leads p retryable es c) (begun : 1 ≤ c.attempts)
    (attempting : c.phase = .attempting) (going : ¬ w.Final p retryable c.attempts)
    (defined : ∀ i, p.allows i = true → (p.pause? i (w.jitter (i + 1))).isSome = true) :
    ∃ fs d length last, w.Leads p retryable fs d ∧ d.attempts = c.attempts ∧
      d.phase = .pausing length last ∧ w.outcome c.attempts = .error last := by
  cases outcome : w.outcome c.attempts with
  | ok v =>
    refine absurd ?_ going
    intro e failed
    cases outcome.symm.trans failed
  | error e =>
    obtain ⟨length, again, _⟩ := Course.pause_of_going begun outcome going defined
    have after := failed_eq p retryable c e (w.fired c.attempts) (w.jitter c.attempts)
    rw [again] at after
    have told : w.next? c =
        some (.returned (.error e) (w.fired c.attempts) (w.jitter c.attempts)) := by
      simp [Course.next?, attempting, outcome]
    have moved : c.step p retryable
        (.returned (.error e) (w.fired c.attempts) (w.jitter c.attempts)) =
        some (c.failed p retryable e (w.fired c.attempts) (w.jitter c.attempts)) := by
      simp [Call.step, attempting]
    exact ⟨_, _, length, e, leads.snoc told moved, failed_attempts .., after.1, rfl⟩

theorem attempt_reached
    (defined : ∀ i, p.allows i = true → (p.pause? i (w.jitter (i + 1))).isSome = true)
    (begun : 1 ≤ n) (earlier : n ∈ lowerBounds (w.stops p retryable)) :
    ∃ es c, w.Leads p retryable es c ∧ c.attempts = n ∧ c.phase = .attempting := by
  induction n, begun using Nat.le_induction with
  | base => exact ⟨[], .start, ⟨rfl, by simp [Course.Tells, trace]⟩, rfl, rfl⟩
  | succ n begun ih =>
    obtain ⟨es, c, leads, rfl, attempting⟩ :=
      ih fun i reason => Nat.le_of_succ_le (earlier reason)
    -- There is no reason to stop here, so the pause comes and ends of itself.
    have here : c.attempts ∉ w.stops p retryable :=
      fun reason => Nat.not_succ_le_self _ (earlier reason)
    have going : ¬ w.Final p retryable c.attempts := fun final => here ⟨begun, .inl final⟩
    have loses : ¬ w.wins c.attempts = true := fun wins => here ⟨begun, .inr wins⟩
    obtain ⟨fs, d, length, last, paused, same, pausing, _⟩ :=
      leads.pause begun attempting going defined
    have told : w.next? d = some .resumed := by
      simp [Course.next?, pausing, same, loses]
    have moved : d.step p retryable .resumed =
        some { d with attempts := d.attempts + 1, phase := .attempting } := by
      simp [Call.step, pausing]
    exact ⟨_, _, paused.snoc told moved, congrArg (· + 1) same, rfl⟩

theorem end_reached
    (defined : ∀ i, p.allows i = true → (p.pause? i (w.jitter (i + 1))).isSome = true)
    (least : IsLeast (w.stops p retryable) n) :
    ∃ es c, w.Leads p retryable es c ∧ c.attempts = n ∧ c.phase = .done (w.outcome n) := by
  have begun := least.1.1
  obtain ⟨es, c, leads, rfl, attempting⟩ := attempt_reached defined begun least.2
  by_cases final : w.Final p retryable c.attempts
  · have told : w.next? c = some (.returned (w.outcome c.attempts) (w.fired c.attempts)
        (w.jitter c.attempts)) := by
      simp [Course.next?, attempting]
    cases outcome : w.outcome c.attempts with
    | ok v =>
      rw [outcome] at told
      have moved : c.step p retryable (.returned (.ok v) (w.fired c.attempts) (w.jitter c.attempts)) =
          some { c with phase := .done (.ok v) } := by
        simp [Call.step, attempting]
      exact ⟨_, _, leads.snoc told moved, rfl, rfl⟩
    | error e =>
      rw [outcome] at told
      have after := failed_eq p retryable c e (w.fired c.attempts) (w.jitter c.attempts)
      rw [(Course.final_iff begun outcome).mp final] at after
      have moved : c.step p retryable
          (.returned (.error e) (w.fired c.attempts) (w.jitter c.attempts)) =
          some (c.failed p retryable e (w.fired c.attempts) (w.jitter c.attempts)) := by
        simp [Call.step, attempting]
      exact ⟨_, _, leads.snoc told moved, failed_attempts .., after.1⟩
  · have wins := least.1.2.resolve_left final
    obtain ⟨fs, d, length, last, paused, same, pausing, failed⟩ :=
      leads.pause begun attempting final defined
    have told : w.next? d = some .cut := by
      simp [Course.next?, pausing, same, wins]
    have moved : d.step p retryable .cut = some { d with phase := .done (.error last) } := by
      simp [Call.step, pausing]
    exact ⟨_, _, paused.snoc told moved, same, by rw [failed]⟩

/-- Once the call has ended there is nothing more to it than the run that led there. -/
theorem prefix_of_ended {b : Call ρ ε} (ran : run (Call.step p retryable) b es = some c)
    (told : w.Tells p retryable b es) (ended : w.next? c = none)
    (other : run (Call.step p retryable) b fs = some d) (follows : w.Tells p retryable b fs) :
    fs <+: es := by
  induction es generalizing b fs with
  | nil =>
    cases Option.some.inj ran
    cases fs with
    | nil => exact List.prefix_rfl
    | cons f fs =>
      obtain ⟨x, moved, _⟩ := Option.bind_eq_some_iff.mp other
      have now := follows (c, f) (by simp [trace, moved])
      cases ended.symm.trans now
  | cons e es ih =>
    cases fs with
    | nil => exact List.nil_prefix
    | cons f fs =>
      obtain ⟨x, moved, rest⟩ := Option.bind_eq_some_iff.mp ran
      obtain ⟨y, went, onward⟩ := Option.bind_eq_some_iff.mp other
      simp only [Course.Tells, trace, moved, went, List.forall_mem_cons] at told follows
      cases told.1.symm.trans follows.1
      cases moved.symm.trans went
      exact List.prefix_cons_inj e |>.mpr (ih rest told.2 onward follows.2)

end

/-- A call stops with the first attempt that gives a reason to: the operation succeeds, its error is not
to be retried, the limit is passed, the token has fired, or it wins the pause. The operation is called
that often, the answer is what it came to last, and between the attempts there are the pauses of the
policy in their order. -/
theorem stops_at_first_reason (p : Policy) (retryable : ε → Bool) (w : Course ρ ε)
    (defined : ∀ i, p.allows i = true → (p.pause? i (w.jitter (i + 1))).isSome = true) :
    (∀ es c, w.Leads p retryable es c → c.phase ≠ .broken ∧
      (∀ limit, p.maxAttempts = some limit → c.attempts ≤ limit.toNat + 1) ∧
      ∀ result, c.phase = .done result →
        IsLeast (w.stops p retryable) c.attempts ∧ result = w.outcome c.attempts ∧
        answers es = (List.range' 1 c.attempts).map w.outcome ∧
        (c.pauses.take (c.attempts - 1)).map some =
          (List.range (c.attempts - 1)).map fun i => p.pause? i (w.jitter (i + 1))) ∧
    (∀ n, IsLeast (w.stops p retryable) n → ∃ es c, w.Leads p retryable es c ∧ c.attempts = n ∧
      c.phase = .done (w.outcome n) ∧ ∀ fs d, w.Leads p retryable fs d → fs <+: es) ∧
    ∀ k v, (∀ i, 1 ≤ i → i ≤ k → w.wins i = false ∧ w.fired i = false ∧
        ∃ e, w.outcome i = .error e ∧ retryable e = true) →
      (∀ limit, p.maxAttempts = some limit → k ≤ limit.toNat) → w.outcome (k + 1) = .ok v →
      IsLeast (w.stops p retryable) (k + 1) := by
  refine ⟨?_, ?_, ?_⟩
  · rintro es c ⟨ran, told⟩
    have ⟨begun, earlier, pauses, stands⟩ := along_of_run defined ran told
    refine ⟨?_, ?_, ?_⟩
    · intro broken
      simp [broken] at stands
    · intro limit bounded
      have budget := run_invariant (P := fun _ c => InBudget p c) (inBudget_start p)
        (fun _ _ _ _ _ budget moved => budget.next moved) ran
      exact (budget limit bounded).1
    · intro result done
      simp only [done] at stands
      obtain ⟨reason, outcome, slept, met⟩ := stands
      refine ⟨⟨reason, earlier⟩, outcome, met, ?_⟩
      rw [List.map_take, pauses, ← List.map_take, List.take_range]
      congr 2
      omega
  · intro n least
    obtain ⟨es, c, leads, same, done⟩ := end_reached defined least
    refine ⟨es, c, leads, same, done, ?_⟩
    rintro fs d ⟨ran, told⟩
    exact prefix_of_ended leads.1 leads.2 (by simp [Course.next?, done]) ran told
  · intro k v failures limits succeeds
    refine ⟨⟨Nat.le_add_left 1 k, .inl ?_⟩, ?_⟩
    · intro e failed
      cases succeeds.symm.trans failed
    · rintro i ⟨begun, reason⟩
      by_contra sooner
      obtain ⟨loses, unfired, e, failed, again⟩ := failures i begun (by omega)
      rcases reason with final | wins
      · rcases final e failed with never | ⟨limit, bounded, passed⟩ | fired
        · simp [again] at never
        · have room := limits limit bounded
          omega
        · simp [unfired] at fired
      · simp [loses] at wins

/-- Three retries, after pauses that double. -/
def threeRetries : Policy := (Policy.new (some 3) (.ofSecs 1) (.ofSecs 30) 2).withoutJitter

/-- The provider is busy twice, and the token fires too late to matter. -/
def busyTwice : Course Nat String where
  outcome n := if n ≤ 2 then .error "busy" else .ok n
  fired n := 3 ≤ n
  jitter _ := 0
  wins n := 3 ≤ n

theorem stops_at_first_reason_busy_twice :
    (∀ i, threeRetries.allows i = true →
      (threeRetries.pause? i (busyTwice.jitter (i + 1))).isSome = true) ∧
    IsLeast (busyTwice.stops threeRetries fun _ => true) 3 ∧
    ∃ es c, busyTwice.Leads threeRetries (fun _ => true) es c ∧ c.phase = .done (.ok 3) ∧
      answers es = [.error "busy", .error "busy", .ok 3] ∧
      (c.pauses.take 2).map some = [some (.ofSecs 1), some (.ofSecs 2)] := by
  have defined : ∀ i, threeRetries.allows i = true →
      (threeRetries.pause? i (busyTwice.jitter (i + 1))).isSome = true := by
    intro i allowed
    have few : i < 3 := of_decide_eq_true allowed
    match i, few with
    | 0, _ => decide +kernel
    | 1, _ => decide +kernel
    | 2, _ => decide +kernel
  obtain ⟨along, ends, succeeds⟩ :=
    stops_at_first_reason threeRetries (fun _ => true) busyTwice defined
  have least : IsLeast (busyTwice.stops threeRetries fun _ => true) 3 := by
    refine succeeds 2 3 ?_ ?_ rfl
    · intro i begun few
      have outside : ¬ 3 ≤ i := by omega
      exact ⟨decide_eq_false outside, decide_eq_false outside, "busy", if_pos few, rfl⟩
    · intro limit bounded
      cases bounded
      decide
  obtain ⟨es, c, leads, attempts, done, _⟩ := ends 3 least
  obtain ⟨_, _, stopped⟩ := along es c leads
  obtain ⟨_, _, met, pauses⟩ := stopped _ done
  rw [attempts] at met pauses
  refine ⟨defined, least, es, c, leads, done, met, ?_⟩
  rw [pauses]
  decide +kernel

end Courier.Retry
