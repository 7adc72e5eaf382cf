import Courier.Proofs.Run
import Courier.Retry.Call

/-! Everything that one event can do to a retried call, one case for each way in which it can go. -/

namespace Courier.Retry

variable {ρ ε : Type}

inductive Moves (p : Policy) (retryable : ε → Bool) (c : Call ρ ε) : Event ρ ε → Call ρ ε → Prop
  | succeed (v : ρ) (canceled : Bool) (jitter : Binary64) (attempting : c.phase = .attempting) :
      Moves p retryable c (.returned (.ok v) canceled jitter) { c with phase := .done (.ok v) }
  | fail (e : ε) (canceled : Bool) (jitter : Binary64) (attempting : c.phase = .attempting) :
      Moves p retryable c (.returned (.error e) canceled jitter)
        (c.failed p retryable e canceled jitter)
  | breakOff (attempting : c.phase = .attempting) :
      Moves p retryable c .brokeOff { c with phase := .broken }
  | resume (length : Duration) (last : ε) (pausing : c.phase = .pausing length last) :
      Moves p retryable c .resumed { c with attempts := c.attempts + 1, phase := .attempting }
  | cut (length : Duration) (last : ε) (pausing : c.phase = .pausing length last) :
      Moves p retryable c .cut { c with phase := .done (.error last) }

theorem moves_of_step {p : Policy} {retryable : ε → Bool} {c d : Call ρ ε} {e : Event ρ ε}
    (moved : c.step p retryable e = some d) : Moves p retryable c e d := by
  cases e with
  | returned r canceled jitter =>
    simp only [Call.step] at moved
    split at moved
    · rename_i v attempting
      exact Option.some.inj moved ▸ .succeed v canceled jitter attempting
    · rename_i e attempting
      exact Option.some.inj moved ▸ .fail e canceled jitter attempting
    · contradiction
  | brokeOff =>
    simp only [Call.step] at moved
    split at moved
    · rename_i attempting
      exact Option.some.inj moved ▸ .breakOff attempting
    · contradiction
  | resumed =>
    simp only [Call.step] at moved
    split at moved
    · rename_i length last pausing
      exact Option.some.inj moved ▸ .resume length last pausing
    · contradiction
  | cut =>
    simp only [Call.step] at moved
    split at moved
    · rename_i length last pausing
      exact Option.some.inj moved ▸ .cut length last pausing
    · contradiction

theorem step_of_next {p : Policy} {retryable : ε → Bool} {c d : Call ρ ε} {e : Event ρ ε}
    (moved : c.next? p retryable e = some d) :
    c.admits p retryable e = true ∧ c.step p retryable e = some d := by
  unfold Call.next? at moved
  split at moved
  · rename_i admitted
    exact ⟨admitted, moved⟩
  · contradiction

theorem verdict_stop_iff {p : Policy} {retries : Nat} {canceled retryable : Bool}
    {jitter : Binary64} : p.verdict retries canceled retryable jitter = .stop ↔
      retryable = false ∨ p.allows retries = false ∨ canceled = true := by
  unfold Policy.verdict
  split
  · rename_i last
    simp only [Bool.or_eq_true, Bool.not_eq_true'] at last
    tauto
  · rename_i going
    simp only [Bool.or_eq_true, Bool.not_eq_true', not_or] at going
    constructor
    · intro stop
      split at stop <;> contradiction
    · tauto

theorem failed_eq (p : Policy) (retryable : ε → Bool) (c : Call ρ ε) (e : ε) (canceled : Bool)
    (jitter : Binary64) :
    let after := c.failed p retryable e canceled jitter
    match p.verdict (c.attempts - 1) canceled (retryable e) jitter with
    | .stop => after.phase = .done (.error e) ∧ after.pauses = c.pauses
    | .pause length => after.phase = .pausing length e ∧ after.pauses = c.pauses ++ [length]
    | .undefined => after.phase = .broken ∧ after.pauses = c.pauses := by
  have attempts : (if canceled then c else { c with asked := c.asked + 1 }).attempts = c.attempts := by
    cases canceled <;> rfl
  have pauses : (if canceled then c else { c with asked := c.asked + 1 }).pauses = c.pauses := by
    cases canceled <;> rfl
  unfold Call.failed
  dsimp only
  rw [attempts]
  cases p.verdict (c.attempts - 1) canceled (retryable e) jitter with
  | stop => exact ⟨rfl, pauses⟩
  | pause length => exact ⟨rfl, congrArg (· ++ [length]) pauses⟩
  | undefined => exact ⟨rfl, pauses⟩

/-- An attempt after which there is no retry ends the call with its own error. -/
theorem ended_of_final {p : Policy} {retryable : ε → Bool} {c : Call ρ ε} {e : ε} {canceled : Bool}
    (attempting : c.phase = .attempting)
    (final : retryable e = false ∨ p.allows (c.attempts - 1) = false ∨ canceled = true)
    (jitter : Binary64) : ∃ d, c.next? p retryable (.returned (.error e) canceled jitter) = some d ∧
      d.phase = .done (.error e) := by
  have stop : p.verdict (c.attempts - 1) canceled (retryable e) jitter = .stop :=
    verdict_stop_iff.mpr final
  have after := failed_eq p retryable c e canceled jitter
  rw [stop] at after
  refine ⟨_, ?_, after.1⟩
  simp [Call.next?, Call.admits, Call.step, stop, attempting]

/-- A failed attempt is the last one, is followed by a pause, or breaks the call. -/
theorem failed_cases (p : Policy) (retryable : ε → Bool) (c : Call ρ ε) (e : ε) (canceled : Bool)
    (jitter : Binary64) :
    (p.verdict (c.attempts - 1) canceled (retryable e) jitter = .stop ∧
      (c.failed p retryable e canceled jitter).phase = .done (.error e)) ∨
    (∃ length, p.verdict (c.attempts - 1) canceled (retryable e) jitter = .pause length ∧
      (c.failed p retryable e canceled jitter).phase = .pausing length e) ∨
    (p.verdict (c.attempts - 1) canceled (retryable e) jitter = .undefined ∧
      (c.failed p retryable e canceled jitter).phase = .broken) := by
  have after := failed_eq p retryable c e canceled jitter
  cases verdict : p.verdict (c.attempts - 1) canceled (retryable e) jitter with
  | stop =>
    rw [verdict] at after
    exact .inl ⟨rfl, after.1⟩
  | pause length =>
    rw [verdict] at after
    exact .inr (.inl ⟨length, rfl, after.1⟩)
  | undefined =>
    rw [verdict] at after
    exact .inr (.inr ⟨rfl, after.1⟩)

theorem failed_attempts (p : Policy) (retryable : ε → Bool) (c : Call ρ ε) (e : ε) (canceled : Bool)
    (jitter : Binary64) : (c.failed p retryable e canceled jitter).attempts = c.attempts := by
  unfold Call.failed
  dsimp only
  split <;> cases canceled <;> rfl

theorem failed_phase (p : Policy) (retryable : ε → Bool) (c : Call ρ ε) (e : ε) (canceled : Bool)
    (jitter : Binary64) : (c.failed p retryable e canceled jitter).phase ≠ .attempting ∧
      ∀ v, (c.failed p retryable e canceled jitter).phase ≠ .done (.ok v) := by
  rcases failed_cases p retryable c e canceled jitter with ⟨_, h⟩ | ⟨length, _, h⟩ | ⟨_, h⟩
  · simp [h]
  · simp [h]
  · simp [h]

/-- A pause follows only where the token has not fired and the policy allows one more retry. -/
theorem allows_of_pause {p : Policy} {retries : Nat} {canceled retryable : Bool} {jitter : Binary64}
    {length : Duration} (again : p.verdict retries canceled retryable jitter = .pause length) :
    canceled = false ∧ p.allows retries = true := by
  unfold Policy.verdict at again
  split at again
  · contradiction
  · rename_i going
    simp only [Bool.or_eq_true, Bool.not_eq_true', not_or, Bool.not_eq_true,
      Bool.not_eq_false] at going
    exact ⟨going.1.1, going.2⟩

/-- The attempts of a call are as many as its policy allows, and one more follows each pause. -/
def InBudget (p : Policy) (c : Call ρ ε) : Prop :=
  ∀ limit, p.maxAttempts = some limit → c.attempts ≤ limit.toNat + 1 ∧
    ∀ length last, c.phase = .pausing length last → c.attempts ≤ limit.toNat

theorem inBudget_start (p : Policy) : InBudget p (.start : Call ρ ε) := by
  intro limit _
  exact ⟨Nat.le_add_left 1 _, by simp [Call.start]⟩

theorem InBudget.next {p : Policy} {retryable : ε → Bool} {c d : Call ρ ε} {e : Event ρ ε}
    (budget : InBudget p c) (moved : c.step p retryable e = some d) : InBudget p d := by
  intro limit bounded
  obtain ⟨attempts, pauses⟩ := budget limit bounded
  cases moves_of_step moved with
  | succeed => exact ⟨attempts, by simp⟩
  | breakOff => exact ⟨attempts, by simp⟩
  | cut => exact ⟨attempts, by simp⟩
  | resume length last pausing =>
    have fewer := pauses length last pausing
    exact ⟨Nat.succ_le_succ fewer, by simp⟩
  | fail e canceled jitter =>
    rw [failed_attempts]
    refine ⟨attempts, ?_⟩
    intro length last pausing
    rcases failed_cases p retryable c e canceled jitter with ⟨_, h⟩ | ⟨n, again, _⟩ | ⟨_, h⟩
    · simp [h] at pausing
    · have allowed := (allows_of_pause again).2
      simp only [Policy.allows, bounded, decide_eq_true_eq] at allowed
      omega
    · simp [h] at pausing

/-- One more retry is allowed, but for something that can be drawn the pause before it has no length. -/
structure Policy.Stuck (p : Policy) (retries : Nat) : Prop where
  allowed : p.allows retries = true
  pauseless : ∃ jitter, (p.spread retries).admits jitter = true ∧ p.pause? retries jitter = none

/-- A call breaks only over an error that is to be retried. -/
theorem stuck_of_undefined {p : Policy} {retryable : ε → Bool} {c : Call ρ ε} {e : ε}
    {canceled : Bool} {jitter : Binary64}
    (admitted : c.admits p retryable (.returned (.error e) canceled jitter) = true)
    (undefined : p.verdict (c.attempts - 1) canceled (retryable e) jitter = .undefined) :
    retryable e = true ∧ p.Stuck (c.attempts - 1) := by
  have drawn : (p.spread (c.attempts - 1)).admits jitter = true := by
    simpa [Call.admits, undefined] using admitted
  unfold Policy.verdict at undefined
  split at undefined
  · contradiction
  · rename_i going
    simp only [Bool.or_eq_true, Bool.not_eq_true', not_or, Bool.not_eq_true,
      Bool.not_eq_false] at going
    split at undefined
    · contradiction
    · rename_i pauseless
      exact ⟨going.1.2, going.2, jitter, drawn, pauseless⟩

/-- Only an attempt that succeeds makes a call succeed, and with its own result. -/
theorem ok_of_step {p : Policy} {retryable : ε → Bool} {c d : Call ρ ε} {e : Event ρ ε} {v : ρ}
    (moved : c.step p retryable e = some d) (succeeded : d.phase = .done (.ok v)) :
    c.phase = .attempting ∧ ∃ canceled jitter, e = .returned (.ok v) canceled jitter := by
  cases moves_of_step moved with
  | succeed w canceled jitter attempting =>
    cases succeeded
    exact ⟨attempting, canceled, jitter, rfl⟩
  | fail e canceled jitter =>
    exact absurd succeeded ((failed_phase p retryable c e canceled jitter).2 v)
  | breakOff => cases succeeded
  | resume => cases succeeded
  | cut => cases succeeded

/-- An attempt begins where a pause ends of itself. -/
theorem resumed_of_step {p : Policy} {retryable : ε → Bool} {c d : Call ρ ε} {e : Event ρ ε}
    (moved : c.step p retryable e = some d) (attempting : d.phase = .attempting) :
    e = .resumed ∧ d.attempts = c.attempts + 1 ∧ ∃ length last, c.phase = .pausing length last := by
  cases moves_of_step moved with
  | succeed => cases attempting
  | fail e canceled jitter =>
    exact absurd attempting (failed_phase p retryable c e canceled jitter).1
  | breakOff => cases attempting
  | resume length last pausing => exact ⟨rfl, rfl, length, last, pausing⟩
  | cut => cases attempting

/-- A pause begins where an attempt fails while the token has not fired. -/
theorem paused_of_step {p : Policy} {retryable : ε → Bool} {c d : Call ρ ε} {e : Event ρ ε}
    {length : Duration} {last : ε} (moved : c.step p retryable e = some d)
    (pausing : d.phase = .pausing length last) :
    d.attempts = c.attempts ∧ ∃ jitter, e = .returned (.error last) false jitter := by
  cases moves_of_step moved with
  | succeed => cases pausing
  | fail e canceled jitter =>
    rcases failed_cases p retryable c e canceled jitter with ⟨_, h⟩ | ⟨n, again, h⟩ | ⟨_, h⟩
    · simp [h] at pausing
    · obtain ⟨rfl, _⟩ := allows_of_pause again
      cases h.symm.trans pausing
      exact ⟨failed_attempts .., jitter, rfl⟩
    · simp [h] at pausing
  | breakOff => cases pausing
  | resume => cases pausing
  | cut => cases pausing

/-- What an attempt returned. -/
def Event.result? : Event ρ ε → Option (Except ε ρ)
  | .returned r _ _ => some r
  | _ => none

/-- The error that a call has kept from its last attempt, or has failed with. -/
def Phase.last? : Phase ρ ε → Option ε
  | .pausing _ e => some e
  | .done (.error e) => some e
  | _ => none

/-- It has just been returned, or the pause that followed it is cut short. -/
theorem last_of_step {p : Policy} {retryable : ε → Bool} {c d : Call ρ ε} {e : Event ρ ε} {last : ε}
    (moved : c.step p retryable e = some d) (kept : d.phase.last? = some last) :
    (c.phase = .attempting ∧ e.result? = some (.error last)) ∨
      (e.result? = none ∧ ∃ length, c.phase = .pausing length last) := by
  cases moves_of_step moved with
  | succeed => cases kept
  | fail e canceled jitter attempting =>
    refine .inl ⟨attempting, ?_⟩
    rcases failed_cases p retryable c e canceled jitter with ⟨_, h⟩ | ⟨_, _, h⟩ | ⟨_, h⟩
    · rw [h] at kept
      exact congrArg _ (congrArg Except.error (Option.some.inj kept))
    · rw [h] at kept
      exact congrArg _ (congrArg Except.error (Option.some.inj kept))
    · rw [h] at kept
      cases kept
  | breakOff => cases kept
  | resume => cases kept
  | cut length last pausing =>
    cases kept
    exact .inr ⟨rfl, length, pausing⟩

end Courier.Retry
