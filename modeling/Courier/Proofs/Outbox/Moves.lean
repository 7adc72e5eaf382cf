import Courier.Outbox
import Courier.Proofs.Batcher.Moves
import Courier.Proofs.Retry.Moves

/-! Everything that one event can do to an outbox, one case for each way in which the event can go.
A batch ends with the answer to its last call, and a call that waits for another attempt keeps the
answer that made it wait. -/

namespace Courier.Outbox

variable {α ε : Type}

/-- What a call to the provider came to. -/
inductive Reply (ε : Type)
  | returned (result : Except (Trouble ε) Unit)
  | brokeOff

def Event.reply? : Event α ε → Option (Reply ε)
  | .returned r _ => some (.returned r)
  | .brokeOff => some .brokeOff
  | _ => none

def Event.item? : Event α ε → Option α
  | .submit item => some item
  | _ => none

/-- The events that concern the batcher alone. -/
def Event.passed? : Event α ε → Option (Batcher.Event α ε)
  | .submit item => some (.submit item)
  | .leave ticket => some (.leave ticket)
  | .drain id move => some (.drain id move)
  | _ => none

/-- The batch in the provider's hands, as the batcher has it. -/
def Delivery.held (d : Delivery α ε) : Batcher.Running α := ⟨d.number, d.batch⟩

/-- What follows a failed attempt of the batch that is being delivered. -/
def State.verdict (s : State α ε) (d : Delivery α ε) (t : Trouble ε) (jitter : Binary64) :
    Retry.Verdict :=
  s.policy.verdict (d.call.attempts - 1) s.stopped (s.provider.retryable t) jitter

/-- How an event ends the batch that is being delivered. -/
inductive Ends (s : State α ε) (d : Delivery α ε) : Event α ε → Ending ε → Prop
  | delivered (jitter : Binary64) (attempting : d.call.phase = .attempting) :
      Ends s d (.returned (.ok ()) jitter) (.returned (.ok ()))
  | failed (t : Trouble ε) (jitter : Binary64) (attempting : d.call.phase = .attempting)
      (last : s.verdict d t jitter = .stop) :
      Ends s d (.returned (.error t) jitter) (.returned (.error (s.provider.fault t)))
  /-- The next pause has no length. -/
  | stuck (t : Trouble ε) (jitter : Binary64) (attempting : d.call.phase = .attempting)
      (undefined : s.verdict d t jitter = .undefined) (again : s.provider.retryable t = true)
      (stuck : s.policy.Stuck (d.call.attempts - 1)) :
      Ends s d (.returned (.error t) jitter) .panicked
  | brokeOff (attempting : d.call.phase = .attempting) : Ends s d .brokeOff .panicked
  | cut (length : Duration) (t : Trouble ε) (pausing : d.call.phase = .pausing length t) :
      Ends s d .cut (.returned (.error (s.provider.fault t)))

theorem Ends.unique {s : State α ε} {d : Delivery α ε} {e : Event α ε} {how other : Ending ε}
    (ends : Ends s d e how) (again : Ends s d e other) : how = other := by
  cases ends with
  | delivered => cases again; rfl
  | failed t jitter attempting last =>
    cases again with
    | failed => rfl
    | stuck _ _ _ undefined => rw [last] at undefined; cases undefined
  | stuck t jitter attempting undefined =>
    cases again with
    | failed _ _ _ last => rw [undefined] at last; cases last
    | stuck => rfl
  | brokeOff => cases again; rfl
  | cut length t pausing =>
    cases again with
    | cut _ _ again =>
      rw [pausing] at again
      cases again
      rfl

/-- Beside the event stands what it makes the batcher do. -/
inductive Moves (s : State α ε) : Event α ε → List (Batcher.Event α ε) → State α ε → Prop
  | pass {e : Event α ε} {inner : Batcher.Event α ε} {b : Batcher.State α ε}
      (passed : e.passed? = some inner) (moved : s.batcher.step inner = some b) :
      Moves s e [inner] { s with batcher := b }
  | look {b : Batcher.State α ε} (moved : s.batcher.step .look = some b) :
      Moves s .look [.look] { s with batcher := b, ready := b.running? s.batcher.taken.length }
  | call {r : Batcher.Running α} (ready : s.ready = some r) :
      Moves s .call []
        { s with
          ready := none
          delivery := some ⟨r.number, r.batch, .start⟩
          attempts := s.attempts ++ [⟨r.number, r.batch.map (·.item), true, s.stopped⟩] }
  | settle {e : Event α ε} {d : Delivery α ε} {how : Ending ε} {b : Batcher.State α ε}
      (delivery : s.delivery = some d) (ends : Ends s d e how)
      (moved : s.batcher.step (.finish d.number how) = some b) :
      Moves s e [.finish d.number how] { s with batcher := b, delivery := none }
  | pause {d : Delivery α ε} {t : Trouble ε} {jitter : Binary64} {length : Duration}
      {after : Retry.Call Unit (Trouble ε)} (delivery : s.delivery = some d)
      (attempting : d.call.phase = .attempting) (again : s.verdict d t jitter = .pause length)
      (same : after.attempts = d.call.attempts)
      (pausing : after.phase = .pausing length t) :
      Moves s (.returned (.error t) jitter) [] { s with delivery := some { d with call := after } }
  | retry {d : Delivery α ε} {length : Duration} {t : Trouble ε} (delivery : s.delivery = some d)
      (pausing : d.call.phase = .pausing length t) :
      Moves s .resumed []
        { s with
          delivery := some
            { d with call := { d.call with attempts := d.call.attempts + 1, phase := .attempting } }
          attempts := s.attempts ++
            [⟨d.number, d.batch.map (·.item), d.call.attempts + 1 == 1, s.stopped⟩] }
  | stop : Moves s .stop [] { s with stopped := true }

theorem moves_of_passOn {s t : State α ε} {e : Event α ε} {inner : Batcher.Event α ε}
    (passed : e.passed? = some inner) (moved : s.passOn inner = some t) :
    Moves s e [inner] t := by
  obtain ⟨b, stepped, rfl⟩ := Option.map_eq_some_iff.mp moved
  exact .pass passed stepped

/-- What becomes of the batch when its retried call has moved on to `after`. -/
inductive Carries (s : State α ε) (d : Delivery α ε) (after : Retry.Call Unit (Trouble ε)) :
    State α ε → Prop
  | ended {how : Ending ε} {b : Batcher.State α ε} (ending : s.ending? after = some how)
      (moved : s.batcher.step (.finish d.number how) = some b) :
      Carries s d after { s with batcher := b, delivery := none }
  | again (going : s.ending? after = none) (attempting : after.phase = .attempting) :
      Carries s d after
        { s with
          delivery := some { d with call := after }
          attempts := s.attempts ++ [s.attempt { d with call := after }] }
  | waits (going : s.ending? after = none) (other : after.phase ≠ .attempting) :
      Carries s d after { s with delivery := some { d with call := after } }

theorem carries_of_advance {s t : State α ε} {inner : Retry.Event Unit (Trouble ε)}
    (moved : s.advance inner = some t) :
    ∃ d after, s.delivery = some d ∧ d.call.admits s.policy s.provider.retryable inner = true ∧
      Retry.Moves s.policy s.provider.retryable d.call inner after ∧
      s.settles? inner = s.ending? after ∧ Carries s d after t := by
  simp only [State.advance, Option.bind_eq_bind, Option.bind_eq_some_iff] at moved
  obtain ⟨now, progress, moved⟩ := moved
  have settles : s.settles? inner = s.ending? now.call := by
    rw [State.settles?, progress, Option.bind_some]
  simp only [State.progress?, Option.bind_eq_bind, Option.bind_eq_some_iff] at progress
  obtain ⟨d, delivery, after, stepped, same⟩ := progress
  cases Option.some.inj same
  obtain ⟨admitted, stepped⟩ := Retry.step_of_next stepped
  refine ⟨d, after, delivery, admitted, Retry.moves_of_step stepped, settles, ?_⟩
  split at moved
  · rename_i how ending
    obtain ⟨b, finished, result⟩ := Option.bind_eq_some_iff.mp moved
    exact Option.some.inj result ▸ .ended ending finished
  · rename_i going attempting
    exact Option.some.inj moved ▸ .again going attempting
  · rename_i going other
    exact Option.some.inj moved ▸ .waits going other

/-- A moment of the retried call, as an event of the outbox. -/
inductive Moment (s : State α ε) : Event α ε → Retry.Event Unit (Trouble ε) → Prop
  | returned (r : Except (Trouble ε) Unit) (jitter : Binary64) :
      Moment s (.returned r jitter) (.returned r s.stopped jitter)
  | brokeOff : Moment s .brokeOff .brokeOff
  | resumed : Moment s .resumed .resumed
  | cut (stopped : s.stopped = true) : Moment s .cut .cut

/-- The ends of batches among what the batcher does. -/
def endingsIn (bs : List (Batcher.Event α ε)) : List (Ending ε) :=
  bs.filterMap fun | .finish _ how => some how | _ => none

theorem moves_of_failure {s t : State α ε} {d : Delivery α ε} {trouble : Trouble ε}
    {jitter : Binary64} (delivery : s.delivery = some d)
    (attempting : d.call.phase = .attempting)
    (admitted : d.call.admits s.policy s.provider.retryable
      (.returned (.error trouble) s.stopped jitter) = true)
    (carries : Carries s d
      (d.call.failed s.policy s.provider.retryable trouble s.stopped jitter) t) :
    ∃ more, Moves s (.returned (.error trouble) jitter) more t ∧ endingsIn more =
      (s.ending? (d.call.failed s.policy s.provider.retryable trouble s.stopped jitter)).toList := by
  have same := Retry.failed_attempts s.policy s.provider.retryable d.call trouble s.stopped jitter
  have verdicts := Retry.failed_cases s.policy s.provider.retryable d.call trouble s.stopped jitter
  generalize d.call.failed s.policy s.provider.retryable trouble s.stopped jitter = after at *
  rcases verdicts with ⟨last, phase⟩ | ⟨length, again, phase⟩ | ⟨undefined, phase⟩
  · have ending : s.ending? after = some (.returned (.error (s.provider.fault trouble))) := by
      simp [State.ending?, phase]
    cases carries with
    | ended how moved =>
      cases Option.some.inj (ending.symm.trans how)
      exact ⟨_, .settle delivery (.failed trouble jitter attempting last) moved, by rw [ending]; rfl⟩
    | again going => simp [ending] at going
    | waits going => simp [ending] at going
  · have going : s.ending? after = none := by simp [State.ending?, phase]
    cases carries with
    | ended how => simp [going] at how
    | again _ attempts => simp [phase] at attempts
    | waits => exact ⟨_, .pause delivery attempting again same phase, by rw [going]; rfl⟩
  · have ending : s.ending? after = some .panicked := by simp [State.ending?, phase]
    cases carries with
    | ended how moved =>
      cases Option.some.inj (ending.symm.trans how)
      obtain ⟨retryable, stuck⟩ := Retry.stuck_of_undefined admitted undefined
      exact ⟨_, .settle delivery (.stuck trouble jitter attempting undefined retryable stuck) moved,
        by rw [ending]; rfl⟩
    | again going => simp [ending] at going
    | waits going => simp [ending] at going

theorem moves_of_advance {s t : State α ε} {e : Event α ε} {inner : Retry.Event Unit (Trouble ε)}
    (moment : Moment s e inner) (moved : s.advance inner = some t) :
    ∃ more, Moves s e more t ∧ endingsIn more = (s.settles? inner).toList := by
  obtain ⟨d, after, delivery, admitted, stepped, settles, carries⟩ := carries_of_advance moved
  rw [settles]
  cases stepped with
  | succeed v canceled jitter attempting =>
    cases moment
    cases carries with
    | ended ending moved =>
      cases ending
      exact ⟨_, .settle delivery (.delivered jitter attempting) moved, rfl⟩
    | again going => cases going
    | waits going => cases going
  | fail trouble canceled jitter attempting =>
    cases moment
    exact moves_of_failure delivery attempting admitted carries
  | breakOff attempting =>
    cases moment
    cases carries with
    | ended ending moved =>
      cases ending
      exact ⟨_, .settle delivery (.brokeOff attempting) moved, rfl⟩
    | again going => cases going
    | waits going => cases going
  | resume length last pausing =>
    cases moment
    cases carries with
    | ended ending => cases ending
    | again => exact ⟨_, .retry delivery pausing, rfl⟩
    | waits _ other => exact absurd rfl other
  | cut length last pausing =>
    cases moment
    cases carries with
    | ended ending moved =>
      cases ending
      exact ⟨_, .settle delivery (.cut length last pausing) moved, rfl⟩
    | again going => cases going
    | waits going => cases going

theorem moves_of_moment {s t : State α ε} {e : Event α ε} {inner : Retry.Event Unit (Trouble ε)}
    (moment : Moment s e inner) (moved : s.advance inner = some t) : ∃ more, Moves s e more t := by
  obtain ⟨more, moves, _⟩ := moves_of_advance moment moved
  exact ⟨more, moves⟩

theorem moves_of_step {s t : State α ε} {e : Event α ε} (moved : s.step e = some t) :
    ∃ more, Moves s e more t := by
  cases e with
  | submit item => exact ⟨_, moves_of_passOn rfl moved⟩
  | leave ticket => exact ⟨_, moves_of_passOn rfl moved⟩
  | look =>
    obtain ⟨b, stepped, rfl⟩ := Option.map_eq_some_iff.mp moved
    exact ⟨_, .look stepped⟩
  | call =>
    obtain ⟨r, ready, rfl⟩ := Option.map_eq_some_iff.mp moved
    exact ⟨_, .call ready⟩
  | returned r jitter => exact moves_of_moment (.returned r jitter) moved
  | brokeOff => exact moves_of_moment .brokeOff moved
  | resumed => exact moves_of_moment .resumed moved
  | cut =>
    simp only [State.step] at moved
    split at moved
    · rename_i stopped
      exact moves_of_moment (.cut stopped) moved
    · contradiction
  | stop =>
    cases Option.some.inj moved
    exact ⟨_, .stop⟩
  | drain id move => exact ⟨_, moves_of_passOn rfl moved⟩

/-- The states of an outbox, with the events so far and what they made the batcher do. -/
inductive Reached (limits : Limits) (provider : Provider ε) (policy : Retry.Policy) :
    List (Event α ε) → List (Batcher.Event α ε) → State α ε → Prop
  | start : Reached limits provider policy [] [] (.new limits provider policy)
  | next {es : List (Event α ε)} {bs more : List (Batcher.Event α ε)} {s t : State α ε}
      {e : Event α ε} (before : Reached limits provider policy es bs s)
      (moved : Moves s e more t) : Reached limits provider policy (es ++ [e]) (bs ++ more) t

theorem endingsIn_of_moves {s t : State α ε} {e : Event α ε} {more : List (Batcher.Event α ε)}
    (moved : Moves s e more t) (silent : e.reply? = none) (going : e ≠ .cut) :
    endingsIn more = [] := by
  cases moved with
  | @pass _ inner _ passed =>
    cases e with
    | submit | leave | drain => cases passed; rfl
    | _ => cases passed
  | settle _ ends =>
    cases ends with
    | cut => exact absurd rfl going
    | _ => cases silent
  | _ => rfl

theorem Reached.run {limits : Limits} {provider : Provider ε} {policy : Retry.Policy}
    {es fs : List (Event α ε)} {bs : List (Batcher.Event α ε)} {s t : State α ε}
    (reached : Reached limits provider policy es bs s) (ran : run State.step s fs = some t) :
    ∃ more, Reached limits provider policy (es ++ fs) (bs ++ more) t ∧
      ((∀ e ∈ fs, e.reply? = none ∧ e ≠ .cut) → endingsIn more = []) := by
  induction fs generalizing es bs s with
  | nil =>
    cases Option.some.inj ran
    exact ⟨[], by simpa using reached, fun _ => rfl⟩
  | cons e fs ih =>
    obtain ⟨u, stepped, rest⟩ := Option.bind_eq_some_iff.mp ran
    obtain ⟨one, moved⟩ := moves_of_step stepped
    obtain ⟨more, later, endless⟩ := ih (reached.next moved) rest
    rw [List.append_assoc, List.append_assoc] at later
    refine ⟨one ++ more, later, ?_⟩
    intro quiet
    rw [List.forall_mem_cons] at quiet
    rw [endingsIn, List.filterMap_append, ← endingsIn, ← endingsIn,
      endingsIn_of_moves moved quiet.1.1 quiet.1.2, endless quiet.2, List.append_nil]

end Courier.Outbox
