import Courier.Proofs.Keyed
import Courier.Proofs.Retry.Moves
import Courier.Subscription

/-! Everything that one event can do to what the receives of a subscription share, one case for each
way in which the event can go. Acknowledgements, shutdowns and tokens leave all of it alone. -/

namespace Courier.Subscription

variable {ε : Type}

/-- How the owner of a round goes on when it gives the round back. -/
def ReceivePhase.conclusion? : ReceivePhase ε → Option (Nat × ReceivePhase ε)
  | .stored r => some (r, .looking)
  | .failing r f => some (r, .done (.error f))
  | .collapsing r => some (r, .collapsed)
  | _ => none

theorem conclusion_cases {phase next : ReceivePhase ε} {r : Nat}
    (ends : phase.conclusion? = some (r, next)) :
    (phase = .stored r ∧ next = .looking) ∨
    (∃ f, phase = .failing r f ∧ next = .done (.error f)) ∨
    (phase = .collapsing r ∧ next = .collapsed) := by
  cases phase with
  | stored q =>
    cases ends
    exact .inl ⟨rfl, rfl⟩
  | failing q f =>
    cases ends
    exact .inr (.inl ⟨f, rfl, rfl⟩)
  | collapsing q =>
    cases ends
    exact .inr (.inr ⟨rfl, rfl⟩)
  | _ => cases ends

theorem giveBack_cases {phase : ReceivePhase ε} {r : Nat} {sequel : Sequel ε}
    (gives : phase.giveBack? = some (r, sequel)) :
    (∃ size call, phase = .fetching r size call) ∨ phase = .stored r ∨
      (∃ f, phase = .failing r f) ∨ phase = .collapsing r := by
  cases phase with
  | fetching q size call =>
    cases gives
    exact .inl ⟨size, call, rfl⟩
  | stored q =>
    cases gives
    exact .inr (.inl rfl)
  | failing q f =>
    cases gives
    exact .inr (.inr (.inl ⟨f, rfl⟩))
  | collapsing q =>
    cases gives
    exact .inr (.inr (.inr rfl))
  | _ => cases gives

theorem phase_cases {sequel : Sequel ε} {next : ReceivePhase ε} (goes : sequel.phase? = some next) :
    (sequel = .again ∧ next = .looking) ∨ (∃ f, sequel = .failed f ∧ next = .done (.error f)) ∨
      (sequel = .collapsed ∧ next = .collapsed) := by
  cases sequel with
  | again =>
    cases goes
    exact .inl ⟨rfl, rfl⟩
  | failed f =>
    cases goes
    exact .inr (.inl ⟨f, rfl, rfl⟩)
  | collapsed =>
    cases goes
    exact .inr (.inr ⟨rfl, rfl⟩)
  | gone => cases goes

/-- How the owner of a round goes on, in either way of giving it back: it looks, or it is at its end. -/
inductive Follows : ReceivePhase ε → Prop
  | again : Follows .looking
  | failed (f : Fault ε) : Follows (.done (.error f))
  | collapsed : Follows .collapsed

theorem follows_of_conclusion {phase next : ReceivePhase ε} {r : Nat}
    (ends : phase.conclusion? = some (r, next)) : Follows next := by
  rcases conclusion_cases ends with ⟨_, rfl⟩ | ⟨f, _, rfl⟩ | ⟨_, rfl⟩
  · exact .again
  · exact .failed f
  · exact .collapsed

theorem follows_of_sequel {sequel : Sequel ε} {next : ReceivePhase ε}
    (goes : sequel.phase? = some next) : Follows next := by
  rcases phase_cases goes with ⟨_, rfl⟩ | ⟨f, _, rfl⟩ | ⟨_, rfl⟩
  · exact .again
  · exact .failed f
  · exact .collapsed

theorem receive_set {s : State ε} (distinct : (s.receives.map (·.1)).Nodup) {id : Nat} {c : Receive ε}
    (found : s.receive? id = some c) (phase : ReceivePhase ε) :
    (s.setReceive id phase).receive? id = some { c with phase := phase } :=
  update_found distinct found fun c => { c with phase := phase }

/-- The events that concern receives alone. -/
def Event.receives : Event ε → Bool
  | .receive .. => true
  | .receiveStep _ => true
  | .receiveCancel _ => true
  | .receiveLeave _ => true
  | .receiveClear _ => true
  | .fetched .. => true
  | .fetchBroke _ => true
  | .fetchResumed _ => true
  | .fetchCut _ => true
  | _ => false

/-- The messages that an event brings from the provider. -/
def Event.batch : Event ε → List Parcel
  | .fetched _ (.ok batch) _ => batch
  | _ => []

/-- The pause of a retried fetch ends of itself. -/
def Event.resumes : Event ε → Bool
  | .fetchResumed _ => true
  | _ => false

theorem bare_of_outside {e : Event ε} (outside : e.receives = false) :
    e.batch = [] ∧ e.resumes = false := by
  cases e with
  | fetched | fetchResumed => cases outside
  | _ => exact ⟨rfl, rfl⟩

/-- A moment of the retried call of a receive, as an event of the subscription. -/
inductive Moment (s : State ε) (id : Nat) (c : Receive ε) :
    Event ε → Retry.Event (List Parcel) (Trouble ε) → Prop
  | returned (result : Except (Trouble ε) (List Parcel)) (jitter : Binary64) :
      Moment s id c (.fetched id result jitter) (.returned result (fires s.fired c.token) jitter)
  | broke : Moment s id c (.fetchBroke id) .brokeOff
  | resumed : Moment s id c (.fetchResumed id) .resumed
  | cut (fired : fires s.fired c.token = true) : Moment s id c (.fetchCut id) .cut

/-- Every message handed out, acknowledged or not. -/
def State.handedOut (s : State ε) : List Delivery := s.held.map fun h => ⟨h.serial, h.parcel⟩

/-- What receives share stays as it is; a message may be acknowledged. -/
structure Aside (s t : State ε) : Prop where
  receives : t.receives = s.receives
  queue : t.queue = s.queue
  round : t.round = s.round
  rounds : t.rounds = s.rounds
  arrived : t.arrived = s.arrived
  fetches : t.fetches = s.fetches
  handedOut : t.handedOut = s.handedOut

def State.without (s : State ε) (id : Nat) : State ε :=
  { s with receives := s.receives.filter (·.1 ≠ id) }

inductive Moves (s : State ε) : Event ε → State ε → Prop
  | aside {e : Event ε} {t : State ε} (same : Aside s t) (outside : e.receives = false) :
      Moves s e t
  | arrive (id : Nat) (token : Option Token) (fresh : s.receive? id = none) :
      Moves s (.receive id token) { s with receives := s.receives ++ [(id, ⟨token, .looking⟩)] }
  | refuse {id : Nat} {c : Receive ε} {f : Fault ε} (found : s.receive? id = some c)
      (looks : c.phase = .looking) (fault : s.fault = some f) :
      Moves s (.receiveStep id) (s.setReceive id (.done (.error f)))
  | handOut {id : Nat} {c : Receive ε} {d : Delivery} {rest : List Delivery}
      (found : s.receive? id = some c) (looks : c.phase = .looking) (sound : s.fault = none)
      (queue : s.queue = d :: rest) : Moves s (.receiveStep id) (s.handOut id d rest)
  | join {id : Nat} {c : Receive ε} {r : Nat} (found : s.receive? id = some c)
      (looks : c.phase = .looking) (sound : s.fault = none) (empty : s.queue = [])
      (round : s.round = some r) : Moves s (.receiveStep id) (s.setReceive id (.waiting r))
  | giveUp {id : Nat} {c : Receive ε} (found : s.receive? id = some c) (looks : c.phase = .looking)
      (sound : s.fault = none) (empty : s.queue = []) (free : s.round = none)
      (fired : fires s.fired c.token = true) :
      Moves s (.receiveStep id) (s.setReceive id (.done (.error .canceled)))
  | begin {id : Nat} {c : Receive ε} (found : s.receive? id = some c) (looks : c.phase = .looking)
      (sound : s.fault = none) (empty : s.queue = []) (free : s.round = none)
      (unfired : fires s.fired c.token = false) : Moves s (.receiveStep id) (s.beginRound id)
  | call {id : Nat} {c : Receive ε} {r size : Nat} (found : s.receive? id = some c)
      (opens : c.phase = .opening r size) :
      Moves s (.receiveStep id) ((s.ask c r size).setReceive id (.fetching r size .start))
  | wake {id : Nat} {c : Receive ε} {r : Nat} (found : s.receive? id = some c)
      (waits : c.phase = .waiting r) (ended : s.isOver r = true) :
      Moves s (.receiveStep id) (s.setReceive id .looking)
  | store {id : Nat} {c : Receive ε} {r : Nat} {batch : List Parcel}
      (found : s.receive? id = some c) (stores : c.phase = .storing r batch) :
      Moves s (.receiveStep id) ((s.store batch).setReceive id (.stored r))
  | conclude {id : Nat} {c : Receive ε} {r : Nat} {next : ReceivePhase ε}
      (found : s.receive? id = some c) (ends : c.phase.conclusion? = some (r, next)) :
      Moves s (.receiveStep id) ((s.release r).setReceive id next)
  | cancel {id : Nat} {c : Receive ε} {r : Nat} (found : s.receive? id = some c)
      (waits : c.phase = .waiting r) (fired : fires s.fired c.token = true) :
      Moves s (.receiveCancel id) (s.setReceive id (.done (.error .canceled)))
  | depart {id : Nat} {c : Receive ε} (found : s.receive? id = some c)
      (free : c.phase = .looking ∨ ∃ r, c.phase = .waiting r) :
      Moves s (.receiveLeave id) (s.without id)
  | abandon {id : Nat} {c : Receive ε} {r size : Nat} {call : Fetch ε}
      (found : s.receive? id = some c) (fetches : c.phase = .fetching r size call) :
      Moves s (.receiveLeave id) ((s.without id).release r)
  | clear {id : Nat} {c : Receive ε} {r : Nat} {sequel : Sequel ε} (found : s.receive? id = some c)
      (gives : c.phase.giveBack? = some (r, sequel)) :
      Moves s (.receiveClear id) (s.clear.setReceive id (.signalling r sequel))
  | signal {id : Nat} {c : Receive ε} {r : Nat} {sequel : Sequel ε} {next : ReceivePhase ε}
      (found : s.receive? id = some c) (signals : c.phase = .signalling r sequel)
      (goes : sequel.phase? = some next) :
      Moves s (.receiveStep id) ((s.signal r).setReceive id next)
  | vanish {id : Nat} {c : Receive ε} {r : Nat} (found : s.receive? id = some c)
      (signals : c.phase = .signalling r .gone) :
      Moves s (.receiveStep id) ((s.signal r).without id)
  | bring {id : Nat} {c : Receive ε} {r size : Nat} {call : Fetch ε} {batch : List Parcel}
      {jitter : Binary64} (found : s.receive? id = some c)
      (fetches : c.phase = .fetching r size call) (attempting : call.phase = .attempting) :
      Moves s (.fetched id (.ok batch) jitter) (s.setReceive id (.storing r batch))
  | fail {id : Nat} {c : Receive ε} {r size : Nat} {call after : Fetch ε} {e : Event ε}
      {inner : Retry.Event (List Parcel) (Trouble ε)} {trouble : Trouble ε}
      (found : s.receive? id = some c) (fetches : c.phase = .fetching r size call)
      (moment : Moment s id c e inner) (nothing : e.batch = [])
      (stepped : call.step s.policy s.provider.retryable inner = some after)
      (failed : after.phase = .done (.error trouble)) :
      Moves s e (s.setReceive id (.failing r (s.provider.fault trouble)))
  | collapse {id : Nat} {c : Receive ε} {r size : Nat} {call after : Fetch ε} {e : Event ε}
      {inner : Retry.Event (List Parcel) (Trouble ε)}
      (found : s.receive? id = some c) (fetches : c.phase = .fetching r size call)
      (moment : Moment s id c e inner) (nothing : e.batch = [])
      (stepped : call.step s.policy s.provider.retryable inner = some after)
      (broken : after.phase = .broken) : Moves s e (s.setReceive id (.collapsing r))
  | pause {id : Nat} {c : Receive ε} {r size : Nat} {call after : Fetch ε} {e : Event ε}
      {inner : Retry.Event (List Parcel) (Trouble ε)} {length : Duration} {last : Trouble ε}
      (found : s.receive? id = some c) (fetches : c.phase = .fetching r size call)
      (moment : Moment s id c e inner) (nothing : e.batch = [])
      (stepped : call.step s.policy s.provider.retryable inner = some after)
      (pausing : after.phase = .pausing length last) :
      Moves s e (s.setReceive id (.fetching r size after))
  | retry {id : Nat} {c : Receive ε} {r size : Nat} {call after : Fetch ε} {e : Event ε}
      {inner : Retry.Event (List Parcel) (Trouble ε)}
      (found : s.receive? id = some c) (fetches : c.phase = .fetching r size call)
      (moment : Moment s id c e inner) (nothing : e.batch = [])
      (stepped : call.step s.policy s.provider.retryable inner = some after)
      (attempting : after.phase = .attempting) :
      Moves s e ((s.ask c r size).setReceive id (.fetching r size after))

/-! The moments outside receives. -/

theorem aside_passOn {s t : State ε} {e : Outbox.Event AckId ε} (passed : s.passOn e = some t) :
    Aside s t := by
  obtain ⟨o, _, rfl⟩ := Option.map_eq_some_iff.mp passed
  exact ⟨rfl, rfl, rfl, rfl, rfl, rfl, rfl⟩

theorem aside_recordFailure (s : State ε) (how : Option (Ending ε)) :
    Aside s (s.recordFailure how) := by
  unfold State.recordFailure
  split <;> exact ⟨rfl, rfl, rfl, rfl, rfl, rfl, rfl⟩

theorem Aside.trans {s t u : State ε} (first : Aside s t) (second : Aside t u) : Aside s u :=
  ⟨second.receives.trans first.receives, second.queue.trans first.queue,
    second.round.trans first.round, second.rounds.trans first.rounds,
    second.arrived.trans first.arrived, second.fetches.trans first.fetches,
    second.handedOut.trans first.handedOut⟩

theorem aside_moveAcks {s t : State ε} {e : Outbox.Event AckId ε}
    {inner : Retry.Event Unit (Trouble ε)} (moved : s.moveAcks e inner = some t) : Aside s t := by
  obtain ⟨u, passed, rfl⟩ := Option.map_eq_some_iff.mp moved
  exact (aside_passOn passed).trans (aside_recordFailure u _)

theorem aside_perform {s t : State ε} {elapsed : Duration} {a : Action}
    (performed : s.perform elapsed a = some t) : Aside s t := by
  cases a with
  | replace => exact Option.some.inj performed ▸ ⟨rfl, rfl, rfl, rfl, rfl, rfl, rfl⟩
  | send ackId =>
    have passed := aside_passOn performed
    exact ⟨passed.receives, passed.queue, passed.round, passed.rounds, passed.arrived,
      passed.fetches, passed.handedOut⟩
  | nothing => exact Option.some.inj performed ▸ ⟨rfl, rfl, rfl, rfl, rfl, rfl, rfl⟩

/-- Marking a message changes neither its number nor its content. -/
theorem aside_mark (s : State ε) (serial : Nat) (ack : Acknowledgement Action) :
    Aside s { s with
      held := s.held.map fun x => if x.serial = serial then { x with ack := ack } else x } := by
  refine ⟨rfl, rfl, rfl, rfl, rfl, rfl, ?_⟩
  rw [State.handedOut, State.handedOut, List.map_map]
  apply List.map_congr_left
  intro x _
  by_cases same : x.serial = serial
  · simp [same]
  · simp [same]

theorem aside_acknowledge {s t : State ε} {serial : Nat} {elapsed : Duration} {returns : Bool}
    (moved : s.acknowledge serial elapsed returns = some t) : Aside s t := by
  simp only [State.acknowledge, Option.bind_eq_bind, Option.bind_eq_some_iff] at moved
  obtain ⟨h, _, moved⟩ := moved
  split at moved
  · exact (aside_mark s serial _).trans (aside_perform moved)
  · exact Option.some.inj moved ▸ aside_mark s serial _

theorem aside_moveShutdown {s t : State ε} {id : Nat} {c : Closing.Call ε}
    (moved : s.moveShutdown id c = some t) : Aside s t := by
  obtain ⟨⟨o, phase⟩, _, rfl⟩ := Option.map_eq_some_iff.mp moved
  dsimp only
  split <;> exact ⟨rfl, rfl, rfl, rfl, rfl, rfl, rfl⟩

/-! The moments of receives. -/

theorem moves_of_look {s : State ε} {id : Nat} {c : Receive ε} (found : s.receive? id = some c)
    (looks : c.phase = .looking) : Moves s (.receiveStep id) (s.look id c) := by
  unfold State.look
  split
  · rename_i f fault
    exact .refuse found looks fault
  · rename_i d rest sound queue
    exact .handOut found looks sound queue
  · rename_i r sound empty round
    exact .join found looks sound empty round
  · rename_i sound empty free
    split
    · rename_i fired
      exact .giveUp found looks sound empty free fired
    · rename_i unfired
      exact .begin found looks sound empty free (eq_false_of_ne_true unfired)

theorem moves_of_moveReceive {s t : State ε} {id : Nat} {c : Receive ε}
    (found : s.receive? id = some c) (moved : s.moveReceive id c = some t) :
    Moves s (.receiveStep id) t := by
  unfold State.moveReceive at moved
  split at moved
  · rename_i looks
    exact Option.some.inj moved ▸ moves_of_look found looks
  · rename_i r waits
    split at moved
    · rename_i ended
      exact Option.some.inj moved ▸ .wake found waits ended
    · contradiction
  · rename_i r size opens
    exact Option.some.inj moved ▸ .call found opens
  · contradiction
  · rename_i r batch stores
    exact Option.some.inj moved ▸ .store found stores
  · rename_i r stored
    exact Option.some.inj moved ▸ .conclude found (by rw [stored]; rfl)
  · rename_i r f failing
    exact Option.some.inj moved ▸ .conclude found (by rw [failing]; rfl)
  · rename_i r collapsing
    exact Option.some.inj moved ▸ .conclude found (by rw [collapsing]; rfl)
  · rename_i r sequel signals
    cases Option.some.inj moved
    cases sequel with
    | gone => exact .vanish found signals
    | _ => exact .signal found signals rfl
  · contradiction
  · contradiction

theorem moves_of_leave {s t : State ε} {id : Nat} {c : Receive ε} (found : s.receive? id = some c)
    (moved : s.leave id c = some t) : Moves s (.receiveLeave id) t := by
  unfold State.leave at moved
  dsimp only at moved
  split at moved
  · rename_i looks
    exact Option.some.inj moved ▸ .depart found (.inl looks)
  · rename_i r waits
    exact Option.some.inj moved ▸ .depart found (.inr ⟨r, waits⟩)
  · rename_i r size call fetches
    exact Option.some.inj moved ▸ .abandon found fetches
  · contradiction

/-- Without a batch in the event, the retried call has not succeeded. -/
theorem batch_nil_of_moment {s : State ε} {id : Nat} {c : Receive ε} {e : Event ε}
    {inner : Retry.Event (List Parcel) (Trouble ε)} {call after : Fetch ε}
    (moment : Moment s id c e inner)
    (stepped : call.step s.policy s.provider.retryable inner = some after)
    (other : ∀ batch, after.phase ≠ .done (.ok batch)) : e.batch = [] := by
  cases moment with
  | returned result jitter =>
    cases result with
    | error => rfl
    | ok batch =>
      cases Retry.moves_of_step stepped with
      | succeed => exact absurd rfl (other batch)
  | broke | resumed | cut => rfl

theorem moves_of_moveFetch {s t : State ε} {id : Nat} {c : Receive ε} {e : Event ε}
    {inner : Retry.Event (List Parcel) (Trouble ε)} (found : s.receive? id = some c)
    (moment : Moment s id c e inner) (moved : s.moveFetch id inner = some t) : Moves s e t := by
  simp only [State.moveFetch, found, Option.bind_eq_bind, Option.bind_some] at moved
  split at moved
  · rename_i r size call fetches
    obtain ⟨after, next, result⟩ := Option.bind_eq_some_iff.mp moved
    have stepped := (Retry.step_of_next next).2
    have nothing := batch_nil_of_moment moment stepped
    split at result
    · rename_i batch succeeded
      obtain ⟨attempting, canceled, jitter, rfl⟩ := Retry.ok_of_step stepped succeeded
      cases moment
      exact Option.some.inj result ▸ .bring found fetches attempting
    · rename_i trouble failed
      exact Option.some.inj result ▸
        .fail found fetches moment (nothing (by simp [failed])) stepped failed
    · rename_i broken
      exact Option.some.inj result ▸
        .collapse found fetches moment (nothing (by simp [broken])) stepped broken
    · rename_i attempting
      exact Option.some.inj result ▸
        .retry found fetches moment (nothing (by simp [attempting])) stepped attempting
    · rename_i length last pausing
      exact Option.some.inj result ▸
        .pause found fetches moment (nothing (by simp [pausing])) stepped pausing
  · contradiction

theorem found_of_moveFetch {s t : State ε} {id : Nat}
    {inner : Retry.Event (List Parcel) (Trouble ε)} (moved : s.moveFetch id inner = some t) :
    ∃ c, s.receive? id = some c := by
  simp only [State.moveFetch, Option.bind_eq_bind, Option.bind_eq_some_iff] at moved
  obtain ⟨c, found, _⟩ := moved
  exact ⟨c, found⟩

theorem moves_of_step {s t : State ε} {e : Event ε} (moved : s.step e = some t) : Moves s e t := by
  cases e with
  | receive id token =>
    simp only [State.step] at moved
    split at moved
    · contradiction
    · rename_i fresh
      exact Option.some.inj moved ▸ .arrive id token (Option.not_isSome_iff_eq_none.mp fresh)
  | receiveStep id =>
    obtain ⟨c, found, moved⟩ := Option.bind_eq_some_iff.mp moved
    exact moves_of_moveReceive found moved
  | receiveCancel id =>
    obtain ⟨c, found, moved⟩ := Option.bind_eq_some_iff.mp moved
    split at moved
    · rename_i r waits
      split at moved
      · rename_i fired
        exact Option.some.inj moved ▸ .cancel found waits fired
      · contradiction
    · contradiction
  | receiveLeave id =>
    obtain ⟨c, found, moved⟩ := Option.bind_eq_some_iff.mp moved
    exact moves_of_leave found moved
  | receiveClear id =>
    obtain ⟨c, found, moved⟩ := Option.bind_eq_some_iff.mp moved
    obtain ⟨⟨r, sequel⟩, gives, rfl⟩ := Option.map_eq_some_iff.mp moved
    exact .clear found gives
  | fetched id result jitter =>
    obtain ⟨c, found, moved⟩ := Option.bind_eq_some_iff.mp moved
    exact moves_of_moveFetch found (.returned result jitter) moved
  | fetchBroke id =>
    obtain ⟨c, found⟩ := found_of_moveFetch moved
    exact moves_of_moveFetch found .broke moved
  | fetchResumed id =>
    obtain ⟨c, found⟩ := found_of_moveFetch moved
    exact moves_of_moveFetch found .resumed moved
  | fetchCut id =>
    obtain ⟨c, found, moved⟩ := Option.bind_eq_some_iff.mp moved
    split at moved
    · rename_i fired
      exact moves_of_moveFetch found (.cut fired) moved
    · contradiction
  | ack serial elapsed returns => exact .aside (aside_acknowledge moved) rfl
  | ackLook => exact .aside (aside_passOn moved) rfl
  | ackCall => exact .aside (aside_passOn moved) rfl
  | ackReturned result jitter => exact .aside (aside_moveAcks moved) rfl
  | ackBroke => exact .aside (aside_moveAcks moved) rfl
  | ackResumed => exact .aside (aside_moveAcks moved) rfl
  | ackCut => exact .aside (aside_moveAcks moved) rfl
  | shutdown id token =>
    simp only [State.step] at moved
    split at moved
    · contradiction
    · exact Option.some.inj moved ▸ .aside ⟨rfl, rfl, rfl, rfl, rfl, rfl, rfl⟩ rfl
  | shutdownStep id =>
    obtain ⟨c, _, moved⟩ := Option.bind_eq_some_iff.mp moved
    exact .aside (aside_moveShutdown moved) rfl
  | shutdownCancel id =>
    obtain ⟨c, _, moved⟩ := Option.bind_eq_some_iff.mp moved
    obtain ⟨⟨o, phase⟩, _, moved⟩ := Option.bind_eq_some_iff.mp moved
    exact Option.some.inj moved ▸ .aside ⟨rfl, rfl, rfl, rfl, rfl, rfl, rfl⟩ rfl
  | shutdownLeave id =>
    have passed := aside_passOn moved
    exact .aside ⟨passed.receives, passed.queue, passed.round, passed.rounds, passed.arrived,
      passed.fetches, passed.handedOut⟩ rfl
  | fire token => exact Option.some.inj moved ▸ .aside ⟨rfl, rfl, rfl, rfl, rfl, rfl, rfl⟩ rfl
  | discard =>
    simp only [State.step] at moved
    split at moved
    · exact .aside (aside_passOn moved) rfl
    · contradiction

/-- The provider's answer goes to the receive that waits for it, whole. -/
theorem bring_of_step {s t : State ε} {id : Nat} {batch : List Parcel} {jitter : Binary64}
    (moved : s.step (.fetched id (.ok batch) jitter) = some t) :
    ∃ c r size call, s.receive? id = some c ∧ c.phase = .fetching r size call ∧
      call.phase = .attempting ∧ t = s.setReceive id (.storing r batch) := by
  obtain ⟨c, found, moved⟩ := Option.bind_eq_some_iff.mp moved
  simp only [State.moveFetch, found, Option.bind_eq_bind, Option.bind_some] at moved
  split at moved
  · rename_i r size call fetches
    obtain ⟨after, next, result⟩ := Option.bind_eq_some_iff.mp moved
    cases Retry.moves_of_step (Retry.step_of_next next).2 with
    | succeed _ _ _ attempting =>
      exact ⟨c, r, size, call, found, fetches, attempting, (Option.some.inj result).symm⟩
  · contradiction

end Courier.Subscription
