import Courier.Proofs.Subscription.Moves

/-! What one step makes of one receive, read off what the step does to all of them. A receive that the
event does not name stays as it is. -/

namespace Courier.Subscription

variable {ε : Type} {s t : State ε} {e : Event ε}

/-- The next phase of a receive whose turn it is. -/
inductive Change (s : State ε) (e : Event ε) (id : Nat) (c : Receive ε) : ReceivePhase ε → Prop
  | refuse {f : Fault ε} (called : e = .receiveStep id) (looks : c.phase = .looking)
      (fault : s.fault = some f) : Change s e id c (.done (.error f))
  | handOut {d : Delivery} {rest : List Delivery} (called : e = .receiveStep id)
      (looks : c.phase = .looking) (sound : s.fault = none) (queue : s.queue = d :: rest) :
      Change s e id c (.done (.ok d))
  | join {r : Nat} (called : e = .receiveStep id) (looks : c.phase = .looking)
      (round : s.round = some r) : Change s e id c (.waiting r)
  | giveUp (called : e = .receiveStep id) (looks : c.phase = .looking)
      (fired : fires s.fired c.token = true) : Change s e id c (.done (.error .canceled))
  | begin (called : e = .receiveStep id) (looks : c.phase = .looking) (empty : s.queue = [])
      (free : s.round = none) :
      Change s e id c (.opening s.rounds.length s.flow.fetchSize)
  | call {r size : Nat} (called : e = .receiveStep id) (opens : c.phase = .opening r size) :
      Change s e id c (.fetching r size .start)
  | wake {r : Nat} (called : e = .receiveStep id) (waits : c.phase = .waiting r)
      (ended : s.isOver r = true) : Change s e id c .looking
  | store {r : Nat} {batch : List Parcel} (called : e = .receiveStep id)
      (stores : c.phase = .storing r batch) : Change s e id c (.stored r)
  | conclude {r : Nat} {next : ReceivePhase ε} (called : e = .receiveStep id)
      (ends : c.phase.conclusion? = some (r, next)) : Change s e id c next
  | cancel {r : Nat} (called : e = .receiveCancel id) (waits : c.phase = .waiting r)
      (fired : fires s.fired c.token = true) : Change s e id c (.done (.error .canceled))
  | clear {r : Nat} {sequel : Sequel ε} (called : e = .receiveClear id)
      (gives : c.phase.giveBack? = some (r, sequel)) : Change s e id c (.signalling r sequel)
  | signal {r : Nat} {sequel : Sequel ε} {next : ReceivePhase ε} (called : e = .receiveStep id)
      (signals : c.phase = .signalling r sequel) (goes : sequel.phase? = some next) :
      Change s e id c next
  | bring {r size : Nat} {call : Fetch ε} {batch : List Parcel} {jitter : Binary64}
      (called : e = .fetched id (.ok batch) jitter) (fetches : c.phase = .fetching r size call) :
      Change s e id c (.storing r batch)
  | fail {r size : Nat} {call after : Fetch ε} {inner : Retry.Event (List Parcel) (Trouble ε)}
      {trouble : Trouble ε} (fetches : c.phase = .fetching r size call) (moment : Moment s id c e inner)
      (stepped : call.step s.policy s.provider.retryable inner = some after)
      (failed : after.phase = .done (.error trouble)) :
      Change s e id c (.failing r (s.provider.fault trouble))
  | collapse {r size : Nat} {call : Fetch ε} {inner : Retry.Event (List Parcel) (Trouble ε)}
      (fetches : c.phase = .fetching r size call) (moment : Moment s id c e inner) :
      Change s e id c (.collapsing r)
  | goOn {r size : Nat} {call after : Fetch ε} {inner : Retry.Event (List Parcel) (Trouble ε)}
      (fetches : c.phase = .fetching r size call) (moment : Moment s id c e inner)
      (stepped : call.step s.policy s.provider.retryable inner = some after)
      (going : ∀ result, after.phase ≠ .done result) : Change s e id c (.fetching r size after)

/-- What becomes of the receive with number `id`; `after` is what there is of it after the step. -/
inductive Fate (s : State ε) (e : Event ε) (id : Nat) (after : Option (Receive ε)) : Prop
  | stays (same : after = s.receive? id)
  | arrives {token : Option Token} (called : e = .receive id token) (fresh : s.receive? id = none)
      (here : after = some ⟨token, .looking⟩)
  | changes {c : Receive ε} {next : ReceivePhase ε} (found : s.receive? id = some c)
      (change : Change s e id c next) (here : after = some { c with phase := next })
  | leaves {c : Receive ε} (called : e = .receiveLeave id) (found : s.receive? id = some c)
      (gone : after = none)
  /-- Its caller has dropped the owner of a round, and it has only had to signal. -/
  | vanishes {c : Receive ε} {r : Nat} (called : e = .receiveStep id) (found : s.receive? id = some c)
      (signals : c.phase = .signalling r .gone) (gone : after = none)

theorem fate_of_moves (distinct : (s.receives.map (·.1)).Nodup) (moved : Moves s e t) (i : Nat) :
    Fate s e i (t.receive? i) := by
  have changed : ∀ {id : Nat} {c : Receive ε} {next : ReceivePhase ε}, s.receive? id = some c →
      Change s e id c next → Fate s e i ((s.setReceive id next).receive? i) := by
    intro id c next found change
    by_cases name : i = id
    · subst name
      exact .changes found change (receive_set distinct found next)
    · exact .stays (lookup_updated s.receives name fun c => { c with phase := next })
  have others : ∀ {id : Nat}, i ≠ id → (s.without id).receive? i = s.receive? i :=
    fun name => lookup_removed s.receives name
  cases moved with
  | aside same => exact .stays (by rw [State.receive?, same.receives, State.receive?])
  | arrive id token fresh =>
    have added := lookup_added (⟨token, .looking⟩ : Receive ε) fresh i
    by_cases name : i = id
    · subst name
      rw [if_pos rfl] at added
      exact .arrives rfl fresh added
    · rw [if_neg name] at added
      exact .stays added
  | refuse found looks fault => exact changed found (.refuse rfl looks fault)
  | handOut found looks sound queue => exact changed found (.handOut rfl looks sound queue)
  | join found looks _ _ round => exact changed found (.join rfl looks round)
  | giveUp found looks _ _ _ fired => exact changed found (.giveUp rfl looks fired)
  | begin found looks _ empty free => exact changed found (.begin rfl looks empty free)
  | call found opens => exact changed found (.call rfl opens)
  | wake found waits ended => exact changed found (.wake rfl waits ended)
  | store found stores => exact changed found (.store rfl stores)
  | conclude found ends => exact changed found (.conclude rfl ends)
  | cancel found waits fired => exact changed found (.cancel rfl waits fired)
  | @depart id c found =>
    by_cases name : i = id
    · subst name
      exact .leaves rfl found (lookup_gone s.receives i)
    · exact .stays (others name)
  | @abandon id c _ _ _ found =>
    by_cases name : i = id
    · subst name
      exact .leaves rfl found (lookup_gone s.receives i)
    · exact .stays (others name)
  | clear found gives => exact changed found (.clear rfl gives)
  | signal found signals goes => exact changed found (.signal rfl signals goes)
  | @vanish id c r found signals =>
    by_cases name : i = id
    · subst name
      exact .vanishes rfl found signals (lookup_gone s.receives i)
    · exact .stays (others name)
  | bring found fetches => exact changed found (.bring rfl fetches)
  | fail found fetches moment _ stepped failed =>
    exact changed found (.fail fetches moment stepped failed)
  | collapse found fetches moment => exact changed found (.collapse fetches moment)
  | pause found fetches moment _ stepped pausing =>
    exact changed found (.goOn fetches moment stepped (by simp [pausing]))
  | retry found fetches moment _ stepped attempting =>
    exact changed found (.goOn fetches moment stepped (by simp [attempting]))

/-- Where a receive comes from that is there after the step. -/
inductive Origin (s : State ε) (e : Event ε) (id : Nat) : Receive ε → Prop
  | stays {c : Receive ε} (before : s.receive? id = some c) : Origin s e id c
  | arrives {token : Option Token} (called : e = .receive id token) (fresh : s.receive? id = none) :
      Origin s e id ⟨token, .looking⟩
  | changes {d : Receive ε} {next : ReceivePhase ε} (found : s.receive? id = some d)
      (change : Change s e id d next) : Origin s e id { d with phase := next }

theorem origin_of_moves (distinct : (s.receives.map (·.1)).Nodup) (moved : Moves s e t) {id : Nat}
    {c : Receive ε} (now : t.receive? id = some c) : Origin s e id c := by
  have fate := fate_of_moves distinct moved id
  rw [now] at fate
  cases fate with
  | stays same => exact .stays same.symm
  | arrives called fresh here =>
    cases here
    exact .arrives called fresh
  | changes found change here =>
    cases here
    exact .changes found change
  | leaves _ _ gone => cases gone
  | vanishes _ _ _ gone => cases gone

end Courier.Subscription
