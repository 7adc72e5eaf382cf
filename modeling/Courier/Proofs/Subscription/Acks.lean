import Courier.Proofs.Closing
import Courier.Proofs.Outbox.Replies
import Courier.Proofs.Subscription.Moves

/-! Everything that one event can do to the acknowledgements of a subscription, one case for each way
in which the event can go. Beside the event stands what it makes the outbox do. Receives leave all of
this alone, but that a message that is handed out can be acknowledged from then on. -/

namespace Courier.Subscription

variable {ε : Type} {s t : State ε} {e : Event ε}

def Event.reply? : Event ε → Option (Outbox.Reply ε)
  | .ackReturned r _ => some (.returned r)
  | .ackBroke => some .brokeOff
  | _ => none

/-- The events that concern the outbox alone. -/
def Event.outer? : Event ε → Option (Outbox.Event AckId ε)
  | .ackLook => some .look
  | .ackCall => some .call
  | .ackReturned r jitter => some (.returned r jitter)
  | .ackBroke => some .brokeOff
  | .ackResumed => some .resumed
  | .ackCut => some .cut
  | _ => none

structure Apart (s t : State ε) : Prop where
  provider : t.provider = s.provider
  policy : t.policy = s.policy
  replaced : t.replaced = s.replaced
  outbox : t.outbox = s.outbox
  fault : t.fault = s.fault
  fired : t.fired = s.fired
  shutdowns : t.shutdowns = s.shutdowns
  flow : t.flow = s.flow
  samples : t.samples = s.samples
  replacements : t.replacements = s.replacements
  held : t.held = s.held ∨ ∃ serial p, t.held = s.held ++ [⟨serial, p, .ready (s.action p)⟩]

/-- A message with another acknowledgement. -/
def State.mark (s : State ε) (serial : Nat) (ack : Acknowledgement Action) : State ε :=
  { s with held := s.held.map fun x => if x.serial = serial then { x with ack := ack } else x }

def State.record (s : State ε) (elapsed : Duration) : State ε :=
  { s with flow := s.flow.record elapsed, samples := s.samples ++ [elapsed] }

/-- How the batch of acknowledgements in progress ends with this event, if it does. -/
def State.ending? (s : State ε) : Event ε → Option (Ending ε)
  | .ackReturned r jitter => s.outbox.settles? (.returned r s.outbox.stopped jitter)
  | .ackBroke => s.outbox.settles? .brokeOff
  | .ackResumed => s.outbox.settles? .resumed
  | .ackCut => s.outbox.settles? .cut
  | _ => none

/-- What a batch failed with. -/
def failure? : Ending ε → Option (Fault ε)
  | .returned (.error f) => some f
  | _ => none

inductive AckMoves (s : State ε) : Event ε → List (Outbox.Event AckId ε) → State ε → Prop
  | apart {e : Event ε} {t : State ε} (own : e.receives = true) (same : Apart s t) :
      AckMoves s e [] t
  | again {serial : Nat} {elapsed : Duration} {returns : Bool} {h : Held}
      (found : s.held? serial = some h) (spent : h.ack.acked = true ∨ h.ack.action = none) :
      AckMoves s (.ack serial elapsed returns) [] (s.mark serial h.ack)
  | replace {serial : Nat} {elapsed : Duration} {returns : Bool} {h : Held}
      (found : s.held? serial = some h) (fresh : h.ack = .ready .replace) :
      AckMoves s (.ack serial elapsed returns) []
        { (s.mark serial ⟨none, returns⟩).record elapsed with replacements := s.replacements + 1 }
  | submit {serial : Nat} {elapsed : Duration} {returns : Bool} {h : Held} {ackId : AckId}
      {o : Outbox.State AckId ε} (found : s.held? serial = some h)
      (fresh : h.ack = .ready (.send ackId)) (moved : s.outbox.step (.submit ackId) = some o) :
      AckMoves s (.ack serial elapsed returns) [.submit ackId]
        { (s.mark serial ⟨none, true⟩).record elapsed with outbox := o }
  /-- The message came without an acknowledgement token. -/
  | skip {serial : Nat} {elapsed : Duration} {returns : Bool} {h : Held}
      (found : s.held? serial = some h) (fresh : h.ack = .ready .nothing) :
      AckMoves s (.ack serial elapsed returns) [] ((s.mark serial ⟨none, true⟩).record elapsed)
  | outer {e : Event ε} {inner : Outbox.Event AckId ε} {o : Outbox.State AckId ε}
      {more : List (Batcher.Event AckId ε)} (passed : e.outer? = some inner)
      (stepped : s.outbox.step inner = some o) (moved : Outbox.Moves s.outbox inner more o)
      (ends : Outbox.endingsIn more = (s.ending? e).toList) :
      AckMoves s e [inner]
        { s with fault := s.fault.or ((s.ending? e).bind failure?), outbox := o }
  | enter (id : Nat) (token : Option Token) (fresh : s.shutdown? id = none) :
      AckMoves s (.shutdown id token) []
        { s with shutdowns := s.shutdowns ++ [(id, ⟨token, .begun⟩)] }
  | close {e : Event ε} {id : Nat} {c : Closing.Call ε} {os : List (Outbox.Event AckId ε)}
      {o : Outbox.State AckId ε} {phase : Closing.Phase ε} {fault : Option (Fault ε)}
      (found : s.shutdown? id = some c)
      (own : e = .shutdownStep id ∨ (e = .shutdownCancel id ∧ c.phase ≠ .begun))
      (moved : Closing.Moves s.outbox s.fired id c os o phase)
      (begins : c.phase = .begun → fault = some closedFault)
      (keeps : c.phase ≠ .begun → fault = s.fault) :
      AckMoves s e os ({ s with fault := fault, outbox := o }.setShutdown id phase)
  | forget {id : Nat} {o : Outbox.State AckId ε} (moved : s.outbox.step (.drain id .leave) = some o) :
      AckMoves s (.shutdownLeave id) [.drain id .leave]
        { s with shutdowns := s.shutdowns.filter (·.1 ≠ id), outbox := o }
  | fire (token : Token) : AckMoves s (.fire token) [] { s with fired := token :: s.fired }
  | discard (quiet : s.quiet = true) :
      AckMoves s .discard [.stop] { s with outbox := { s.outbox with stopped := true } }

/-! The moments of receives. -/

/-- What receives change: the queue, the rounds and the receives themselves. -/
theorem apart_receiving (s : State ε) (queue : List Delivery) (round : Option Nat)
    (receives : List (Nat × Receive ε)) (rounds : List Round) (arrived : List Parcel)
    (fetches : List FetchAttempt) :
    Apart s { s with
      queue := queue
      round := round
      receives := receives
      rounds := rounds
      arrived := arrived
      fetches := fetches } :=
  ⟨rfl, rfl, rfl, rfl, rfl, rfl, rfl, rfl, rfl, rfl, .inl rfl⟩

theorem apart_setReceive (s : State ε) (id : Nat) (phase : ReceivePhase ε) :
    Apart s (s.setReceive id phase) :=
  apart_receiving s ..

theorem apart_proceed (s : State ε) (round id : Nat) (sequel : Sequel ε) :
    Apart s ((s.signal round).proceed id sequel) := by
  unfold State.proceed
  split
  · exact apart_receiving s ..
  · exact apart_receiving s ..

theorem apart_look (s : State ε) (id : Nat) (c : Receive ε) : Apart s (s.look id c) := by
  unfold State.look
  split
  · exact apart_setReceive s id _
  · exact ⟨rfl, rfl, rfl, rfl, rfl, rfl, rfl, rfl, rfl, rfl, .inr ⟨_, _, rfl⟩⟩
  · exact apart_setReceive s id _
  · split
    · exact apart_setReceive s id _
    · exact apart_receiving s ..

theorem apart_moveReceive {id : Nat} {c : Receive ε} (moved : s.moveReceive id c = some t) :
    Apart s t := by
  unfold State.moveReceive at moved
  split at moved
  · exact Option.some.inj moved ▸ apart_look s id c
  · split at moved
    · exact Option.some.inj moved ▸ apart_setReceive s id _
    · contradiction
  · exact Option.some.inj moved ▸ apart_receiving s ..
  · contradiction
  · exact Option.some.inj moved ▸ apart_receiving s ..
  · exact Option.some.inj moved ▸ apart_receiving s ..
  · exact Option.some.inj moved ▸ apart_receiving s ..
  · exact Option.some.inj moved ▸ apart_receiving s ..
  · exact Option.some.inj moved ▸ apart_proceed s ..
  · contradiction
  · contradiction

theorem apart_moveFetch {id : Nat} {inner : Retry.Event (List Parcel) (Trouble ε)}
    (moved : s.moveFetch id inner = some t) : Apart s t := by
  simp only [State.moveFetch, Option.bind_eq_bind, Option.bind_eq_some_iff] at moved
  obtain ⟨c, _, moved⟩ := moved
  split at moved
  · obtain ⟨after, _, result⟩ := Option.bind_eq_some_iff.mp moved
    split at result
    · exact Option.some.inj result ▸ apart_setReceive s id _
    · exact Option.some.inj result ▸ apart_setReceive s id _
    · exact Option.some.inj result ▸ apart_setReceive s id _
    · exact Option.some.inj result ▸ apart_receiving s ..
    · exact Option.some.inj result ▸ apart_setReceive s id _
  · contradiction

theorem apart_leave {id : Nat} {c : Receive ε} (moved : s.leave id c = some t) : Apart s t := by
  unfold State.leave at moved
  dsimp only at moved
  split at moved
  · exact Option.some.inj moved ▸ apart_receiving s ..
  · exact Option.some.inj moved ▸ apart_receiving s ..
  · exact Option.some.inj moved ▸ apart_receiving s ..
  · contradiction

theorem apart_of_receives (own : e.receives = true) (moved : s.step e = some t) : Apart s t := by
  cases e with
  | receive id token =>
    simp only [State.step] at moved
    split at moved
    · contradiction
    · exact Option.some.inj moved ▸ apart_receiving s ..
  | receiveStep id =>
    obtain ⟨c, _, moved⟩ := Option.bind_eq_some_iff.mp moved
    exact apart_moveReceive moved
  | receiveCancel id =>
    obtain ⟨c, _, moved⟩ := Option.bind_eq_some_iff.mp moved
    split at moved
    · split at moved
      · exact Option.some.inj moved ▸ apart_setReceive s id _
      · contradiction
    · contradiction
  | receiveLeave id =>
    obtain ⟨c, _, moved⟩ := Option.bind_eq_some_iff.mp moved
    exact apart_leave moved
  | receiveClear id =>
    obtain ⟨c, _, moved⟩ := Option.bind_eq_some_iff.mp moved
    obtain ⟨_, _, rfl⟩ := Option.map_eq_some_iff.mp moved
    exact apart_receiving s ..
  | fetched id r jitter =>
    obtain ⟨c, _, moved⟩ := Option.bind_eq_some_iff.mp moved
    exact apart_moveFetch moved
  | fetchBroke id => exact apart_moveFetch moved
  | fetchResumed id => exact apart_moveFetch moved
  | fetchCut id =>
    obtain ⟨c, _, moved⟩ := Option.bind_eq_some_iff.mp moved
    split at moved
    · exact apart_moveFetch moved
    · contradiction
  | _ => cases own

/-! The moments of acknowledgements. -/

theorem moves_of_acknowledge {serial : Nat} {elapsed : Duration} {returns : Bool}
    (moved : s.acknowledge serial elapsed returns = some t) :
    ∃ os, AckMoves s (.ack serial elapsed returns) os t := by
  simp only [State.acknowledge, Option.bind_eq_bind, Option.bind_eq_some_iff] at moved
  obtain ⟨h, found, moved⟩ := moved
  obtain ⟨hs, hp, ⟨action, acked⟩⟩ := h
  cases acked with
  | true =>
    cases Option.some.inj moved
    exact ⟨_, .again found (.inl rfl)⟩
  | false =>
    cases action with
    | none =>
      cases Option.some.inj moved
      exact ⟨_, .again found (.inr rfl)⟩
    | some a =>
      cases a with
      | replace =>
        cases returns with
        | true =>
          cases Option.some.inj moved
          exact ⟨_, .replace found rfl⟩
        | false =>
          cases Option.some.inj moved
          exact ⟨_, .replace found rfl⟩
      | send ackId =>
        have passed : ((s.mark serial ⟨none, true⟩).record elapsed).passOn (.submit ackId) = some t :=
          moved
        obtain ⟨o, stepped, rfl⟩ := Option.map_eq_some_iff.mp passed
        exact ⟨_, .submit found rfl stepped⟩
      | nothing =>
        cases Option.some.inj moved
        exact ⟨_, .skip found rfl⟩

/-- The handler task takes a batch or passes it on, and nothing ends. -/
theorem moves_of_passOn {inner : Outbox.Event AckId ε} {o : Outbox.State AckId ε}
    {more : List (Batcher.Event AckId ε)} (passed : e.outer? = some inner)
    (stepped : s.outbox.step inner = some o) (moved : Outbox.Moves s.outbox inner more o)
    (endless : Outbox.endingsIn more = []) (going : s.ending? e = none) :
    AckMoves s e [inner] { s with outbox := o } := by
  have outer : AckMoves s e [inner]
      { s with fault := s.fault.or ((s.ending? e).bind failure?), outbox := o } :=
    .outer passed stepped moved (by rw [endless, going]; rfl)
  rw [going, Option.bind_none, Option.or_none] at outer
  exact outer

theorem recordFailure_eq (s : State ε) (how : Option (Ending ε)) :
    s.recordFailure how = { s with fault := s.fault.or (how.bind failure?) } := by
  unfold State.recordFailure
  split
  · cases fault : s.fault <;> simp [failure?]
  · rename_i other
    have sound : how.bind failure? = none := by
      rw [Option.bind_eq_none_iff]
      intro ending same
      cases ending with
      | panicked => rfl
      | returned result =>
        cases result with
        | ok u => rfl
        | error f => exact absurd same (other f)
    rw [sound, Option.or_none]

theorem moves_of_moveAcks {inner : Outbox.Event AckId ε} {moment : Retry.Event Unit (Trouble ε)}
    (passed : e.outer? = some inner) (moved : s.moveAcks inner moment = some t)
    (same : Outbox.Moment s.outbox inner moment)
    (step : ∀ o, s.outbox.step inner = some o → s.outbox.advance moment = some o)
    (ending : s.ending? e = s.outbox.settles? moment) : ∃ os, AckMoves s e os t := by
  obtain ⟨u, went, rfl⟩ := Option.map_eq_some_iff.mp moved
  obtain ⟨o, stepped, rfl⟩ := Option.map_eq_some_iff.mp went
  obtain ⟨more, moves, ends⟩ := Outbox.moves_of_advance same (step o stepped)
  rw [← ending] at ends ⊢
  rw [recordFailure_eq]
  exact ⟨_, .outer passed stepped moves ends⟩

theorem moves_of_cut (moved : s.moveAcks .cut .cut = some t) : ∃ os, AckMoves s .ackCut os t := by
  obtain ⟨u, went, _⟩ := Option.map_eq_some_iff.mp moved
  obtain ⟨o, stepped, _⟩ := Option.map_eq_some_iff.mp went
  simp only [Outbox.State.step] at stepped
  split at stepped
  · rename_i stopped
    refine moves_of_moveAcks rfl moved (.cut stopped) (fun o again => ?_) rfl
    simpa only [Outbox.State.step, stopped, if_true] using again
  · contradiction

theorem moves_of_moveShutdown {id : Nat} {c : Closing.Call ε} (found : s.shutdown? id = some c)
    (moved : s.moveShutdown id c = some t) : ∃ os, AckMoves s (.shutdownStep id) os t := by
  unfold State.moveShutdown at moved
  dsimp only at moved
  split at moved
  · rename_i begun
    obtain ⟨⟨o, phase⟩, advanced, rfl⟩ := Option.map_eq_some_iff.mp moved
    obtain ⟨os, moves⟩ := Closing.moves_of_advance advanced
    exact ⟨os, .close found (.inl rfl) moves (fun _ => rfl) fun other => absurd begun other⟩
  · rename_i other
    obtain ⟨⟨o, phase⟩, advanced, rfl⟩ := Option.map_eq_some_iff.mp moved
    obtain ⟨os, moves⟩ := Closing.moves_of_advance advanced
    exact ⟨os, .close found (.inl rfl) moves (fun begun => absurd begun other) fun _ => rfl⟩

theorem ackMoves_of_step (moved : s.step e = some t) : ∃ os, AckMoves s e os t := by
  cases e with
  | ack serial elapsed returns => exact moves_of_acknowledge moved
  | ackLook =>
    simp only [State.step, State.passOn] at moved
    obtain ⟨o, stepped, rfl⟩ := Option.map_eq_some_iff.mp moved
    obtain ⟨b, looked, rfl⟩ := Option.map_eq_some_iff.mp stepped
    exact ⟨_, moves_of_passOn rfl stepped (.look looked) rfl rfl⟩
  | ackCall =>
    simp only [State.step, State.passOn] at moved
    obtain ⟨o, stepped, rfl⟩ := Option.map_eq_some_iff.mp moved
    obtain ⟨r, ready, rfl⟩ := Option.map_eq_some_iff.mp stepped
    exact ⟨_, moves_of_passOn rfl stepped (.call ready) rfl rfl⟩
  | ackReturned r jitter => exact moves_of_moveAcks rfl moved (.returned r jitter) (fun _ h => h) rfl
  | ackBroke => exact moves_of_moveAcks rfl moved .brokeOff (fun _ h => h) rfl
  | ackResumed => exact moves_of_moveAcks rfl moved .resumed (fun _ h => h) rfl
  | ackCut => exact moves_of_cut moved
  | shutdown id token =>
    simp only [State.step] at moved
    split at moved
    · contradiction
    · rename_i fresh
      cases Option.some.inj moved
      exact ⟨_, .enter id token (by simpa using fresh)⟩
  | shutdownStep id =>
    obtain ⟨c, found, moved⟩ := Option.bind_eq_some_iff.mp moved
    exact moves_of_moveShutdown found moved
  | shutdownCancel id =>
    simp only [State.step, Option.bind_eq_bind, Option.bind_eq_some_iff] at moved
    obtain ⟨c, found, ⟨o, phase⟩, canceled, result⟩ := moved
    obtain ⟨os, moves⟩ := Closing.moves_of_cancel canceled
    cases Option.some.inj result
    have past := Closing.begun_of_cancel canceled
    exact ⟨os, .close found (.inr ⟨rfl, past⟩) moves (fun begun => absurd begun past) fun _ => rfl⟩
  | shutdownLeave id =>
    simp only [State.step, State.passOn] at moved
    obtain ⟨o, stepped, rfl⟩ := Option.map_eq_some_iff.mp moved
    exact ⟨_, .forget stepped⟩
  | fire token =>
    cases Option.some.inj moved
    exact ⟨_, .fire token⟩
  | discard =>
    simp only [State.step] at moved
    split at moved
    · rename_i quiet
      cases Option.some.inj moved
      exact ⟨_, .discard quiet⟩
    · contradiction
  | _ => exact ⟨_, .apart rfl (apart_of_receives rfl moved)⟩

/-! What the outbox sees of a run. -/

variable {os : List (Outbox.Event AckId ε)}

theorem outbox_of_moves (moved : AckMoves s e os t) :
    run Outbox.State.step s.outbox os = some t.outbox := by
  cases moved with
  | apart _ same => exact congrArg some same.outbox.symm
  | submit _ _ moved => simp [run, moved]
  | outer _ stepped => simp [run, stepped]
  | close _ _ moved => exact Closing.run_of_moves moved
  | forget moved => simp [run, moved]
  | _ => rfl

theorem replies_of_moves (moved : AckMoves s e os t) :
    os.filterMap Outbox.Event.reply? = e.reply?.toList := by
  cases moved with
  | apart own => cases e <;> first | rfl | cases own
  | outer passed => cases e <;> cases passed <;> rfl
  | close _ own moved =>
    have none_there : os.filterMap Outbox.Event.reply? = [] := by
      cases moved <;> simp [Outbox.Event.reply?]
    rw [none_there]
    rcases own with rfl | ⟨rfl, _⟩ <;> rfl
  | _ => rfl

inductive Reached (provider : Provider ε) (replaced : Bool) (options : SubscriptionOptions) :
    List (Event ε) → List (Outbox.Event AckId ε) → List (Batcher.Event AckId ε) → State ε → Prop
  | start : Reached provider replaced options [] [] [] (.new provider replaced options)
  | next {es : List (Event ε)} {os more : List (Outbox.Event AckId ε)}
      {bs inner : List (Batcher.Event AckId ε)} {s t : State ε} {e : Event ε}
      (before : Reached provider replaced options es os bs s) (moved : AckMoves s e more t)
      (outbox : Outbox.Reached options.ackBatching provider options.retry (os ++ more) (bs ++ inner)
        t.outbox) :
      Reached provider replaced options (es ++ [e]) (os ++ more) (bs ++ inner) t

variable {provider : Provider ε} {replaced : Bool} {options : SubscriptionOptions}
  {es : List (Event ε)} {bs : List (Batcher.Event AckId ε)}

theorem Reached.outbox (reached : Reached provider replaced options es os bs s) :
    Outbox.Reached options.ackBatching provider options.retry os bs s.outbox := by
  cases reached with
  | start => exact .start
  | next _ _ outbox => exact outbox

/-- A step of the subscription as steps of its outbox and of the batcher in there. -/
theorem outbox_of_reached (reached : Outbox.Reached options.ackBatching provider options.retry os bs
    s.outbox) {more : List (Outbox.Event AckId ε)} (moved : AckMoves s e more t) :
    ∃ inner, Outbox.Reached options.ackBatching provider options.retry (os ++ more) (bs ++ inner)
      t.outbox ∧ Outbox.endingsIn inner = (s.ending? e).toList := by
  have aside : (∀ o ∈ more, o.reply? = none ∧ o ≠ .cut) → s.ending? e = none →
      ∃ inner, Outbox.Reached options.ackBatching provider options.retry (os ++ more) (bs ++ inner)
        t.outbox ∧ Outbox.endingsIn inner = (s.ending? e).toList := by
    intro quiet going
    obtain ⟨inner, outbox, endless⟩ := reached.run (outbox_of_moves moved)
    exact ⟨inner, outbox, by rw [endless quiet, going]; rfl⟩
  cases moved with
  | apart own => exact aside (by simp) (by cases e <;> first | rfl | cases own)
  | outer _ _ moved ends => exact ⟨_, reached.next moved, ends⟩
  | close _ own moved =>
    refine aside ?_ (by rcases own with rfl | ⟨rfl, _⟩ <;> rfl)
    cases moved <;> simp [Outbox.Event.reply?]
  | _ => exact aside (by simp [Outbox.Event.reply?]) rfl

/-- How the batches of acknowledgements have ended, in order. -/
def endings (provider : Provider ε) (replaced : Bool) (options : SubscriptionOptions)
    (es : List (Event ε)) : List (Ending ε) :=
  (trace State.step (.new provider replaced options) es).filterMap fun x => x.1.ending? x.2

theorem reached_of_run (reached : run State.step (.new provider replaced options) es = some s) :
    ∃ os bs, Reached provider replaced options es os bs s ∧
      Outbox.endingsIn bs = endings provider replaced options es := by
  refine run_invariant (P := fun es s => ∃ os bs, Reached provider replaced options es os bs s ∧
    Outbox.endingsIn bs = endings provider replaced options es) ⟨[], [], .start, rfl⟩ ?_ reached
  rintro es s e t ran ⟨os, bs, before, ended⟩ moved
  obtain ⟨more, moves⟩ := ackMoves_of_step moved
  obtain ⟨inner, outbox, now⟩ := outbox_of_reached before.outbox moves
  refine ⟨_, _, .next before moves outbox, ?_⟩
  rw [Outbox.endingsIn_append, now, ended, endings, endings, trace_snoc ran moved, filterMap_concat]

/-- What the calls that carry acknowledgements came to, in order. -/
def replies (es : List (Event ε)) : List (Outbox.Reply ε) := es.filterMap Event.reply?

theorem replies_eq (reached : Reached provider replaced options es os bs s) :
    Outbox.replies os = replies es := by
  induction reached with
  | start => rfl
  | @next es os more _ _ _ _ e _ moved _ ih =>
    rw [Outbox.replies, List.filterMap_append, replies_of_moves moved, replies, filterMap_concat,
      ← replies, ← ih, Outbox.replies]

end Courier.Subscription
