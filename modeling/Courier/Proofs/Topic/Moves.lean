import Courier.Proofs.Closing
import Courier.Proofs.Outbox.Replies
import Courier.Topic

/-! Everything that one event can do to a topic, one case for each way in which the event can go.
Beside the event stands what it makes the outbox do. -/

namespace Courier.Topic

variable {ε : Type}

def Event.reply? : Event ε → Option (Outbox.Reply ε)
  | .returned r _ => some (.returned r)
  | .brokeOff => some .brokeOff
  | _ => none

/-- The events that concern the outbox alone. -/
def Event.outer? : Event ε → Option (Outbox.Event Message ε)
  | .look => some .look
  | .call => some .call
  | .returned r jitter => some (.returned r jitter)
  | .brokeOff => some .brokeOff
  | .resumed => some .resumed
  | .cut => some .cut
  | _ => none

/-- How a send goes on by itself. -/
inductive Turn (s : State ε) (c : Send ε) : SendPhase ε → Prop
  | halt (begun : c.phase = .begun) (fired : fires s.fired c.token = true) :
      Turn s c (.turnedAway .canceled)
  | allow (begun : c.phase = .begun) (unfired : fires s.fired c.token = false) : Turn s c .allowed
  | refuse {f : Fault ε} (allowed : c.phase = .allowed) (fault : s.fault = some f) :
      Turn s c (.turnedAway f)
  | reject {f : Fault ε} (allowed : c.phase = .allowed) (sound : s.fault = none)
      (flaw : c.message.metadata.flaw? = some f) : Turn s c (.turnedAway f)
  | accept (allowed : c.phase = .allowed) (sound : s.fault = none)
      (legal : (c.message.metadata.flaw? : Option (Fault ε)) = none) : Turn s c .admitted
  | hear {k : Nat} {o : Outcome ε} (waits : c.phase = .waiting k) (answer : s.answer? k = some o) :
      Turn s c (State.afterAnswer k o)
  | judge {k : Nat} {f : Fault ε} (judges : c.phase = .judging k f) :
      Turn s c (.told k (.error (if s.outbox.batcher.shut then s.fault.getD f else f)))
  | drop (live : State.Send.live c = true) (other : ∀ k, c.phase ≠ .waiting k) :
      Turn s c (.dropped c.phase.ticket?)

inductive Moves (s : State ε) : Event ε → List (Outbox.Event Message ε) → State ε → Prop
  | arrive (id : Nat) (token : Option Token) (message : Message) (fresh : s.send? id = none) :
      Moves s (.send id token message) []
        { s with sends := s.sends ++ [(id, ⟨token, message, .begun⟩)] }
  | turn {e : Event ε} {id : Nat} {c : Send ε} {phase : SendPhase ε} (found : s.send? id = some c)
      (own : e = .sendStep id ∨ e = .sendLeave id) (turn : Turn s c phase) :
      Moves s e [] (s.setSend id phase)
  | submit {id : Nat} {c : Send ε} {o : Outbox.State Message ε} (found : s.send? id = some c)
      (admitted : c.phase = .admitted) (moved : s.outbox.step (.submit c.message) = some o) :
      Moves s (.sendStep id) [.submit c.message]
        ({ s with outbox := o }.setSend id (.waiting s.outbox.batcher.nextTicket))
  | cancel {id k : Nat} {c : Send ε} {o : Outbox.State Message ε} (found : s.send? id = some c)
      (waits : c.phase = .waiting k) (fired : fires s.fired c.token = true)
      (moved : s.outbox.step (.leave k) = some o) :
      Moves s (.sendCancel id) [.leave k]
        ({ s with outbox := o }.setSend id (.told k (.error .canceled)))
  | abandon {id k : Nat} {c : Send ε} {o : Outbox.State Message ε} (found : s.send? id = some c)
      (waits : c.phase = .waiting k) (moved : s.outbox.step (.leave k) = some o) :
      Moves s (.sendLeave id) [.leave k] ({ s with outbox := o }.setSend id (.dropped (some k)))
  | enter (id : Nat) (token : Option Token) (fresh : s.shutdown? id = none) :
      Moves s (.shutdown id token) []
        { s with shutdowns := s.shutdowns ++ [(id, ⟨token, .begun⟩)] }
  | close {e : Event ε} {id : Nat} {c : Closing.Call ε} {os : List (Outbox.Event Message ε)}
      {o : Outbox.State Message ε} {phase : Closing.Phase ε} {fault : Option (Fault ε)}
      (found : s.shutdown? id = some c)
      (own : e = .shutdownStep id ∨ (e = .shutdownCancel id ∧ c.phase ≠ .begun))
      (moved : Closing.Moves s.outbox s.fired id c os o phase)
      (begins : c.phase = .begun → fault = some closedFault)
      (keeps : c.phase ≠ .begun → fault = s.fault) :
      Moves s e os ({ s with fault := fault, outbox := o }.setShutdown id phase)
  | forget {id : Nat} {o : Outbox.State Message ε} (moved : s.outbox.step (.drain id .leave) = some o) :
      Moves s (.shutdownLeave id) [.drain id .leave]
        { s with shutdowns := s.shutdowns.filter (·.1 ≠ id), outbox := o }
  | fire (token : Token) : Moves s (.fire token) [] { s with fired := token :: s.fired }
  | discard (quiet : s.quiet = true) :
      Moves s .discard [.stop] { s with outbox := { s.outbox with stopped := true } }
  | outer {e : Event ε} {inner : Outbox.Event Message ε} {o : Outbox.State Message ε}
      (passed : e.outer? = some inner) (moved : s.outbox.step inner = some o) :
      Moves s e [inner] { s with outbox := o }

variable {s t : State ε} {id : Nat}

theorem moves_of_moveSend {c : Send ε} (found : s.send? id = some c)
    (moved : s.moveSend id c = some t) : ∃ os, Moves s (.sendStep id) os t := by
  have turned : ∀ phase, Turn s c phase → s.setSend id phase = t →
      ∃ os, Moves s (.sendStep id) os t := by
    rintro phase turn rfl
    exact ⟨_, .turn found (.inl rfl) turn⟩
  unfold State.moveSend at moved
  split at moved
  · rename_i begun
    cases fired : fires s.fired c.token with
    | true => exact turned _ (.halt begun fired) (by simpa [fired] using moved)
    | false => exact turned _ (.allow begun fired) (by simpa [fired] using moved)
  · rename_i allowed
    split at moved
    · rename_i f fault
      exact turned _ (.refuse allowed fault) (Option.some.inj moved)
    · rename_i f sound flaw
      exact turned _ (.reject allowed sound flaw) (Option.some.inj moved)
    · rename_i sound legal
      exact turned _ (.accept allowed sound legal) (Option.some.inj moved)
  · rename_i admitted
    obtain ⟨u, passed, rfl⟩ := Option.map_eq_some_iff.mp moved
    obtain ⟨o, stepped, rfl⟩ := Option.map_eq_some_iff.mp passed
    exact ⟨_, .submit found admitted stepped⟩
  · rename_i k waits
    obtain ⟨o, answer, rfl⟩ := Option.map_eq_some_iff.mp moved
    exact turned _ (.hear waits answer) rfl
  · rename_i k f judges
    exact turned _ (.judge judges) (Option.some.inj moved)
  · contradiction

theorem moves_of_sendLeave (moved : s.step (.sendLeave id) = some t) :
    ∃ os, Moves s (.sendLeave id) os t := by
  simp only [State.step, Option.bind_eq_bind, Option.bind_eq_some_iff] at moved
  obtain ⟨c, found, moved⟩ := moved
  split at moved
  · rename_i k waits
    obtain ⟨o, stepped, rfl⟩ := Option.map_eq_some_iff.mp moved
    rw [waits]
    exact ⟨_, .abandon found waits stepped⟩
  · rename_i other
    split at moved
    · rename_i live
      cases Option.some.inj moved
      exact ⟨_, .turn found (.inr rfl) (.drop live other)⟩
    · contradiction

theorem moves_of_moveShutdown {c : Closing.Call ε} (found : s.shutdown? id = some c)
    (moved : s.moveShutdown id c = some t) : ∃ os, Moves s (.shutdownStep id) os t := by
  unfold State.moveShutdown at moved
  dsimp only at moved
  split at moved
  · rename_i begun
    obtain ⟨⟨o, phase⟩, advanced, rfl⟩ := Option.map_eq_some_iff.mp moved
    obtain ⟨os, moves⟩ := Closing.moves_of_advance advanced
    exact ⟨os, .close found (.inl rfl) moves (fun _ => rfl) fun other => absurd begun other⟩
  · rename_i other
    obtain ⟨⟨o, phase⟩, advanced, rfl⟩ := Option.map_eq_some_iff.mp moved
    obtain ⟨os, moves⟩ := Closing.moves_of_advance advanced
    exact ⟨os, .close found (.inl rfl) moves (fun begun => absurd begun other) fun _ => rfl⟩

theorem moves_of_passOn {e : Event ε} {inner : Outbox.Event Message ε} (passed : e.outer? = some inner)
    (moved : s.passOn inner = some t) : ∃ os, Moves s e os t := by
  obtain ⟨o, stepped, rfl⟩ := Option.map_eq_some_iff.mp moved
  exact ⟨_, .outer passed stepped⟩

theorem moves_of_step {e : Event ε} (moved : s.step e = some t) : ∃ os, Moves s e os t := by
  cases e with
  | send id token message =>
    simp only [State.step] at moved
    split at moved
    · contradiction
    · rename_i fresh
      cases Option.some.inj moved
      exact ⟨_, .arrive id token message (by simpa using fresh)⟩
  | sendStep id =>
    obtain ⟨c, found, moved⟩ := Option.bind_eq_some_iff.mp moved
    exact moves_of_moveSend found moved
  | sendCancel id =>
    obtain ⟨c, found, moved⟩ := Option.bind_eq_some_iff.mp moved
    split at moved
    · rename_i k waits
      split at moved
      · rename_i fired
        obtain ⟨u, passed, rfl⟩ := Option.map_eq_some_iff.mp moved
        obtain ⟨o, stepped, rfl⟩ := Option.map_eq_some_iff.mp passed
        exact ⟨_, .cancel found waits fired stepped⟩
      · contradiction
    · contradiction
  | sendLeave id => exact moves_of_sendLeave moved
  | shutdown id token =>
    simp only [State.step] at moved
    split at moved
    · contradiction
    · rename_i fresh
      cases Option.some.inj moved
      exact ⟨_, .enter id token (by simpa using fresh)⟩
  | shutdownStep id =>
    obtain ⟨c, found, moved⟩ := Option.bind_eq_some_iff.mp moved
    exact moves_of_moveShutdown found moved
  | shutdownCancel id =>
    simp only [State.step, Option.bind_eq_bind, Option.bind_eq_some_iff] at moved
    obtain ⟨c, found, ⟨o, phase⟩, canceled, result⟩ := moved
    obtain ⟨os, moves⟩ := Closing.moves_of_cancel canceled
    cases Option.some.inj result
    have past := Closing.begun_of_cancel canceled
    exact ⟨os, .close found (.inr ⟨rfl, past⟩) moves (fun begun => absurd begun past) fun _ => rfl⟩
  | shutdownLeave id =>
    simp only [State.step, State.passOn] at moved
    obtain ⟨o, stepped, rfl⟩ := Option.map_eq_some_iff.mp moved
    exact ⟨_, .forget stepped⟩
  | fire token =>
    cases Option.some.inj moved
    exact ⟨_, .fire token⟩
  | discard =>
    simp only [State.step] at moved
    split at moved
    · rename_i quiet
      cases Option.some.inj moved
      exact ⟨_, .discard quiet⟩
    · contradiction
  | look => exact moves_of_passOn rfl moved
  | call => exact moves_of_passOn rfl moved
  | returned r jitter => exact moves_of_passOn rfl moved
  | brokeOff => exact moves_of_passOn rfl moved
  | resumed => exact moves_of_passOn rfl moved
  | cut => exact moves_of_passOn rfl moved

variable {e : Event ε} {os : List (Outbox.Event Message ε)}

theorem outbox_of_moves (moved : Moves s e os t) :
    run Outbox.State.step s.outbox os = some t.outbox := by
  cases moved with
  | submit _ _ moved => simp [run, moved, State.setSend]
  | cancel _ _ _ moved => simp [run, moved, State.setSend]
  | abandon _ _ moved => simp [run, moved, State.setSend]
  | forget moved => simp [run, moved]
  | outer _ moved => simp [run, moved]
  | close _ _ moved => exact Closing.run_of_moves moved
  | _ => rfl

theorem replies_of_moves (moved : Moves s e os t) :
    os.filterMap Outbox.Event.reply? = e.reply?.toList := by
  cases moved with
  | turn _ own => rcases own with rfl | rfl <;> rfl
  | close _ own moved =>
    have none_there : os.filterMap Outbox.Event.reply? = [] := by
      cases moved <;> simp [Outbox.Event.reply?]
    rw [none_there]
    rcases own with rfl | ⟨rfl, _⟩ <;> rfl
  | outer passed => cases e <;> cases passed <;> rfl
  | _ => rfl

/-- The states of a topic, with the events so far and what they made the outbox and its batcher do. -/
inductive Reached (provider : Provider ε) (options : TopicOptions) : List (Event ε) →
    List (Outbox.Event Message ε) → List (Batcher.Event Message ε) → State ε → Prop
  | start : Reached provider options [] [] [] (.new provider options)
  | next {es : List (Event ε)} {os more : List (Outbox.Event Message ε)}
      {bs inner : List (Batcher.Event Message ε)} {s t : State ε} {e : Event ε}
      (before : Reached provider options es os bs s) (moved : Moves s e more t)
      (outbox : Outbox.Reached options.batching provider options.retry (os ++ more) (bs ++ inner)
        t.outbox) :
      Reached provider options (es ++ [e]) (os ++ more) (bs ++ inner) t

variable {provider : Provider ε} {options : TopicOptions} {es : List (Event ε)}
  {bs : List (Batcher.Event Message ε)}

theorem Reached.outbox (reached : Reached provider options es os bs s) :
    Outbox.Reached options.batching provider options.retry os bs s.outbox := by
  cases reached with
  | start => exact .start
  | next _ _ outbox => exact outbox

theorem reached_of_run (reached : run State.step (.new provider options) es = some s) :
    ∃ os bs, Reached provider options es os bs s := by
  refine run_invariant (P := fun es s => ∃ os bs, Reached provider options es os bs s)
    ⟨[], [], .start⟩ ?_ reached
  rintro es s e t _ ⟨os, bs, before⟩ moved
  obtain ⟨more, moves⟩ := moves_of_step moved
  obtain ⟨inner, outbox, _⟩ := before.outbox.run (outbox_of_moves moves)
  exact ⟨_, _, .next before moves outbox⟩

/-- What the calls of a run came to, in order. -/
def replies (es : List (Event ε)) : List (Outbox.Reply ε) := es.filterMap Event.reply?

theorem replies_eq (reached : Reached provider options es os bs s) :
    Outbox.replies os = replies es := by
  induction reached with
  | start => rfl
  | @next es os more _ _ _ _ e _ moved _ ih =>
    rw [Outbox.replies, List.filterMap_append, replies_of_moves moved, replies, filterMap_concat,
      ← replies, ← ih, Outbox.replies]

end Courier.Topic
