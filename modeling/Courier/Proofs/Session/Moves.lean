import Courier.Broker.Session
import Courier.Proofs.Broker
import Courier.Proofs.Queue.Moves
import Courier.Proofs.Subscription.Deliveries

/-! A step of a session, as one of its subscriptions sees it. Its handle makes some moments, and beside
it its queue makes some: what the queue hands out is what the handle's fetch brings, and numbers are
acknowledged only as the handle passes them on. Other handles leave both alone. -/

namespace Courier.Mailbox

/-- What the end of a call for messages hands out. -/
def loansOf : Option Heard → List Loan
  | some (.batch loans) => loans
  | _ => []

theorem queue_of_quit {m n : Mailbox} {heard other : Option Heard}
    (quits : m.quit heard = some (n, other)) : n.queue = m.queue ∧ other = heard := by
  unfold quit at quits
  split at quits
  · cases Option.some.inj quits
    exact ⟨rfl, rfl⟩
  · cases Option.some.inj quits
    exact ⟨rfl, rfl⟩
  · contradiction

/-- A moment of a call takes from the queue once, or leaves it alone. -/
theorem queue_of_step {m n : Mailbox} {now : Nat} {move : Move} {heard : Option Heard}
    (stepped : m.step now move = some (n, heard)) : ∃ qs, run Queue.step m.queue qs = some n.queue ∧
      (Queue.takes m.queue qs).flatten = loansOf heard ∧
        (qs = [] ∨ ∃ max, qs = [.take max now]) := by
  have aside : n.queue = m.queue → loansOf heard = [] → ∃ qs,
      run Queue.step m.queue qs = some n.queue ∧ (Queue.takes m.queue qs).flatten = loansOf heard ∧
        (qs = [] ∨ ∃ max, qs = [.take max now]) := by
    intro same nothing
    exact ⟨[], congrArg some same.symm, nothing.symm, .inl rfl⟩
  cases move with
  | look =>
    simp only [step] at stepped
    split at stepped
    · rename_i max _
      refine ⟨[.take max now], ?_, ?_, .inr ⟨max, rfl⟩⟩
      · simp only [run, Queue.step, Option.bind_some, Option.some.injEq]
        unfold look at stepped
        split at stepped <;> (rename_i took; cases Option.some.inj stepped; rw [took])
      · simp only [Queue.takes, trace, Queue.step, List.filterMap_cons, Queue.taken?,
          List.filterMap_nil, List.flatten_cons, List.flatten_nil, List.append_nil]
        unfold look at stepped
        split at stepped <;> (rename_i took; cases Option.some.inj stepped; rw [took]; rfl)
    · contradiction
  | start max =>
    simp only [step] at stepped
    split at stepped
    · cases Option.some.inj stepped
      exact aside rfl rfl
    · contradiction
  | turn =>
    simp only [step] at stepped
    split at stepped
    · cases Option.some.inj stepped
      refine aside ?_ rfl
      unfold turn
      split <;> rfl
    · contradiction
  | wake =>
    simp only [step] at stepped
    split at stepped
    · cases Option.some.inj stepped
      exact aside rfl rfl
    · contradiction
  | giveUp =>
    obtain ⟨same, rfl⟩ := queue_of_quit stepped
    exact aside same rfl
  | cancel =>
    obtain ⟨same, rfl⟩ := queue_of_quit stepped
    exact aside same rfl
  | leave =>
    simp only [step] at stepped
    split at stepped
    · obtain ⟨same, rfl⟩ := queue_of_quit stepped
      exact aside same rfl
    · contradiction

theorem queue_of_acks (m : Mailbox) (numbers : List Nat) :
    run Queue.step m.queue (numbers.map .ack) = some (numbers.foldl ack m).queue := by
  induction numbers generalizing m with
  | nil => rfl
  | cons n numbers ih => exact ih (m.ack n)

theorem takes_acks (q : Queue) (numbers : List Nat) : Queue.takes q (numbers.map .ack) = [] := by
  induction numbers generalizing q with
  | nil => rfl
  | cons n numbers ih => exact ih (q.ack n)

end Courier.Mailbox

namespace Courier.Session

variable {s t : Session} {e : Event} {h g : Nat} {c d : Consumer} {m n : Mailbox}

/-- What an event publishes, and to which topic, if the broker takes it. -/
def posted (s : Session) : Event → Option (String × List Message)
  | .publish handle => do
    let p ← s.publishers[handle]?
    let batch ← p.state.outbox.calling?
    if p.state.outbox.stopped then none
    else match s.broker.publish p.topic batch with
      | .ok _ => some (p.topic, batch)
      | .error _ => none
  | _ => none

/-- What an event puts into a mailbox. -/
def delivered (s : Session) (e : Event) (h : Nat) : List Message :=
  match s.posted e with
  | some (name, batch) => if s.broker.reaches name h then batch else []
  | none => []

/-- The subscription handle an event is about. -/
def Event.about? : Event → Option Nat
  | .consumer handle _ => some handle
  | .listen handle _ => some handle
  | .acknowledge handle => some handle
  | _ => none

/-- Handles and mailboxes are numbered alike. -/
structure Aligned (s : Session) : Prop where
  lengths : s.broker.mailboxes.length = s.consumers.length
  numbered : ∀ (h : Nat) (c : Consumer), s.consumers[h]? = some c → c.mailbox = h

/-- What a step means to the handle and the mailbox of one subscription. -/
structure Turn (s : Session) (e : Event) (h : Nat) (c : Consumer) (m : Mailbox)
    (es : List (Subscription.Event MissingTopic)) (qs : List Queue.Event) (d : Consumer)
    (n : Mailbox) : Prop where
  same : d.mailbox = c.mailbox
  ran : run Subscription.State.step c.state es = some d.state
  moved : run Queue.step m.queue qs = some n.queue
  handed : Subscription.brought es = (Queue.takes m.queue qs).flatten.map Loan.parcel
  acked : ∀ k, .ack k ∈ qs → ∃ ids, c.state.outbox.calling? = some ids ∧ .number k ∈ ids
  timed : ∀ x ∈ qs, ∀ now, x.time? = some now → now = s.now ∧ qs = [x]
  came : qs.flatMap Queue.Event.messages = s.delivered e h
  own : ∀ moment ∈ es, subscriptionOwn moment = true → e = .consumer h moment

/-- The session with another state of one subscription. -/
def withSubscription (s : Session) (h : Nat) (d : Consumer) (n : Mailbox) : Session :=
  (s.setMailbox h n).setConsumer h d

/-- Nothing but the handle and its mailbox is concerned. -/
def TurnsTo (s : Session) (e : Event) (h : Nat) (t : Session) : Prop :=
  ∃ c m es qs d n, s.consumers[h]? = some c ∧ s.broker.mailbox? h = some m ∧
    t = s.withSubscription h d n ∧ Turn s e h c m es qs d n

theorem setMailbox_self (mail : s.broker.mailbox? h = some m) : s.setMailbox h m = s := by
  have same : s.broker.mailboxes.set h m = s.broker.mailboxes := by
    obtain ⟨bound, rfl⟩ := List.getElem?_eq_some_iff.mp mail
    exact List.set_getElem_self bound
  rw [setMailbox, setBroker, Broker.setMailbox, same]

theorem setConsumer_self (found : s.consumers[h]? = some c) : s.setConsumer h c = s := by
  have same : s.consumers.set h c = s.consumers := by
    obtain ⟨bound, rfl⟩ := List.getElem?_eq_some_iff.mp found
    exact List.set_getElem_self bound
  rw [setConsumer, same]

theorem moved_consumer {moment : Subscription.Event MissingTopic}
    (moved : s.moveConsumer h moment = some t) : ∃ c u, s.consumers[h]? = some c ∧
      c.state.step moment = some u ∧ t = s.setConsumer h { c with state := u } := by
  simp only [moveConsumer, Option.bind_eq_bind, Option.bind_eq_some_iff] at moved
  obtain ⟨c, found, u, stepped, result⟩ := moved
  exact ⟨c, u, found, stepped, (Option.some.inj result).symm⟩

theorem mailbox_found (aligned : Aligned s) (found : s.consumers[h]? = some c) :
    ∃ m, s.broker.mailbox? h = some m := by
  have bound := (List.getElem?_eq_some_iff.mp found).1
  rw [← aligned.lengths] at bound
  exact ⟨_, List.getElem?_eq_getElem bound⟩

/-- A moment of the handle that its mailbox has no part in. -/
theorem turn_of_own {moment : Subscription.Event MissingTopic} {u : Subscription.State MissingTopic}
    (stepped : c.state.step moment = some u) (nothing : moment.batch = [])
    (quiet : s.delivered e h = [])
    (own : subscriptionOwn moment = true → e = .consumer h moment) :
    Turn s e h c m [moment] [] { c with state := u } m where
  same := rfl
  ran := run_single stepped
  moved := rfl
  handed := by simp [Subscription.brought, nothing, Queue.takes, trace]
  acked := by simp
  timed := by simp
  came := by simp [quiet]
  own := by
    intro other member
    cases List.mem_singleton.mp member
    exact own

theorem own_batch {moment : Subscription.Event MissingTopic} (own : subscriptionOwn moment = true) :
    moment.batch = [] := by
  cases moment with
  | fetched => cases own
  | _ => rfl

theorem heard_batch (id : Nat) (heard : Heard) :
    (heardEvent id heard).batch = (Mailbox.loansOf (some heard)).map Loan.parcel := by
  cases heard <;> rfl

theorem turn_of_listen {move : Mailbox.Move} (aligned : Aligned s)
    (stepped : s.listen h move = some t) : TurnsTo s (.listen h move) h t := by
  simp only [listen, Option.bind_eq_bind, Option.bind_eq_some_iff] at stepped
  obtain ⟨c, found, ⟨id, size⟩, _, stepped⟩ := stepped
  split at stepped
  · obtain ⟨m, mail, ⟨n, heard⟩, moved, result⟩ := by
      simpa only [Option.bind_eq_some_iff] using stepped
    rw [aligned.numbered h c found] at mail result
    obtain ⟨qs, queue, took, times⟩ := Mailbox.queue_of_step moved
    have timed : ∀ x ∈ qs, ∀ now, x.time? = some now → now = s.now ∧ qs = [x] := by
      rcases times with rfl | ⟨max, rfl⟩
      · simp
      · intro x member now time
        cases List.mem_singleton.mp member
        exact ⟨(Option.some.inj time).symm, rfl⟩
    have came : qs.flatMap Queue.Event.messages = [] := by
      rcases times with rfl | ⟨max, rfl⟩ <;> rfl
    have silent : ∀ k, Queue.Event.ack k ∉ qs := by
      rcases times with rfl | ⟨max, rfl⟩ <;> simp
    cases heard with
    | none =>
      cases Option.some.inj result
      refine ⟨c, m, [], qs, c, n, found, mail, ?_, rfl, rfl, queue, ?_, ?_, timed, came, by simp⟩
      · exact (setConsumer_self (s := s.setMailbox h n) found).symm
      · simp [Subscription.brought, took, Mailbox.loansOf]
      · exact fun k member => absurd member (silent k)
    | some heard =>
      obtain ⟨b, u, same, answered, rfl⟩ := moved_consumer result
      cases Option.some.inj (found.symm.trans same)
      refine ⟨c, m, [heardEvent id heard], qs, _, n, found, mail, rfl, rfl, run_single answered, queue,
        ?_, ?_, timed, came, ?_⟩
      · rw [Subscription.brought, List.flatMap_singleton, heard_batch, took]
      · exact fun k member => absurd member (silent k)
      · intro moment member own
        cases List.mem_singleton.mp member
        cases heard <;> cases own
  · contradiction

theorem turn_of_leave {id : Nat} {moment : Subscription.Event MissingTopic} (aligned : Aligned s)
    (nothing : moment.batch = []) (stepped : s.leaveReceive h id moment = some t) :
    TurnsTo s (.consumer h moment) h t := by
  simp only [leaveReceive, Option.bind_eq_bind, Option.bind_eq_some_iff] at stepped
  obtain ⟨c, found, stepped⟩ := stepped
  split at stepped
  · obtain ⟨m, mail, ⟨n, heard⟩, moved, result⟩ := by
      simpa only [Option.bind_eq_some_iff] using stepped
    rw [aligned.numbered h c found] at mail result
    obtain ⟨b, u, same, left, rfl⟩ := moved_consumer result
    cases Option.some.inj (found.symm.trans same)
    -- The call for messages that goes with the receive sleeps, so it takes nothing along.
    have quits : n.queue = m.queue := by
      simp only [Mailbox.step] at moved
      split at moved
      · exact (Mailbox.queue_of_quit moved).1
      · contradiction
    have turn : Turn s (.consumer h moment) h c m [moment] [] { c with state := u } m :=
      turn_of_own left nothing rfl fun _ => rfl
    exact ⟨c, m, [moment], [], _, n, found, mail, rfl,
      { turn with moved := congrArg some quits.symm }⟩
  · obtain ⟨b, u, same, left, rfl⟩ := moved_consumer stepped
    cases Option.some.inj (found.symm.trans same)
    obtain ⟨m, mail⟩ := mailbox_found aligned found
    refine ⟨c, m, _, _, _, m, found, mail, ?_, turn_of_own left nothing rfl fun _ => rfl⟩
    rw [withSubscription, setMailbox_self mail]

theorem turn_of_acknowledge (aligned : Aligned s) (stepped : s.acknowledge h = some t) :
    TurnsTo s (.acknowledge h) h t := by
  simp only [acknowledge, Option.bind_eq_bind, Option.bind_eq_some_iff] at stepped
  obtain ⟨c, found, ids, calling, m, mail, result⟩ := stepped
  rw [aligned.numbered h c found] at mail result
  obtain ⟨b, u, same, answered, rfl⟩ := moved_consumer result
  cases Option.some.inj (found.symm.trans same)
  let numbers := ids.filterMap AckId.number?
  have turn : Turn s (.acknowledge h) h c m [.ackReturned (.ok ()) 0] [] { c with state := u } m :=
    turn_of_own answered rfl rfl fun own => by cases own
  refine ⟨c, m, _, numbers.map .ack, _, _, found, mail, rfl, rfl, turn.ran,
    Mailbox.queue_of_acks m numbers, ?_, ?_, ?_, ?_, turn.own⟩
  · rw [turn.handed, Mailbox.takes_acks]
    rfl
  · intro k member
    obtain ⟨j, number, name⟩ := List.mem_map.mp member
    cases name
    obtain ⟨a, inside, known⟩ := List.mem_filterMap.mp number
    refine ⟨ids, calling, ?_⟩
    cases a with
    | number => cases known; exact inside
    | text => cases known
  · intro x member now time
    obtain ⟨k, _, rfl⟩ := List.mem_map.mp member
    cases time
  · simp [List.flatMap_map, Queue.Event.messages, delivered, posted]

/-- The handle that a step is about takes its turn, together with its mailbox. -/
theorem turn_of_about (aligned : Aligned s) (about : e.about? = some h)
    (stepped : s.step e = some t) : TurnsTo s e h t := by
  cases e with
  | listen g move => cases about; exact turn_of_listen aligned stepped
  | acknowledge g => cases about; exact turn_of_acknowledge aligned stepped
  | consumer g moment =>
    cases about
    have moves : subscriptionOwn moment = true → s.moveConsumer h moment = some t →
        TurnsTo s (.consumer h moment) h t := by
      intro own moved
      obtain ⟨c, u, found, changed, rfl⟩ := moved_consumer moved
      obtain ⟨m, mail⟩ := mailbox_found aligned found
      refine ⟨c, m, _, _, _, m, found, mail, ?_, turn_of_own changed (own_batch own) rfl fun _ => rfl⟩
      rw [withSubscription, setMailbox_self mail]
    cases moment with
    | receiveLeave id => exact turn_of_leave aligned rfl stepped
    | receiveClear id => exact turn_of_leave aligned rfl stepped
    | _ =>
      simp only [step] at stepped
      split at stepped
      · rename_i own
        exact moves own stepped
      · contradiction
  | _ => cases about

/-- What all other events do to handles and mailboxes. -/
inductive Elsewhere (s : Session) (e : Event) (t : Session) : Prop
  | aside (consumers : t.consumers = s.consumers)
      (mailboxes : t.broker.mailboxes = s.broker.mailboxes) (nothing : s.posted e = none)
  /-- A batch of some topic handle is published. -/
  | publish {name : String} {batch : List Message} (posted : s.posted e = some (name, batch))
      (consumers : t.consumers = s.consumers)
      (mailboxes : t.broker.mailboxes = s.broker.mailboxes.mapIdx fun i m =>
        if s.broker.reaches name i then m.deliver batch else m)
  | attach {name : String} {deadline : Duration} {options : SubscriptionOptions}
      (opened : e = .openSubscription name deadline options)
      (added : t.consumers = s.consumers ++ [⟨s.broker.mailboxes.length,
        { Subscription.State.new Broker.provider false options with fired := s.fired }⟩])
      (mailboxes : t.broker.mailboxes = s.broker.mailboxes ++ [.new deadline])
  | fire {token : Token} (fires : e = .fire token)
      (consumers : t.consumers = s.consumers.map fun c =>
        { c with state := { c.state with fired := token :: c.state.fired } })
      (mailboxes : t.broker.mailboxes = s.broker.mailboxes)

theorem moved_publisher {moment : Topic.Event MissingTopic}
    (moved : s.movePublisher h moment = some t) :
    t.consumers = s.consumers ∧ t.broker = s.broker ∧ t.fired = s.fired ∧ t.now = s.now := by
  simp only [movePublisher, Option.bind_eq_bind, Option.bind_eq_some_iff] at moved
  obtain ⟨p, _, u, _, result⟩ := moved
  cases Option.some.inj result
  exact ⟨rfl, rfl, rfl, rfl⟩

theorem elsewhere_of_publish (stepped : s.publish h = some t) : Elsewhere s (.publish h) t := by
  simp only [publish, Option.bind_eq_bind, Option.bind_eq_some_iff] at stepped
  obtain ⟨p, found, batch, calling, stepped⟩ := stepped
  split at stepped
  · rename_i stopped
    obtain ⟨consumers, broker, _⟩ := moved_publisher stepped
    exact .aside consumers (congrArg Broker.mailboxes broker) (by simp [posted, found, calling, stopped])
  · rename_i going
    split at stepped
    · rename_i b published
      obtain ⟨consumers, broker, _⟩ := moved_publisher stepped
      have posts : s.posted (.publish h) = some (p.topic, batch) := by
        simp [posted, found, calling, going, published]
      unfold Broker.publish at published
      split at published
      · cases published
      · rename_i numbers attached
        cases published
        refine .publish posts consumers ?_
        rw [broker]
        refine List.ext_getElem? fun i => ?_
        simp [setBroker, Broker.deliver, Broker.setAttached, Broker.reaches, Broker.names, attached,
          List.getElem?_mapIdx]
    · rename_i error missing
      obtain ⟨consumers, broker, _⟩ := moved_publisher stepped
      refine .aside consumers (congrArg Broker.mailboxes broker) ?_
      simp [posted, found, calling, going, missing]

theorem elsewhere_of_step (stepped : s.step e = some t) (about : e.about? = none) :
    Elsewhere s e t := by
  cases e with
  | consumer | listen | acknowledge => cases about
  | publish g => exact elsewhere_of_publish stepped
  | publisher g moment =>
    simp only [step] at stepped
    split at stepped
    · obtain ⟨consumers, broker, _⟩ := moved_publisher stepped
      exact .aside consumers (congrArg Broker.mailboxes broker) rfl
    · contradiction
  | openSubscription name deadline options =>
    simp only [step, openSubscription, Broker.openSubscription] at stepped
    cases attached : s.broker.attached? name with
    | none =>
      simp only [attached, Except.map] at stepped
      cases Option.some.inj stepped
      exact .aside rfl rfl rfl
    | some numbers =>
      simp only [attached, Except.map] at stepped
      cases Option.some.inj stepped
      exact .attach rfl rfl rfl
  | abandon g =>
    simp only [step, Option.bind_eq_bind, Option.bind_eq_some_iff] at stepped
    obtain ⟨c, _, result⟩ := stepped
    cases Option.some.inj result
    exact .aside rfl rfl rfl
  | fire token =>
    cases Option.some.inj stepped
    exact .fire rfl rfl rfl
  | createTopic name =>
    cases Option.some.inj stepped
    exact .aside rfl (s.broker.create_aside name).2 rfl
  | deleteTopic name => cases Option.some.inj stepped; exact .aside rfl rfl rfl
  | openTopic name options =>
    cases Option.some.inj stepped
    exact .aside rfl (s.broker.create_aside name).2 rfl
  | pass nanos => cases Option.some.inj stepped; exact .aside rfl rfl rfl

theorem aligned_next (aligned : Aligned s) (stepped : s.step e = some t) : Aligned t := by
  obtain ⟨lengths, numbered⟩ := aligned
  cases about : e.about? with
  | some g =>
    obtain ⟨c, m, es, qs, d, n, found, _, rfl, turn⟩ := turn_of_about ⟨lengths, numbered⟩ about stepped
    refine ⟨?_, ?_⟩
    · simp [withSubscription, setConsumer, setMailbox, setBroker, Broker.setMailbox, lengths]
    · intro h b there
      rw [withSubscription, setConsumer, List.getElem?_set] at there
      split at there
      · rename_i same
        split at there
        · cases Option.some.inj there
          exact turn.same.trans (same ▸ numbered g c found)
        · contradiction
      · exact numbered h b there
  | none =>
    cases elsewhere_of_step stepped about with
    | aside consumers mailboxes =>
      exact ⟨by rw [consumers, mailboxes, lengths], by rw [consumers]; exact numbered⟩
    | publish _ consumers mailboxes =>
      refine ⟨?_, by rw [consumers]; exact numbered⟩
      rw [consumers, mailboxes, List.length_mapIdx, lengths]
    | attach _ added mailboxes =>
      refine ⟨by rw [added, mailboxes]; simp [lengths], ?_⟩
      intro h b there
      rw [added, List.getElem?_append] at there
      split at there
      · exact numbered h b there
      · rename_i beyond
        have last := List.mem_singleton.mp (List.mem_of_getElem? there)
        have bound := (List.getElem?_eq_some_iff.mp there).1
        rw [List.length_singleton] at bound
        rw [last, lengths]
        dsimp only
        omega
    | fire _ consumers mailboxes =>
      refine ⟨by rw [consumers, mailboxes, List.length_map, lengths], ?_⟩
      intro h b there
      rw [consumers, List.getElem?_map, Option.map_eq_some_iff] at there
      obtain ⟨a, found, rfl⟩ := there
      exact numbered h a found

theorem aligned_of_run {xs : List Event} (aligned : Aligned s) (ran : run step s xs = some t) :
    Aligned t := by
  induction xs generalizing s with
  | nil => exact Option.some.inj ran ▸ aligned
  | cons e xs ih =>
    obtain ⟨u, stepped, rest⟩ := Option.bind_eq_some_iff.mp ran
    exact ih (aligned_next aligned stepped) rest

theorem aligned_empty : Aligned empty := ⟨rfl, by simp [empty]⟩

/-- A step as the subscription with handle `h` sees it, whatever the step is about. -/
theorem turn_of_step (aligned : Aligned s) (found : s.consumers[h]? = some c)
    (mail : s.broker.mailbox? h = some m) (stepped : s.step e = some t) :
    ∃ es qs d n, t.consumers[h]? = some d ∧ t.broker.mailbox? h = some n ∧
      Turn s e h c m es qs d n := by
  have still : t.consumers[h]? = s.consumers[h]? → t.broker.mailboxes[h]? = s.broker.mailboxes[h]? →
      s.delivered e h = [] → ∃ es qs d n, t.consumers[h]? = some d ∧ t.broker.mailbox? h = some n ∧
        Turn s e h c m es qs d n := by
    intro consumer mailbox nothing
    refine ⟨[], [], c, m, consumer.trans found, mailbox.trans mail, rfl, rfl, rfl, rfl, by simp, by simp,
      ?_, by simp⟩
    simp [nothing]
  cases about : e.about? with
  | some g =>
    obtain ⟨b, k, es, qs, d, n, there, mailed, rfl, turn⟩ := turn_of_about aligned about stepped
    by_cases same : g = h
    · cases same
      cases Option.some.inj (there.symm.trans found)
      cases Option.some.inj (mailed.symm.trans mail)
      have bound := (List.getElem?_eq_some_iff.mp found).1
      refine ⟨es, qs, d, n, List.getElem?_set_self bound, ?_, turn⟩
      exact List.getElem?_set_self (aligned.lengths.symm ▸ bound)
    · refine still (List.getElem?_set_ne same) (List.getElem?_set_ne same) ?_
      cases e <;> first | rfl | cases about
  | none =>
    cases elsewhere_of_step stepped about with
    | aside consumers mailboxes nothing =>
      exact still (by rw [consumers]) (by rw [mailboxes]) (by simp [delivered, nothing])
    | @publish name batch posted consumers mailboxes =>
      cases reached : s.broker.reaches name h with
      | false =>
        refine still (by rw [consumers]) ?_ (by simp [delivered, posted, reached])
        rw [mailboxes, List.getElem?_mapIdx, reached]
        simp
      | true =>
        have delivery : t.broker.mailbox? h = some (m.deliver batch) := by
          rw [Broker.mailbox?, mailboxes, List.getElem?_mapIdx, reached]
          simp [show s.broker.mailboxes[h]? = some m from mail]
        refine ⟨[], [.put batch], c, m.deliver batch, consumers ▸ found, delivery, rfl, rfl, rfl, rfl,
          by simp, by simp [Queue.Event.time?], ?_, by simp⟩
        simp [delivered, posted, reached, Queue.Event.messages]
    | attach opened added mailboxes =>
      have bound := (List.getElem?_eq_some_iff.mp found).1
      refine still ?_ ?_ (by subst opened; rfl)
      · rw [added, List.getElem?_append_left bound]
      · rw [mailboxes, List.getElem?_append_left (aligned.lengths.symm ▸ bound)]
    | @fire token fires consumers mailboxes =>
      subst fires
      have kept : t.broker.mailbox? h = some m := by rw [Broker.mailbox?, mailboxes]; exact mail
      refine ⟨[.fire token], [], { c with state := { c.state with fired := token :: c.state.fired } }, m,
        ?_, kept, ?_⟩
      · rw [consumers, List.getElem?_map, found]
        rfl
      · exact turn_of_own rfl rfl rfl fun own => by cases own

end Courier.Session
