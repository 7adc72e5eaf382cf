import Courier.Proofs.Broker.Acts

/-! From publishing to queues, across the lives of topics. A subscription is attached to one topic and
not to its name: it gets what is published to the name until that topic is deleted, and nothing that is
published to a later topic of the same name. Dropping a subscription is not seen by the others. -/

namespace Courier.Broker

variable {b c t u : Broker} {a : Act} {later : List Act} {name : String} {h k : Nat}

/-- The batch that an act publishes to the topic with this name, if there is one. -/
def batch? (name : String) (x : Broker × Act) : Option (List Message) :=
  match x.2 with
  | .publish other messages =>
    if other = name ∧ (x.1.publish other messages).isOk = true then some messages else none
  | _ => none

/-- The batches published to this name as long as the topic that has it is not deleted, in order. -/
def batches (name : String) (b : Broker) (as : List Act) : List (List Message) :=
  ((trace act b as).takeWhile fun x => !deletes name x.2).filterMap (batch? name)

def arrival? (h : Nat) (x : Broker × Act) : Option (List Message) :=
  match x.2 with
  | .publish name messages => if x.1.reaches name h then some messages else none
  | _ => none

/-- An act puts at most one batch into the queue of a mailbox, and does nothing else to it unless it is
done by the mailbox's user. -/
theorem queue_next {m : Mailbox} (effect : Effect b a t) (found : b.mailbox? h = some m) :
    ∃ n qs, t.mailbox? h = some n ∧ run Queue.step m.queue qs = some n.queue ∧
      qs.filterMap Queue.Event.batch? = (arrival? h (b, a)).toList ∧
        (a.user? = some h ∨ qs = (arrival? h (b, a)).toList.map .put) := by
  have aside : t.mailbox? h = some m → arrival? h (b, a) = none → ∃ n qs, t.mailbox? h = some n ∧
      run Queue.step m.queue qs = some n.queue ∧
        qs.filterMap Queue.Event.batch? = (arrival? h (b, a)).toList ∧
          (a.user? = some h ∨ qs = (arrival? h (b, a)).toList.map .put) := by
    intro same nothing
    rw [nothing]
    exact ⟨m, [], same, rfl, rfl, .inr rfl⟩
  cases effect with
  | create _ _ _ _ mailboxes creates =>
    refine aside (by rwa [mailbox?, mailboxes]) ?_
    rcases creates with rfl | ⟨options, rfl⟩ <;> rfl
  | attach _ opened =>
    refine aside ?_ rfl
    have old := (List.getElem?_eq_some_iff.mp found).1
    rw [mailbox?, opened.mailboxes, List.getElem?_append_left old]
    exact found
  | @publish name messages t _ published =>
    have seen := published.mailboxes h
    rw [found, Option.map_some] at seen
    by_cases reached : b.reaches name h = true
    · rw [if_pos reached] at seen
      have put : arrival? h (b, .publish name messages) = some messages := if_pos reached
      rw [put]
      exact ⟨m.deliver messages, [.put messages], seen, rfl, rfl, .inr rfl⟩
    · rw [if_neg reached] at seen
      exact aside seen (if_neg reached)
  | @refuse name messages absent =>
    refine aside found (if_neg fun reached => ?_)
    rw [reaches, Bool.and_eq_true] at reached
    rw [hasTopic_of_names reached.1] at absent
    contradiction
  | @use a number n' n qs user there ran nothing =>
    have puts_none : arrival? h (b, a) = none := by
      cases a with
      | publish => cases user
      | _ => rfl
    by_cases same : h = number
    · subst same
      cases found.symm.trans there
      refine ⟨n, qs, ?_, ran, by rw [nothing, puts_none]; rfl, .inl user⟩
      rw [mailbox_set there, if_pos rfl]
    · refine aside ?_ puts_none
      rw [mailbox_set there, if_neg same]
      exact found
  | delete | deny | abandon => exact aside found rfl

/-! The mailbox of a subscription, from the moment it is attached. -/

theorem takeWhile_concat {α : Type} (p : α → Bool) (l : List α) (x : α) :
    (l ++ [x]).takeWhile p = l.takeWhile p ++ if l.all p then [x].takeWhile p else [] := by
  induction l with
  | nil => rfl
  | cons y l ih => cases here : p y <;> simp [here, ih]

theorem batches_snoc (ran : run act c later = some u) (moved : act u a = some t) :
    batches name c (later ++ [a]) = batches name c later ++
      if later.any (deletes name) then [] else (batch? name (u, a)).toList := by
  have whole : ((trace act c later).all fun x => !deletes name x.2) = !later.any (deletes name) := by
    have events := congrArg (List.any · (deletes name)) (trace_events ran)
    rw [List.any_map] at events
    rw [← List.not_any_eq_all_not, ← events]
    rfl
  rw [batches, trace_snoc ran moved, takeWhile_concat, List.filterMap_append, whole, batches]
  congr 1
  cases later.any (deletes name) with
  | true => rfl
  | false =>
    -- What deletes the topic publishes nothing.
    have single : [(u, a)].filterMap (batch? name) = (batch? name (u, a)).toList :=
      filterMap_concat (batch? name) [] (u, a)
    rw [if_neg Bool.false_ne_true, ← single]
    cases a with
    | deleteTopic other => cases here : deletes name (.deleteTopic other) <;> simp [here, batch?]
    | _ => rfl

theorem arrival_eq (live : h ∉ u.gone) (named : ∀ other, u.names other h =
      (decide (other = name) && !later.any (deletes name))) (a : Act) :
    arrival? h (u, a) = if later.any (deletes name) then none else batch? name (u, a) := by
  have reached : ∀ other, u.reaches other h =
      (decide (other = name) && !later.any (deletes name)) := by
    intro other
    rw [reaches, named]
    simp [live]
  cases a with
  | publish other messages =>
    simp only [arrival?, reached]
    cases deleted : later.any (deletes name) with
    | true => simp
    | false =>
      by_cases same : other = name
      · subst same
        have there : u.hasTopic other = true := by
          refine hasTopic_of_names (h := h) ?_
          rw [named, deleted]
          simp
        obtain ⟨_, published, _⟩ := publish_there there messages
        simp [batch?, published, Except.isOk, Except.toBool]
      · simp [batch?, same]
  | _ => exact (ite_self none).symm

/-- The life of a mailbox: what has been put into its queue, and where it is attached. -/
structure Life (name : String) (ackDeadline : Duration) (c : Broker) (h : Nat) (later : List Act)
    (t : Broker) : Prop where
  queue : ∃ m qs, t.mailbox? h = some m ∧ run Queue.step (.new ackDeadline) qs = some m.queue ∧
    qs.filterMap Queue.Event.batch? = batches name c later ∧
      ((∀ a ∈ later, a.user? ≠ some h) → qs = (batches name c later).map .put)
  names : ∀ other, t.names other h = (decide (other = name) && !later.any (deletes name))

theorem life_of_run {ackDeadline : Duration} (known : Known b)
    (opened : Opened b name ackDeadline c) (ran : run act c later = some t)
    (live : b.mailboxes.length ∉ t.gone) : Life name ackDeadline c b.mailboxes.length later t := by
  refine run_invariant (P := fun later t => b.mailboxes.length ∉ t.gone →
    Life name ackDeadline c b.mailboxes.length later t) ?_ ?_ ran live
  · intro _
    have first : c.mailbox? b.mailboxes.length = some (.new ackDeadline) := by
      rw [mailbox?, opened.mailboxes, List.getElem?_concat_length]
    refine ⟨⟨_, [], first, rfl, rfl, fun _ => rfl⟩, fun other => ?_⟩
    exact (known.names_opened opened other).trans (Bool.and_true _).symm
  · intro later u a t ran ih moved live
    have effect := effect_of_act moved
    have live_before := fun gone => live (gone_kept effect gone)
    -- the invariant is about mailboxes that are not gone, and this one was not gone before either
    obtain ⟨⟨m, qs, found, queued, put, idle⟩, named⟩ := ih live_before
    obtain ⟨n, rs, next, stepped, came, alone⟩ := queue_next effect found
    have arrived := arrival_eq live_before named a
    have grown : batches name c (later ++ [a]) =
        batches name c later ++ (arrival? b.mailboxes.length (u, a)).toList := by
      rw [batches_snoc ran moved, arrived]
      split <;> rfl
    refine ⟨⟨n, qs ++ rs, next, ?_, ?_, ?_⟩, fun other => ?_⟩
    · exact run_trans queued stepped
    · rw [List.filterMap_append, put, came, grown]
    · -- where nobody uses the mailbox, the queue has been given the batches and nothing else
      intro unused
      have apart := unused a (List.mem_append_right _ (List.mem_singleton_self a))
      have before := idle fun e member => unused e (List.mem_append_left _ member)
      rw [grown, List.map_append, ← before, alone.resolve_left apart]
    · have old := (List.getElem?_eq_some_iff.mp found).1
      rw [names_next effect old live_before, named, List.any_append]
      by_cases same : other = name
      · simp [same]
      · simp [same]

/-! What dropping one subscription leaves as it is. -/

/-- Two brokers that differ in one mailbox at most. -/
structure Agrees (k : Nat) (b c : Broker) : Prop where
  topics : ∀ name, c.hasTopic name = b.hasTopic name
  names : ∀ name h, h ≠ k → c.names name h = b.names name h
  gone : ∀ h, h ≠ k → c.gone.contains h = b.gone.contains h
  mailboxes : ∀ h, h ≠ k → c.mailbox? h = b.mailbox? h
  length : c.mailboxes.length = b.mailboxes.length

theorem Agrees.reaches (agrees : Agrees k b c) (name : String) (other : h ≠ k) :
    c.reaches name h = b.reaches name h := by
  rw [Broker.reaches, agrees.names name h other, agrees.gone h other, Broker.reaches]

theorem agrees_abandon (b : Broker) (k : Nat) : Agrees k b (b.abandon k) := by
  refine ⟨fun _ => rfl, fun _ _ _ => rfl, ?_, fun _ _ => rfl, rfl⟩
  intro h other
  simp [abandon, other]

theorem Agrees.create (agrees : Agrees k b c) (name : String) :
    Agrees k (b.createTopic name).2 (c.createTopic name).2 := by
  obtain ⟨gone, mailboxes⟩ := create_aside b name
  obtain ⟨gone', mailboxes'⟩ := create_aside c name
  constructor
  · intro other
    rw [hasTopic_create, hasTopic_create, agrees.topics]
  · intro other h differ
    rw [names_create, names_create, agrees.names other h differ]
  · rw [gone, gone']
    exact agrees.gone
  · intro h differ
    have same := agrees.mailboxes h differ
    rwa [mailbox?, mailboxes', mailbox?, mailboxes]
  · rw [mailboxes, mailboxes']
    exact agrees.length

theorem Agrees.delete (agrees : Agrees k b c) (name : String) :
    Agrees k (b.deleteTopic name).2 (c.deleteTopic name).2 := by
  constructor
  · intro other
    rw [hasTopic_delete, hasTopic_delete, agrees.topics]
  · intro other h differ
    rw [names_delete, names_delete, agrees.names other h differ]
  · exact agrees.gone
  · exact agrees.mailboxes
  · exact agrees.length

theorem Agrees.opened {ackDeadline : Duration} (agrees : Agrees k b c)
    (opened : Opened b name ackDeadline t) (opened' : Opened c name ackDeadline u) : Agrees k t u := by
  constructor
  · intro other
    rw [opened.topics, opened'.topics, agrees.topics]
  · intro other h differ
    rw [opened.names, opened'.names, agrees.names other h differ, agrees.length]
  · rw [opened.gone, opened'.gone]
    exact agrees.gone
  · intro h differ
    have same := agrees.mailboxes h differ
    simp only [mailbox?] at same ⊢
    rw [opened.mailboxes, opened'.mailboxes, List.getElem?_append, List.getElem?_append, same,
      agrees.length]
  · rw [opened.mailboxes, opened'.mailboxes, List.length_append, List.length_append, agrees.length]

theorem Agrees.published {messages : List Message} (agrees : Agrees k b c)
    (published : Published b name messages t) (published' : Published c name messages u) :
    Agrees k t u := by
  constructor
  · intro other
    rw [published.topics, published'.topics, agrees.topics]
  · intro other h differ
    rw [published.names, published'.names, agrees.names other h differ, agrees.gone h differ]
  · rw [published.gone, published'.gone]
    exact agrees.gone
  · intro h differ
    rw [published.mailboxes, published'.mailboxes, agrees.mailboxes h differ,
      agrees.reaches name differ]
  · rw [published.length, published'.length, agrees.length]

theorem Agrees.set (agrees : Agrees k b c) {number : Nat} {m : Mailbox}
    (found : b.mailbox? number = some m) (found' : c.mailbox? number = some m) (n : Mailbox) :
    Agrees k (b.setMailbox number n) (c.setMailbox number n) := by
  refine ⟨agrees.topics, agrees.names, agrees.gone, ?_, ?_⟩
  · intro h other
    rw [mailbox_set found, mailbox_set found', agrees.mailboxes h other]
  · rw [setMailbox, setMailbox, List.length_set, List.length_set]
    exact agrees.length

theorem Agrees.next (agrees : Agrees k b c) (other : a.user? ≠ some k) (moved : act b a = some t) :
    ∃ u, act c a = some u ∧ Agrees k t u := by
  -- Who uses another mailbox finds it as it is, and so changes it in the same way.
  have used : ∀ number change, number ≠ k → b.changeMailbox number change = some t →
      ∃ u, c.changeMailbox number change = some u ∧ Agrees k t u := by
    intro number change differ moved
    obtain ⟨m, found, changed⟩ := Option.bind_eq_some_iff.mp moved
    obtain ⟨n, same, rfl⟩ := Option.map_eq_some_iff.mp changed
    have found' := (agrees.mailboxes number differ).trans found
    refine ⟨c.setMailbox number n, ?_, agrees.set found found' n⟩
    rw [changeMailbox, found', Option.bind_some, same, Option.map_some]
  cases a with
  | createTopic name =>
    cases Option.some.inj moved
    exact ⟨_, rfl, agrees.create name⟩
  | openTopic name options =>
    cases Option.some.inj moved
    exact ⟨_, rfl, agrees.create name⟩
  | deleteTopic name =>
    cases Option.some.inj moved
    exact ⟨_, rfl, agrees.delete name⟩
  | openSubscription name ackDeadline options =>
    cases there : b.hasTopic name with
    | false =>
      cases (act_open_missing there ackDeadline options).symm.trans moved
      exact ⟨c, act_open_missing ((agrees.topics name).trans there) ackDeadline options, agrees⟩
    | true =>
      have opened := act_open_there there ackDeadline options moved
      obtain ⟨u, ran, opened'⟩ := open_there ((agrees.topics name).trans there) ackDeadline options
      exact ⟨u, by simp only [act, ran], agrees.opened opened opened'⟩
  | publish name messages =>
    cases there : b.hasTopic name with
    | false =>
      cases (act_publish_missing there messages).symm.trans moved
      exact ⟨c, act_publish_missing ((agrees.topics name).trans there) messages, agrees⟩
    | true =>
      have published := act_publish_there there messages moved
      obtain ⟨u, ran, published'⟩ := publish_there ((agrees.topics name).trans there) messages
      exact ⟨u, by simp only [act, ran], agrees.published published published'⟩
  | listen number move now => exact used number _ (fun same => other (congrArg some same)) moved
  | acknowledge number ackId => exact used number _ (fun same => other (congrArg some same)) moved
  | abandon number =>
    simp only [act] at moved ⊢
    rw [agrees.length]
    split at moved
    · rename_i there
      cases Option.some.inj moved
      refine ⟨_, if_pos there, agrees.topics, agrees.names, ?_, agrees.mailboxes, agrees.length⟩
      intro h differ
      rw [abandon, abandon, List.contains_cons, List.contains_cons, agrees.gone h differ]
    · contradiction

theorem Agrees.run (agrees : Agrees k b c) (unused : ∀ a ∈ later, a.user? ≠ some k)
    (ran : run act b later = some t) : ∃ u, run act c later = some u ∧ Agrees k t u := by
  induction later generalizing b c with
  | nil =>
    cases Option.some.inj ran
    exact ⟨c, rfl, agrees⟩
  | cons a later ih =>
    rw [List.forall_mem_cons] at unused
    obtain ⟨b', moved, rest⟩ := Option.bind_eq_some_iff.mp ran
    obtain ⟨c', moved', agrees'⟩ := agrees.next unused.1 moved
    obtain ⟨u, ran', agreed⟩ := ih agrees' unused.2 rest
    exact ⟨u, by rw [Courier.run, moved', Option.bind_some, ran'], agreed⟩

/-- As long as a subscription is not dropped, its queue has been given the batches published to its
topic, each once and whole, in order; and it is attached to that topic or, once that is deleted, to
none. A topic is there from its creation until it is deleted: without it publishing and attaching fail
and change nothing, with it they succeed and creating it changes nothing. Whether one subscription is
dropped makes no difference to the others. -/
theorem fan_out (before : List Act) (b : Broker) (reached : run act empty before = some b) :
    (∀ name ackDeadline options link c,
      b.openSubscription name ackDeadline options = .ok (link, c) →
        ∀ later t, run act c later = some t → link.mailbox ∉ t.gone →
          (∃ m qs, t.mailbox? link.mailbox = some m ∧
            run Queue.step (.new ackDeadline) qs = some m.queue ∧
            qs.filterMap Queue.Event.batch? = batches name c later ∧
            m.queue.arrived = (batches name c later).flatten ∧
            m.queue.places.Perm (List.range m.queue.arrived.length) ∧
            (∀ copy ∈ m.queue.copies, m.queue.arrived[copy.serial]? = some copy.message) ∧
            ((∀ a ∈ later, a.user? ≠ some link.mailbox) →
              m.queue.ready.map (·.message) = (batches name c later).flatten)) ∧
          ∀ other, t.names other link.mailbox =
            (decide (other = name) && !later.any (deletes name))) ∧
    (∀ name, b.hasTopic name = before.foldl (stands name) false) ∧
    (∀ name, b.hasTopic name = false →
      (∀ messages, b.publish name messages = .error ⟨name⟩ ∧
        act b (.publish name messages) = some b) ∧
      (∀ ackDeadline options,
        b.openSubscription name ackDeadline options = .error (missing name) ∧
        act b (.openSubscription name ackDeadline options) = some b) ∧
      provider.code (.native ⟨name⟩) = .notFound ∧ (missing name).code = .notFound) ∧
    (∀ name, b.hasTopic name = true → b.createTopic name = (false, b) ∧
      (∀ options, b.openTopic name options = (⟨name, options⟩, b)) ∧
      (∀ messages, ∃ t, b.publish name messages = .ok t) ∧
      ∀ ackDeadline options, ∃ link t, b.openSubscription name ackDeadline options = .ok (link, t)) ∧
    ∀ k later t, run act b later = some t → (∀ a ∈ later, a.user? ≠ some k) →
      ∃ u, run act (b.abandon k) later = some u ∧ (∀ name, u.hasTopic name = t.hasTopic name) ∧
        ∀ h, h ≠ k → u.mailbox? h = t.mailbox? h ∧ ∀ name, u.reaches name h = t.reaches name h := by
  have known := known_empty.run reached
  refine ⟨?_, hasTopic_of_run reached, ?_, ?_, ?_⟩
  · intro name ackDeadline options link c opens later t ran live
    cases there : b.hasTopic name with
    | false => cases (open_missing there ackDeadline options).symm.trans opens
    | true =>
      obtain ⟨c', opens', opened⟩ := open_there there ackDeadline options
      cases opens'.symm.trans opens
      obtain ⟨⟨m, qs, found, queued, put, idle⟩, named⟩ := life_of_run known opened ran live
      have accounted := Queue.accounted_of_run queued
      refine ⟨⟨m, qs, found, queued, put, ?_, accounted.placed, accounted.contents, ?_⟩, named⟩
      · rw [Queue.arrived_run queued, Queue.messages_of_batches, put]
        rfl
      · intro unused
        rw [idle unused] at queued
        exact Queue.ready_of_puts queued
  · intro name absent
    refine ⟨fun messages => ?_, fun ackDeadline options => ?_, rfl, rfl⟩
    · exact ⟨publish_missing absent messages, act_publish_missing absent messages⟩
    · exact ⟨open_missing absent ackDeadline options, act_open_missing absent ackDeadline options⟩
  · intro name there
    refine ⟨create_again there, ?_, ?_, ?_⟩
    · intro options
      rw [openTopic, create_again there]
    · intro messages
      obtain ⟨t, published, _⟩ := publish_there there messages
      exact ⟨t, published⟩
    · intro ackDeadline options
      obtain ⟨t, opened, _⟩ := open_there there ackDeadline options
      exact ⟨_, t, opened⟩
  · intro k later t ran unused
    obtain ⟨u, ran', agrees⟩ := (agrees_abandon b k).run unused ran
    refine ⟨u, ran', agrees.topics, fun h other => ⟨agrees.mailboxes h other, ?_⟩⟩
    exact fun name => agrees.reaches name other

/-- A topic with one subscription, which has been given one message. -/
def morning : List Act :=
  [.createTopic "news", .openSubscription "news" Queue.tenNanos default, .publish "news" [Queue.note 0]]

/-- The first subscription is dropped, and the topic deleted and created anew. -/
def evening : List Act :=
  [.publish "news" [Queue.note 1, Queue.note 2], .abandon 0, .publish "news" [Queue.note 3],
    .deleteTopic "news", .publish "news" [Queue.note 4], .openTopic "news" default,
    .openSubscription "news" Queue.tenNanos default, .publish "news" [Queue.note 5]]

theorem fan_out_two_lives :
    ∃ b c t m, run act empty morning = some b ∧
      act b (.openSubscription "news" Queue.tenNanos default) = some c ∧
      run act c evening = some t ∧ t.mailbox? 1 = some m ∧
      m.queue.ready.map (·.message) = [Queue.note 1, Queue.note 2, Queue.note 3] ∧
      t.hasTopic "news" = true ∧ t.names "news" 1 = false ∧
      b.publish "sports" [] = .error ⟨"sports"⟩ ∧ b.createTopic "news" = (false, b) ∧
      ∃ u, run act (b.abandon 0) (.openSubscription "news" Queue.tenNanos default :: evening) = some u ∧
        u.mailbox? 1 = some m := by
  have ran : (run act empty morning).bind (fun b =>
      (act b (.openSubscription "news" Queue.tenNanos default)).bind fun c =>
        (run act c evening).map fun t =>
          ((b.hasTopic "news", b.hasTopic "sports", b.mailboxes.length), (t.gone, t.hasTopic "news"),
            batches "news" c evening)) =
        some ((true, false, 1), ([0], true), [[Queue.note 1, Queue.note 2], [Queue.note 3]]) := by
    decide +kernel
  simp only [Option.bind_eq_some_iff, Option.map_eq_some_iff, Prod.mk.injEq] at ran
  obtain ⟨b, reached, c, opens, t, ran, ⟨there, absent, one⟩, ⟨gone, still⟩, published⟩ := ran
  obtain ⟨each, _, failing, again, dropped⟩ := fan_out morning b reached
  obtain ⟨c', opened, _⟩ := open_there there Queue.tenNanos default
  have same : c' = c := by
    simp only [act, opened] at opens
    exact Option.some.inj opens
  subst same
  rw [one] at opened
  obtain ⟨⟨m, qs, found, _, _, _, _, _, ready⟩, named⟩ := each _ _ _ _ _ opened evening t ran
    (by rw [gone]; decide)
  have whole : run act b (.openSubscription "news" Queue.tenNanos default :: evening) = some t := by
    rw [run, opens, Option.bind_some, ran]
  obtain ⟨u, ran', _, others⟩ := dropped 0 _ t whole (by decide)
  refine ⟨b, c', t, m, reached, opens, ran, found, ?_, still, ?_, (failing _ absent).1 _ |>.1,
    (again _ there).1, u, ran', ?_⟩
  · rw [ready (by decide), published]
    rfl
  · rw [named]
    decide
  · rw [(others 1 (by decide)).1, found]

end Courier.Broker
