import Courier.Proofs.Broker
import Courier.Proofs.Queue.Redelivery
import Courier.Proofs.Session.Moves

/-! What is done to a broker, one act after the other. An act is seen by looking up names and mailboxes:
most of them leave a given name and a given mailbox alone. -/

namespace Courier.Broker

variable {b t : Broker} {a : Act} {as : List Act} {name : String} {h k : Nat}

/-- What is done to a broker: to its topics, or to the mailbox of one subscription by its owner. -/
inductive Act
  | createTopic (name : String)
  | deleteTopic (name : String)
  | openTopic (name : String) (options : TopicOptions)
  | openSubscription (name : String) (ackDeadline : Duration) (options : SubscriptionOptions)
  | publish (name : String) (messages : List Message)
  /-- A moment of the call for messages of a subscription. -/
  | listen (number : Nat) (move : Mailbox.Move) (now : Nat)
  | acknowledge (number ackId : Nat)
  | abandon (number : Nat)

/-- The mailbox that is used by its own subscription. -/
def Act.user? : Act → Option Nat
  | .listen number _ _ => some number
  | .acknowledge number _ => some number
  | _ => none

def changeMailbox (b : Broker) (number : Nat) (change : Mailbox → Option Mailbox) : Option Broker :=
  (b.mailbox? number).bind fun m => (change m).map fun n => b.setMailbox number n

/-- An act that fails leaves the broker as it is; a mailbox that is used has to be there. -/
def act (b : Broker) : Act → Option Broker
  | .createTopic name => some (b.createTopic name).2
  | .deleteTopic name => some (b.deleteTopic name).2
  | .openTopic name options => some (b.openTopic name options).2
  | .openSubscription name ackDeadline options =>
    match b.openSubscription name ackDeadline options with
    | .ok (_, c) => some c
    | .error _ => some b
  | .publish name messages =>
    match b.publish name messages with
    | .ok c => some c
    | .error _ => some b
  | .listen number move now => b.changeMailbox number fun m => (m.step now move).map (·.1)
  | .acknowledge number ackId => b.changeMailbox number fun m => some (m.ack ackId)
  | .abandon number => if number < b.mailboxes.length then some (b.abandon number) else none

def deletes (name : String) : Act → Bool
  | .deleteTopic other => decide (other = name)
  | _ => false

def drops (h : Nat) : Act → Bool
  | .abandon number => decide (h = number)
  | _ => false

/-- The act cuts the mailbox off from the topic with this name. -/
def cuts (name : String) (h : Nat) (a : Act) : Bool := deletes name a || drops h a

/-- Whether there is a topic with this name after an act, told from whether there was one before. -/
def stands (name : String) (there : Bool) : Act → Bool
  | .createTopic other => decide (name = other) || there
  | .openTopic other _ => decide (name = other) || there
  | a => there && !deletes name a

/-- Only mailboxes that exist are attached or gone. -/
structure Known (b : Broker) : Prop where
  names : ∀ name h, b.names name h = true → h < b.mailboxes.length
  gone : ∀ h ∈ b.gone, h < b.mailboxes.length

theorem act_publish_there (there : b.hasTopic name = true) (messages : List Message)
    (moved : act b (.publish name messages) = some t) : Published b name messages t := by
  obtain ⟨c, published, spec⟩ := publish_there there messages
  simp only [act, published] at moved
  exact Option.some.inj moved ▸ spec

theorem act_open_there (there : b.hasTopic name = true) (ackDeadline : Duration)
    (options : SubscriptionOptions)
    (moved : act b (.openSubscription name ackDeadline options) = some t) :
    Opened b name ackDeadline t := by
  obtain ⟨c, opened, spec⟩ := open_there there ackDeadline options
  simp only [act, opened] at moved
  exact Option.some.inj moved ▸ spec

theorem act_publish_missing (absent : b.hasTopic name = false) (messages : List Message) :
    act b (.publish name messages) = some b := by
  simp only [act, publish_missing absent messages]

theorem act_open_missing (absent : b.hasTopic name = false) (ackDeadline : Duration)
    (options : SubscriptionOptions) :
    act b (.openSubscription name ackDeadline options) = some b := by
  simp only [act, open_missing absent ackDeadline options]

theorem changed_of_user (user : a.user? = some k) (moved : act b a = some t) :
    ∃ m n qs, b.mailbox? k = some m ∧ t = b.setMailbox k n ∧
      run Queue.step m.queue qs = some n.queue ∧ qs.filterMap Queue.Event.batch? = [] := by
  cases a with
  | listen number move now =>
    cases user
    obtain ⟨m, found, moved⟩ := Option.bind_eq_some_iff.mp moved
    obtain ⟨n, changed, rfl⟩ := Option.map_eq_some_iff.mp moved
    obtain ⟨⟨n, heard⟩, stepped, rfl⟩ := Option.map_eq_some_iff.mp changed
    obtain ⟨qs, ran, _, nothing | ⟨max, rfl⟩⟩ := Mailbox.queue_of_step stepped
    · exact ⟨m, n, qs, found, rfl, ran, by rw [nothing]; rfl⟩
    · exact ⟨m, n, _, found, rfl, ran, rfl⟩
  | acknowledge number ackId =>
    cases user
    obtain ⟨m, found, moved⟩ := Option.bind_eq_some_iff.mp moved
    cases Option.some.inj moved
    exact ⟨m, m.ack ackId, _, found, rfl, Mailbox.queue_of_acks m [ackId], rfl⟩
  | _ => cases user

/-- Everything that one act can do, as seen by looking up names and mailboxes. -/
inductive Effect (b : Broker) : Act → Broker → Prop
  | create {a : Act} {t : Broker} (name : String)
      (topics : ∀ other, t.hasTopic other = (decide (other = name) || b.hasTopic other))
      (names : ∀ other h, t.names other h = b.names other h) (gone : t.gone = b.gone)
      (mailboxes : t.mailboxes = b.mailboxes)
      (creates : a = .createTopic name ∨ ∃ options, a = .openTopic name options) : Effect b a t
  | delete (name : String) : Effect b (.deleteTopic name) (b.deleteTopic name).2
  | attach {name : String} {ackDeadline : Duration} {options : SubscriptionOptions} {t : Broker}
      (there : b.hasTopic name = true) (opened : Opened b name ackDeadline t) :
      Effect b (.openSubscription name ackDeadline options) t
  | deny {name : String} {ackDeadline : Duration} {options : SubscriptionOptions}
      (absent : b.hasTopic name = false) : Effect b (.openSubscription name ackDeadline options) b
  | publish {name : String} {messages : List Message} {t : Broker} (there : b.hasTopic name = true)
      (published : Published b name messages t) : Effect b (.publish name messages) t
  | refuse {name : String} {messages : List Message} (absent : b.hasTopic name = false) :
      Effect b (.publish name messages) b
  | use {a : Act} {number : Nat} {m n : Mailbox} {qs : List Queue.Event}
      (user : a.user? = some number) (found : b.mailbox? number = some m)
      (ran : run Queue.step m.queue qs = some n.queue)
      (nothing : qs.filterMap Queue.Event.batch? = []) : Effect b a (b.setMailbox number n)
  | abandon {number : Nat} (there : number < b.mailboxes.length) :
      Effect b (.abandon number) (b.abandon number)

theorem effect_of_act (moved : act b a = some t) : Effect b a t := by
  -- where a topic is needed, it is there or the act does nothing
  cases a with
  | createTopic name =>
    cases Option.some.inj moved
    obtain ⟨gone, mailboxes⟩ := create_aside b name
    exact .create name (hasTopic_create b name) (names_create b name) gone mailboxes (.inl rfl)
  | openTopic name options =>
    cases Option.some.inj moved
    obtain ⟨gone, mailboxes⟩ := create_aside b name
    exact .create name (hasTopic_create b name) (names_create b name) gone mailboxes
      (.inr ⟨options, rfl⟩)
  | deleteTopic name =>
    cases Option.some.inj moved
    exact .delete name
  | openSubscription name ackDeadline options =>
    cases there : b.hasTopic name with
    | true => exact .attach there (act_open_there there ackDeadline options moved)
    | false =>
      cases (act_open_missing there ackDeadline options).symm.trans moved
      exact .deny there
  | publish name messages =>
    cases there : b.hasTopic name with
    | true => exact .publish there (act_publish_there there messages moved)
    | false =>
      cases (act_publish_missing there messages).symm.trans moved
      exact .refuse there
  | listen | acknowledge =>
    obtain ⟨m, n, qs, found, rfl, ran, nothing⟩ := changed_of_user rfl moved
    exact .use rfl found ran nothing
  | abandon number =>
    simp only [act] at moved
    split at moved
    · rename_i there
      exact Option.some.inj moved ▸ .abandon there
    · contradiction

theorem mailbox_set {m : Mailbox} (found : b.mailbox? k = some m) (n : Mailbox) (h : Nat) :
    (b.setMailbox k n).mailbox? h = if h = k then some n else b.mailbox? h := by
  have there := (List.getElem?_eq_some_iff.mp found).1
  rw [mailbox?, setMailbox, List.getElem?_set]
  by_cases same : k = h
  · subst same
    simp [there]
  · simp [same, Ne.symm same, mailbox?]

theorem calm_of_user (user : a.user? = some k) (name : String) (h : Nat) :
    deletes name a = false ∧ drops h a = false := by
  cases a with
  | deleteTopic | abandon => cases user
  | _ => exact ⟨rfl, rfl⟩

theorem hasTopic_next (effect : Effect b a t) (name : String) :
    t.hasTopic name = stands name (b.hasTopic name) a := by
  cases effect with
  | create _ topics _ _ _ creates =>
    rw [topics]
    rcases creates with rfl | ⟨options, rfl⟩ <;> rfl
  | delete other =>
    rw [hasTopic_delete]
    simp [stands, deletes, eq_comm]
  | attach _ opened =>
    rw [opened.topics]
    exact (Bool.and_true _).symm
  | publish _ published =>
    rw [published.topics]
    exact (Bool.and_true _).symm
  | @use a _ _ _ _ user =>
    cases a with
    | listen | acknowledge => exact (Bool.and_true _).symm
    | _ => cases user
  | deny | refuse | abandon => exact (Bool.and_true _).symm

/-- There is a topic where it was created and has not been deleted since. -/
theorem hasTopic_of_run (reached : run act empty as = some b) (name : String) :
    b.hasTopic name = as.foldl (stands name) false := by
  refine run_invariant (P := fun as b => b.hasTopic name = as.foldl (stands name) false) rfl ?_ reached
  intro as b a t _ before moved
  rw [hasTopic_next (effect_of_act moved), before, List.foldl_append]
  rfl

theorem gone_next (effect : Effect b a t) (h : Nat) :
    t.gone.contains h = (b.gone.contains h || drops h a) := by
  cases effect with
  | create _ _ _ gone _ creates =>
    rw [gone]
    rcases creates with rfl | ⟨options, rfl⟩ <;> exact (Bool.or_false _).symm
  | attach _ opened =>
    rw [opened.gone]
    exact (Bool.or_false _).symm
  | publish _ published =>
    rw [published.gone]
    exact (Bool.or_false _).symm
  | use user =>
    rw [(calm_of_user user "" h).2, Bool.or_false]
    rfl
  | @abandon number =>
    rw [abandon, List.contains_cons, Bool.or_comm]
    rfl
  | delete | deny | refuse => exact (Bool.or_false _).symm

theorem gone_kept (effect : Effect b a t) : b.gone ⊆ t.gone := by
  intro h member
  have still := gone_next effect h
  rw [List.contains_iff_mem.mpr member, Bool.true_or] at still
  exact List.contains_iff_mem.mp still

theorem length_kept (effect : Effect b a t) : b.mailboxes.length ≤ t.mailboxes.length := by
  cases effect with
  | create _ _ _ _ mailboxes => exact Nat.le_of_eq (congrArg List.length mailboxes.symm)
  | attach _ opened =>
    rw [opened.mailboxes, List.length_append]
    omega
  | publish _ published => exact Nat.le_of_eq published.length.symm
  | use => exact Nat.le_of_eq List.length_set.symm
  | delete | deny | refuse | abandon => exact Nat.le_refl _

theorem Known.next (known : Known b) (effect : Effect b a t) : Known t := by
  have more := length_kept effect
  have same : ∀ {name h}, b.names name h = true → h < t.mailboxes.length :=
    fun named => Nat.lt_of_lt_of_le (known.names _ _ named) more
  have still : ∀ h ∈ b.gone, h < t.mailboxes.length :=
    fun h member => Nat.lt_of_lt_of_le (known.gone h member) more
  cases effect with
  | create _ _ names gone =>
    exact ⟨fun name h named => same (names name h ▸ named), fun h member => still h (gone ▸ member)⟩
  | delete name =>
    refine ⟨fun other h named => ?_, still⟩
    rw [names_delete, Bool.and_eq_true] at named
    exact same named.1
  | attach _ opened =>
    refine ⟨fun other h named => ?_, fun h member => still h (opened.gone ▸ member)⟩
    rw [opened.names, Bool.or_eq_true] at named
    rcases named with before | now
    · exact same before
    · rw [Bool.and_eq_true, decide_eq_true_eq, decide_eq_true_eq] at now
      rw [opened.mailboxes, now.2, List.length_append, List.length_singleton]
      exact Nat.lt_succ_self _
  | publish _ published =>
    refine ⟨fun other h named => ?_, fun h member => still h (published.gone ▸ member)⟩
    rw [published.names, Bool.and_eq_true] at named
    exact same named.1
  | use => exact ⟨fun name h named => same named, still⟩
  | abandon there =>
    refine ⟨fun name h named => same named, fun h member => ?_⟩
    rcases List.mem_cons.mp member with rfl | before
    · exact there
    · exact still h before
  | deny | refuse => exact known

theorem known_empty : Known empty := by
  constructor
  · intro name h named
    cases named
  · intro h member
    cases member

/-- A new mailbox is attached to its topic and to no other. -/
theorem Known.names_opened {name : String} {ackDeadline : Duration} (known : Known b)
    (opened : Opened b name ackDeadline t) (other : String) :
    t.names other b.mailboxes.length = decide (other = name) := by
  have unnamed : b.names other b.mailboxes.length = false := by
    refine Bool.eq_false_iff.mpr fun named => ?_
    exact Nat.lt_irrefl _ (known.names _ _ named)
  simp [opened.names, unnamed]

theorem Known.reaches_opened {name : String} {ackDeadline : Duration} (known : Known b)
    (opened : Opened b name ackDeadline t) (other : String) :
    t.reaches other b.mailboxes.length = decide (other = name) := by
  have live : b.mailboxes.length ∉ b.gone := fun member => Nat.lt_irrefl _ (known.gone _ member)
  rw [reaches, known.names_opened opened, opened.gone]
  simp [live]

theorem Known.run (known : Known b) (ran : run act b as = some t) : Known t := by
  induction as generalizing b with
  | nil => exact Option.some.inj ran ▸ known
  | cons a as ih =>
    obtain ⟨u, moved, rest⟩ := Option.bind_eq_some_iff.mp ran
    exact ih (known.next (effect_of_act moved)) rest

/-- A subscription that is not dropped stays attached to its topic until that is deleted, and is never
attached again, to that name or another. -/
theorem names_next (effect : Effect b a t) (old : h < b.mailboxes.length) (live : h ∉ b.gone)
    (other : String) : t.names other h = (b.names other h && !deletes other a) := by
  cases effect with
  | create name _ names _ _ creates =>
    rw [names]
    rcases creates with rfl | ⟨options, rfl⟩ <;> exact (Bool.and_true _).symm
  | delete name =>
    rw [names_delete, deletes]
    by_cases same : other = name
    · simp [same]
    · simp [same, Ne.symm same]
  | attach _ opened =>
    -- only a new mailbox is attached
    have earlier : ¬ h = b.mailboxes.length := by omega
    simp [opened.names, earlier, deletes]
  | publish _ published => simp [published.names, live, deletes]
  | use user =>
    rw [(calm_of_user user other h).1, Bool.not_false, Bool.and_true]
    rfl
  | deny | refuse | abandon => exact (Bool.and_true _).symm

theorem reaches_next (effect : Effect b a t) (old : h < b.mailboxes.length) (name : String) :
    t.reaches name h = (b.reaches name h && !cuts name h a) := by
  rw [reaches, gone_next effect, reaches, cuts]
  by_cases gone : h ∈ b.gone
  · -- a mailbox that is gone may be forgotten, but is not reached before or after
    simp [gone]
  · rw [names_next effect old gone]
    simp [gone, Bool.and_assoc]

theorem reaches_of_run (ran : run act b as = some t) (old : h < b.mailboxes.length) (name : String) :
    t.reaches name h = (b.reaches name h && !as.any (cuts name h)) := by
  induction as generalizing b with
  | nil =>
    cases Option.some.inj ran
    exact (Bool.and_true _).symm
  | cons a as ih =>
    obtain ⟨u, moved, rest⟩ := Option.bind_eq_some_iff.mp ran
    have effect := effect_of_act moved
    have later := ih rest (Nat.lt_of_lt_of_le old (length_kept effect))
    rw [later, reaches_next effect old, List.any_cons, Bool.not_or, Bool.and_assoc]

end Courier.Broker
