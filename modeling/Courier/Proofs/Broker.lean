import Courier.Broker

/-! Names and mailboxes of a broker. What a change of the topics does to one name is seen by looking up
that name. -/

namespace Courier.Broker

variable {b : Broker} {name other : String} {h : Nat}

/-- The mailbox is attached to the topic with this name. -/
def names (b : Broker) (name : String) (h : Nat) : Bool := ((b.attached? name).getD []).contains h

/-- The mailbox gets what is published to this name. -/
def reaches (b : Broker) (name : String) (h : Nat) : Bool := b.names name h && !b.gone.contains h

theorem attached_create (b : Broker) (name other : String) : (b.createTopic name).2.attached? other =
    if other = name then some ((b.attached? other).getD []) else b.attached? other := by
  unfold createTopic
  split
  · rename_i there
    split
    · rename_i same
      subst same
      obtain ⟨numbers, attached⟩ := Option.isSome_iff_exists.mp there
      rw [attached, Option.getD_some]
    · rfl
  · rename_i absent
    have missing : b.attached? name = none := by simpa [hasTopic] using absent
    simp only [attached?] at missing ⊢
    rw [List.find?_append, Option.map_or]
    by_cases same : other = name
    · subst same
      rw [missing]
      simp
    · have not_it : ¬ name = other := fun same' => same same'.symm
      simp [same, not_it]

theorem attached_delete (b : Broker) (name other : String) : (b.deleteTopic name).2.attached? other =
    if other = name then none else b.attached? other := by
  simp only [deleteTopic, attached?, List.find?_filter]
  split
  · rename_i same
    subst same
    simp
  · rename_i differ
    congr 2
    funext t
    by_cases here : t.1 = other
    · simp [here, differ]
    · simp [here]

theorem attached_set (b : Broker) (name other : String) (numbers : List Nat) :
    (b.setAttached name numbers).attached? other =
      if other = name then (b.attached? other).map fun _ => numbers else b.attached? other := by
  simp only [setAttached, attached?]
  induction b.topics with
  | nil => simp
  | cons t topics ih =>
    rw [List.map_cons, List.find?_cons, List.find?_cons]
    by_cases here : t.1 = name
    · by_cases wanted : name = other
      · subst wanted
        simp [here]
      · have differ : ¬ other = name := fun same => wanted same.symm
        simpa [here, wanted, differ] using ih
    · by_cases wanted : t.1 = other
      · have differ : ¬ other = name := fun same => here (wanted.trans same)
        simp [wanted, differ]
      · simpa [here, wanted] using ih

theorem names_create (b : Broker) (name other : String) (h : Nat) :
    (b.createTopic name).2.names other h = b.names other h := by
  rw [names, attached_create, names]
  split <;> rfl

theorem names_delete (b : Broker) (name other : String) (h : Nat) :
    (b.deleteTopic name).2.names other h = (b.names other h && !decide (other = name)) := by
  rw [names, attached_delete, names]
  split
  · rename_i same
    simp [same]
  · rename_i differ
    simp [differ]

theorem names_set {numbers : List Nat} (attached : b.attached? name = some numbers)
    (next : List Nat) (other : String) (h : Nat) : (b.setAttached name next).names other h =
      if other = name then next.contains h else b.names other h := by
  rw [names, attached_set, names]
  split
  · rename_i same
    rw [same, attached]
    rfl
  · rfl

theorem hasTopic_create (b : Broker) (name other : String) : (b.createTopic name).2.hasTopic other =
    (decide (other = name) || b.hasTopic other) := by
  rw [hasTopic, attached_create, hasTopic]
  split
  · rename_i same
    simp [same]
  · rename_i differ
    simp [differ]

theorem hasTopic_delete (b : Broker) (name other : String) : (b.deleteTopic name).2.hasTopic other =
    (b.hasTopic other && !decide (other = name)) := by
  rw [hasTopic, attached_delete, hasTopic]
  split
  · rename_i same
    simp [same]
  · rename_i differ
    simp [differ]

theorem hasTopic_set (b : Broker) (name other : String) (numbers : List Nat) :
    (b.setAttached name numbers).hasTopic other = b.hasTopic other := by
  rw [hasTopic, attached_set, hasTopic]
  split
  · exact Option.isSome_map
  · rfl

theorem hasTopic_of_names (named : b.names name h = true) : b.hasTopic name = true := by
  cases attached : b.attached? name with
  | none => simp [names, attached] at named
  | some numbers => simp [hasTopic, attached]

theorem create_aside (b : Broker) (name : String) :
    (b.createTopic name).2.gone = b.gone ∧ (b.createTopic name).2.mailboxes = b.mailboxes := by
  unfold createTopic
  split <;> exact ⟨rfl, rfl⟩

theorem create_again (there : b.hasTopic name = true) : b.createTopic name = (false, b) :=
  if_pos there

/-- What publishing to a topic does: the mailboxes that are gone are forgotten, and each of the others
has the messages put into it once. -/
structure Published (b : Broker) (name : String) (messages : List Message) (t : Broker) : Prop where
  topics : ∀ other, t.hasTopic other = b.hasTopic other
  names : ∀ other h, t.names other h =
    (b.names other h && !(decide (other = name) && b.gone.contains h))
  gone : t.gone = b.gone
  length : t.mailboxes.length = b.mailboxes.length
  mailboxes : ∀ h, t.mailbox? h =
    (b.mailbox? h).map fun m => if b.reaches name h then m.deliver messages else m

theorem publish_there (there : b.hasTopic name = true) (messages : List Message) :
    ∃ t, b.publish name messages = .ok t ∧ Published b name messages t := by
  obtain ⟨numbers, attached⟩ := Option.isSome_iff_exists.mp there
  let live := numbers.filter fun n => !b.gone.contains n
  have reached : ∀ h, live.contains h = b.reaches name h := by
    intro h
    rw [reaches, names, attached, Option.getD_some]
    by_cases inside : h ∈ numbers
    · simp [live, inside]
    · simp [live, inside]
  refine ⟨(b.setAttached name live).deliver live messages, by rw [publish, attached], ?_⟩
  constructor
  · exact fun other => hasTopic_set b name other live
  · intro other h
    refine (names_set attached live other h).trans ?_
    split
    · rename_i same
      rw [reached, same, reaches, decide_eq_true rfl, Bool.true_and]
    · rename_i differ
      simp [differ]
  · rfl
  · exact List.length_mapIdx
  · intro h
    simp only [deliver, mailbox?, setAttached, List.getElem?_mapIdx, reached]

theorem publish_missing (absent : b.hasTopic name = false) (messages : List Message) :
    b.publish name messages = .error ⟨name⟩ := by
  have missing : b.attached? name = none := by simpa [hasTopic] using absent
  rw [publish, missing]

/-- What attaching a subscription does: there is one mailbox more, and the topic names it. -/
structure Opened (b : Broker) (name : String) (ackDeadline : Duration) (t : Broker) : Prop where
  topics : ∀ other, t.hasTopic other = b.hasTopic other
  names : ∀ other h, t.names other h =
    (b.names other h || (decide (other = name) && decide (h = b.mailboxes.length)))
  gone : t.gone = b.gone
  mailboxes : t.mailboxes = b.mailboxes ++ [.new ackDeadline]

theorem open_there (there : b.hasTopic name = true) (ackDeadline : Duration)
    (options : SubscriptionOptions) :
    ∃ t, b.openSubscription name ackDeadline options = .ok (⟨b.mailboxes.length, options⟩, t) ∧
      Opened b name ackDeadline t := by
  obtain ⟨numbers, attached⟩ := Option.isSome_iff_exists.mp there
  let next := b.setAttached name (numbers ++ [b.mailboxes.length])
  refine ⟨{ next with mailboxes := next.mailboxes ++ [.new ackDeadline] },
    by rw [openSubscription, attached]; rfl, ?_⟩
  constructor
  · exact fun other => hasTopic_set b name other _
  · intro other h
    refine (names_set attached _ other h).trans ?_
    split
    · rename_i same
      rw [same, names, attached, Option.getD_some]
      by_cases inside : h ∈ numbers
      · simp [inside]
      · simp [inside]
    · rename_i differ
      simp [differ]
  · rfl
  · rfl

theorem open_missing (absent : b.hasTopic name = false) (ackDeadline : Duration)
    (options : SubscriptionOptions) :
    b.openSubscription name ackDeadline options = .error (missing name) := by
  have none_attached : b.attached? name = none := by simpa [hasTopic] using absent
  rw [openSubscription, none_attached]

end Courier.Broker
