import Courier.Broker.Mailbox
import Courier.Provider
import Courier.Settings

/-!
A broker in memory. A topic is a name with the mailboxes that were attached to it; a message
published to a name is copied to each of them. A handle holds a name and not a topic: behind it the
topic may be deleted and created anew, and mailboxes of the old one stay detached.
-/

namespace Courier

/-- The only error of this provider. -/
structure MissingTopic where
  name : String
  deriving DecidableEq, Repr

instance : Describe MissingTopic where
  describe e := "topic " ++ Text.quoted e.name ++ " does not exist"

structure Broker where
  /-- Names, each with the mailboxes attached to it, in the order of their attachment. -/
  topics : List (String × List Nat)
  /-- Every mailbox ever attached, by its number. -/
  mailboxes : List Mailbox
  /-- Mailboxes whose subscription is gone. -/
  gone : List Nat

/-- A topic handle that is opened, and how it works. -/
structure TopicLink where
  topic : String
  options : TopicOptions

structure SubscriptionLink where
  mailbox : Nat
  options : SubscriptionOptions

namespace Broker

def providerName : String := "mem"

/-- The scheme of URLs that this provider opens. -/
def scheme : String := "mem"

def defaultAckDeadline : Duration := .ofSecs 60

/-- How long a call for messages waits, in milliseconds. -/
def patience : Nat := 100

/-- No error is worth another attempt. -/
def provider : Provider MissingTopic where
  name := providerName
  retryable _ := false
  code
    | .native _ => .notFound
    | .fault _ => .unknown

def empty : Broker := ⟨[], [], []⟩

def attached? (b : Broker) (name : String) : Option (List Nat) :=
  (b.topics.find? (·.1 = name)).map (·.2)

def hasTopic (b : Broker) (name : String) : Bool := (b.attached? name).isSome

/-- Creates a topic unless there is one, and tells whether it did. -/
def createTopic (b : Broker) (name : String) : Bool × Broker :=
  if b.hasTopic name then (false, b)
  else (true, { b with topics := b.topics ++ [(name, [])] })

/-- Deletes a topic, which detaches its mailboxes, and tells whether there was one. -/
def deleteTopic (b : Broker) (name : String) : Bool × Broker :=
  (b.hasTopic name, { b with topics := b.topics.filter (·.1 ≠ name) })

def setAttached (b : Broker) (name : String) (mailboxes : List Nat) : Broker :=
  { b with topics := b.topics.map fun t => if t.1 = name then (name, mailboxes) else t }

def mailbox? (b : Broker) (number : Nat) : Option Mailbox := b.mailboxes[number]?

def setMailbox (b : Broker) (number : Nat) (m : Mailbox) : Broker :=
  { b with mailboxes := b.mailboxes.set number m }

def missing (name : String) : Fault MissingTopic := provider.fault (.native ⟨name⟩)

def openTopic (b : Broker) (name : String) (options : TopicOptions) : TopicLink × Broker :=
  (⟨name, options⟩, (b.createTopic name).2)

/-- Attaches a new mailbox to a topic. -/
def openSubscription (b : Broker) (name : String) (ackDeadline : Duration)
    (options : SubscriptionOptions) : Except (Fault MissingTopic) (SubscriptionLink × Broker) :=
  match b.attached? name with
  | none => .error (missing name)
  | some numbers =>
    let b := b.setAttached name (numbers ++ [b.mailboxes.length])
    .ok (⟨b.mailboxes.length, options⟩, { b with mailboxes := b.mailboxes ++ [.new ackDeadline] })

/-- Copies messages to the mailboxes with these numbers. -/
def deliver (b : Broker) (numbers : List Nat) (messages : List Message) : Broker :=
  { b with mailboxes := b.mailboxes.mapIdx fun i m =>
      if numbers.contains i then m.deliver messages else m }

/-- Publishing forgets the mailboxes that are gone. -/
def publish (b : Broker) (name : String) (messages : List Message) : Except MissingTopic Broker :=
  match b.attached? name with
  | none => .error ⟨name⟩
  | some numbers =>
    let live := numbers.filter fun n => !b.gone.contains n
    .ok ((b.setAttached name live).deliver live messages)

/-- The subscription of a mailbox is gone, with everything that could still acknowledge. -/
def abandon (b : Broker) (number : Nat) : Broker := { b with gone := number :: b.gone }

end Broker

end Courier
