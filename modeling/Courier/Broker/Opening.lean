import Courier.Broker
import Courier.Directory

/-!
URLs of the broker in memory. Host and path together name the topic. A topic URL has no query; a
subscription URL may set the acknowledgement deadline in milliseconds, and the last setting counts.
A URL that is refused changes nothing.
-/

namespace Courier

/-- What every handle gets that is opened by URL. -/
structure Opening where
  topic : TopicOptions
  subscription : SubscriptionOptions

instance : Inhabited Opening := ⟨⟨default, default⟩⟩

namespace Opening

/-- Why a URL is refused. -/
inductive Objection
  | unknownParameter (key : String)
  | badDeadline (value : String)
  | noName
  deriving DecidableEq, Repr

def Objection.message : Objection → String
  | unknownParameter key => "unknown query parameter " ++ Text.quoted key
  | badDeadline value =>
    "invalid ackdeadline " ++ Text.quoted value ++ ", expected milliseconds"
  | noName => "missing topic name"

def Objection.fault (kind : String) (u : Url) (o : Objection) : Fault MissingTopic :=
  .refused kind u.text o.message

/-- A number in decimal digits, with or without a plus sign, that fits 64 bits. -/
def millis? (s : String) : Option UInt64 :=
  let digits := match s.toList with
    | '+' :: rest => rest
    | cs => cs
  let n := digits.foldl (fun n c => n * 10 + (c.toNat - '0'.toNat)) 0
  if !digits.isEmpty && digits.all Char.isDigit && n < UInt64.size then some n.toUInt64 else none

/-- The deadline that a query sets, read from left to right. -/
def deadline (current : Duration) : List (String × String) → Except Objection Duration
  | [] => .ok current
  | (key, value) :: rest =>
    if key = "ackdeadline" then
      match millis? value with
      | some n => deadline (.ofMillis n) rest
      | none => .error (.badDeadline value)
    else .error (.unknownParameter key)

def topicName (u : Url) : Except Objection String :=
  let name := u.hostText ++ u.path.text
  if name.isEmpty then .error .noName else .ok name

/-- What a topic URL asks for. -/
def topicOf (u : Url) : Except Objection String :=
  match u.fields with
  | (key, _) :: _ => .error (.unknownParameter key)
  | [] => topicName u

/-- What a subscription URL asks for. -/
def subscriptionOf (u : Url) : Except Objection (String × Duration) := do
  let d ← deadline Broker.defaultAckDeadline u.fields
  let name ← topicName u
  .ok (name, d)

def openTopic (o : Opening) : Opener Broker MissingTopic TopicLink := fun u b =>
  match topicOf u with
  | .error e => (.error (e.fault "Topic" u), b)
  | .ok name =>
    let (link, b) := b.openTopic name o.topic
    (.ok link, b)

def openSubscription (o : Opening) : Opener Broker MissingTopic SubscriptionLink := fun u b =>
  match subscriptionOf u with
  | .error e => (.error (e.fault "Subscription" u), b)
  | .ok (name, d) =>
    match b.openSubscription name d o.subscription with
    | .error f => (.error f, b)
    | .ok (link, b) => (.ok link, b)

/-- Registers both openers. -/
def register (o : Opening) (d : Directory Broker MissingTopic TopicLink SubscriptionLink) :
    Except SchemeTaken (Directory Broker MissingTopic TopicLink SubscriptionLink) := do
  let d ← d.registerTopic Broker.scheme o.openTopic
  d.registerSubscription Broker.scheme o.openSubscription

end Opening

end Courier
