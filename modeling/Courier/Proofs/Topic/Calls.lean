import Courier.Proofs.Metadata
import Courier.Proofs.Topic.Outcomes

/-! The calls of a topic to its provider, send by send. Each message in a call is that of one send,
and a send that was told of success has its message in a call that succeeded. -/

namespace Courier.Topic

variable {ε : Type} {s t : State ε} {os : List (Outbox.Event Message ε)} {provider : Provider ε}
  {options : TopicOptions} {es : List (Event ε)} {bs : List (Batcher.Event Message ε)}

/-- The send that holds a ticket. -/
def State.sender? (s : State ε) (ticket : Nat) : Option Nat :=
  (s.sends.find? fun x => x.2.phase.ticket? = some ticket).map (·.1)

/-- The sends whose messages a call carries, in the order of the call. -/
def State.senders (s : State ε) (a : Outbox.Attempt Message) : List Nat :=
  ((s.outbox.carried a).map (·.ticket)).filterMap s.sender?

theorem sender_of_ticket (reached : Reached provider options es os bs s) {id : Nat} {c : Send ε}
    (found : s.send? id = some c) {k : Nat} (ticket : c.phase.ticket? = some k) :
    s.sender? k = some id := by
  have tickets := issued_tickets reached
  rw [State.issued, List.map_filterMap] at tickets
  have member := call_member found
  have read : ∀ x : Nat × Send ε, x.2.phase.ticket? = some k →
      ((entry x).map fun e => e.ticket) = some k := by
    intro x holds
    simp [entry, holds]
  cases holder : s.sends.find? fun x => x.2.phase.ticket? = some k with
  | none =>
    rw [List.find?_eq_none] at holder
    exact absurd (decide_eq_true ticket) (holder (id, c) member)
  | some y =>
    have holds : y.2.phase.ticket? = some k := by simpa using List.find?_some holder
    have same : y = (id, c) := member_of_read tickets (List.mem_of_find?_eq_some holder) member
      (read y holds) (read (id, c) ticket)
    rw [State.sender?, holder, same, Option.map_some]

theorem ticket_of_sender (reached : Reached provider options es os bs s) {id k : Nat}
    (sender : s.sender? k = some id) : ∃ c, s.send? id = some c ∧ c.phase.ticket? = some k := by
  obtain ⟨⟨i, c⟩, holder, rfl⟩ := Option.map_eq_some_iff.mp sender
  have ticket : c.phase.ticket? = some k := by simpa using List.find?_some holder
  exact ⟨c, call_found (ticketed_of_reached reached).distinct (List.mem_of_find?_eq_some holder),
    ticket⟩

/-- Whatever was submitted has a sender. -/
theorem sender_of_submission (reached : Reached provider options es os bs s) {x : Entry Message}
    (given : x ∈ Batcher.submissions bs) : ∃ id c, s.sender? x.ticket = some id ∧
      s.send? id = some c ∧ c.phase.ticket? = some x.ticket ∧ c.message = x.item := by
  have ticketed := ticketed_of_reached reached
  rw [Outbox.submissions_eq reached.outbox, ← ticketed.issued.mem_iff] at given
  obtain ⟨⟨id, c⟩, member, holds⟩ := List.mem_filterMap.mp given
  obtain ⟨k, ticket, rfl⟩ := Option.map_eq_some_iff.mp holds
  have found : s.send? id = some c := call_found ticketed.distinct member
  exact ⟨id, c, sender_of_ticket reached found ticket, found, ticket, rfl⟩

theorem carried_submitted (reached : Reached provider options es os bs s)
    {a : Outbox.Attempt Message} (member : a ∈ s.outbox.attempts) {x : Entry Message}
    (inside : x ∈ s.outbox.carried a) :
    x ∈ Batcher.submissions bs ∧ x.ticket ∉ s.outbox.batcher.refused := by
  have ordered := Batcher.ordered_of_run (Outbox.batcher_run reached.outbox)
  obtain ⟨b, taken, _⟩ := (Outbox.passed_of_reached reached.outbox).carried a member
  rw [Outbox.State.carried, taken, Option.getD_some] at inside
  have passed := List.mem_flatten_of_mem (List.mem_of_getElem? taken) inside
  obtain ⟨late, all, _⟩ := ordered.cut
  constructor
  · rw [all, ← ordered.flow]
    exact List.mem_append_left _ (List.mem_append_left _ passed)
  · intro refused
    exact ordered.refused_apart taken refused (List.mem_map_of_mem inside)

theorem sender_messages (reached : Reached provider options es os bs s) {l : List (Entry Message)}
    (given : ∀ x ∈ l, x ∈ Batcher.submissions bs) :
    ((l.map (·.ticket)).filterMap s.sender?).map (fun id => (s.send? id).map (·.message)) =
      l.map fun x => some x.item := by
  induction l with
  | nil => rfl
  | cons x l ih =>
    obtain ⟨id, c, sender, found, _, message⟩ :=
      sender_of_submission reached (given x List.mem_cons_self)
    have rest := ih fun y member => given y (List.mem_cons_of_mem _ member)
    rw [List.map_cons, List.filterMap_cons, sender, List.map_cons, List.map_cons, rest, found,
      Option.map_some, message]

theorem senders_messages (reached : Reached provider options es os bs s)
    {a : Outbox.Attempt Message} (member : a ∈ s.outbox.attempts) :
    (s.senders a).map (fun id => (s.send? id).map (·.message)) = a.items.map some := by
  rw [Outbox.items_eq reached.outbox member, List.map_map]
  exact sender_messages reached fun x inside => (carried_submitted reached member inside).1

theorem ticket_of_senders (reached : Reached provider options es os bs s)
    {a : Outbox.Attempt Message} (member : a ∈ s.outbox.attempts) {id : Nat}
    (sends : id ∈ s.senders a) : ∃ c, s.send? id = some c ∧ ∃ x ∈ s.outbox.carried a,
      c.phase.ticket? = some x.ticket ∧ c.message = x.item ∧
        x.ticket ∉ s.outbox.batcher.refused := by
  obtain ⟨k, inside, sender⟩ := List.mem_filterMap.mp sends
  obtain ⟨x, carried, rfl⟩ := List.mem_map.mp inside
  obtain ⟨given, accepted⟩ := carried_submitted reached member carried
  obtain ⟨i, c, same, found, ticket, message⟩ := sender_of_submission reached given
  cases Option.some.inj (sender.symm.trans same)
  exact ⟨c, found, x, carried, ticket, message, accepted⟩

theorem senders_nodup (reached : Reached provider options es os bs s) :
    ((s.outbox.attempts.filter (·.first)).flatMap s.senders).Nodup := by
  have batches := Outbox.passed_batches reached.outbox
  have distinct := (Batcher.ordered_of_run (Outbox.batcher_run reached.outbox)).nodup
  have tickets : (((s.outbox.attempts.filter (·.first)).flatMap s.outbox.carried).map
      (·.ticket)).Nodup := by
    rw [List.map_append, ← batches, List.map_append] at distinct
    exact (List.nodup_append.mp (List.nodup_append.mp (List.nodup_append.mp distinct).1).1).1
  have same : (s.outbox.attempts.filter (·.first)).flatMap s.senders =
      (((s.outbox.attempts.filter (·.first)).flatMap s.outbox.carried).map
        (·.ticket)).filterMap s.sender? := by
    rw [List.map_flatMap, List.filterMap_flatMap]
    rfl
  rw [same]
  refine tickets.filterMap ?_
  intro j k id left right
  obtain ⟨c, found, ticket⟩ := ticket_of_sender reached left
  obtain ⟨d, again, other⟩ := ticket_of_sender reached right
  cases Option.some.inj (found.symm.trans again)
  exact Option.some.inj (ticket.symm.trans other)

/-- How often the message of a send has been sent once more. -/
def State.retries (s : State ε) (id : Nat) : Nat :=
  s.outbox.attempts.countP (fun a => id ∈ s.senders a) - 1

/-- The last call that carries the message of a send was answered with `r`. -/
def LastCall (s : State ε) (replies : List (Outbox.Reply ε)) (id : Nat) (r : Outbox.Reply ε) : Prop :=
  ∃ (i : Nat) (a : Outbox.Attempt Message), s.outbox.attempts[i]? = some a ∧ id ∈ s.senders a ∧
    (∀ (j : Nat) (x : Outbox.Attempt Message), s.outbox.attempts[j]? = some x →
      id ∈ s.senders x → j ≤ i) ∧
    replies[i]? = some r

theorem sends_iff (reached : Reached provider options es os bs s) {id : Nat} {c : Send ε}
    (found : s.send? id = some c) {n : Nat} {b : List (Entry Message)} {e : Entry Message}
    (ticket : c.phase.ticket? = some e.ticket) (taken : s.outbox.batcher.taken[n]? = some b)
    (inside : e ∈ b) {a : Outbox.Attempt Message} (member : a ∈ s.outbox.attempts) :
    id ∈ s.senders a ↔ a.number = n := by
  have ordered := Batcher.ordered_of_run (Outbox.batcher_run reached.outbox)
  constructor
  · intro sends
    obtain ⟨d, again, x, carried, held, _⟩ := ticket_of_senders reached member sends
    cases Option.some.inj (found.symm.trans again)
    obtain ⟨p, there, _⟩ := (Outbox.passed_of_reached reached.outbox).carried a member
    rw [Outbox.State.carried, there, Option.getD_some] at carried
    exact ordered.batch_unique there taken carried inside (Option.some.inj (held.symm.trans ticket))
  · intro number
    have carried : e ∈ s.outbox.carried a := by
      rw [Outbox.State.carried, number, taken, Option.getD_some]
      exact inside
    exact List.mem_filterMap.mpr ⟨e.ticket, List.mem_map_of_mem carried,
      sender_of_ticket reached found ticket⟩

/-- The batch of a send came to what the last call that carries its message came to. -/
theorem call_of_concluded (reached : Reached provider options es os bs s) {id : Nat} {c : Send ε}
    (found : s.send? id = some c) {k : Nat} (ticket : c.phase.ticket? = some k) {how : Ending ε}
    (concluded : Batcher.Concluded bs s.outbox.batcher k how) :
    ∃ r, LastCall s (replies es) id r ∧
      Outbox.Means provider options.retry (s.retries id) r how := by
  obtain ⟨n, b, taken, ended, e, inside, rfl⟩ := concluded
  obtain ⟨r, ⟨i, a, there, number, latest, reply⟩, means⟩ :=
    Outbox.ended_as_answered reached.outbox ended
  rw [replies_eq reached] at reply
  -- The calls that carry the message are those for its batch.
  have sends : ∀ x ∈ s.outbox.attempts, id ∈ s.senders x ↔ x.number = n :=
    fun x member => sends_iff reached found ticket taken inside member
  have same : s.retries id = Outbox.retries s.outbox.attempts n := by
    rw [State.retries, Outbox.retries, Outbox.calls]
    exact congrArg (· - 1) (List.countP_congr fun x member => by simp [sends x member])
  refine ⟨r, ⟨i, a, there, (sends a (List.mem_of_getElem? there)).mpr number, ?_, reply⟩, same ▸ means⟩
  intro j x at_j carried
  exact latest j x at_j ((sends x (List.mem_of_getElem? at_j)).mp carried)

/-- Only what a broker can carry is handed to the provider, and only payload and metadata. -/
theorem parcel_of_handedOver (reached : Reached provider options es os bs s) {call : List Parcel}
    (member : call ∈ s.handedOver) {p : Parcel} (inside : p ∈ call) :
    p.ackId = none ∧ p.native = none ∧ (∀ e ∈ p.metadata, Metadata.Carriable e) ∧
      ∃ x ∈ s.outbox.batcher.accepted, p.body = x.item.body ∧ p.metadata = x.item.metadata := by
  have ordered := Batcher.ordered_of_run (Outbox.batcher_run reached.outbox)
  obtain ⟨a, call, rfl⟩ := List.mem_map.mp member
  obtain ⟨m, item, rfl⟩ := List.mem_map.mp inside
  rw [Outbox.items_eq reached.outbox call] at item
  obtain ⟨x, carried, rfl⟩ := List.mem_map.mp item
  obtain ⟨id, c, _, found, ticket, message⟩ :=
    sender_of_submission reached (carried_submitted reached call carried).1
  have legal := (ticketed_of_reached reached).legal (id, c) (call_member found)
    (.inr (by rw [ticket]; rfl))
  obtain ⟨b, taken, _⟩ := (Outbox.passed_of_reached reached.outbox).carried a call
  rw [Outbox.State.carried, taken, Option.getD_some] at carried
  refine ⟨rfl, rfl, message ▸ Metadata.flaw_none.mp legal, x, ?_, rfl, rfl⟩
  rw [← ordered.flow]
  exact List.mem_append_left _ (List.mem_flatten_of_mem (List.mem_of_getElem? taken) carried)

theorem call_of_success (reached : Reached provider options es os bs s) {id : Nat} {c : Send ε}
    (found : s.send? id = some c) {k : Nat} (told : c.phase = .told k (.ok ())) :
    ∃ (i : Nat) (a : Outbox.Attempt Message), s.outbox.attempts[i]? = some a ∧ id ∈ s.senders a ∧
      (replies es)[i]? = some (.returned (.ok ())) := by
  have accounts := accounts_of_reached reached (id, c) (call_member found)
  rw [Accounts, told] at accounts
  generalize outcome : (.ok () : Outcome ε) = o at accounts
  cases accounts with
  | canceled | refused | mistaken => cases outcome
  | @outcome how concluded =>
    obtain ⟨r, ⟨i, a, there, sends, _, reply⟩, means⟩ :=
      call_of_concluded reached found (by rw [told]; rfl) concluded
    refine ⟨i, a, there, sends, ?_⟩
    cases how with
    | panicked => cases outcome
    | returned result =>
      cases (outcome : .ok () = result)
      cases r with
      | brokeOff => cases means
      | returned answer =>
        cases answer with
        | ok u => exact reply
        | error f =>
          rcases means with error | ⟨panicked, _⟩
          · cases error
          · cases panicked

/-- Calls come one at a time and in the order of the sends that were accepted, another attempt
carries what the one before carried, and nothing reaches the provider but the legal messages of
accepted sends. Success is told only to sends whose call succeeded. -/
theorem calls_follow_sends (provider : Provider ε) (options : TopicOptions) (es : List (Event ε))
    (s : State ε) (reached : run State.step (.new provider options) es = some s) :
    s.outbox.attempts.length = (replies es).length + s.outbox.calling?.toList.length ∧
    s.outbox.batcher.running.length ≤ 1 ∧
    (s.outbox.attempts.filter (·.first)).flatMap (·.items) <+:
      (log State.step accepts (.new provider options) es).map (·.item) ∧
    (∀ a, s.outbox.attempts.head? = some a → a.first = true) ∧
    s.outbox.attempts.IsChain (fun a b =>
      (b.first = false ∧ b.number = a.number ∧ b.items = a.items) ∨
        (b.first = true ∧ a.number < b.number)) ∧
    (∀ call ∈ s.handedOver, ∀ p ∈ call, p.ackId = none ∧ p.native = none ∧
      (∀ e ∈ p.metadata, e.1 ≠ "" ∧ Char.ofNat 0 ∉ e.1.toList ∧ Char.ofNat 0 ∉ e.2.toList) ∧
      ∃ x ∈ log State.step accepts (.new provider options) es,
        p.body = x.item.body ∧ p.metadata = x.item.metadata) ∧
    (∀ a ∈ s.outbox.attempts,
      (s.senders a).map (fun id => (s.send? id).map (·.message)) = a.items.map some) ∧
    ((s.outbox.attempts.filter (·.first)).flatMap s.senders).Nodup ∧
    (∀ id c, s.send? id = some c → ((∃ f, c.phase = .turnedAway f) ∨
        ∃ k ∈ s.outbox.batcher.refused, c.phase.ticket? = some k) →
      ∀ a ∈ s.outbox.attempts, id ∉ s.senders a) ∧
    (∀ e t, s.step e = some t → ∀ id c, s.send? id = some c → State.Send.live c = false →
      t.send? id = some c) ∧
    (∀ id c k, s.send? id = some c → c.phase = .told k (.ok ()) →
      ∃ (i : Nat) (a : Outbox.Attempt Message), s.outbox.attempts[i]? = some a ∧
        id ∈ s.senders a ∧ (replies es)[i]? = some (.returned (.ok ()))) := by
  have accepted := accepted_eq reached
  obtain ⟨os, bs, reached⟩ := reached_of_run reached
  have talks := (Outbox.heard_of_reached reached.outbox).talks
  have passed := Outbox.passed_of_reached reached.outbox
  have conserved := Outbox.conserved reached.outbox
  rw [replies_eq reached] at talks
  refine ⟨talks, ?_, ?_, passed.opening, Outbox.repeats reached.outbox, ?_,
    fun a member => senders_messages reached member, senders_nodup reached, ?_, ?_,
    fun id c k found told => call_of_success reached found told⟩
  · have single := (Outbox.one_task reached.outbox).1
    omega
  · rw [← accepted, ← conserved, List.append_assoc]
    exact List.prefix_append _ _
  · intro call member p inside
    rw [← accepted]
    exact parcel_of_handedOver reached member inside
  · rintro id c found early a member sends
    obtain ⟨d, again, x, _, ticket, _, kept⟩ := ticket_of_senders reached member sends
    cases Option.some.inj (found.symm.trans again)
    rcases early with ⟨f, away⟩ | ⟨k, refused, held⟩
    · rw [away] at ticket
      cases ticket
    · rw [ticket, Option.some.injEq] at held
      exact kept (held ▸ refused)
  · intro e t moved id c found ended
    obtain ⟨more, moves⟩ := moves_of_step moved
    exact ended_kept (ticketed_of_reached reached).distinct moves found ended

def relay : Provider String := ⟨"relay", fun _ => true, fun _ => .unknown⟩

def note (text : String) : Message := ⟨.empty, [("n", text)]⟩

/-- The first batch needs a second attempt, while two more sends come in. One send is withdrawn at
once, one has an illegal message, and one loses the race with the shutdown. -/
def sixSends : List (Event String) :=
  [.send 1 none (note "a"), .sendStep 1, .sendStep 1, .sendStep 1, .look, .call,
    .send 2 none (note "b"), .send 3 none (note "c"), .sendStep 2, .sendStep 2, .sendStep 2,
    .sendStep 3, .sendStep 3, .sendStep 3, .fire "t", .send 4 (some "t") (note "d"), .sendStep 4,
    .send 5 none ⟨.empty, [("", "e")]⟩, .sendStep 5, .sendStep 5,
    .returned (.error (.native "busy")) 0, .resumed, .returned (.ok ()) 0, .sendStep 1, .look, .call,
    .send 6 none (note "f"), .sendStep 6, .sendStep 6, .shutdown 7 none, .shutdownStep 7,
    .shutdownStep 7, .shutdownStep 7, .sendStep 6, .sendStep 6, .sendStep 6, .brokeOff, .sendStep 2]

theorem calls_follow_sends_six_sends :
    ∃ s : State String, run State.step (.new relay default) sixSends = some s ∧
      s.outbox.attempts.map (fun a => (a.number, a.first, a.items)) =
        [(0, true, [note "a"]), (0, false, [note "a"]), (1, true, [note "b", note "c"])] ∧
      s.outbox.batcher.refused = [3] ∧
      s.outbox.attempts.length = (replies sixSends).length + s.outbox.calling?.toList.length ∧
      ((s.outbox.attempts.filter (·.first)).flatMap s.senders).Nodup := by
  have ran : (run State.step (.new relay default) sixSends).map (fun s =>
      (s.outbox.attempts.map (fun a => (a.number, a.first, a.items)), s.outbox.batcher.refused)) =
        some ([(0, true, [note "a"]), (0, false, [note "a"]), (1, true, [note "b", note "c"])],
          [3]) := by
    decide +kernel
  obtain ⟨s, reached, facts⟩ := Option.map_eq_some_iff.mp ran
  have h := calls_follow_sends relay default sixSends s reached
  obtain ⟨talks, _, _, _, _, _, _, distinct, _⟩ := h
  exact ⟨s, reached, congrArg Prod.fst facts, congrArg Prod.snd facts, talks, distinct⟩

end Courier.Topic
