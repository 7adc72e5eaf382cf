import Courier.Proofs.Subscription.Acks
import Courier.Proofs.Subscription.Deliveries

/-! What the application acknowledges and what goes out. The first acknowledgement of a message
submits its token and counts its processing time; every further one is refused and does neither. -/

namespace Courier.Subscription

variable {ε : Type} {s t : State ε}

/-- A call that acknowledges a message, with what the message came with. -/
structure Ack where
  serial : Nat
  ackId : Option AckId
  elapsed : Duration
  /-- The batcher had been shut down. -/
  late : Bool
  deriving DecidableEq

def ack? : State ε × Event ε → Option Ack
  | (s, .ack serial elapsed _) =>
    some ⟨serial, (s.held? serial).bind (·.parcel.ackId), elapsed, s.outbox.batcher.shut⟩
  | _ => none

/-- All calls of a run that acknowledge a message, in order. -/
def acks (provider : Provider ε) (replaced : Bool) (options : SubscriptionOptions)
    (es : List (Event ε)) : List Ack :=
  (trace State.step (.new provider replaced options) es).filterMap ack?

/-- Of the calls for one message only the first is kept. -/
def firsts (l : List Ack) : List Ack :=
  l.foldl (fun kept a => if kept.any (·.serial = a.serial) then kept else kept ++ [a]) []

theorem firsts_snoc (l : List Ack) (a : Ack) : firsts (l ++ [a]) =
    if a.serial ∈ (firsts l).map (·.serial) then firsts l else firsts l ++ [a] := by
  rw [firsts, List.foldl_append, List.foldl_cons, List.foldl_nil, ← firsts]
  have known : (firsts l).any (·.serial = a.serial) = true ↔
      a.serial ∈ (firsts l).map (·.serial) := by
    simp [List.any_eq_true]
  by_cases there : a.serial ∈ (firsts l).map (·.serial)
  · rw [if_pos there, if_pos (known.mpr there)]
  · rw [if_neg there, if_neg (mt known.mp there)]

theorem firsts_serials (l : List Ack) (k : Nat) :
    k ∈ (firsts l).map (·.serial) ↔ k ∈ l.map (·.serial) := by
  induction l using List.reverseRecOn with
  | nil => rfl
  | append_singleton l a ih =>
    rw [firsts_snoc, List.map_append, List.mem_append, ← ih]
    split
    · rename_i there
      constructor
      · exact .inl
      · rintro (old | new)
        · exact old
        · cases List.mem_singleton.mp new
          exact there
    · rw [List.map_append, List.mem_append]

theorem firsts_again {l : List Ack} {a : Ack} (known : a.serial ∈ l.map (·.serial)) :
    firsts (l ++ [a]) = firsts l := by
  rw [firsts_snoc, if_pos ((firsts_serials l _).mpr known)]

theorem firsts_new {l : List Ack} {a : Ack} (fresh : a.serial ∉ l.map (·.serial)) :
    firsts (l ++ [a]) = firsts l ++ [a] := by
  rw [firsts_snoc, if_neg (mt (firsts_serials l _).mp fresh)]

theorem firsts_nodup (l : List Ack) : ((firsts l).map (·.serial)).Nodup := by
  induction l using List.reverseRecOn with
  | nil => exact List.nodup_nil
  | append_singleton l a ih =>
    rw [firsts_snoc]
    split
    · exact ih
    · rename_i fresh
      rw [List.map_append, List.map_singleton, List.nodup_append]
      refine ⟨ih, List.nodup_singleton _, ?_⟩
      intro k old j new same
      cases List.mem_singleton.mp new
      exact fresh (same ▸ old)

/-- Which messages can still be acknowledged. -/
structure Marks (l : List Ack) (s : State ε) : Prop where
  known : ∀ a ∈ l, a.serial ∈ s.held.map (·.serial)
  spent : ∀ h ∈ s.held, h.serial ∈ l.map (·.serial) → h.ack.action = none
  ready : ∀ h ∈ s.held, h.serial ∉ l.map (·.serial) → h.ack = .ready (s.action h.parcel)

theorem held_found {serial : Nat} {h : Held} (found : s.held? serial = some h) :
    h ∈ s.held ∧ h.serial = serial :=
  ⟨List.mem_of_find?_eq_some found, by simpa using List.find?_some found⟩

theorem action_eq (same : t.replaced = s.replaced) (p : Parcel) : t.action p = s.action p := by
  rw [State.action, same, State.action]

theorem Marks.keep {l : List Ack} (marks : Marks l s) (held : t.held = s.held)
    (replaced : t.replaced = s.replaced) : Marks l t := by
  obtain ⟨known, spent, ready⟩ := marks
  refine ⟨held ▸ known, held ▸ spent, ?_⟩
  intro h member fresh
  rw [action_eq replaced]
  exact ready h (held ▸ member) fresh

/-- A message that is handed out has not been acknowledged. -/
theorem Marks.grow {l : List Ack} (marks : Marks l s) {serial : Nat} {p : Parcel}
    (held : t.held = s.held ++ [⟨serial, p, .ready (s.action p)⟩])
    (distinct : (t.held.map (·.serial)).Nodup) (replaced : t.replaced = s.replaced) :
    Marks l t := by
  obtain ⟨known, spent, ready⟩ := marks
  have fresh : serial ∉ l.map (·.serial) := by
    intro there
    obtain ⟨a, member, rfl⟩ := List.mem_map.mp there
    rw [held, List.map_append, List.nodup_append] at distinct
    exact distinct.2.2 a.serial (known a member) a.serial List.mem_cons_self rfl
  refine ⟨?_, ?_, ?_⟩
  · intro a member
    rw [held, List.map_append]
    exact List.mem_append_left _ (known a member)
  · intro h member there
    rw [held] at member
    rcases List.mem_append.mp member with old | new
    · exact spent h old there
    · cases List.mem_singleton.mp new
      exact absurd there fresh
  · intro h member absent
    rw [action_eq replaced]
    rw [held] at member
    rcases List.mem_append.mp member with old | new
    · exact ready h old absent
    · cases List.mem_singleton.mp new
      rfl

theorem mark_serials (s : State ε) (serial : Nat) (ack : Acknowledgement Action) :
    (s.mark serial ack).held.map (·.serial) = s.held.map (·.serial) := by
  rw [State.mark, List.map_map]
  apply List.map_congr_left
  intro x _
  by_cases same : x.serial = serial
  · simp [same]
  · simp [same]

/-- A message is the one that was marked, or is as it was before. -/
theorem mark_cases {serial : Nat} {ack : Acknowledgement Action} {x : Held}
    (member : x ∈ (s.mark serial ack).held) :
    (∃ y ∈ s.held, y.serial = serial ∧ x = { y with ack := ack }) ∨
      (x.serial ≠ serial ∧ x ∈ s.held) := by
  obtain ⟨y, old, rfl⟩ := List.mem_map.mp member
  split
  · rename_i same
    exact .inl ⟨y, old, same, rfl⟩
  · rename_i other
    exact .inr ⟨other, old⟩

/-- Acknowledging a message leaves nothing to run for it and all others as they are. -/
theorem Marks.acked {l : List Ack} (marks : Marks l s) {a : Ack} {h : Held}
    (found : s.held? a.serial = some h) {ack : Acknowledgement Action} (nothing : ack.action = none)
    (held : t.held = (s.mark a.serial ack).held) (replaced : t.replaced = s.replaced) :
    Marks (l ++ [a]) t := by
  obtain ⟨known, spent, ready⟩ := marks
  have serials : t.held.map (·.serial) = s.held.map (·.serial) := by
    rw [held, mark_serials]
  refine ⟨?_, ?_, ?_⟩
  · intro b member
    rw [serials]
    rcases List.mem_append.mp member with old | new
    · exact known b old
    · cases List.mem_singleton.mp new
      obtain ⟨there, same⟩ := held_found found
      exact same ▸ List.mem_map_of_mem there
  · intro x member there
    rcases mark_cases (held ▸ member) with ⟨y, _, _, rfl⟩ | ⟨other, old⟩
    · exact nothing
    · refine spent x old ?_
      simpa [other] using there
  · intro x member absent
    rw [action_eq replaced]
    rcases mark_cases (held ▸ member) with ⟨y, _, same, rfl⟩ | ⟨_, old⟩
    · exact absurd (by simp [same]) absent
    · refine ready x old ?_
      intro there
      exact absent (by rw [List.map_append]; exact List.mem_append_left _ there)

theorem Marks.fresh {l : List Ack} (marks : Marks l s) {serial : Nat} {h : Held}
    (found : s.held? serial = some h) {a : Action} (ready : h.ack = .ready a) :
    serial ∉ l.map (·.serial) ∧ s.action h.parcel = a := by
  obtain ⟨there, rfl⟩ := held_found found
  have absent : h.serial ∉ l.map (·.serial) := by
    intro known
    have nothing := marks.spent h there known
    rw [ready] at nothing
    cases nothing
  refine ⟨absent, ?_⟩
  have same := marks.ready h there absent
  rw [ready] at same
  cases same
  rfl

theorem Marks.stale {l : List Ack} (marks : Marks l s) {serial : Nat} {h : Held}
    (found : s.held? serial = some h) (spent : h.ack.acked = true ∨ h.ack.action = none) :
    serial ∈ l.map (·.serial) ∧ h.ack.action = none := by
  obtain ⟨there, rfl⟩ := held_found found
  have known : h.serial ∈ l.map (·.serial) := by
    by_contra absent
    rw [marks.ready h there absent] at spent
    rcases spent with acked | nothing
    · cases acked
    · cases nothing
  exact ⟨known, marks.spent h there known⟩

theorem action_replace {p : Parcel} (action : s.action p = .replace) : s.replaced = true := by
  unfold State.action at action
  split at action
  · assumption
  · split at action <;> cases action

theorem action_send {p : Parcel} {ackId : AckId} (action : s.action p = .send ackId) :
    s.replaced = false ∧ p.ackId = some ackId := by
  unfold State.action at action
  split at action
  · cases action
  · rename_i batched
    split at action
    · rename_i a token
      cases action
      exact ⟨eq_false_of_ne_true batched, token⟩
    · cases action

theorem action_nothing {p : Parcel} (action : s.action p = .nothing) :
    s.replaced = false ∧ p.ackId = none := by
  unfold State.action at action
  split at action
  · cases action
  · rename_i batched
    split at action
    · cases action
    · rename_i token
      exact ⟨eq_false_of_ne_true batched, token⟩

/-- The tokens that go out: of messages acknowledged in time, in the order of their first
acknowledgements. -/
def tokens (l : List Ack) : List AckId := ((firsts l).filter fun a => !a.late).filterMap (·.ackId)

theorem tokens_again {l : List Ack} {a : Ack} (known : a.serial ∈ l.map (·.serial)) :
    tokens (l ++ [a]) = tokens l := by
  rw [tokens, firsts_again known, tokens]

theorem tokens_new {l : List Ack} {a : Ack} (fresh : a.serial ∉ l.map (·.serial)) :
    tokens (l ++ [a]) = tokens l ++ if a.late then [] else a.ackId.toList := by
  rw [tokens, firsts_new fresh, List.filter_append, List.filterMap_append, ← tokens]
  cases late : a.late with
  | true => simp [late]
  | false => cases ackId : a.ackId <;> simp [late, ackId]

structure Tally (l : List Ack) (s : State ε) : Prop where
  marks : Marks l s
  samples : s.samples = (firsts l).map (·.elapsed)
  sent : s.replaced = false → s.outbox.batcher.accepted.map (·.item) = tokens l
  replaced : s.replaced = true →
    s.outbox.batcher.accepted = [] ∧ s.replacements = (firsts l).length

theorem Tally.keep {l : List Ack} (tally : Tally l s) (marks : Marks l t)
    (samples : t.samples = s.samples) (replaced : t.replaced = s.replaced)
    (replacements : t.replacements = s.replacements)
    (accepted : t.outbox.batcher.accepted = s.outbox.batcher.accepted) : Tally l t := by
  refine ⟨marks, samples.trans tally.samples, ?_, ?_⟩
  · rw [replaced, accepted]
    exact tally.sent
  · rw [replaced, accepted, replacements]
    exact tally.replaced

variable {provider : Provider ε} {replaced : Bool} {options : SubscriptionOptions}
  {es : List (Event ε)}

theorem held_distinct (passed : Passed provider replaced options es s) :
    (s.held.map (·.serial)).Nodup := by
  have all : ((s.handedOut ++ s.queue).map (·.serial)).Nodup := by
    rw [passed.numbered, deliveries_serials]
    exact List.nodup_range
  rw [List.map_append, List.nodup_append, State.handedOut, List.map_map] at all
  exact all.1

/-- A first acknowledgement counts once, and its token goes out if it comes in time. -/
theorem Tally.first {l : List Ack} (tally : Tally l s) {a : Ack}
    (fresh : a.serial ∉ l.map (·.serial)) (marks : Marks (l ++ [a]) t)
    (samples : t.samples = s.samples ++ [a.elapsed]) (replaced : t.replaced = s.replaced)
    (sent : s.replaced = false → t.outbox.batcher.accepted.map (·.item) =
      s.outbox.batcher.accepted.map (·.item) ++ if a.late then [] else a.ackId.toList)
    (counted : s.replaced = true → t.outbox.batcher.accepted = s.outbox.batcher.accepted ∧
      t.replacements = s.replacements + 1) : Tally (l ++ [a]) t := by
  refine ⟨marks, ?_, ?_, ?_⟩
  · rw [samples, tally.samples, firsts_new fresh, List.map_append, List.map_singleton]
  · intro batched
    rw [replaced] at batched
    rw [sent batched, tally.sent batched, tokens_new fresh]
  · intro instead
    rw [replaced] at instead
    obtain ⟨accepted, replacements⟩ := counted instead
    obtain ⟨empty, count⟩ := tally.replaced instead
    rw [accepted, empty, replacements, count, firsts_new fresh, List.length_append,
      List.length_singleton]
    exact ⟨rfl, rfl⟩

theorem Tally.again {l : List Ack} (tally : Tally l s) {a : Ack}
    (known : a.serial ∈ l.map (·.serial)) (marks : Marks (l ++ [a]) t)
    (samples : t.samples = s.samples) (replaced : t.replaced = s.replaced)
    (replacements : t.replacements = s.replacements)
    (accepted : t.outbox.batcher.accepted = s.outbox.batcher.accepted) : Tally (l ++ [a]) t := by
  refine ⟨marks, ?_, ?_, ?_⟩
  · rw [firsts_again known, samples, tally.samples]
  · rw [tokens_again known, replaced, accepted]
    exact tally.sent
  · rw [firsts_again known, replaced, accepted, replacements]
    exact tally.replaced

theorem ack_none_of_receives {e : Event ε} (own : e.receives = true) : ack? (s, e) = none := by
  cases e with
  | ack => cases own
  | _ => rfl

theorem ack_none_of_outer {e : Event ε} {inner : Outbox.Event AckId ε}
    (passed : e.outer? = some inner) : ack? (s, e) = none := by
  cases e with
  | ack => cases passed
  | _ => rfl

theorem item_none_of_outer {e : Event ε} {inner : Outbox.Event AckId ε}
    (passed : e.outer? = some inner) : [inner].filterMap Outbox.Event.item? = [] := by
  cases e <;> cases passed <;> rfl

theorem tally_next {l : List Ack} {e : Event ε} {os : List (Outbox.Event AckId ε)}
    (tally : Tally l s) (moved : AckMoves s e os t) (distinct : (t.held.map (·.serial)).Nodup) :
    Tally (l ++ (ack? (s, e)).toList) t := by
  have marks := tally.marks
  have accepted : os.filterMap Outbox.Event.item? = [] →
      t.outbox.batcher.accepted = s.outbox.batcher.accepted :=
    Outbox.accepted_run (outbox_of_moves moved)
  have aside : ack? (s, e) = none → Marks l t → t.samples = s.samples → t.replaced = s.replaced →
      t.replacements = s.replacements → os.filterMap Outbox.Event.item? = [] →
      Tally (l ++ (ack? (s, e)).toList) t := by
    intro none_acked marks samples replaced replacements silent
    rw [none_acked, Option.toList_none, List.append_nil]
    exact tally.keep marks samples replaced replacements (accepted silent)
  cases moved with
  | apart own same =>
    refine aside (ack_none_of_receives own) ?_ same.samples same.replaced same.replacements rfl
    rcases same.held with kept | ⟨serial, p, grown⟩
    · exact marks.keep kept same.replaced
    · exact marks.grow grown distinct same.replaced
  | again found spent =>
    obtain ⟨known, nothing⟩ := marks.stale found spent
    exact tally.again known (marks.acked found nothing rfl rfl) rfl rfl rfl rfl
  | replace found ready =>
    obtain ⟨fresh, action⟩ := marks.fresh found ready
    have instead := action_replace action
    refine tally.first fresh (marks.acked found rfl rfl rfl) rfl rfl ?_ fun _ => ⟨rfl, rfl⟩
    intro batched
    simp [instead] at batched
  | @submit serial elapsed returns h ackId o found ready moved =>
    obtain ⟨fresh, action⟩ := marks.fresh found ready
    obtain ⟨batched, token⟩ := action_send action
    refine tally.first fresh (marks.acked found rfl rfl rfl) rfl rfl ?_ ?_
    · intro _
      have sent := Outbox.accepted_submit moved
      dsimp only [State.record, State.mark]
      rw [sent, List.map_append, found, Option.bind_some, token]
      split <;> rfl
    · intro instead
      simp [batched] at instead
  | @skip serial elapsed returns h found ready =>
    obtain ⟨fresh, action⟩ := marks.fresh found ready
    obtain ⟨batched, token⟩ := action_nothing action
    refine tally.first fresh (marks.acked found rfl rfl rfl) rfl rfl ?_ ?_
    · intro _
      dsimp only [State.record, State.mark]
      rw [found, Option.bind_some, token]
      simp
    · intro instead
      simp [batched] at instead
  | outer passed =>
    exact aside (ack_none_of_outer passed) (marks.keep rfl rfl) rfl rfl rfl (item_none_of_outer passed)
  | close _ own moved =>
    refine aside (by rcases own with rfl | ⟨rfl, _⟩ <;> rfl) (marks.keep rfl rfl) rfl rfl rfl ?_
    cases moved <;> rfl
  | _ => exact aside rfl (marks.keep rfl rfl) rfl rfl rfl rfl

theorem tally_of_run (reached : run State.step (.new provider replaced options) es = some s) :
    Tally (acks provider replaced options es) s := by
  have base : Tally (acks provider replaced options []) (.new provider replaced options) :=
    ⟨⟨by simp [acks, trace], by simp [State.new], by simp [State.new]⟩, rfl, fun _ => rfl,
      fun _ => ⟨rfl, rfl⟩⟩
  refine run_invariant (P := fun es s => Tally (acks provider replaced options es) s) base ?_ reached
  intro es s e t ran tally moved
  obtain ⟨os, moves⟩ := ackMoves_of_step moved
  have distinct := held_distinct (passed_of_run (run_snoc.mpr ⟨s, ran, moved⟩))
  have grown : acks provider replaced options (es ++ [e]) =
      acks provider replaced options es ++ (ack? (s, e)).toList := by
    rw [acks, trace_snoc ran moved, filterMap_concat, acks]
  rw [grown]
  exact tally_next tally moves distinct

theorem mark_same (distinct : (s.held.map (·.serial)).Nodup) {serial : Nat} {h : Held}
    (found : s.held? serial = some h) : s.mark serial h.ack = s := by
  obtain ⟨there, rfl⟩ := held_found found
  have same : s.held.map (fun x => if x.serial = h.serial then { x with ack := h.ack } else x) =
      s.held := by
    rw [List.map_congr_left (g := id), List.map_id]
    intro x member
    split
    · rename_i name
      rw [List.inj_on_of_nodup_map distinct member there name]
      rfl
    · rfl
  rw [State.mark, same]

/-- A message that has nothing left to run refuses, and nothing else happens. -/
theorem refused_of_spent (distinct : (s.held.map (·.serial)).Nodup) {serial : Nat} {h : Held}
    (found : s.held? serial = some h) (nothing : h.ack.action = none) (elapsed : Duration)
    (returns : Bool) : ((State.ackAnswer h returns).1 = .twice ∨
      (State.ackAnswer h returns).1 = .notReceived) ∧
        s.step (.ack serial elapsed returns) = some s := by
  have answer : State.ackAnswer h returns =
      (if h.ack.acked then .twice else .notReceived, h.ack) := by
    rw [State.ackAnswer, Acknowledgement.ack, nothing]
    cases h.ack.acked <;> rfl
  have same := mark_same distinct found
  simp only [State.step, State.acknowledge, found, Option.bind_eq_bind, Option.bind_some, answer]
  cases h.ack.acked with
  | true => exact ⟨.inl rfl, congrArg some same⟩
  | false => exact ⟨.inr rfl, congrArg some same⟩

theorem attempts_nil {os : List (Outbox.Event AckId ε)} {bs : List (Batcher.Event AckId ε)}
    (reached : Reached provider replaced options es os bs s)
    (empty : s.outbox.batcher.accepted = []) : s.outbox.attempts = [] := by
  rw [List.eq_nil_iff_forall_not_mem]
  intro a member
  have ordered := Batcher.ordered_of_run (Outbox.batcher_run reached.outbox)
  obtain ⟨b, taken, _⟩ := (Outbox.passed_of_reached reached.outbox).carried a member
  have flow := ordered.flow
  rw [empty, List.append_eq_nil_iff] at flow
  have there := List.mem_of_getElem? taken
  exact ordered.full b there (List.flatten_eq_nil_iff.mp flow.1 b there)

theorem replaced_kept {os : List (Outbox.Event AckId ε)} {bs : List (Batcher.Event AckId ε)}
    (reached : Reached provider replaced options es os bs s) : s.replaced = replaced := by
  induction reached with
  | start => rfl
  | @next _ _ _ _ _ s _ e _ moved _ ih =>
    cases moved with
    | apart _ same => exact same.replaced.trans ih
    | _ => exact ih

theorem flow_of_reached {os : List (Outbox.Event AckId ε)} {bs : List (Batcher.Event AckId ε)}
    (reached : Reached provider replaced options es os bs s) :
    s.flow = s.samples.foldl Flow.record (.new options.flow) := by
  induction reached with
  | start => rfl
  | @next _ _ _ _ _ s _ e _ moved _ ih =>
    cases moved with
    | apart _ same => rw [same.flow, same.samples, ih]
    | replace | submit | skip =>
      dsimp only [State.record, State.mark]
      rw [List.foldl_append, List.foldl_cons, List.foldl_nil, ih]
    | _ => exact ih

/-- The tokens of acknowledged messages go out once each and in the order of the first
acknowledgements, in calls that come one at a time; a further acknowledgement is refused and changes
nothing. Where the provider acknowledges in a way of its own, that runs once for each message. -/
theorem acks_once_in_order (provider : Provider ε) (replaced : Bool) (options : SubscriptionOptions)
    (es : List (Event ε)) (s : State ε)
    (reached : run State.step (.new provider replaced options) es = some s) :
    (replaced = false → (s.outbox.attempts.filter (·.first)).flatMap (·.items) ++
      (s.outbox.ready.toList.flatMap (·.batch)).map (·.item) ++
        s.outbox.batcher.pending.map (·.item) =
      ((firsts (acks provider replaced options es)).filter fun a => !a.late).filterMap (·.ackId)) ∧
    s.outbox.attempts.length = (replies es).length + s.outbox.calling?.toList.length ∧
    s.outbox.batcher.running.length ≤ 1 ∧
    (∀ a, s.outbox.attempts.head? = some a → a.first = true) ∧
    s.outbox.attempts.IsChain (fun a b =>
      (b.first = false ∧ b.number = a.number ∧ b.items = a.items) ∨
        (b.first = true ∧ a.number < b.number)) ∧
    (∀ serial ∈ (acks provider replaced options es).map (·.serial), ∀ h elapsed returns,
      s.held? serial = some h → ((State.ackAnswer h returns).1 = .twice ∨
        (State.ackAnswer h returns).1 = .notReceived) ∧
          s.step (.ack serial elapsed returns) = some s) ∧
    s.flow = ((firsts (acks provider replaced options es)).map (·.elapsed)).foldl Flow.record
      (.new options.flow) ∧
    ((firsts (acks provider replaced options es)).map (·.serial)).Nodup ∧
    (replaced = true → s.outbox.attempts = [] ∧
      s.replacements = (firsts (acks provider replaced options es)).length) := by
  have tally := tally_of_run reached
  have distinct := held_distinct (passed_of_run reached)
  obtain ⟨os, bs, reached, _⟩ := reached_of_run reached
  have kept := replaced_kept reached
  have talks := (Outbox.heard_of_reached reached.outbox).talks
  rw [replies_eq reached] at talks
  refine ⟨?_, talks, ?_, (Outbox.passed_of_reached reached.outbox).opening,
    Outbox.repeats reached.outbox, ?_, tally.samples ▸ flow_of_reached reached, firsts_nodup _, ?_⟩
  · intro batched
    rw [Outbox.conserved reached.outbox]
    exact tally.sent (kept.trans batched)
  · have single := (Outbox.one_task reached.outbox).1
    omega
  · intro serial known h elapsed returns found
    obtain ⟨there, same⟩ := held_found found
    exact refused_of_spent distinct found (tally.marks.spent h there (same ▸ known)) elapsed returns
  · intro instead
    obtain ⟨empty, count⟩ := tally.replaced (kept.trans instead)
    exact ⟨attempts_nil reached empty, count⟩

def relay : Provider String := ⟨"relay", fun _ => true, fun _ => .unknown⟩

/-- Four messages, the third without a token. The second is acknowledged first and again later, the
first batch needs a second attempt, and the last message is acknowledged after the shutdown. -/
def fourMessages : List (Event String) :=
  [.receive 1 none, .receiveStep 1, .receiveStep 1,
    .fetched 1 (.ok [parcel 0, parcel 1, { parcel 2 with ackId := none }, parcel 3]) 0,
    .receiveStep 1, .receiveStep 1, .receiveStep 1, .receive 2 none, .receiveStep 2,
    .receive 3 none, .receiveStep 3, .receive 4 none, .receiveStep 4, .ack 1 (.ofSecs 4) true,
    .ackLook, .ackCall, .ack 0 (.ofSecs 5) true, .ack 1 (.ofSecs 6) true, .ack 2 (.ofSecs 7) true,
    .ackReturned (.error (.native "busy")) 0, .ackResumed, .ackReturned (.ok ()) 0,
    .shutdown 9 none, .shutdownStep 9, .shutdownStep 9, .shutdownStep 9, .ack 3 (.ofSecs 8) true,
    .ackLook]

theorem acks_once_in_order_four_messages :
    ∃ s : State String, run State.step (.new relay false default) fourMessages = some s ∧
      s.outbox.attempts.map (fun a => (a.first, a.items)) =
        [(true, [.number 1]), (false, [.number 1])] ∧
      s.samples = [.ofSecs 4, .ofSecs 5, .ofSecs 7, .ofSecs 8] ∧
      (s.outbox.attempts.filter (·.first)).flatMap (·.items) ++
        (s.outbox.ready.toList.flatMap (·.batch)).map (·.item) ++
          s.outbox.batcher.pending.map (·.item) = [.number 1, .number 0] ∧
      s.outbox.attempts.length = (replies fourMessages).length + s.outbox.calling?.toList.length := by
  have ran : (run State.step (.new relay false default) fourMessages).map (fun s =>
      (s.outbox.attempts.map (fun a => (a.first, a.items)), s.samples)) =
        some ([(true, [.number 1]), (false, [.number 1])],
          [.ofSecs 4, .ofSecs 5, .ofSecs 7, .ofSecs 8]) := by
    decide +kernel
  have sent : ((firsts (acks relay false default fourMessages)).filter fun a => !a.late).filterMap
      (·.ackId) = [.number 1, .number 0] := by
    decide +kernel
  obtain ⟨s, reached, facts⟩ := Option.map_eq_some_iff.mp ran
  have h := acks_once_in_order relay false default fourMessages s reached
  obtain ⟨flow, talks, _⟩ := h
  exact ⟨s, reached, congrArg Prod.fst facts, congrArg Prod.snd facts, (flow rfl).trans sent, talks⟩

end Courier.Subscription
