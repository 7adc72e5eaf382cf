import Courier.Proofs.Flow
import Courier.Proofs.Subscription.Answers
import Courier.Proofs.Subscription.Fetches

/-! How much the rounds of fetching ask for. The size is settled as the round begins, by what has been
acknowledged until then, and every call of the round asks for it. A round begins only where nothing is
queued, so a provider that brings no more than it is asked for never has more queued than its latest
batch could hold. -/

namespace Courier.Subscription

variable {ε : Type} {s t : State ε} {e : Event ε} {provider : Provider ε} {replaced : Bool}
  {options : SubscriptionOptions} {es : List (Event ε)}

def State.size? (s : State ε) (r : Nat) : Option Nat := s.rounds[r]?.map (·.size)

/-- The round began in this run, and its size is what the processing times of the messages that had been
acknowledged by then come to. -/
def SizedBy (provider : Provider ε) (replaced : Bool) (options : SubscriptionOptions)
    (es : List (Event ε)) (r size : Nat) : Prop :=
  ∃ before e after u id, es = before ++ e :: after ∧
    run State.step (.new provider replaced options) before = some u ∧ u.rounds.length = r ∧
    Starts u e id ∧
    size = (((firsts (acks provider replaced options before)).map (·.elapsed)).foldl Flow.record
      (.new options.flow)).fetchSize ∧
    (acks provider replaced options before = [] → size = 1)

/-- The round of the latest answer that brought a batch. -/
def latest? (l : List (Answer ε)) : Option Nat :=
  (l.filterMap fun a => match a.result with
    | .ok _ => some a.round
    | .error _ => none).getLast?

/-- The receive is to bring a batch, or has one that is not in the queue. -/
def ReceivePhase.brings : ReceivePhase ε → Bool
  | .opening .. => true
  | .fetching .. => true
  | .storing .. => true
  | _ => false

/-- A batch that comes in is no larger than it was asked for. -/
def modest (x : State ε × Event ε) : Bool :=
  match x.2 with
  | .fetched id (.ok batch) _ => (x.1.receive? id).all fun c => match c.phase with
    | .fetching _ size _ => decide (batch.length ≤ size)
    | _ => true
  | _ => true

theorem size_signal (s : State ε) (q r : Nat) : (s.signal q).size? r = s.size? r := by
  rw [State.size?, State.signal, List.getElem?_modify, Option.map_eq_map, Option.map_map, State.size?]
  congr 1
  funext round
  by_cases same : q = r
  · simp [same]
  · simp [same]

theorem size_kept (guarding : Guarding s e t) {r size : Nat} (sized : s.size? r = some size) :
    t.size? r = some size := by
  cases guarding with
  | keep _ rounds => rw [State.size?, rounds, ← State.size?, sized]
  | begin _ _ _ rounds =>
    obtain ⟨round, there, rfl⟩ := Option.map_eq_some_iff.mp sized
    have bound := (List.getElem?_eq_some_iff.mp there).1
    rw [State.size?, rounds, List.getElem?_append_left bound, there, Option.map_some]
  | tell q _ rounds => rw [State.size?, rounds, ← State.size?, size_signal, sized]

theorem size_cases (guarding : Guarding s e t) {r size : Nat} (sized : t.size? r = some size) :
    s.size? r = some size ∨
      (∃ id, Starts s e id) ∧ r = s.rounds.length ∧ size = s.flow.fetchSize := by
  cases guarding with
  | keep _ rounds => exact .inl (by rw [State.size?, ← rounds]; exact sized)
  | begin id starts _ rounds =>
    rw [State.size?, rounds] at sized
    rcases Nat.lt_trichotomy r s.rounds.length with old | new | beyond
    · rw [List.getElem?_append_left old] at sized
      exact .inl sized
    · rw [new, List.getElem?_concat_length] at sized
      exact .inr ⟨⟨id, starts⟩, new, (Option.some.inj sized).symm⟩
    · rw [List.getElem?_eq_none (by simp; omega)] at sized
      cases sized
  | tell q _ rounds =>
    rw [State.size?, rounds, ← State.size?, size_signal] at sized
    exact .inl sized

theorem flow_of_run (reached : run State.step (.new provider replaced options) es = some s) :
    s.flow = ((firsts (acks provider replaced options es)).map (·.elapsed)).foldl Flow.record
      (.new options.flow) := by
  obtain ⟨os, bs, ran, _⟩ := reached_of_run reached
  rw [← (tally_of_run reached).samples]
  exact flow_of_reached ran

theorem SizedBy.later {r size : Nat} (sized : SizedBy provider replaced options es r size)
    (e : Event ε) : SizedBy provider replaced options (es ++ [e]) r size := by
  obtain ⟨before, d, after, u, id, rfl, ran⟩ := sized
  exact ⟨before, d, after ++ [e], u, id, by simp, ran⟩

theorem sized_of_run (reached : run State.step (.new provider replaced options) es = some s)
    {r size : Nat} (sized : s.size? r = some size) :
    SizedBy provider replaced options es r size := by
  refine run_invariant (P := fun es s => ∀ r size, s.size? r = some size →
    SizedBy provider replaced options es r size) ?_ ?_ reached r size sized
  · intro r size sized
    cases sized
  · intro es s e t before ih moved r size sized
    have guarding := guarding_of_moves (owned_of_run before) (moves_of_step moved)
    rcases size_cases guarding sized with old | ⟨⟨id, starts⟩, rfl, rfl⟩
    · exact (ih r size old).later e
    · -- the average that the new round reads is the one of all that was acknowledged so far
      have flow := flow_of_run before
      refine ⟨es, e, [], s, id, rfl, before, rfl, starts, congrArg Flow.fetchSize flow, ?_⟩
      intro none_yet
      rw [flow, none_yet]
      exact Flow.fetchSize_fresh options.flow

theorem SizedBy.bounds {r size : Nat} (sized : SizedBy provider replaced options es r size) :
    1 ≤ size ∧ size ≤ max 1 options.flow.maxFetchSize.toNat := by
  obtain ⟨before, e, after, u, id, _, _, _, _, rfl, _⟩ := sized
  have bounds := Flow.fetchSize_bounds (((firsts (acks provider replaced options before)).map
    (·.elapsed)).foldl Flow.record (.new options.flow))
  rw [Flow.foldl_options] at bounds
  exact bounds

theorem begun_of_starts {id : Nat} (starts : Starts s e id) (moved : s.step e = some t) :
    t = s.beginRound id := by
  obtain ⟨rfl, c, found, looks, sound, empty, free, unfired⟩ := starts
  simp only [State.step, found, State.moveReceive, looks, State.look, sound, empty, free, unfired,
    Option.bind_eq_bind, Option.bind_some] at moved
  exact (Option.some.inj moved).symm

/-- Every call for messages asks for the size of its round, and every round has called, save the one
whose owner has yet to. -/
structure Asked (s : State ε) : Prop where
  called : ∀ a ∈ s.fetches, s.size? a.round = some a.size
  calls : ∀ id c r size made, Asking s id c r size made → s.size? r = some size
  each : ∀ r < s.rounds.length, (∃ a ∈ s.fetches, a.round = r) ∨ r ∈ s.unopened

theorem size_begun (s : State ε) (id : Nat) :
    (s.beginRound id).size? s.rounds.length = some s.flow.fetchSize := by
  simp [State.size?, State.beginRound, State.setReceive]

/-- A round that has been called stays so, and one that has not is called by its owner. -/
theorem called_next (owned : Owned s) (asks : Asks s e t) {r : Nat}
    (before : (∃ a ∈ s.fetches, a.round = r) ∨ r ∈ s.unopened) :
    (∃ a ∈ t.fetches, a.round = r) ∨ r ∈ t.unopened := by
  cases asks with
  | rest _ same quiet => rwa [same, quiet.unopened]
  | begin _ _ free =>
    rcases before with ⟨a, member, round⟩ | opens
    · exact .inl ⟨a, member, round⟩
    · rw [unopened_free owned free] at opens
      cases opens
  | call _ found opens =>
    have round := (owner_alone owned found (owned_of_asking (by rw [opens]; rfl))).2.1
    rcases before with ⟨a, member, same⟩ | first
    · exact .inl ⟨a, List.mem_append_left _ member, same⟩
    · have mine := (unopened_sublist owned).subset first
      rw [round, Option.toList_some, List.mem_singleton] at mine
      exact .inl ⟨_, List.mem_append_right _ List.mem_cons_self, mine.symm⟩
  | @pause _ _ _ _ _ after _ _ _ found fetches =>
    rwa [unopened_kept owned.distinct found fetches after]
  | @again _ _ _ _ _ after _ found fetches =>
    rcases before with ⟨a, member, round⟩ | opens
    · exact .inl ⟨a, List.mem_append_left _ member, round⟩
    · exact .inr ((unopened_kept owned.distinct found fetches after).symm ▸ opens)

theorem Asked.next (owned : Owned s) (asked : Asked s) (moved : s.step e = some t) : Asked t := by
  have moves := moves_of_step moved
  have guarding := guarding_of_moves owned moves
  have asks := asks_of_moves owned.distinct moves
  have kept : ∀ r size, s.size? r = some size → t.size? r = some size :=
    fun r size sized => size_kept guarding sized
  refine ⟨?_, ?_, ?_⟩
  · intro a member
    cases asks with
    | rest _ same => exact kept _ _ (asked.called a (same ▸ member))
    | begin => exact kept _ _ (asked.called a member)
    | call _ found opens =>
      rcases List.mem_append.mp member with old | new
      · exact kept _ _ (asked.called a old)
      · cases List.mem_singleton.mp new
        exact kept _ _ (asked.calls _ _ _ _ 0 ⟨found, by rw [opens]; rfl⟩)
    | pause => exact kept _ _ (asked.called a member)
    | again found fetches =>
      rcases List.mem_append.mp member with old | new
      · exact kept _ _ (asked.called a old)
      · cases List.mem_singleton.mp new
        exact kept _ _ (asked.calls _ _ _ _ _ ⟨found, by rw [fetches]; rfl⟩)
  · intro id c r size made asking
    have other : ∀ {i : Nat} {d : Receive ε} {phase : ReceivePhase ε}, s.receive? i = some d →
        (∀ q n made, phase.asking? = some (q, n, made) → t.size? q = some n) →
        Asking (s.setReceive i phase) id c r size made → t.size? r = some size := by
      intro i d phase found mine now
      rcases asking_set owned.distinct found now with ⟨_, old⟩ | ⟨_, _, new⟩
      · exact kept _ _ (asked.calls id c r size made old)
      · exact mine r size made new
    cases asks with
    | rest _ _ quiet =>
      have before := call_found owned.distinct (quiet.kept _ (call_member asking.1) _ asking.2)
      exact kept _ _ (asked.calls id c r size made ⟨before, asking.2⟩)
    | begin found =>
      refine other found (fun q n made new => ?_) asking
      cases new
      exact size_begun s _
    | call _ found opens =>
      refine other found (fun q n made new => ?_) asking
      cases new
      exact kept _ _ (asked.calls _ _ _ _ 0 ⟨found, by rw [opens]; rfl⟩)
    | pause found fetches | again found fetches =>
      refine other found (fun q n made new => ?_) asking
      cases new
      exact kept _ _ (asked.calls _ _ _ _ _ ⟨found, by rw [fetches]; rfl⟩)
  · intro r bound
    cases guarding with
    | keep _ rounds => exact called_next owned asks (asked.each r (rounds ▸ bound))
    | tell q _ rounds =>
      rw [rounds, State.signal, List.length_modify] at bound
      exact called_next owned asks (asked.each r bound)
    | begin id starts _ rounds =>
      rw [rounds, List.length_append, List.length_singleton] at bound
      by_cases new : r = s.rounds.length
      · subst new
        rw [begun_of_starts starts moved]
        obtain ⟨_, c, found, _⟩ := starts
        have member := call_member (receive_set owned.distinct found
          (.opening s.rounds.length s.flow.fetchSize))
        exact .inr (List.mem_filterMap.mpr ⟨_, member, rfl⟩)
      · exact called_next owned asks (asked.each r (by omega))

theorem asked_of_run (reached : run State.step (.new provider replaced options) es = some s) :
    Asked s := by
  refine run_invariant (P := fun _ s => Asked s) 
    ⟨by simp [State.new], ?_, by simp [State.new]⟩ ?_ reached
  · rintro id c r size made ⟨found, _⟩
    cases found
  · intro es s e t before asked moved
    exact asked.next (owned_of_run before) moved

theorem brings_cases {phase : ReceivePhase ε} (brings : phase.brings = true) :
    (∃ r size made, phase.asking? = some (r, size, made)) ∨ ∃ r batch, phase = .storing r batch := by
  cases phase with
  | opening r size => exact .inl ⟨r, size, 0, rfl⟩
  | fetching r size call => exact .inl ⟨r, size, call.attempts, rfl⟩
  | storing r batch => exact .inr ⟨r, batch, rfl⟩
  | _ => cases brings

theorem owned_of_brings {phase : ReceivePhase ε} (brings : phase.brings = true) :
    ∃ r, phase.owned? = some r := by
  rcases brings_cases brings with ⟨r, _, _, asks⟩ | ⟨r, _, rfl⟩
  · exact ⟨r, owned_of_asking asks⟩
  · exact ⟨r, rfl⟩

theorem empty_of_origin {id : Nat} {c : Receive ε} (origin : Origin s e id c)
    (brings : c.phase.brings = true) :
    (∃ d, s.receive? id = some d ∧ d.phase.brings = true) ∨ s.queue = [] := by
  cases origin with
  | stays before => exact .inl ⟨c, before, brings⟩
  | arrives => cases brings
  | changes found change =>
    cases change with
    | begin _ _ empty => exact .inr empty
    | call _ opens => exact .inl ⟨_, found, by rw [opens]; rfl⟩
    | bring _ fetches => exact .inl ⟨_, found, by rw [fetches]; rfl⟩
    | goOn fetches => exact .inl ⟨_, found, by rw [fetches]; rfl⟩
    | conclude _ ends =>
      cases follows_of_conclusion ends <;> cases brings
    | signal _ _ goes =>
      cases follows_of_sequel goes <;> cases brings
    | _ => cases brings

theorem queue_next (owned : Owned s) (moved : Moves s e t) : t.queue = s.queue ∨ s.queue ≠ [] ∨
    ∃ id r c, t.receive? id = some c ∧ c.phase = .stored r := by
  cases moved with
  | aside same => exact .inl same.queue
  | handOut _ _ _ queue => exact .inr (.inl (by simp [queue]))
  | store found =>
    exact .inr (.inr ⟨_, _, _, receive_set owned.distinct found _, rfl⟩)
  | _ => exact .inl rfl

/-- Nothing is queued as long as a round is to bring a batch; what is queued, with a batch that is
about to be, fits into what the latest round with a batch has asked for. -/
structure Stocked (l : List (Answer ε)) (s : State ε) : Prop where
  empty : ∀ id c, s.receive? id = some c → c.phase.brings = true → s.queue = []
  bound : s.queue.length + s.inHand.length ≤ ((latest? l).bind s.size?).getD 0

theorem latest_snoc (l : List (Answer ε)) (a : Answer ε) : latest? (l ++ [a]) =
    match a.result with
    | .ok _ => some a.round
    | .error _ => latest? l := by
  rw [latest?, List.filterMap_append]
  cases result : a.result with
  | ok batch => simp [result]
  | error f => simp [result, latest?]

theorem answer_of_batch (owned : Owned s) (moved : s.step e = some t) (comes : e.batch ≠ []) :
    ∃ a, answer? (s, e) = some a ∧ a.result = .ok e.batch := by
  cases e with
  | fetched id result jitter =>
    cases result with
    | error => exact absurd rfl comes
    | ok batch =>
      obtain ⟨c, r, size, call, found, _, _, rfl⟩ := bring_of_step moved
      have now := receive_set owned.distinct found (.storing r batch)
      exact ⟨_, answer_at moved rfl now rfl, rfl⟩
  | _ => exact absurd rfl comes

theorem latest_kept (guarding : Guarding s e t) (l : List (Answer ε)) :
    ((latest? l).bind s.size?).getD 0 ≤ ((latest? l).bind t.size?).getD 0 := by
  cases latest? l with
  | none => exact Nat.le_refl 0
  | some r =>
    cases sized : s.size? r with
    | none => simp [sized]
    | some size => simp [sized, size_kept guarding sized]

theorem Stocked.empty_next {l : List (Answer ε)} (stocked : Stocked l s) (owned : Owned s)
    (moved : Moves s e t) {id : Nat} {c : Receive ε} (found : t.receive? id = some c)
    (brings : c.phase.brings = true) : t.queue = [] := by
  have before : s.queue = [] := by
    rcases empty_of_origin (origin_of_moves owned.distinct moved found) brings with
      ⟨d, there, earlier⟩ | empty
    · exact stocked.empty id d there earlier
    · exact empty
  rcases queue_next owned moved with same | some_queued | ⟨i, r, d, there, stored⟩
  · exact same.trans before
  · exact absurd before some_queued
  · -- the one that has just stored its batch is the only owner
    obtain ⟨q, owns⟩ := owned_of_brings brings
    have now := owned_next owned moved
    have mine := (owner_alone now found owns).1
    have its := (owner_alone now there (r := r) (by rw [stored]; rfl)).1
    cases mine.symm.trans its
    cases found.symm.trans there
    rw [stored] at brings
    cases brings

/-- Where no batch comes in, what is queued and what is in hand are together no more than before. -/
theorem Stocked.steady {l : List (Answer ε)} (stocked : Stocked l s) (owned : Owned s)
    (moved : Moves s e t) (nothing : e.batch = []) :
    t.queue.length + t.inHand.length ≤ ((latest? l).bind t.size?).getD 0 := by
  have before := Nat.le_trans stocked.bound (latest_kept (guarding_of_moves owned moved) l)
  cases passage_of_moves owned moved with
  | still _ _ inHand queue => rwa [inHand, queue]
  | bring _ _ inHand queue =>
    rw [inHand, queue, nothing, List.length_nil]
    omega
  | store _ _ inHand queue =>
    rw [inHand, queue, List.length_append, List.length_map, List.length_zipIdx, List.length_nil]
    omega
  | handOut _ d _ _ inHand queue =>
    rw [queue, List.length_cons] at before
    rw [inHand]
    omega

/-- A batch that comes in finds nothing queued, and is no larger than its round asked for. -/
theorem Stocked.filled {l : List (Answer ε)} (stocked : Stocked l s) (owned : Owned s)
    (asked : Asked s) (moved : s.step e = some t) (fair : modest (s, e) = true) {a : Answer ε}
    (answers : answer? (s, e) = some a) {batch : List Parcel} (result : a.result = .ok batch) :
    t.queue.length + t.inHand.length ≤ (t.size? a.round).getD 0 := by
  have moves := moves_of_step moved
  obtain ⟨c, size, call, phase, found, fetches, now, brings⟩ := answer_cases owned moved answers
  have stores : phase = .storing a.round batch := by
    rw [result] at brings
    cases phase <;> cases brings
    rfl
  subst stores
  have asks : batch.length ≤ size := by
    rcases storing_of_origin (origin_of_moves owned.distinct moves now) rfl with
      before | ⟨jitter, rfl⟩
    · rw [← Option.some.inj (before.symm.trans found)] at fetches
      cases fetches
    · simpa [modest, found, fetches] using fair
  have holds : t.inHand = batch := by
    have alone := (inHand_of_owner (owned_next owned moves) now (r := a.round) rfl).1
    simpa [carried] using alone
  have sized := size_kept (guarding_of_moves owned moves)
    (asked.calls a.id c a.round size call.attempts ⟨found, by rw [fetches]; rfl⟩)
  have empty := stocked.empty_next owned moves now rfl
  -- everything there is then is this batch
  rw [empty, holds, sized, List.length_nil, Option.getD_some]
  omega

theorem Stocked.next {l : List (Answer ε)} (stocked : Stocked l s) (owned : Owned s) (asked : Asked s)
    (moved : s.step e = some t) (fair : modest (s, e) = true) :
    Stocked (l ++ (answer? (s, e)).toList) t := by
  have moves := moves_of_step moved
  refine ⟨fun id c found brings => stocked.empty_next owned moves found brings, ?_⟩
  cases answers : answer? (s, e) with
  | none =>
    rw [Option.toList_none, List.append_nil]
    apply stocked.steady owned moves
    by_contra comes
    obtain ⟨a, brings, _⟩ := answer_of_batch owned moved comes
    cases answers.symm.trans brings
  | some a =>
    rw [Option.toList_some, latest_snoc]
    cases result : a.result with
    | error f =>
      apply stocked.steady owned moves
      by_contra comes
      obtain ⟨b, brings, ok⟩ := answer_of_batch owned moved comes
      cases answers.symm.trans brings
      cases result.symm.trans ok
    | ok batch => exact stocked.filled owned asked moved fair answers result

theorem stocked_of_run (reached : run State.step (.new provider replaced options) es = some s)
    (fair : (trace State.step (.new provider replaced options) es).all modest = true) :
    Stocked (answers provider replaced options es) s := by
  refine run_invariant (P := fun es s =>
    (trace State.step (.new provider replaced options) es).all modest = true →
    Stocked (answers provider replaced options es) s) ?_ ?_ reached fair
  · intro _
    refine ⟨fun id c found => ?_, Nat.le_refl 0⟩
    cases found
  · intro es s e t before ih moved fair
    rw [trace_snoc before moved, List.all_append, Bool.and_eq_true] at fair
    have now : modest (s, e) = true := by simpa using fair.2
    rw [answers_snoc before moved]
    exact (ih fair.1).next (owned_of_run before) (asked_of_run before) moved now

/-- Each round asks for what the messages acknowledged before it began come to, for a single one if
there were none. It has called the provider, unless its owner is just about to, and all its calls ask
for the same. Where the provider brings no more than it is asked for, no more is queued than the latest
round with a batch asked for, which is within the limit. -/
theorem sizes_follow_acknowledgements (provider : Provider ε) (replaced : Bool)
    (options : SubscriptionOptions) (es : List (Event ε)) (s : State ε)
    (reached : run State.step (.new provider replaced options) es = some s) :
    (∀ r < s.rounds.length, ∃ size, s.size? r = some size ∧
      SizedBy provider replaced options es r size ∧
      ((∃ a ∈ s.fetches, a.round = r) ∨ s.unopened = [r]) ∧
        ∀ a ∈ s.fetches, a.round = r → a.size = size) ∧
    (∀ a ∈ s.fetches, a.round < s.rounds.length) ∧
    ((trace State.step (.new provider replaced options) es).all modest = true →
      s.queue.length ≤
          ((latest? (answers provider replaced options es)).bind s.size?).getD 0 ∧
        s.queue.length ≤ max 1 options.flow.maxFetchSize.toNat) := by
  have asked := asked_of_run reached
  refine ⟨?_, ?_, ?_⟩
  · intro r begun
    have sized : s.size? r = some (s.rounds[r]).size := by
      rw [State.size?, List.getElem?_eq_getElem begun, Option.map_some]
    refine ⟨_, sized, sized_of_run reached sized, ?_, ?_⟩
    · exact (asked.each r begun).imp_right (unopened_eq (owned_of_run reached))
    · rintro a member rfl
      exact Option.some.inj ((asked.called a member).symm.trans sized)
  · intro a member
    obtain ⟨round, there, _⟩ := Option.map_eq_some_iff.mp (asked.called a member)
    exact (List.getElem?_eq_some_iff.mp there).1
  · intro fair
    have bound := (stocked_of_run reached fair).bound
    refine ⟨by omega, ?_⟩
    cases latest : (latest? (answers provider replaced options es)).bind s.size? with
    | none =>
      rw [latest, Option.getD_none] at bound
      omega
    | some size =>
      obtain ⟨r, _, sized⟩ := Option.bind_eq_some_iff.mp latest
      have limit := (sized_of_run reached sized).bounds.2
      rw [latest, Option.getD_some] at bound
      omega

/-- One message takes half a second, so the next round asks for four to last two seconds. Its first call
fails and is made again, and brings three. -/
def halfSecond : List (Event String) :=
  [.receive 1 none, .receiveStep 1, .receiveStep 1, .fetched 1 (.ok [parcel 0]) 0, .receiveStep 1,
    .receiveStep 1, .receiveStep 1, .ack 0 (.ofMillis 500) true, .receive 2 none, .receiveStep 2,
    .receiveStep 2, .fetched 2 (.error (.native "busy")) 0, .fetchResumed 2,
    .fetched 2 (.ok [parcel 1, parcel 2, parcel 3]) 0, .receiveStep 2]

theorem sizes_follow_acknowledgements_half_second :
    ∃ s : State String, run State.step (.new relay false default) halfSecond = some s ∧
      s.fetches.map (·.size) = [1, 4, 4] ∧ SizedBy relay false default halfSecond 1 4 ∧
      latest? (answers relay false default halfSecond) = some 1 ∧ s.queue.length = 3 ∧
      s.queue.length ≤ (s.size? 1).getD 0 := by
  have ran : (run State.step (.new relay false default) halfSecond).map (fun s =>
      (s.fetches.map (·.size), s.queue.length, s.rounds.map (·.size))) =
        some ([1, 4, 4], 3, [1, 4]) := by
    decide +kernel
  have fair : (trace State.step (.new relay false default) halfSecond).all modest = true := by
    decide +kernel
  have latest : latest? (answers relay false default halfSecond) = some 1 := by decide +kernel
  obtain ⟨s, reached, facts⟩ := Option.map_eq_some_iff.mp ran
  have sizes : s.rounds.map (·.size) = [1, 4] := congrArg (fun x => x.2.2) facts
  have h := sizes_follow_acknowledgements relay false default halfSecond s reached
  obtain ⟨rounds, _, queued⟩ := h
  have count : s.rounds.length = 2 := by simpa using congrArg List.length sizes
  obtain ⟨size, sized, by_acks, _⟩ := rounds 1 (by omega)
  have four : size = 4 := by
    rw [State.size?, ← List.getElem?_map, sizes] at sized
    exact (Option.some.inj sized).symm
  have bound := (queued fair).1
  rw [latest, Option.bind_some] at bound
  exact ⟨s, reached, congrArg Prod.fst facts, four ▸ by_acks, latest, congrArg (fun x => x.2.1) facts,
    bound⟩

end Courier.Subscription
