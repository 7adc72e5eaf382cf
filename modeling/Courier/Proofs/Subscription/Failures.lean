import Courier.Proofs.Subscription.Sizes

/-! What the calls for messages returned, round by round. Within a round calls and returns take turns,
so the error that a fetch fails with is what its last call returned. The owner of the round is told of
that error, as the provider's fault for it. -/

namespace Courier.Subscription

variable {ε : Type} {s t : State ε} {e : Event ε} {provider : Provider ε} {replaced : Bool}
  {options : SubscriptionOptions} {es : List (Event ε)}

/-- What a call for messages returned, and the round that it was made in. -/
structure Return (ε : Type) where
  round : Nat
  result : Except (Trouble ε) (List Parcel)

def returned? (x : State ε × Event ε) : Option (Return ε) :=
  match x.2 with
  | .fetched id result _ => (x.1.receive? id).bind fun c => match c.phase with
    | .fetching r _ _ => some ⟨r, result⟩
    | _ => none
  | _ => none

def returns (provider : Provider ε) (replaced : Bool) (options : SubscriptionOptions)
    (es : List (Event ε)) : List (Return ε) :=
  (trace State.step (.new provider replaced options) es).filterMap returned?

/-- How often the provider has been called in this round. -/
def State.calls (s : State ε) (r : Nat) : Nat := s.fetches.countP (·.round = r)

/-- Every call of the round has returned, the last one with this error. -/
structure FailedWith (l : List (Return ε)) (s : State ε) (r : Nat) (trouble : Trouble ε) : Prop where
  even : s.calls r = l.countP (·.round = r)
  last : (l.filter (·.round = r)).getLast? = some ⟨r, .error trouble⟩

/-- The retried call of this receive is not over. -/
def Fetching (s : State ε) (id : Nat) (c : Receive ε) (r size : Nat) (call : Fetch ε) : Prop :=
  s.receive? id = some c ∧ c.phase = .fetching r size call

theorem asking_of_fetching {id : Nat} {c : Receive ε} {r size : Nat} {call : Fetch ε}
    (fetches : Fetching s id c r size call) : Asking s id c r size call.attempts :=
  ⟨fetches.1, by rw [fetches.2]; rfl⟩

theorem returned_of_moment {id : Nat} {c : Receive ε} {r size : Nat} {call : Fetch ε}
    {inner : Retry.Event (List Parcel) (Trouble ε)} (fetches : Fetching s id c r size call)
    (moment : Moment s id c e inner) : returned? (s, e) = inner.result?.map (⟨r, ·⟩) := by
  cases moment with
  | returned result jitter => simp [returned?, fetches.1, fetches.2, Retry.Event.result?]
  | _ => rfl

theorem returned_cases {x : Return ε} (returned : returned? (s, e) = some x) :
    ∃ id c r size call result jitter, e = .fetched id result jitter ∧
      Fetching s id c r size call ∧ x = ⟨r, result⟩ := by
  unfold returned? at returned
  split at returned
  · rename_i id result jitter event
    obtain ⟨c, found, returned⟩ := Option.bind_eq_some_iff.mp returned
    split at returned
    · rename_i fetches
      exact ⟨id, c, _, _, _, result, jitter, event, ⟨found, fetches⟩,
        (Option.some.inj returned).symm⟩
    · contradiction
  · contradiction

/-- What a step does to the calls for messages: nothing, or it begins a round, or it makes the first
call of a round, or it is a moment of the retried call of the only fetch. -/
inductive Talks (s : State ε) (e : Event ε) (t : State ε) : Prop
  | silent (mute : returned? (s, e) = none) (same : t.fetches = s.fetches) (quiet : Quiet s t)
  | begin {id : Nat} {c : Receive ε} (mute : returned? (s, e) = none) (found : s.receive? id = some c)
      (free : s.round = none) (begins : t = s.beginRound id)
  | call {id : Nat} {c : Receive ε} {r size : Nat} (mute : returned? (s, e) = none)
      (found : s.receive? id = some c) (opens : c.phase = .opening r size)
      (calls : t = (s.ask c r size).setReceive id (.fetching r size .start))
  | moment {id : Nat} {c : Receive ε} {r size : Nat} {call after : Fetch ε}
      {inner : Retry.Event (List Parcel) (Trouble ε)} (fetches : Fetching s id c r size call)
      (stepped : call.step s.policy s.provider.retryable inner = some after)
      (returned : returned? (s, e) = inner.result?.map (⟨r, ·⟩))
      (calls : (t.fetches = s.fetches ∧ after.phase ≠ .attempting) ∨
        (∃ canceled, t.fetches = s.fetches ++ [⟨r, size, canceled⟩] ∧ after.phase = .attempting))
      (unopened : t.unopened = s.unopened)
      (goes : ∀ i d q n x, Fetching t i d q n x → q = r ∧ x = after ∧ after.finished = false)

/-- No other receive fetches, so only the phase counts that the owner goes on to. -/
theorem fetching_after (owned : Owned s) {id : Nat} {c : Receive ε} {r size made : Nat}
    (asks : Asking s id c r size made) {phase : ReceivePhase ε} {i : Nat} {d : Receive ε}
    {q n : Nat} {x : Fetch ε} (now : Fetching (s.setReceive id phase) i d q n x) :
    phase = .fetching q n x := by
  rcases asking_set owned.distinct asks.1 (asking_of_fetching now) with ⟨other, old⟩ | ⟨_, same, _⟩
  · exact absurd (asking_alone owned asks old).2.1 other
  · have phase := now.2
    rwa [same] at phase

theorem talks_of_step (owned : Owned s) (moved : s.step e = some t) : Talks s e t := by
  have moves := moves_of_step moved
  have onward : ∀ {id : Nat} {c : Receive ε} {r size : Nat} {call after : Fetch ε},
      Fetching s id c r size call → after.finished = false → ∀ i d q n x,
      Fetching (s.setReceive id (.fetching r size after)) i d q n x →
        q = r ∧ x = after ∧ after.finished = false := by
    intro id c r size call after fetches going i d q n x now
    cases fetching_after owned (asking_of_fetching fetches) now
    exact ⟨rfl, rfl, going⟩
  have away : ∀ {id : Nat} {c : Receive ε} {r size : Nat} {call after : Fetch ε}
      {phase : ReceivePhase ε}, Fetching s id c r size call →
      (∀ q n x, phase ≠ .fetching q n x) → ∀ i d q n x,
      Fetching (s.setReceive id phase) i d q n x → q = r ∧ x = after ∧ after.finished = false :=
    fun fetches other _ _ q n x now =>
      absurd (fetching_after owned (asking_of_fetching fetches) now) (other q n x)
  have past : ∀ {id : Nat} {c : Receive ε} {r size : Nat} {call : Fetch ε} {phase : ReceivePhase ε},
      Fetching s id c r size call → opening (id, { c with phase := phase }) = none →
      (s.setReceive id phase).unopened = s.unopened := by
    intro id c r size call phase fetches other
    refine read_kept owned.distinct fetches.1 (f := fun c => { c with phase := phase })
      (other.trans ?_)
    simp [opening, fetches.2]
  -- A step in which nothing returns is known by its calls alone; a return can go on in five ways.
  cases said : returned? (s, e) with
  | none =>
    cases asks_of_moves owned.distinct moves with
    | rest _ same quiet => exact .silent said same quiet
    | begin found _ free => exact .begin said found free rfl
    | call _ found opens => exact .call said found opens rfl
    | pause found fetches moment stepped pausing =>
      exact .moment ⟨found, fetches⟩ stepped (returned_of_moment ⟨found, fetches⟩ moment)
        (.inl ⟨rfl, by simp [pausing]⟩) (past ⟨found, fetches⟩ rfl)
        (onward ⟨found, fetches⟩ (by simp [Retry.Call.finished, pausing]))
    | again found fetches moment stepped attempting =>
      exact .moment ⟨found, fetches⟩ stepped (returned_of_moment ⟨found, fetches⟩ moment)
        (.inr ⟨_, rfl, attempting⟩) (past ⟨found, fetches⟩ rfl)
        (onward ⟨found, fetches⟩ (by simp [Retry.Call.finished, attempting]))
  | some x =>
    obtain ⟨id, _, _, _, _, result, jitter, rfl, _⟩ := returned_cases said
    cases moves with
    | aside _ outside => cases outside
    | @bring _ c _ _ call batch _ found fetches attempting =>
      have stepped : call.step s.policy s.provider.retryable
          (.returned (.ok batch) (fires s.fired c.token) jitter) =
            some { call with phase := .done (.ok batch) } := by
        simp [Retry.Call.step, attempting]
      exact .moment ⟨found, fetches⟩ stepped
        (returned_of_moment ⟨found, fetches⟩ (.returned (.ok batch) jitter))
        (.inl ⟨rfl, by simp⟩) (past ⟨found, fetches⟩ rfl) (away ⟨found, fetches⟩ (by simp))
    | fail found fetches moment _ stepped failed =>
      exact .moment ⟨found, fetches⟩ stepped (returned_of_moment ⟨found, fetches⟩ moment)
        (.inl ⟨rfl, by simp [failed]⟩) (past ⟨found, fetches⟩ rfl) (away ⟨found, fetches⟩ (by simp))
    | collapse found fetches moment _ stepped broken =>
      exact .moment ⟨found, fetches⟩ stepped (returned_of_moment ⟨found, fetches⟩ moment)
        (.inl ⟨rfl, by simp [broken]⟩) (past ⟨found, fetches⟩ rfl) (away ⟨found, fetches⟩ (by simp))
    | pause found fetches moment _ stepped pausing =>
      exact .moment ⟨found, fetches⟩ stepped (returned_of_moment ⟨found, fetches⟩ moment)
        (.inl ⟨rfl, by simp [pausing]⟩) (past ⟨found, fetches⟩ rfl)
        (onward ⟨found, fetches⟩ (by simp [Retry.Call.finished, pausing]))
    | retry found fetches moment _ stepped attempting =>
      exact .moment ⟨found, fetches⟩ stepped (returned_of_moment ⟨found, fetches⟩ moment)
        (.inr ⟨_, rfl, attempting⟩) (past ⟨found, fetches⟩ rfl)
        (onward ⟨found, fetches⟩ (by simp [Retry.Call.finished, attempting]))

theorem begun_of_size {r size : Nat} (sized : s.size? r = some size) : r < s.rounds.length := by
  obtain ⟨round, there, _⟩ := Option.map_eq_some_iff.mp sized
  exact (List.getElem?_eq_some_iff.mp there).1

theorem calls_same (same : t.fetches = s.fetches) (r : Nat) : t.calls r = s.calls r := by
  rw [State.calls, same, State.calls]

theorem calls_concat {r q size : Nat} {canceled : Bool}
    (fetches : t.fetches = s.fetches ++ [⟨r, size, canceled⟩]) :
    t.calls q = s.calls q + if r = q then 1 else 0 := by
  simp [State.calls, fetches, List.countP_append, List.countP_cons]

theorem calls_asked (c : Receive ε) (id r size q : Nat) (call : Fetch ε) :
    ((s.ask c r size).setReceive id (.fetching r size call)).calls q =
      s.calls q + if r = q then 1 else 0 :=
  calls_concat rfl

/-- A step neither calls nor hears anything in a round that is over. -/
theorem calls_of_over (talks : Talks s e t) {r : Nat}
    (nobody : ∀ id c size made, ¬ Asking s id c r size made) :
    t.calls r = s.calls r ∧ ∀ x ∈ (returned? (s, e)).toList, x.round ≠ r := by
  cases talks with
  | silent mute same => exact ⟨calls_same same r, by simp [mute]⟩
  | begin mute _ _ begins =>
    have same : t.fetches = s.fetches := by rw [begins]; rfl
    exact ⟨calls_same same r, by simp [mute]⟩
  | @call id c q size mute found opens calls =>
    have other : q ≠ r := by
      rintro rfl
      exact nobody id c size 0 ⟨found, by rw [opens]; rfl⟩
    exact ⟨by rw [calls, calls_asked, if_neg other, Nat.add_zero], by simp [mute]⟩
  | @moment id c q size call _ inner fetches _ returned calls =>
    have other : q ≠ r := by
      rintro rfl
      exact nobody id c size call.attempts (asking_of_fetching fetches)
    refine ⟨?_, ?_⟩
    · rcases calls with ⟨same, _⟩ | ⟨canceled, added, _⟩
      · exact calls_same same r
      · rw [calls_concat added, if_neg other, Nat.add_zero]
    · rw [returned]
      intro x member
      obtain ⟨result, _, rfl⟩ := Option.map_eq_some_iff.mp (Option.mem_toList.mp member)
      exact other

variable {l : List (Return ε)}

theorem FailedWith.later {r : Nat} {trouble : Trouble ε} (failed : FailedWith l s r trouble)
    {more : List (Return ε)} (calls : t.calls r = s.calls r) (others : ∀ x ∈ more, x.round ≠ r) :
    FailedWith (l ++ more) t r trouble := by
  have nothing : more.filter (·.round = r) = [] := by
    rw [List.filter_eq_nil_iff]
    intro x member
    simpa using others x member
  refine ⟨?_, ?_⟩
  · rw [calls, failed.even, List.countP_append, List.countP_eq_length_filter (l := more), nothing]
    rfl
  · rw [List.filter_append, nothing, List.append_nil, failed.last]

/-- A fetch waits for its call to return, or pauses after one that has failed; all its calls are for its
own round, and nobody has called for one that is only opened. -/
structure Heard (l : List (Return ε)) (s : State ε) : Prop where
  begun : ∀ x ∈ l, x.round < s.rounds.length
  fresh : ∀ r ∈ s.unopened, s.calls r = 0 ∧ l.countP (·.round = r) = 0
  counted : ∀ id c r size call, Fetching s id c r size call → call.attempts = s.calls r
  going : ∀ id c r size call, Fetching s id c r size call →
    (call.phase = .attempting ∧ s.calls r = l.countP (·.round = r) + 1) ∨
      ∃ length trouble, call.phase = .pausing length trouble ∧ FailedWith l s r trouble

/-- The error that a retried call has kept or failed with is what the last call returned. -/
theorem Heard.failed (heard : Heard l s) {id : Nat} {c : Receive ε} {r size : Nat}
    {call after : Fetch ε} {inner : Retry.Event (List Parcel) (Trouble ε)} {trouble : Trouble ε}
    (fetches : Fetching s id c r size call)
    (stepped : call.step s.policy s.provider.retryable inner = some after)
    (returned : returned? (s, e) = inner.result?.map (⟨r, ·⟩))
    (kept : after.phase.last? = some trouble) (same : t.fetches = s.fetches) :
    FailedWith (l ++ (returned? (s, e)).toList) t r trouble := by
  have calls := calls_same same r
  have going := heard.going id c r size call fetches
  rcases Retry.last_of_step stepped kept with ⟨attempting, result⟩ | ⟨result, length, pausing⟩
  · rcases going with ⟨_, count⟩ | ⟨_, _, pausing, _⟩
    · refine ⟨?_, ?_⟩
      · simp [calls, count, returned, result, List.countP_append]
      · simp [returned, result, List.filter_append]
    · rw [attempting] at pausing
      cases pausing
  · rcases going with ⟨attempting, _⟩ | ⟨_, _, again, failed⟩
    · rw [pausing] at attempting
      cases attempting
    · rw [pausing] at again
      cases again
      exact failed.later calls (by simp [returned, result])

theorem Heard.keep (heard : Heard l s) {id : Nat} {c : Receive ε} {r size : Nat} {call : Fetch ε}
    (fetches : Fetching s id c r size call) (calls : t.calls r = s.calls r) :
    (call.phase = .attempting ∧ t.calls r = l.countP (·.round = r) + 1) ∨
      ∃ length trouble, call.phase = .pausing length trouble ∧ FailedWith l t r trouble := by
  rcases heard.going id c r size call fetches with
    ⟨attempting, count⟩ | ⟨length, trouble, pausing, failed⟩
  · exact .inl ⟨attempting, calls.trans count⟩
  · exact .inr ⟨length, trouble, pausing, calls.trans failed.even, failed.last⟩

theorem Heard.silent (heard : Heard l s) (owned : Owned s)
    (longer : s.rounds.length ≤ t.rounds.length) (same : t.fetches = s.fetches)
    (fresh : ∀ r ∈ t.unopened, s.calls r = 0 ∧ l.countP (·.round = r) = 0)
    (kept : ∀ x ∈ t.receives, ∀ r size call, x.2.phase = .fetching r size call → x ∈ s.receives) :
    Heard l t := by
  have before : ∀ {id : Nat} {c : Receive ε} {r size : Nat} {call : Fetch ε},
      Fetching t id c r size call → Fetching s id c r size call := by
    intro id c r size call fetches
    have old := kept (id, c) (call_member fetches.1) r size call fetches.2
    exact ⟨call_found owned.distinct old, fetches.2⟩
  refine ⟨fun x member => (heard.begun x member).trans_le longer, ?_, ?_, ?_⟩
  · intro r opens
    rw [calls_same same r]
    exact fresh r opens
  · intro id c r size call fetches
    rw [calls_same same r]
    exact heard.counted id c r size call (before fetches)
  · intro id c r size call fetches
    exact heard.keep (before fetches) (calls_same same r)

theorem Heard.begin (heard : Heard l s) (owned : Owned s) (asked : Asked s) {id : Nat} {c : Receive ε}
    (found : s.receive? id = some c) (free : s.round = none) : Heard l (s.beginRound id) := by
  have update : ∀ x ∈ (s.beginRound id).receives, x ∈ s.receives ∨ x.2.phase =
      .opening s.rounds.length s.flow.fetchSize := by
    intro x member
    rcases update_cases owned.distinct found (f := fun c =>
        { c with phase := .opening s.rounds.length s.flow.fetchSize }) member with ⟨old, _⟩ | rfl
    · exact .inl old
    · exact .inr rfl
  refine heard.silent owned ?_ rfl ?_ ?_
  · simp [State.beginRound, State.setReceive]
  · intro r opens
    obtain ⟨x, member, opened⟩ := List.mem_filterMap.mp opens
    rcases update x member with old | new
    · have earlier : r ∈ s.unopened := List.mem_filterMap.mpr ⟨x, old, opened⟩
      rw [unopened_free owned free] at earlier
      cases earlier
    · -- the first receive of a round in which nobody has called
      have round : s.rounds.length = r := by simpa [opening, new] using opened
      subst round
      refine ⟨?_, ?_⟩
      · rw [State.calls, List.countP_eq_zero]
        intro a there
        have begun := begun_of_size (asked.called a there)
        simp only [decide_eq_true_eq]
        omega
      · rw [List.countP_eq_zero]
        intro y there
        have begun := heard.begun y there
        simp only [decide_eq_true_eq]
        omega
  · intro x member r size call fetches
    rcases update x member with old | new
    · exact old
    · cases new.symm.trans fetches

theorem Heard.call (heard : Heard l s) (owned : Owned s) {id : Nat} {c : Receive ε} {r size : Nat}
    (found : s.receive? id = some c) (opens : c.phase = .opening r size) :
    Heard l ((s.ask c r size).setReceive id (.fetching r size .start)) := by
  have first : r ∈ s.unopened :=
    List.mem_filterMap.mpr ⟨(id, c), call_member found, by simp [opening, opens]⟩
  obtain ⟨none_called, none_returned⟩ := heard.fresh r first
  have alone : ∀ {i : Nat} {d : Receive ε} {q n : Nat} {x : Fetch ε},
      Fetching ((s.ask c r size).setReceive id (.fetching r size .start)) i d q n x →
        q = r ∧ x = .start := by
    intro i d q n x fetches
    have asks : Asking s id c r size 0 := ⟨found, by rw [opens]; rfl⟩
    have same : ReceivePhase.fetching r size .start = .fetching q n x :=
      fetching_after owned asks fetches
    cases same
    exact ⟨rfl, rfl⟩
  have gone : ((s.ask c r size).setReceive id (.fetching r size .start)).unopened = [] := by
    have fewer := unopened_of_call owned.distinct found opens .start
    have one := unopened_length owned
    have none_left : (s.setReceive id (.fetching r size .start)).unopened.length = 0 := by omega
    exact List.length_eq_zero_iff.mp none_left
  refine ⟨heard.begun, ?_, ?_, ?_⟩
  · rw [gone]
    simp
  · intro i d q n x fetches
    obtain ⟨rfl, rfl⟩ := alone fetches
    rw [calls_asked, none_called, if_pos rfl]
    rfl
  · intro i d q n x fetches
    obtain ⟨rfl, rfl⟩ := alone fetches
    exact .inl ⟨rfl, by rw [calls_asked, none_called, none_returned, if_pos rfl]⟩

/-- After a moment of the retried call the round has either one call more, which runs, or as many as
before, and pauses after the last of them. -/
theorem Heard.moment (heard : Heard l s) (owned : Owned s) (asked : Asked s) {id : Nat} {c : Receive ε}
    {r size : Nat} {call after : Fetch ε} {inner : Retry.Event (List Parcel) (Trouble ε)}
    (fetches : Fetching s id c r size call)
    (stepped : call.step s.policy s.provider.retryable inner = some after)
    (returned : returned? (s, e) = inner.result?.map (⟨r, ·⟩))
    (calls : (t.fetches = s.fetches ∧ after.phase ≠ .attempting) ∨
      (∃ canceled, t.fetches = s.fetches ++ [⟨r, size, canceled⟩] ∧ after.phase = .attempting))
    (unopened : t.unopened = s.unopened)
    (goes : ∀ i d q n x, Fetching t i d q n x → q = r ∧ x = after ∧ after.finished = false)
    (longer : s.rounds.length ≤ t.rounds.length) : Heard (l ++ (returned? (s, e)).toList) t := by
  have attempts := heard.counted id c r size call fetches
  refine ⟨?_, ?_, ?_, ?_⟩
  · intro x member
    rcases List.mem_append.mp member with old | new
    · exact (heard.begun x old).trans_le longer
    · rw [returned, Option.mem_toList] at new
      obtain ⟨result, _, rfl⟩ := Option.map_eq_some_iff.mp new
      have asks := asking_of_fetching fetches
      exact (begun_of_size (asked.calls id c r size call.attempts asks)).trans_le longer
  · rw [unopened, unopened_of_fetching owned fetches.1 fetches.2]
    simp
  · intro i d q n x now
    obtain ⟨rfl, rfl, unfinished⟩ := goes i d q n x now
    rcases calls with ⟨same, other⟩ | ⟨canceled, added, attempting⟩
    · cases phase : x.phase with
      | attempting => exact absurd phase other
      | pausing => rw [(Retry.paused_of_step stepped phase).1, attempts, calls_same same]
      | _ => simp [Retry.Call.finished, phase] at unfinished
    · rw [(Retry.resumed_of_step stepped attempting).2.1, attempts, calls_concat added, if_pos rfl]
  · intro i d q n x now
    obtain ⟨rfl, rfl, unfinished⟩ := goes i d q n x now
    rcases calls with ⟨same, other⟩ | ⟨canceled, added, attempting⟩
    · cases phase : x.phase with
      | attempting => exact absurd phase other
      | pausing length trouble =>
        have kept : x.phase.last? = some trouble := by rw [phase]; rfl
        exact .inr ⟨length, trouble, rfl, heard.failed fetches stepped returned kept same⟩
      | _ => simp [Retry.Call.finished, phase] at unfinished
    · obtain ⟨rfl, _, length, trouble, pausing⟩ := Retry.resumed_of_step stepped attempting
      rcases heard.going id c q size call fetches with ⟨running, _⟩ | ⟨_, _, _, failed⟩
      · rw [pausing] at running
        cases running
      · refine .inl ⟨attempting, ?_⟩
        rw [calls_concat added, if_pos rfl, failed.even, returned]
        simp [Retry.Event.result?]

theorem Heard.next (heard : Heard l s) (owned : Owned s) (asked : Asked s) (talks : Talks s e t)
    (longer : s.rounds.length ≤ t.rounds.length) : Heard (l ++ (returned? (s, e)).toList) t := by
  cases talks with
  | silent mute same quiet =>
    rw [mute, Option.toList_none, List.append_nil]
    refine heard.silent owned longer same (quiet.unopened ▸ heard.fresh) ?_
    intro x member r size call fetches
    exact quiet.kept x member _ (by rw [fetches]; rfl)
  | begin mute found free begins =>
    rw [mute, Option.toList_none, List.append_nil, begins]
    exact heard.begin owned asked found free
  | call mute found opens calls =>
    rw [mute, Option.toList_none, List.append_nil, calls]
    exact heard.call owned found opens
  | moment fetches stepped returned calls unopened goes =>
    exact heard.moment owned asked fetches stepped returned calls unopened goes longer

theorem returns_snoc (reached : run State.step (.new provider replaced options) es = some s)
    (moved : s.step e = some t) : returns provider replaced options (es ++ [e]) =
      returns provider replaced options es ++ (returned? (s, e)).toList := by
  rw [returns, trace_snoc reached moved, filterMap_concat, returns]

theorem heard_of_run (reached : run State.step (.new provider replaced options) es = some s) :
    Heard (returns provider replaced options es) s := by
  refine run_invariant (P := fun es s => Heard (returns provider replaced options es) s) ?_ ?_ reached
  · refine ⟨nofun, nofun, ?_, ?_⟩ <;>
    · rintro id c r size call ⟨found, _⟩
      cases found
  · intro es s e t before heard moved
    have owned := owned_of_run before
    rw [returns_snoc before moved]
    exact heard.next owned (asked_of_run before) (talks_of_step owned moved)
      (guarding_of_moves owned (moves_of_step moved)).length

theorem provider_kept {os : List (Outbox.Event AckId ε)} (moved : AckMoves s e os t) :
    t.provider = s.provider := by
  cases moved with
  | apart _ same => exact same.provider
  | _ => rfl

theorem provider_of_run (reached : run State.step (.new provider replaced options) es = some s) :
    s.provider = provider := by
  refine run_invariant (P := fun _ s => s.provider = provider) rfl ?_ reached
  intro es s e t _ ih moved
  obtain ⟨os, acks⟩ := ackMoves_of_step moved
  exact (provider_kept acks).trans ih

theorem failing_of_origin {id r : Nat} {c : Receive ε} {f : Fault ε} (origin : Origin s e id c)
    (fails : c.phase = .failing r f) : s.receive? id = some c ∨
      ∃ d size call after inner trouble, Fetching s id d r size call ∧ Moment s id d e inner ∧
        call.step s.policy s.provider.retryable inner = some after ∧
        after.phase = .done (.error trouble) ∧ f = s.provider.fault trouble := by
  cases origin with
  | stays before => exact .inl before
  | arrives => cases fails
  | changes found change =>
    cases fails
    cases change with
    | fail fetches moment stepped failed =>
      exact .inr ⟨_, _, _, _, _, _, ⟨found, fetches⟩, moment, stepped, failed, rfl⟩
    | conclude _ ends => cases follows_of_conclusion ends
    | signal _ _ goes => cases follows_of_sequel goes

theorem failed_of_answer (owned : Owned s) (moved : s.step e = some t) {a : Answer ε}
    (brings : answer? (s, e) = some a) {f : Fault ε} (fails : a.result = .error f) :
    t.fetches = s.fetches ∧ ∃ c size call after inner trouble, Fetching s a.id c a.round size call ∧
      Moment s a.id c e inner ∧ call.step s.policy s.provider.retryable inner = some after ∧
      after.phase = .done (.error trouble) ∧ f = s.provider.fault trouble := by
  obtain ⟨c, size, call, phase, found, fetches, rfl, answers⟩ := set_of_answer owned moved brings
  have failing : phase = .failing a.round f := by
    rw [fails] at answers
    cases phase <;> cases answers
    rfl
  subst failing
  have now := receive_set owned.distinct found (.failing a.round f)
  refine ⟨rfl, ?_⟩
  rcases failing_of_origin (origin_of_moves owned.distinct (moves_of_step moved) now) rfl with
    before | ⟨d, rest⟩
  · rw [found, Option.some.injEq] at before
    rw [before] at fetches
    cases fetches
  · exact ⟨d, rest⟩

/-- The owner of a round that fails is told of what the last call of the round returned. -/
theorem failed_as_returned (reached : run State.step (.new provider replaced options) es = some s)
    {a : Answer ε} (member : a ∈ answers provider replaced options es) {f : Fault ε}
    (fails : a.result = .error f) :
    ∃ trouble, FailedWith (returns provider replaced options es) s a.round trouble ∧
      f = provider.fault trouble := by
  refine run_invariant (P := fun es s => ∀ a ∈ answers provider replaced options es, ∀ f,
    a.result = .error f → ∃ trouble, FailedWith (returns provider replaced options es) s a.round trouble ∧
      f = provider.fault trouble) nofun ?_ reached a member f fails
  intro es s e t before ih moved a member f fails
  have owned := owned_of_run before
  have heard := heard_of_run before
  rw [returns_snoc before moved]
  rw [answers_snoc before moved] at member
  rcases List.mem_append.mp member with old | new
  · obtain ⟨trouble, failed, wrapped⟩ := ih a old f fails
    have answered := answered_of_run before
    obtain ⟨calls, others⟩ := calls_of_over (talks_of_step owned moved)
      fun id c size made asks => answered.ended a old id c size made asks.1 asks.2
    exact ⟨trouble, failed.later calls others, wrapped⟩
  · obtain ⟨same, c, size, call, after, inner, trouble, fetches, moment, stepped, failed, wrapped⟩ :=
      failed_of_answer owned moved (Option.mem_toList.mp new) fails
    have kept : after.phase.last? = some trouble := by rw [failed]; rfl
    exact ⟨trouble, heard.failed fetches stepped (returned_of_moment fetches moment) kept same,
      provider_of_run before ▸ wrapped⟩

/-- An error after which no retry follows is the answer to its round at once, whatever would be drawn. -/
theorem failing_of_final (reached : run State.step (.new provider replaced options) es = some s)
    {id : Nat} {c : Receive ε} {r size : Nat} {call : Fetch ε} (found : s.receive? id = some c)
    (fetches : c.phase = .fetching r size call) (attempting : call.phase = .attempting)
    {trouble : Trouble ε} (final : Outbox.Final provider options.retry (s.calls r - 1)
      (fires s.fired c.token) trouble) (jitter : Binary64) :
    s.step (.fetched id (.error trouble) jitter) =
      some (s.setReceive id (.failing r (provider.fault trouble))) := by
  have counted := (heard_of_run reached).counted id c r size call ⟨found, fetches⟩
  rw [← counted, ← policy_of_run reached, ← provider_of_run reached] at final
  obtain ⟨after, stepped, ended⟩ := Retry.ended_of_final attempting final jitter
  rw [← provider_of_run reached]
  simp [State.step, found, State.moveFetch, fetches, stepped, ended]

theorem answer_of_final (reached : run State.step (.new provider replaced options) es = some s)
    {id : Nat} {c : Receive ε} {r size : Nat} {call : Fetch ε} (found : s.receive? id = some c)
    (fetches : c.phase = .fetching r size call) (attempting : call.phase = .attempting)
    {trouble : Trouble ε} (final : Outbox.Final provider options.retry (s.calls r - 1)
      (fires s.fired c.token) trouble) (jitter : Binary64) :
    (s.step (.fetched id (.error trouble) jitter)).isSome = true ∧
      answer? (s, .fetched id (.error trouble) jitter) =
        some ⟨id, r, .error (provider.fault trouble)⟩ := by
  have moved := failing_of_final reached found fetches attempting final jitter
  have now := receive_set (owned_of_run reached).distinct found
    (.failing r (provider.fault trouble))
  exact ⟨Option.isSome_iff_exists.mpr ⟨_, moved⟩, answer_at moved rfl now rfl⟩

end Courier.Subscription
