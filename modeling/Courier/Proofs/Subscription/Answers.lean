import Courier.Proofs.Subscription.Acks
import Courier.Proofs.Subscription.Waiting

/-! The final answer to the call for messages of a round. It goes to the receive that owns the round: a
batch is stored, an error is told. No round has two, and an error leaves the queue, the fault and the
average of the subscription as they are, whatever other calls do in the meantime. -/

namespace Courier.Subscription

variable {ε : Type} {s t : State ε} {e : Event ε} {provider : Provider ε} {replaced : Bool}
  {options : SubscriptionOptions} {es : List (Event ε)}

structure Answer (ε : Type) where
  id : Nat
  round : Nat
  result : Except (Fault ε) (List Parcel)

/-- A round that failed, with its owner. -/
structure Failure (ε : Type) where
  id : Nat
  round : Nat
  fault : Fault ε

def Answer.failure? (a : Answer ε) : Option (Failure ε) :=
  match a.result with
  | .ok _ => none
  | .error f => some ⟨a.id, a.round, f⟩

/-- The receive whose call for messages this event can end with an answer. -/
def Event.caller? : Event ε → Option Nat
  | .fetched id _ _ => some id
  | .fetchCut id => some id
  | _ => none

/-- The receive that an event moves. -/
def Event.receiver? : Event ε → Option Nat
  | .receive id _ => some id
  | .receiveStep id => some id
  | .receiveCancel id => some id
  | .receiveLeave id => some id
  | .receiveClear id => some id
  | .fetched id _ _ => some id
  | .fetchBroke id => some id
  | .fetchResumed id => some id
  | .fetchCut id => some id
  | _ => none

def ReceivePhase.answer? : ReceivePhase ε → Option (Nat × Except (Fault ε) (List Parcel))
  | .storing r batch => some (r, .ok batch)
  | .failing r f => some (r, .error f)
  | _ => none

def ReceivePhase.failure? : ReceivePhase ε → Option (Nat × Fault ε)
  | .failing r f => some (r, f)
  | .signalling r (.failed f) => some (r, f)
  | _ => none

/-- The answer that an event brings to the owner of a round. -/
def answer? (x : State ε × Event ε) : Option (Answer ε) :=
  x.2.caller?.bind fun id => (x.1.step x.2).bind fun t => (t.receive? id).bind fun c =>
    c.phase.answer?.map fun (r, result) => ⟨id, r, result⟩

/-- The failure that an event makes a receive return. -/
def told? (x : State ε × Event ε) : Option (Failure ε) :=
  match x.2 with
  | .receiveStep id => (x.1.receive? id).bind fun c =>
    c.phase.failure?.map fun (r, f) => ⟨id, r, f⟩
  | _ => none

def answers (provider : Provider ε) (replaced : Bool) (options : SubscriptionOptions)
    (es : List (Event ε)) : List (Answer ε) :=
  (trace State.step (.new provider replaced options) es).filterMap answer?

def told (provider : Provider ε) (replaced : Bool) (options : SubscriptionOptions)
    (es : List (Event ε)) : List (Failure ε) :=
  (trace State.step (.new provider replaced options) es).filterMap told?

def untold (x : Nat × Receive ε) : Option (Failure ε) :=
  x.2.phase.failure?.map fun (r, f) => ⟨x.1, r, f⟩

/-- The failures that their owners have yet to return. -/
def State.untold (s : State ε) : List (Failure ε) := s.receives.filterMap Subscription.untold

theorem receiver_of_caller {id : Nat} (calls : e.caller? = some id) : e.receiver? = some id := by
  cases e <;> cases calls <;> rfl

theorem receives_of_receiver {id : Nat} (moves : e.receiver? = some id) : e.receives = true := by
  cases e <;> cases moves <;> rfl

theorem receiver_of_moment {id : Nat} {c : Receive ε} {inner : Retry.Event (List Parcel) (Trouble ε)}
    (moment : Moment s id c e inner) : e.receiver? = some id := by
  cases moment <;> rfl

theorem caller_of_failure {id : Nat} {c : Receive ε} {call after : Fetch ε}
    {inner : Retry.Event (List Parcel) (Trouble ε)} {trouble : Trouble ε}
    (moment : Moment s id c e inner)
    (stepped : call.step s.policy s.provider.retryable inner = some after)
    (failed : after.phase = .done (.error trouble)) : e.caller? = some id := by
  cases moment with
  | returned | cut => rfl
  | broke =>
    cases Retry.moves_of_step stepped
    cases failed
  | resumed =>
    cases Retry.moves_of_step stepped
    cases failed

theorem answer_eq (moved : s.step e = some t) : answer? (s, e) =
    e.caller?.bind fun id => (t.receive? id).bind fun c =>
      c.phase.answer?.map fun (r, result) => ⟨id, r, result⟩ := by
  rw [answer?, moved]
  rfl

theorem answer_at (moved : s.step e = some t) {id r : Nat} {c : Receive ε}
    {result : Except (Fault ε) (List Parcel)} (calls : e.caller? = some id)
    (now : t.receive? id = some c) (answers : c.phase.answer? = some (r, result)) :
    answer? (s, e) = some ⟨id, r, result⟩ := by
  rw [answer_eq moved, calls, Option.bind_some, now, Option.bind_some, answers]
  rfl

theorem sound_of_phase (moved : s.step e = some t) {id : Nat} {c : Receive ε}
    (moves : e.receiver? = some id) (now : t.receive? id = some c)
    (sound : c.phase.failure? = none) : (answer? (s, e)).bind Answer.failure? = none := by
  rw [answer_eq moved]
  cases calls : e.caller? with
  | none => rfl
  | some j =>
    cases (receiver_of_caller calls).symm.trans moves
    rw [Option.bind_some, now, Option.bind_some]
    cases phase : c.phase with
    | failing =>
      rw [phase] at sound
      cases sound
    | _ => rfl

/-- What a step does to the failures that are to be returned. -/
inductive Telling (s : State ε) (e : Event ε) (t : State ε) : Prop
  | keep (sound : (answer? (s, e)).bind Answer.failure? = none) (silent : told? (s, e) = none)
      (same : t.untold = s.untold)
  | fail {f : Failure ε} {before after : List (Failure ε)}
      (fails : (answer? (s, e)).bind Answer.failure? = some f) (silent : told? (s, e) = none)
      (was : s.untold = before ++ after) (now : t.untold = before ++ [f] ++ after)
  | tell {f : Failure ε} {before after : List (Failure ε)}
      (sound : (answer? (s, e)).bind Answer.failure? = none) (tells : told? (s, e) = some f)
      (was : s.untold = before ++ [f] ++ after) (now : t.untold = before ++ after)

theorem told_eq {id : Nat} {c : Receive ε} (found : s.receive? id = some c) :
    told? (s, .receiveStep id) = untold (id, c) := by
  simp only [told?, found, Option.bind_some]
  rfl

theorem telling_kept (owned : Owned s) {id : Nat} {c : Receive ε} {phase : ReceivePhase ε}
    (found : s.receive? id = some c) (sound : (answer? (s, e)).bind Answer.failure? = none)
    (silent : told? (s, e) = none) (same : phase.failure? = c.phase.failure?)
    (receives : t.receives = (s.setReceive id phase).receives) : Telling s e t := by
  refine .keep sound silent ?_
  rw [State.untold, receives]
  exact read_kept owned.distinct found (f := fun c => { c with phase := phase })
    (by simp only [untold, same])

theorem telling_removed (owned : Owned s) {id : Nat} {c : Receive ε}
    (found : s.receive? id = some c) (sound : (answer? (s, e)).bind Answer.failure? = none)
    (silent : told? (s, e) = none) (nothing : c.phase.failure? = none)
    (receives : t.receives = (s.without id).receives) : Telling s e t := by
  refine .keep sound silent ?_
  rw [State.untold, receives]
  exact read_removed owned.distinct found (by simp only [untold, nothing, Option.map_none])

theorem telling_returned (owned : Owned s) {id : Nat} {c : Receive ε} {next : ReceivePhase ε}
    (found : s.receive? id = some c) (nothing : next.failure? = none)
    (receives : t.receives = (s.setReceive id next).receives) : Telling s (.receiveStep id) t := by
  cases fails : c.phase.failure? with
  | none =>
    refine telling_kept owned found rfl ?_ (nothing.trans fails.symm) receives
    rw [told_eq found, untold, fails, Option.map_none]
  | some x =>
    obtain ⟨before, after, all, _, changed⟩ := read_around owned.distinct found untold
    have now := changed fun c => { c with phase := next }
    have mine : untold (id, c) = some ⟨id, x.1, x.2⟩ := by rw [untold, fails, Option.map_some]
    rw [mine] at all
    rw [untold, nothing, Option.map_none, Option.toList_none, List.append_nil] at now
    exact .tell rfl ((told_eq found).trans mine) all (by rw [State.untold, receives]; exact now)

theorem telling_failed (owned : Owned s) {id r : Nat} {c : Receive ε} {f : Fault ε}
    (found : s.receive? id = some c) (moved : s.step e = some (s.setReceive id (.failing r f)))
    (calls : e.caller? = some id) (free : c.phase.failure? = none) :
    Telling s e (s.setReceive id (.failing r f)) := by
  obtain ⟨before, after, all, _, changed⟩ := read_around owned.distinct found untold
  have now := changed fun c => { c with phase := .failing r f }
  have here := receive_set owned.distinct found (.failing r f)
  rw [untold, free, Option.map_none, Option.toList_none, List.append_nil] at all
  refine .fail (f := ⟨id, r, f⟩) ?_ ?_ all now
  · rw [answer_at moved calls here rfl]
    rfl
  · cases e with
    | fetched | fetchCut => rfl
    | _ => cases calls

theorem telling_unfailed (owned : Owned s) {id : Nat} {c : Receive ε} {phase : ReceivePhase ε}
    (found : s.receive? id = some c) (free : c.phase.failure? = none)
    (moved : s.step e = some t) (moves : e.receiver? = some id) (other : e ≠ .receiveStep id)
    (receives : t.receives = (s.setReceive id phase).receives) (sound : phase.failure? = none) :
    Telling s e t := by
  have now : t.receive? id = some { c with phase := phase } := by
    rw [State.receive?, receives]
    exact receive_set owned.distinct found phase
  have silent : told? (s, e) = none := by
    cases e with
    | receiveStep j =>
      cases moves
      exact absurd rfl other
    | _ => rfl
  exact telling_kept owned found (sound_of_phase moved moves now sound) silent (sound.trans free.symm)
    receives

theorem telling_of_step (owned : Owned s) (moved : s.step e = some t) : Telling s e t := by
  cases moves_of_step moved with
  | aside same outside =>
    have silent : (answer? (s, e)).bind Answer.failure? = none ∧ told? (s, e) = none := by
      cases e <;> first | exact ⟨rfl, rfl⟩ | cases outside
    exact .keep silent.1 silent.2 (by rw [State.untold, same.receives, State.untold])
  | arrive id token fresh =>
    refine .keep rfl rfl ?_
    simp [State.untold, List.filterMap_append, untold, ReceivePhase.failure?]
  | refuse found looks => exact telling_returned owned found rfl rfl
  | handOut found looks => exact telling_returned owned found rfl rfl
  | join found looks => exact telling_returned owned found rfl rfl
  | giveUp found looks => exact telling_returned owned found rfl rfl
  | begin found looks => exact telling_returned owned found rfl rfl
  | call found opens => exact telling_returned owned found rfl rfl
  | wake found waits => exact telling_returned owned found rfl rfl
  | store found stores => exact telling_returned owned found rfl rfl
  | conclude found ends =>
    refine telling_returned owned found ?_ rfl
    cases follows_of_conclusion ends <;> rfl
  | cancel found waits => exact telling_kept owned found rfl rfl (by rw [waits]; rfl) rfl
  | depart found free =>
    refine telling_removed owned found rfl rfl ?_ rfl
    rcases free with looks | ⟨r, waits⟩
    · rw [looks]
      rfl
    · rw [waits]
      rfl
  | abandon found fetches => exact telling_removed owned found rfl rfl (by rw [fetches]; rfl) rfl
  | clear found gives =>
    refine telling_kept owned found rfl rfl ?_ rfl
    rename_i id c r sequel
    cases phase : c.phase with
    | fetching | stored | failing | collapsing =>
      rw [phase] at gives
      cases gives
      rfl
    | _ =>
      rw [phase] at gives
      cases gives
  | signal found signals goes =>
    refine telling_returned owned found ?_ rfl
    cases follows_of_sequel goes <;> rfl
  | vanish found signals =>
    refine telling_removed owned found rfl ?_ (by rw [signals]; rfl) rfl
    rw [told_eq found, untold, signals]
    rfl
  | bring found fetches =>
    exact telling_unfailed owned found (by rw [fetches]; rfl) moved rfl nofun rfl rfl
  | fail found fetches moment _ stepped failed =>
    exact telling_failed owned found moved (caller_of_failure moment stepped failed)
      (by rw [fetches]; rfl)
  | collapse found fetches moment =>
    exact telling_unfailed owned found (by rw [fetches]; rfl) moved (receiver_of_moment moment)
      (by cases moment <;> nofun) rfl rfl
  | pause found fetches moment =>
    exact telling_unfailed owned found (by rw [fetches]; rfl) moved (receiver_of_moment moment)
      (by cases moment <;> nofun) rfl rfl
  | retry found fetches moment =>
    exact telling_unfailed owned found (by rw [fetches]; rfl) moved (receiver_of_moment moment)
      (by cases moment <;> nofun) rfl rfl

theorem answers_snoc (reached : run State.step (.new provider replaced options) es = some s)
    (moved : s.step e = some t) : answers provider replaced options (es ++ [e]) =
      answers provider replaced options es ++ (answer? (s, e)).toList := by
  rw [answers, trace_snoc reached moved, filterMap_concat, answers]

theorem told_snoc (reached : run State.step (.new provider replaced options) es = some s)
    (moved : s.step e = some t) : told provider replaced options (es ++ [e]) =
      told provider replaced options es ++ (told? (s, e)).toList := by
  rw [told, trace_snoc reached moved, filterMap_concat, told]

/-- Each failure is returned once, by the owner of the round, or is still to be returned. -/
theorem failures_told (reached : run State.step (.new provider replaced options) es = some s) :
    ((answers provider replaced options es).filterMap Answer.failure?).Perm
      (told provider replaced options es ++ s.untold) := by
  refine run_invariant (P := fun es s =>
    ((answers provider replaced options es).filterMap Answer.failure?).Perm
      (told provider replaced options es ++ s.untold)) ?_ ?_ reached
  · exact .nil
  intro es s e t before ih moved
  have more : (answer? (s, e)).toList.filterMap Answer.failure? =
      ((answer? (s, e)).bind Answer.failure?).toList := by
    cases answer? (s, e) with
    | none => rfl
    | some a => cases fails : a.failure? <;> simp [fails]
  rw [answers_snoc before moved, told_snoc before moved, List.filterMap_append, more]
  cases telling_of_step (owned_of_run before) moved with
  | keep sound silent same =>
    rw [sound, silent, same]
    simpa using ih
  | @fail f rest late fails silent was now =>
    rw [fails, silent, now, Option.toList_some, Option.toList_none, List.append_nil]
    rw [was] at ih
    have put : (rest ++ late ++ [f]).Perm (rest ++ [f] ++ late) := by
      rw [List.append_assoc, List.append_assoc]
      exact List.perm_append_comm.append_left rest
    exact (ih.append_right [f]).trans
      (by rw [List.append_assoc]; exact put.append_left (told provider replaced options es))
  | @tell f rest late sound tells was now =>
    rw [sound, tells, now, Option.toList_none, List.append_nil, Option.toList_some]
    rw [was] at ih
    have taken : (rest ++ [f] ++ late).Perm ([f] ++ (rest ++ late)) := by
      rw [List.append_assoc]
      exact List.perm_middle
    rw [List.append_assoc]
    exact ih.trans (taken.append_left (told provider replaced options es))

/-- An answer moves the owner of the round on, and nothing else. -/
theorem set_of_answer (owned : Owned s) (moved : s.step e = some t) {a : Answer ε}
    (brings : answer? (s, e) = some a) :
    ∃ c size call phase, s.receive? a.id = some c ∧ c.phase = .fetching a.round size call ∧
      t = s.setReceive a.id phase ∧ phase.answer? = some (a.round, a.result) := by
  rw [answer_eq moved] at brings
  simp only [Option.bind_eq_some_iff, Option.map_eq_some_iff] at brings
  obtain ⟨id, calls, d, now, ⟨r, result⟩, answers, rfl⟩ := brings
  have set : ∀ {c : Receive ε} {phase : ReceivePhase ε}, s.receive? id = some c →
      (s.setReceive id phase).receive? id = some { c with phase := phase } :=
    fun found => receive_set owned.distinct found _
  cases moves_of_step moved with
  | aside same outside =>
    have inside := receives_of_receiver (receiver_of_caller calls)
    rw [outside] at inside
    contradiction
  | bring found fetches =>
    cases calls
    cases (set found).symm.trans now
    cases answers
    exact ⟨_, _, _, _, found, fetches, rfl, rfl⟩
  | fail found fetches moment =>
    cases (receiver_of_moment moment).symm.trans (receiver_of_caller calls)
    cases (set found).symm.trans now
    cases answers
    exact ⟨_, _, _, _, found, fetches, rfl, rfl⟩
  | collapse found fetches moment | pause found fetches moment | retry found fetches moment =>
    cases (receiver_of_moment moment).symm.trans (receiver_of_caller calls)
    cases (receive_set owned.distinct found _).symm.trans now
    cases answers
  | _ => cases calls

theorem answer_cases (owned : Owned s) (moved : s.step e = some t) {a : Answer ε}
    (brings : answer? (s, e) = some a) :
    ∃ c size call phase, s.receive? a.id = some c ∧ c.phase = .fetching a.round size call ∧
      t.receive? a.id = some { c with phase := phase } ∧
      phase.answer? = some (a.round, a.result) := by
  obtain ⟨c, size, call, phase, found, fetches, rfl, answers⟩ := set_of_answer owned moved brings
  exact ⟨c, size, call, phase, found, fetches, receive_set owned.distinct found phase, answers⟩

/-- The answers so far, and the rounds that can still have one. -/
structure Answered (l : List (Answer ε)) (s : State ε) : Prop where
  once : (l.map (·.round)).Nodup
  begun : ∀ a ∈ l, a.round < s.rounds.length
  ended : ∀ a ∈ l, ∀ id c size made, s.receive? id = some c →
    c.phase.asking? ≠ some (a.round, size, made)
  stores : ∀ id c r batch, s.receive? id = some c → c.phase = .storing r batch →
    ⟨id, r, .ok batch⟩ ∈ l

theorem asking_of_origin {id r size made : Nat} {c : Receive ε} (origin : Origin s e id c)
    (asks : c.phase.asking? = some (r, size, made)) :
    (∃ d n more, s.receive? id = some d ∧ d.phase.asking? = some (r, n, more)) ∨
      r = s.rounds.length := by
  cases origin with
  | stays before => exact .inl ⟨c, size, made, before, asks⟩
  | arrives => cases asks
  | changes found change =>
    cases change with
    | begin =>
      cases asks
      exact .inr rfl
    | call _ opens =>
      cases asks
      exact .inl ⟨_, _, _, found, by rw [opens]; rfl⟩
    | goOn earlier =>
      cases asks
      exact .inl ⟨_, _, _, found, by rw [earlier]; rfl⟩
    | conclude _ ends => cases follows_of_conclusion ends <;> cases asks
    | signal _ _ goes => cases follows_of_sequel goes <;> cases asks
    | _ => cases asks

theorem storing_of_origin {id r : Nat} {c : Receive ε} {batch : List Parcel}
    (origin : Origin s e id c) (stores : c.phase = .storing r batch) :
    s.receive? id = some c ∨ ∃ jitter, e = .fetched id (.ok batch) jitter := by
  cases origin with
  | stays before => exact .inl before
  | arrives => cases stores
  | changes found change =>
    cases stores
    cases change with
    | bring called => exact .inr ⟨_, called⟩
    | conclude _ ends => cases follows_of_conclusion ends
    | signal _ _ goes => cases follows_of_sequel goes

theorem Answered.next {l : List (Answer ε)} (owned : Owned s) (answered : Answered l s)
    (moved : s.step e = some t) : Answered (l ++ (answer? (s, e)).toList) t := by
  have moves := moves_of_step moved
  have longer := (guarding_of_moves owned moves).length
  -- the call that is answered was in progress, in the newest round
  have latest : ∀ a, answer? (s, e) = some a → a.round + 1 = s.rounds.length ∧ ∀ b ∈ l,
      b.round ≠ a.round := by
    intro a brings
    obtain ⟨c, size, call, _, found, fetches, _⟩ := answer_cases owned moved brings
    have round := (owner_alone owned found (r := a.round) (by rw [fetches]; rfl)).2.1
    refine ⟨owned.newest _ round, fun b member same => ?_⟩
    exact answered.ended b member a.id c size call.attempts found (by rw [fetches, same]; rfl)
  refine ⟨?_, ?_, ?_, ?_⟩
  · rw [List.map_append, List.nodup_append]
    refine ⟨answered.once, ?_, ?_⟩
    · cases answer? (s, e) <;> simp
    · intro q old r new
      obtain ⟨b, member, rfl⟩ := List.mem_map.mp old
      obtain ⟨a, brings, rfl⟩ := List.mem_map.mp new
      exact (latest a (Option.mem_toList.mp brings)).2 b member
  · intro a member
    rcases List.mem_append.mp member with old | new
    · have := answered.begun a old
      omega
    · have := (latest a (Option.mem_toList.mp new)).1
      omega
  · intro a member id c size made found asks
    have origin := origin_of_moves owned.distinct moves found
    rcases asking_of_origin origin asks with ⟨d, n, more, before, asking⟩ | begins
    · rcases List.mem_append.mp member with old | new
      · exact answered.ended a old id d n more before asking
      · -- the owner of the round is the one whose call has been answered
        obtain ⟨d', n', inner', phase, there, fetched, now, answers⟩ :=
          answer_cases owned moved (Option.mem_toList.mp new)
        have mine := (owner_alone owned before (owned_of_asking asking)).1
        have its := (owner_alone owned there (r := a.round) (by rw [fetched]; rfl)).1
        cases mine.symm.trans its
        cases found.symm.trans now
        rcases asking_cases asks with ⟨rfl, _⟩ | ⟨_, rfl, _⟩ <;> cases answers
    · rcases List.mem_append.mp member with old | new
      · have := answered.begun a old
        omega
      · have := (latest a (Option.mem_toList.mp new)).1
        omega
  · intro id c r batch found stores
    have origin := origin_of_moves owned.distinct moves found
    rcases storing_of_origin origin stores with before | ⟨jitter, rfl⟩
    · exact List.mem_append_left _ (answered.stores id c r batch before stores)
    · have brings := answer_at moved rfl found (by rw [stores]; rfl)
      exact List.mem_append_right _ (Option.mem_toList.mpr brings)

theorem answered_of_run (reached : run State.step (.new provider replaced options) es = some s) :
    Answered (answers provider replaced options es) s := by
  refine run_invariant (P := fun es s => Answered (answers provider replaced options es) s) ?_ ?_
    reached
  · refine ⟨List.nodup_nil, nofun, nofun, ?_⟩
    intro id c r batch found
    cases found
  · intro es s e t before answered moved
    rw [answers_snoc before moved]
    exact answered.next (owned_of_run before) moved

/-- The receive that the event moves has the guard of the round, before the event or after it. -/
def Serves (s : State ε) (e : Event ε) (t : State ε) (r : Nat) : Prop :=
  ∃ id, e.receiver? = some id ∧
    ((∃ c, s.receive? id = some c ∧ c.phase.guard? = some r) ∨
      ∃ c, t.receive? id = some c ∧ c.phase.guard? = some r)

theorem queue_of_moves (moved : Moves s e t) {r : Nat} (serves : Serves s e t r) (owned : Owned s)
    (errs : ∀ id c batch, s.receive? id = some c → c.phase ≠ .storing r batch) :
    t.queue = s.queue := by
  obtain ⟨i, moves, guards⟩ := serves
  cases moved with
  | aside same => exact same.queue
  | @handOut id c d rest found looks =>
    -- a receive that takes a message has no round
    cases moves
    have now : (s.handOut i d rest).receive? i = some { c with phase := .done (.ok d) } :=
      receive_set owned.distinct found (.done (.ok d))
    rcases guards with ⟨c', there, guards⟩ | ⟨c', there, guards⟩
    · rw [← Option.some.inj (found.symm.trans there), looks] at guards
      cases guards
    · rw [← Option.some.inj (now.symm.trans there)] at guards
      cases guards
  | @store id c q batch found stores =>
    cases moves
    have now : ((s.store batch).setReceive i (.stored q)).receive? i =
        some { c with phase := .stored q } :=
      receive_set owned.distinct found (.stored q)
    have own : q = r := by
      rcases guards with ⟨c', there, guards⟩ | ⟨c', there, guards⟩
      · rw [← Option.some.inj (found.symm.trans there), stores] at guards
        exact Option.some.inj guards
      · rw [← Option.some.inj (now.symm.trans there)] at guards
        exact Option.some.inj guards
    exact absurd (own ▸ stores) (errs i c batch found)
  | _ => rfl

/-- Nothing that a round does that fails, before it fails or after, can be seen by other calls, but
that it is over. -/
theorem failed_round_unseen (reached : run State.step (.new provider replaced options) es = some s)
    {a : Answer ε} (answered : a ∈ answers provider replaced options es) {f : Fault ε}
    (failed : a.result = .error f) {x : State ε × Event ε}
    (member : x ∈ trace State.step (.new provider replaced options) es)
    (moved : x.1.step x.2 = some t) (serves : Serves x.1 x.2 t a.round) :
    t.queue = x.1.queue ∧ t.fault = x.1.fault ∧ t.flow = x.1.flow := by
  obtain ⟨before, after, rfl, ran⟩ := trace_reached member
  have once := (answered_of_run reached).once
  have earlier : ∀ b ∈ answers provider replaced options before,
      b ∈ answers provider replaced options (before ++ x.2 :: after) := by
    intro b there
    rw [answers, trace_append _ ran, List.filterMap_append]
    exact List.mem_append_left _ there
  have same : t.queue = x.1.queue := by
    refine queue_of_moves (moves_of_step moved) serves (owned_of_run ran) ?_
    intro id c batch found stores
    have stored := earlier _ ((answered_of_run ran).stores id c a.round batch found stores)
    have both := List.inj_on_of_nodup_map once answered stored rfl
    rw [both] at failed
    cases failed
  obtain ⟨id, moves, _⟩ := serves
  have apart := apart_of_receives (receives_of_receiver moves) moved
  exact ⟨same, apart.fault, apart.flow⟩

end Courier.Subscription
