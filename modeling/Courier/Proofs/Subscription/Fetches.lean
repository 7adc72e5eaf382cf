import Courier.Proofs.Subscription.Permanent

/-! The calls for messages that a subscription still makes once it has a fault. No round begins any
more, but the fault is seen only by receives that look. The one that owns the round in flight makes its
call, if it has yet to, and goes on with its retries under its own token alone: every pause that ends
brings one more call. -/

namespace Courier.Subscription

variable {ε : Type} {s t u : State ε} {e : Event ε} {os : List (Outbox.Event AckId ε)}
  {provider : Provider ε} {replaced : Bool} {options : SubscriptionOptions} {es fs : List (Event ε)}

theorem policy_kept (moved : AckMoves s e os t) : t.policy = s.policy := by
  cases moved with
  | apart _ same => exact same.policy
  | _ => rfl

theorem policy_of_run (reached : run State.step (.new provider replaced options) es = some s) :
    s.policy = options.retry := by
  refine run_invariant (P := fun _ s => s.policy = options.retry) rfl ?_ reached
  intro es s e t _ ih moved
  obtain ⟨os, acks⟩ := ackMoves_of_step moved
  exact (policy_kept acks).trans ih

theorem fired_kept (moved : AckMoves s e os t) : s.fired ⊆ t.fired := by
  cases moved with
  | apart _ same => exact same.fired ▸ List.Subset.refl _
  | fire token => exact List.subset_cons_self _ _
  | _ => exact List.Subset.refl _

def opening (x : Nat × Receive ε) : Option Nat :=
  match x.2.phase with
  | .opening r _ => some r
  | _ => none

/-- The rounds for which the provider has yet to be called. -/
def State.unopened (s : State ε) : List Nat := s.receives.filterMap opening

theorem owned_of_opening {x : Nat × Receive ε} {r : Nat} (opens : opening x = some r) :
    x.2.phase.owned? = some r := by
  unfold opening at opens
  split at opens
  · rename_i phase
    cases opens
    rw [phase]
    rfl
  · contradiction

theorem unopened_sublist (owned : Owned s) : s.unopened.Sublist s.round.toList := by
  rw [← owned.slot, State.unopened, State.owners, List.map_filterMap]
  apply read_sublist
  intro x r opens
  simp [ownership, owned_of_opening opens]

theorem unopened_length (owned : Owned s) : s.unopened.length ≤ 1 := by
  have one : s.round.toList.length ≤ 1 := by cases s.round <;> simp
  exact (unopened_sublist owned).length_le.trans one

theorem unopened_free (owned : Owned s) (free : s.round = none) : s.unopened = [] := by
  have part := unopened_sublist owned
  rw [free] at part
  exact List.sublist_nil.mp part

theorem unopened_eq (owned : Owned s) {r : Nat} (member : r ∈ s.unopened) : s.unopened = [r] := by
  have one := unopened_length owned
  cases rounds : s.unopened with
  | nil =>
    rw [rounds] at member
    cases member
  | cons q rest =>
    rw [rounds, List.length_cons] at one
    rw [List.length_eq_zero_iff.mp (by omega : rest.length = 0)] at rounds ⊢
    rw [rounds] at member
    rw [List.mem_singleton.mp member]

/-- A receive owns a round, and its retried call is not over; it has made `made` calls. -/
def Asking (s : State ε) (id : Nat) (c : Receive ε) (r size made : Nat) : Prop :=
  s.receive? id = some c ∧ c.phase.asking? = some (r, size, made)

theorem asking_alone (owned : Owned s) {id i : Nat} {c d : Receive ε} {r q size n made more : Nat}
    (asks : Asking s id c r size made) (other : Asking s i d q n more) :
    s.round = some r ∧ i = id ∧ d = c ∧ n = size ∧ more = made := by
  obtain ⟨mine, round, _⟩ := owner_alone owned asks.1 (owned_of_asking asks.2)
  obtain ⟨alone, _⟩ := owner_alone owned other.1 (owned_of_asking other.2)
  rw [mine] at alone
  cases alone
  cases Option.some.inj (asks.1.symm.trans other.1)
  have same := asks.2.symm.trans other.2
  simp only [Option.some.injEq, Prod.mk.injEq] at same
  exact ⟨round, rfl, rfl, same.2.1.symm, same.2.2.symm⟩

theorem asking_set (distinct : (s.receives.map (·.1)).Nodup) {id i : Nat} {c d : Receive ε}
    {phase : ReceivePhase ε} (found : s.receive? id = some c) {r size made : Nat}
    (asks : Asking (s.setReceive id phase) i d r size made) :
    (i ≠ id ∧ Asking s i d r size made) ∨
      (i = id ∧ d = { c with phase := phase } ∧ phase.asking? = some (r, size, made)) := by
  rcases update_cases distinct found (f := fun c => { c with phase := phase })
    (call_member asks.1) with ⟨old, other⟩ | same
  · exact .inl ⟨other, call_found distinct old, asks.2⟩
  · cases same
    exact .inr ⟨rfl, rfl, asks.2⟩

theorem unopened_of_fetching (owned : Owned s) {id : Nat} {c : Receive ε} {r size : Nat}
    {call : Fetch ε} (found : s.receive? id = some c) (fetches : c.phase = .fetching r size call) :
    s.unopened = [] := by
  rw [List.eq_nil_iff_forall_not_mem]
  intro q opens
  obtain ⟨⟨i, d⟩, member, opened⟩ := List.mem_filterMap.mp opens
  have there : s.receive? i = some d := call_found owned.distinct member
  have its := (owner_alone owned there (owned_of_opening opened)).1
  have mine := (owner_alone owned found (r := r) (by rw [fetches]; rfl)).1
  cases mine.symm.trans its
  cases found.symm.trans there
  simp [opening, fetches] at opened

/-- Nobody begins to ask, and whoever has yet to call the provider still has to. -/
structure Quiet (s t : State ε) : Prop where
  kept : ∀ x ∈ t.receives, ∀ asked, x.2.phase.asking? = some asked → x ∈ s.receives
  unopened : t.unopened = s.unopened

theorem quiet_of_same (same : t.receives = s.receives) : Quiet s t :=
  ⟨fun _ member _ _ => same ▸ member, congrArg (List.filterMap opening) same⟩

theorem quiet_of_set (distinct : (s.receives.map (·.1)).Nodup) {id : Nat} {c : Receive ε}
    {phase : ReceivePhase ε} (found : s.receive? id = some c)
    (same : t.receives = (s.setReceive id phase).receives) (before : opening (id, c) = none)
    (after : phase.asking? = none) : Quiet s t := by
  constructor
  · intro x member asked asks
    rw [same] at member
    rcases update_cases distinct found (f := fun c => { c with phase := phase }) member with
      ⟨old, _⟩ | rfl
    · exact old
    · rw [after] at asks
      cases asks
  · have nothing : opening (id, { c with phase := phase }) = none := by
      cases phase with
      | opening => cases after
      | _ => rfl
    rw [State.unopened, same]
    exact read_kept distinct found (f := fun c => { c with phase := phase })
      (nothing.trans before.symm)

theorem quiet_of_without (distinct : (s.receives.map (·.1)).Nodup) {id : Nat} {c : Receive ε}
    (found : s.receive? id = some c) (same : t.receives = (s.without id).receives)
    (before : opening (id, c) = none) : Quiet s t := by
  constructor
  · intro x member _ _
    rw [same] at member
    exact (List.mem_filter.mp member).1
  · rw [State.unopened, same]
    exact read_removed distinct found before

/-- What a step does to the calls for messages. -/
inductive Asks (s : State ε) (e : Event ε) : State ε → Prop
  | rest {t : State ε} (silent : e.resumes = false) (same : t.fetches = s.fetches)
      (quiet : Quiet s t) : Asks s e t
  | begin {id : Nat} {c : Receive ε} (found : s.receive? id = some c) (sound : s.fault = none)
      (free : s.round = none) : Asks s e (s.beginRound id)
  | call {id : Nat} {c : Receive ε} {r size : Nat} (silent : e.resumes = false)
      (found : s.receive? id = some c) (opens : c.phase = .opening r size) :
      Asks s e ((s.ask c r size).setReceive id (.fetching r size .start))
  | pause {id : Nat} {c : Receive ε} {r size : Nat} {call after : Fetch ε}
      {inner : Retry.Event (List Parcel) (Trouble ε)} {length : Duration} {last : Trouble ε}
      (found : s.receive? id = some c) (fetches : c.phase = .fetching r size call)
      (moment : Moment s id c e inner)
      (stepped : call.step s.policy s.provider.retryable inner = some after)
      (pausing : after.phase = .pausing length last) :
      Asks s e (s.setReceive id (.fetching r size after))
  | again {id : Nat} {c : Receive ε} {r size : Nat} {call after : Fetch ε}
      {inner : Retry.Event (List Parcel) (Trouble ε)} (found : s.receive? id = some c)
      (fetches : c.phase = .fetching r size call) (moment : Moment s id c e inner)
      (stepped : call.step s.policy s.provider.retryable inner = some after)
      (attempting : after.phase = .attempting) :
      Asks s e ((s.ask c r size).setReceive id (.fetching r size after))

/-- Only a pause that ends of itself brings another attempt. -/
theorem silent_of_moment {id : Nat} {c : Receive ε} {inner : Retry.Event (List Parcel) (Trouble ε)}
    {call after : Fetch ε} (moment : Moment s id c e inner)
    (stepped : call.step s.policy s.provider.retryable inner = some after)
    (other : after.phase ≠ .attempting) : e.resumes = false := by
  cases moment with
  | resumed =>
    cases Retry.moves_of_step stepped with
    | resume => exact absurd rfl other
  | _ => rfl

theorem asks_of_moves (distinct : (s.receives.map (·.1)).Nodup) (moved : Moves s e t) :
    Asks s e t := by
  cases moved with
  | aside same outside =>
    exact .rest (bare_of_outside outside).2 same.fetches (quiet_of_same same.receives)
  | arrive id token =>
    refine .rest rfl rfl ⟨?_, ?_⟩
    · intro x member asked asks
      rcases List.mem_append.mp member with old | new
      · exact old
      · cases List.mem_singleton.mp new
        cases asks
    · rw [State.unopened, List.filterMap_append]
      exact List.append_nil _
  | refuse found looks =>
    exact .rest rfl rfl (quiet_of_set distinct found rfl (by simp [opening, looks]) rfl)
  | handOut found looks =>
    exact .rest rfl rfl (quiet_of_set distinct found rfl (by simp [opening, looks]) rfl)
  | join found looks =>
    exact .rest rfl rfl (quiet_of_set distinct found rfl (by simp [opening, looks]) rfl)
  | giveUp found looks =>
    exact .rest rfl rfl (quiet_of_set distinct found rfl (by simp [opening, looks]) rfl)
  | begin found _ sound _ free => exact .begin found sound free
  | call found opens => exact .call rfl found opens
  | wake found waits =>
    exact .rest rfl rfl (quiet_of_set distinct found rfl (by simp [opening, waits]) rfl)
  | store found stores =>
    exact .rest rfl rfl (quiet_of_set distinct found rfl (by simp [opening, stores]) rfl)
  | conclude found ends =>
    refine .rest rfl rfl (quiet_of_set distinct found rfl ?_ ?_)
    · rcases conclusion_cases ends with ⟨phase, _⟩ | ⟨_, phase, _⟩ | ⟨phase, _⟩ <;>
        simp [opening, phase]
    · cases follows_of_conclusion ends <;> rfl
  | cancel found waits =>
    exact .rest rfl rfl (quiet_of_set distinct found rfl (by simp [opening, waits]) rfl)
  | depart found free =>
    refine .rest rfl rfl (quiet_of_without distinct found rfl ?_)
    rcases free with phase | ⟨_, phase⟩ <;> simp [opening, phase]
  | abandon found fetches =>
    exact .rest rfl rfl (quiet_of_without distinct found rfl (by simp [opening, fetches]))
  | clear found gives =>
    refine .rest rfl rfl (quiet_of_set distinct found rfl ?_ rfl)
    rcases giveBack_cases gives with ⟨_, _, phase⟩ | phase | ⟨_, phase⟩ | phase <;>
      simp [opening, phase]
  | signal found signals goes =>
    refine .rest rfl rfl (quiet_of_set distinct found rfl (by simp [opening, signals]) ?_)
    cases follows_of_sequel goes <;> rfl
  | vanish found signals =>
    exact .rest rfl rfl (quiet_of_without distinct found rfl (by simp [opening, signals]))
  | bring found fetches =>
    exact .rest rfl rfl (quiet_of_set distinct found rfl (by simp [opening, fetches]) rfl)
  | fail found fetches moment _ stepped failed =>
    exact .rest (silent_of_moment moment stepped (by simp [failed])) rfl
      (quiet_of_set distinct found rfl (by simp [opening, fetches]) rfl)
  | collapse found fetches moment _ stepped broken =>
    exact .rest (silent_of_moment moment stepped (by simp [broken])) rfl
      (quiet_of_set distinct found rfl (by simp [opening, fetches]) rfl)
  | pause found fetches moment _ stepped pausing =>
    exact .pause found fetches moment stepped pausing
  | retry found fetches moment _ stepped attempting =>
    exact .again found fetches moment stepped attempting

theorem inBudget_of_run (reached : run State.step (.new provider replaced options) es = some s)
    {id : Nat} {c : Receive ε} {r size : Nat} {call : Fetch ε} (found : s.receive? id = some c)
    (fetches : c.phase = .fetching r size call) : Retry.InBudget s.policy call := by
  have all : ∀ x ∈ s.receives, ∀ r size call, x.2.phase = .fetching r size call →
      Retry.InBudget s.policy call := by
    refine run_invariant (P := fun _ s => ∀ x ∈ s.receives, ∀ r size call,
      x.2.phase = .fetching r size call → Retry.InBudget s.policy call) ?_ ?_ reached
    · intro x member
      cases member
    · intro es s e t before ih moved
      have distinct := (owned_of_run before).distinct
      obtain ⟨os, acks⟩ := ackMoves_of_step moved
      rw [policy_kept acks]
      have set : ∀ {i : Nat} {d : Receive ε} {phase : ReceivePhase ε}, s.receive? i = some d →
          (∀ r size call, phase = .fetching r size call → Retry.InBudget s.policy call) →
          ∀ x ∈ (s.setReceive i phase).receives, ∀ r size call,
            x.2.phase = .fetching r size call → Retry.InBudget s.policy call := by
        intro i d phase found budget x member r size call fetches
        rcases update_cases distinct found (f := fun c => { c with phase := phase }) member with
          ⟨old, _⟩ | rfl
        · exact ih x old r size call fetches
        · exact budget r size call fetches
      have going : ∀ {call : Fetch ε} {q n : Nat}, Retry.InBudget s.policy call →
          ∀ r size inner, ReceivePhase.fetching q n call = .fetching r size inner →
            Retry.InBudget s.policy inner := by
        intro call q n budget r size inner same
        cases same
        exact budget
      cases asks_of_moves distinct (moves_of_step moved) with
      | rest _ _ quiet =>
        intro x member r size call fetches
        exact ih x (quiet.kept x member _ (by rw [fetches]; rfl)) r size call fetches
      | begin found => exact set found (by simp)
      | call _ found => exact set found (going (Retry.inBudget_start _))
      | pause found fetches _ stepped =>
        exact set found (going ((ih _ (call_member found) _ _ _ fetches).next stepped))
      | again found fetches _ stepped =>
        exact set found (going ((ih _ (call_member found) _ _ _ fetches).next stepped))
  exact all (id, c) (call_member found) r size call fetches

/-- The provider is at work for this receive. -/
def Underway (c : Receive ε) : Prop :=
  ∃ r size call, c.phase = .fetching r size call ∧ call.phase = .attempting

/-- What became by the time of `t` of those that ask in `s`: `later` are the calls that they have made
since. -/
structure Remains (s t : State ε) (later : List FetchAttempt) : Prop where
  added : t.fetches = s.fetches ++ later
  policy : t.policy = s.policy
  fired : s.fired ⊆ t.fired
  origin : ∀ a ∈ later, ∃ id c made, Asking s id c a.round a.size made
  going : ∀ id d r size now, Asking t id d r size now → ∃ c made, Asking s id c r size made ∧
    c.token = d.token ∧ now = made + later.length ∧
    (fires s.fired c.token = true → later ≠ [] → Underway d)
  once : ∀ id c r size made, Asking s id c r size made → fires s.fired c.token = true →
    later.length ≤ 1
  bounded : ∀ id c r size made, Asking s id c r size made → ∀ limit,
    s.policy.maxAttempts = some limit → made + later.length ≤ limit.toNat + 1

variable {later : List FetchAttempt}

theorem Remains.keep (remains : Remains s t later) (same : u.fetches = t.fetches)
    (policy : u.policy = t.policy) (fired : t.fired ⊆ u.fired)
    (going : ∀ id d r size now, Asking u id d r size now → ∃ c made, Asking s id c r size made ∧
      c.token = d.token ∧ now = made + later.length ∧
      (fires s.fired c.token = true → later ≠ [] → Underway d)) :
    Remains s u later :=
  ⟨same.trans remains.added, policy.trans remains.policy, fun _ old => fired (remains.fired old),
    remains.origin, going, remains.once, remains.bounded⟩

/-- A fetch goes on to a pause only as long as its token has not fired. -/
theorem Remains.pause (remains : Remains s t later) {id : Nat} {c : Receive ε} {r size : Nat}
    {call after : Fetch ε} {inner : Retry.Event (List Parcel) (Trouble ε)} {length : Duration}
    {last : Trouble ε} (found : t.receive? id = some c) (fetches : c.phase = .fetching r size call)
    (moment : Moment t id c e inner)
    (stepped : call.step t.policy t.provider.retryable inner = some after)
    (pausing : after.phase = .pausing length last) : ∃ d made, Asking s id d r size made ∧
      d.token = c.token ∧ after.attempts = made + later.length ∧ fires s.fired d.token = false := by
  obtain ⟨d, made, start, token, attempts, _⟩ :=
    remains.going id c r size call.attempts ⟨found, by rw [fetches]; rfl⟩
  obtain ⟨kept, jitter, failure⟩ := Retry.paused_of_step stepped pausing
  have unfired : fires t.fired c.token = false := by
    cases moment with
    | returned => exact (Retry.Event.returned.inj failure).2.1
    | _ => cases failure
  refine ⟨d, made, start, token, kept.trans attempts, ?_⟩
  by_contra gaveUp
  have later := Closing.fires_later remains.fired (eq_true_of_ne_false gaveUp)
  rw [token, unfired] at later
  contradiction

/-- One more call is that of the only receive that asks. Where its token had fired it is the first. -/
theorem Remains.more (remains : Remains s t later) (before : Owned s) (owned : Owned t) {id : Nat}
    {c : Receive ε} {r size made : Nat} {after : Fetch ε} (asks : Asking t id c r size made)
    (idle : ¬ Underway c) (attempting : after.phase = .attempting)
    (count : after.attempts = made + 1) (budget : Retry.InBudget t.policy after) : Remains s
      ((t.ask c r size).setReceive id (.fetching r size after))
      (later ++ [⟨r, size, fires t.fired c.token⟩]) := by
  obtain ⟨d, first, start, token, so_far, lastOne⟩ := remains.going _ _ _ _ _ asks
  have total : ∀ a : FetchAttempt, after.attempts = first + (later ++ [a]).length := by
    intro a
    rw [count, so_far, List.length_append, List.length_singleton, Nat.add_assoc]
  refine ⟨?_, remains.policy, remains.fired, ?_, ?_, ?_, ?_⟩
  · simp only [State.setReceive, State.ask, remains.added, List.append_assoc]
  · intro a member
    rcases List.mem_append.mp member with old | new
    · exact remains.origin a old
    · cases List.mem_singleton.mp new
      exact ⟨id, d, first, start⟩
  · intro i x q n now goes
    rcases asking_set (s := t.ask c r size) owned.distinct asks.1 goes with
      ⟨other, old⟩ | ⟨rfl, rfl, same⟩
    · exact absurd (asking_alone owned asks old).2.1 other
    · cases same
      exact ⟨d, first, start, token, total _, fun _ _ => ⟨_, _, _, rfl, attempting⟩⟩
  · intro i x q n made other gaveUp
    obtain ⟨_, rfl, rfl, _⟩ := asking_alone before start other
    cases later with
    | nil => exact Nat.le_refl 1
    | cons a rest => exact absurd (lastOne gaveUp (List.cons_ne_nil a rest)) idle
  · intro i x q n made other limit has
    obtain ⟨_, _, _, _, rfl⟩ := asking_alone before start other
    rw [← remains.policy] at has
    exact total _ ▸ (budget limit has).1

theorem unopened_of_call (distinct : (s.receives.map (·.1)).Nodup) {id : Nat} {c : Receive ε}
    {r size : Nat} (found : s.receive? id = some c) (opens : c.phase = .opening r size)
    (call : Fetch ε) :
    (s.setReceive id (.fetching r size call)).unopened.length + 1 = s.unopened.length := by
  obtain ⟨before, after, all, _, changed⟩ := read_around distinct found opening
  have first : opening (id, c) = some r := by simp [opening, opens]
  have now := changed fun c => { c with phase := .fetching r size call }
  have gone : opening (id, { c with phase := .fetching r size call }) = none := rfl
  rw [State.unopened, State.setReceive, now, State.unopened, all, first, gone]
  simp only [List.length_append, Option.toList_some, Option.toList_none, List.length_singleton,
    List.length_nil]
  omega

theorem unopened_kept (distinct : (s.receives.map (·.1)).Nodup) {id : Nat} {c : Receive ε}
    {r size : Nat} {call : Fetch ε} (found : s.receive? id = some c)
    (fetches : c.phase = .fetching r size call) (after : Fetch ε) :
    (s.setReceive id (.fetching r size after)).unopened = s.unopened :=
  read_kept distinct found (f := fun c => { c with phase := .fetching r size after })
    (by simp [opening, fetches])

theorem remains_of_run {f : Fault ε}
    (reached : run State.step (.new provider replaced options) es = some s)
    (failed : s.fault = some f) (ran : run State.step s fs = some t) :
    ∃ later, Remains s t later ∧
      later.length + t.unopened.length = s.unopened.length + fs.countP Event.resumes := by
  have owned := owned_of_run reached
  have start : Remains s s [] := by
    refine ⟨(List.append_nil _).symm, rfl, List.Subset.refl _, by simp, ?_, by simp, ?_⟩
    · intro id c r size made asks
      exact ⟨c, made, asks, rfl, rfl, fun _ none_later => absurd rfl none_later⟩
    · intro id c r size made asks limit has
      rcases asking_cases asks.2 with ⟨_, rfl⟩ | ⟨call, fetches, rfl⟩
      · exact Nat.zero_le _
      · exact (inBudget_of_run reached asks.1 fetches limit has).1
  refine run_invariant (P := fun fs t => ∃ later, Remains s t later ∧
    later.length + t.unopened.length = s.unopened.length + fs.countP Event.resumes)
    ⟨[], start, by simp⟩ ?_ ran
  rintro fs t e u ran ⟨later, remains, counted⟩ moved
  have so_far := run_trans reached ran
  have now := owned_of_run so_far
  obtain ⟨os, acks⟩ := ackMoves_of_step moved
  have policy := policy_kept acks
  have fired := fired_kept acks
  rw [List.countP_append, List.countP_singleton]
  -- The calls of `later` belong to one receive, which is still the only one that can make another.
  cases asks_of_moves now.distinct (moves_of_step moved) with
  | rest silent same quiet =>
    refine ⟨later, remains.keep same policy fired ?_, by simp [silent, quiet.unopened, counted]⟩
    intro id d r size made asks
    have old := quiet.kept (id, d) (call_member asks.1) _ asks.2
    exact remains.going id d r size made ⟨call_found now.distinct old, asks.2⟩
  | begin _ sound =>
    rw [fault_later failed ran] at sound
    cases sound
  | @call id c r size silent found opens =>
    have one := unopened_of_call now.distinct found opens .start
    refine ⟨_, remains.more owned now ⟨found, by rw [opens]; rfl⟩ ?_ rfl rfl
      (Retry.inBudget_start _), ?_⟩
    · rintro ⟨q, n, call, fetches, _⟩
      rw [opens] at fetches
      cases fetches
    · have same : ((t.ask c r size).setReceive id (.fetching r size .start)).unopened =
          (t.setReceive id (.fetching r size .start)).unopened := rfl
      simp only [silent, same, List.length_append, List.length_singleton, Bool.false_eq_true,
        if_false]
      omega
  | @pause id c r size call after inner _ _ found fetches moment stepped pausing =>
    have silent := silent_of_moment moment stepped (by simp [pausing])
    have unopened := unopened_kept now.distinct found fetches after
    refine ⟨later, remains.keep rfl policy fired ?_, by simp [silent, unopened, counted]⟩
    intro i x q n made asks
    rcases asking_set now.distinct found asks with ⟨_, old⟩ | ⟨rfl, rfl, same⟩
    · exact remains.going i x q n made old
    · cases same
      obtain ⟨d, first, start, token, count, unfired⟩ :=
        remains.pause found fetches moment stepped pausing
      exact ⟨d, first, start, token, count, fun gaveUp => by simp [unfired] at gaveUp⟩
  | @again id c r size call after inner found fetches moment stepped attempting =>
    have budget := (inBudget_of_run so_far found fetches).next stepped
    obtain ⟨rfl, count, _, _, pausing⟩ := Retry.resumed_of_step stepped attempting
    have unopened : ((t.ask c r size).setReceive id (.fetching r size after)).unopened =
        t.unopened :=
      unopened_kept now.distinct found fetches after
    cases moment
    refine ⟨_, remains.more owned now ⟨found, by rw [fetches]; rfl⟩ ?_ attempting count budget, ?_⟩
    · rintro ⟨q, n, inner, other, busy⟩
      rw [fetches] at other
      cases other
      rw [pausing] at busy
      cases busy
    · simp only [unopened, Event.resumes, List.length_append, List.length_singleton, if_true]
      omega

/-- A subscription has a fault from the first moment of a shutdown on, so also when it has returned.
Under a fault no round begins, and the calls for messages are those of the receive that owns the round
in flight: its first one if it has yet to make it, and one for each pause of it that ends. They are one
at most if its token has fired, and never more than the policy allows. -/
theorem fetches_under_fault (provider : Provider ε) (replaced : Bool)
    (options : SubscriptionOptions) (es : List (Event ε)) (s : State ε)
    (reached : run State.step (.new provider replaced options) es = some s) :
    (∀ id c, s.shutdown? id = some c → c.phase ≠ .begun → s.fault = some closedFault) ∧
    s.unopened.length ≤ 1 ∧
    ∀ f, s.fault = some f → ∀ fs t, run State.step s fs = some t →
      t.rounds.length = s.rounds.length ∧
      ∃ later, t.fetches = s.fetches ++ later ∧
        later.length + t.unopened.length = s.unopened.length + fs.countP Event.resumes ∧
        (∀ a ∈ later, s.round = some a.round ∧ ∃ id c made, Asking s id c a.round a.size made) ∧
        ∀ id c r size made, Asking s id c r size made →
          (fires s.fired c.token = true → later.length ≤ 1) ∧
          ∀ limit, options.retry.maxAttempts = some limit →
            made + later.length ≤ limit.toNat + 1 := by
  have owned := owned_of_run reached
  have policy := policy_of_run reached
  refine ⟨?_, unopened_length owned, ?_⟩
  · intro id c found past
    obtain ⟨os, bs, reached, _⟩ := reached_of_run reached
    exact (settled_of_reached reached).marked (id, c) (call_member found) past
  · intro f failed fs t ran
    obtain ⟨later, remains, counted⟩ := remains_of_run reached failed ran
    refine ⟨(idle_later failed ran).2, later, remains.added, counted, ?_, ?_⟩
    · intro a member
      obtain ⟨id, c, made, asks⟩ := remains.origin a member
      exact ⟨(asking_alone owned asks asks).1, id, c, made, asks⟩
    · intro id c r size made asks
      refine ⟨remains.once id c r size made asks, fun limit has => ?_⟩
      rw [← policy] at has
      exact remains.bounded id c r size made asks limit has

/-- A round has begun, and a shutdown returns before the provider is called for it. -/
def shutWhileOpening : List (Event String) :=
  [.receive 1 none, .receiveStep 1, .shutdown 2 none, .shutdownStep 2, .shutdownStep 2,
    .shutdownStep 2, .shutdownStep 2, .shutdownStep 2]

/-- The call is made, fails, and is made again after a pause. -/
def twoMore : List (Event String) :=
  [.receiveStep 1, .fetched 1 (.error (.native "busy")) 0, .fetchResumed 1,
    .fetched 1 (.ok [parcel 0]) 0]

theorem fetches_under_fault_while_opening :
    ∃ s t : State String, run State.step (.new relay false default) shutWhileOpening = some s ∧
      s.fault = some closedFault ∧ s.unopened = [0] ∧ run State.step s twoMore = some t ∧
      t.rounds.length = s.rounds.length ∧ ∃ later, t.fetches = s.fetches ++ later ∧
        later.length = 2 ∧ ∀ a ∈ later, s.round = some a.round := by
  have ran : (run State.step (.new relay false default) shutWhileOpening).map (fun s =>
      ((s.shutdown? 2).bind fun c => c.outcome?.map Except.isOk, s.unopened,
        (run State.step s twoMore).map State.unopened)) = some (some true, [0], some []) := by
    decide +kernel
  obtain ⟨s, reached, facts⟩ := Option.map_eq_some_iff.mp ran
  simp only [Prod.mk.injEq] at facts
  obtain ⟨returned, unopened, after⟩ := facts
  obtain ⟨c, found, returned⟩ := Option.bind_eq_some_iff.mp returned
  obtain ⟨t, ran, opened⟩ := Option.map_eq_some_iff.mp after
  have past : c.phase ≠ .begun := by
    intro begun
    simp [Closing.Call.outcome?, begun] at returned
  have h := fetches_under_fault relay false default shutWhileOpening s reached
  have closed := h.1 2 c found past
  obtain ⟨rounds, later, added, counted, origin, _⟩ := h.2.2 _ closed twoMore t ran
  rw [opened, unopened] at counted
  exact ⟨s, t, reached, closed, unopened, ran, rounds, later, added, counted,
    fun a member => (origin a member).1⟩

/-- A shutdown succeeds while a receive pauses before its next attempt. -/
def shutWhilePausing : List (Event String) :=
  [.receive 1 none, .receiveStep 1, .receiveStep 1, .fetched 1 (.error (.native "busy")) 0,
    .shutdown 2 none, .shutdownStep 2, .shutdownStep 2, .shutdownStep 2, .shutdownStep 2,
    .shutdownStep 2]

/-- The pause ends, and the attempt that follows succeeds. -/
def oneMore : List (Event String) :=
  [.fetchResumed 1, .fetched 1 (.ok [parcel 0]) 0, .receiveStep 1]

/-- A shutdown that has returned is not the end of the calls for messages. -/
theorem fetch_after_shutdown :
    ¬ ∀ (provider : Provider String) (replaced : Bool) (options : SubscriptionOptions)
      (es : List (Event String)) (s : State String),
      run State.step (.new provider replaced options) es = some s →
      ∀ id c o, s.shutdown? id = some c → c.outcome? = some o →
        ∀ fs t, run State.step s fs = some t → t.fetches = s.fetches := by
  intro claim
  have ran : (run State.step (.new relay false default) shutWhilePausing).map (fun s =>
      ((s.shutdown? 2).bind fun c => c.outcome?.map Except.isOk, s.fetches.length,
        (run State.step s oneMore).map fun t => t.fetches.length)) =
        some (some true, 1, some 2) := by
    decide +kernel
  obtain ⟨s, reached, facts⟩ := Option.map_eq_some_iff.mp ran
  simp only [Prod.mk.injEq] at facts
  obtain ⟨returned, before, after⟩ := facts
  obtain ⟨c, found, outcome⟩ := Option.bind_eq_some_iff.mp returned
  obtain ⟨o, returned, _⟩ := Option.map_eq_some_iff.mp outcome
  obtain ⟨t, ran, after⟩ := Option.map_eq_some_iff.mp after
  have same := claim relay false default _ s reached 2 c o found returned _ t ran
  rw [same, before] at after
  cases after

end Courier.Subscription
