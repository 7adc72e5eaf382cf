import Courier.Proofs.Subscription.Moves
import Mathlib.Data.List.Range

/-! Rounds of fetching come one after another. The slot for the round in flight and the receive that
owns the round are two places in the state; each step changes both or neither. A round begins only
where the slot is free, and only its own owner gives it back. -/

namespace Courier.Subscription

variable {ε : Type}

/-- The round that a receive in this phase has to give back. -/
def ReceivePhase.owned? : ReceivePhase ε → Option Nat
  | .opening r _ => some r
  | .fetching r _ _ => some r
  | .storing r _ => some r
  | .stored r => some r
  | .failing r _ => some r
  | .collapsing r => some r
  | _ => none

/-- The round that a receive asks messages for, how many, and how many calls it has made for them. -/
def ReceivePhase.asking? : ReceivePhase ε → Option (Nat × Nat × Nat)
  | .opening r size => some (r, size, 0)
  | .fetching r size call => some (r, size, call.attempts)
  | _ => none

theorem asking_cases {phase : ReceivePhase ε} {r size made : Nat}
    (asks : phase.asking? = some (r, size, made)) :
    (phase = .opening r size ∧ made = 0) ∨
      ∃ call, phase = .fetching r size call ∧ made = call.attempts := by
  cases phase with
  | opening =>
    cases asks
    exact .inl ⟨rfl, rfl⟩
  | fetching q n call =>
    cases asks
    exact .inr ⟨call, rfl, rfl⟩
  | _ => cases asks

theorem owned_of_asking {phase : ReceivePhase ε} {r size made : Nat}
    (asks : phase.asking? = some (r, size, made)) : phase.owned? = some r := by
  rcases asking_cases asks with ⟨rfl, _⟩ | ⟨call, rfl, _⟩ <;> rfl

def ownership (x : Nat × Receive ε) : Option (Nat × Nat) := x.2.phase.owned?.map (x.1, ·)

/-- The receives that own a round, each with its round. -/
def State.owners (s : State ε) : List (Nat × Nat) := s.receives.filterMap ownership

def calling (x : Nat × Receive ε) : Option Nat :=
  match x.2.phase with
  | .fetching r _ call => match call.phase with
    | .attempting => some r
    | _ => none
  | _ => none

/-- The rounds with a call to the provider in progress. -/
def State.inFlight (s : State ε) : List Nat := s.receives.filterMap calling

/-- The slot holds the round of the only owner; rounds are numbered as they begin. -/
structure Owned (s : State ε) : Prop where
  distinct : (s.receives.map (·.1)).Nodup
  slot : s.owners.map (·.2) = s.round.toList
  newest : ∀ r, s.round = some r → r + 1 = s.rounds.length

theorem owned_of_conclusion {phase next : ReceivePhase ε} {r : Nat}
    (ends : phase.conclusion? = some (r, next)) : phase.owned? = some r := by
  rcases conclusion_cases ends with ⟨rfl, _⟩ | ⟨_, rfl, _⟩ | ⟨rfl, _⟩ <;> rfl

theorem owned_of_giveBack {phase : ReceivePhase ε} {r : Nat} {sequel : Sequel ε}
    (gives : phase.giveBack? = some (r, sequel)) : phase.owned? = some r := by
  rcases giveBack_cases gives with ⟨_, _, rfl⟩ | rfl | ⟨_, rfl⟩ | rfl <;> rfl

theorem owned_of_slot {s : State ε} (owned : Owned s) {before after : List (Nat × Nat)} {id r : Nat}
    (split : s.owners = before ++ [(id, r)] ++ after) :
    before = [] ∧ after = [] ∧ s.round = some r := by
  have slot := owned.slot
  rw [split] at slot
  cases round : s.round with
  | none => simp [round] at slot
  | some q =>
    have size := congrArg List.length slot
    simp only [round, List.length_map, List.length_append, List.length_singleton,
      Option.toList_some] at size
    have first : before = [] := List.length_eq_zero_iff.mp (by omega)
    have last : after = [] := List.length_eq_zero_iff.mp (by omega)
    subst first last
    simp only [round, List.nil_append, List.append_nil, List.map_singleton, Option.toList_some,
      List.cons.injEq, and_true] at slot
    exact ⟨rfl, rfl, congrArg some slot.symm⟩

theorem owners_of_free {s : State ε} (owned : Owned s) (free : s.round = none) : s.owners = [] := by
  have slot := owned.slot
  rw [free] at slot
  exact List.map_eq_nil_iff.mp slot

theorem owners_kept {s : State ε} (owned : Owned s) {id : Nat} {c : Receive ε}
    (found : s.receive? id = some c) {phase : ReceivePhase ε} (same : phase.owned? = c.phase.owned?) :
    (s.setReceive id phase).owners = s.owners :=
  read_kept owned.distinct found (f := fun c => { c with phase := phase })
    (by simp only [ownership, same])

theorem owners_without {s : State ε} (owned : Owned s) {id : Nat} {c : Receive ε}
    (found : s.receive? id = some c) (free : c.phase.owned? = none) :
    (s.without id).owners = s.owners :=
  read_removed owned.distinct found (by simp only [ownership, free, Option.map_none])

theorem owners_begun {s : State ε} (owned : Owned s) {id n : Nat} {c : Receive ε}
    (found : s.receive? id = some c) (free : s.round = none) {phase : ReceivePhase ε}
    (owns : phase.owned? = some n) : (s.setReceive id phase).owners = [(id, n)] := by
  obtain ⟨before, after, all, _, changed⟩ := read_around owned.distinct found ownership
  have now := changed fun c => { c with phase := phase }
  have none_before := owners_of_free owned free
  rw [State.owners, all, List.append_eq_nil_iff, List.append_eq_nil_iff] at none_before
  obtain ⟨⟨rfl, _⟩, rfl⟩ := none_before
  have new : ownership (id, { c with phase := phase }) = some (id, n) := by
    simp only [ownership, owns, Option.map_some]
  rw [new] at now
  exact now

/-- An owner is the only one, and nobody is left when it stops being one. -/
theorem owner_alone {s : State ε} (owned : Owned s) {id r : Nat} {c : Receive ε}
    (found : s.receive? id = some c) (owns : c.phase.owned? = some r) :
    s.owners = [(id, r)] ∧ s.round = some r ∧ (s.without id).owners = [] ∧
      ∀ phase : ReceivePhase ε, phase.owned? = none → (s.setReceive id phase).owners = [] := by
  obtain ⟨before, after, all, rest, changed⟩ := read_around owned.distinct found ownership
  have mine : ownership (id, c) = some (id, r) := by simp only [ownership, owns, Option.map_some]
  rw [mine] at all
  obtain ⟨rfl, rfl, round⟩ := owned_of_slot owned all
  refine ⟨all, round, rest, fun phase free => ?_⟩
  have now := changed fun c => { c with phase := phase }
  have nothing : ownership (id, { c with phase := phase }) = none := by
    simp only [ownership, free, Option.map_none]
  rw [nothing] at now
  exact now

/-- The critical section in which a receive begins a round. -/
def Starts (s : State ε) (e : Event ε) (id : Nat) : Prop :=
  e = .receiveStep id ∧ ∃ c, s.receive? id = some c ∧ c.phase = .looking ∧ s.fault = none ∧
    s.queue = [] ∧ s.round = none ∧ fires s.fired c.token = false

theorem Starts.free {s : State ε} {e : Event ε} {id : Nat} (starts : Starts s e id) :
    s.round = none := by
  obtain ⟨_, _, _, _, _, _, free, _⟩ := starts
  exact free

/-- The ways in which a round ends: with a batch, with an error, with a panic, or because its owner
is dropped. The signal goes with it or comes later. -/
def Ends (s : State ε) (e : Event ε) (id r : Nat) : Prop :=
  ∃ c, s.receive? id = some c ∧
    (((e = .receiveStep id ∨ e = .receiveClear id) ∧
        (c.phase = .stored r ∨ (∃ f, c.phase = .failing r f) ∨ c.phase = .collapsing r)) ∨
      ((e = .receiveLeave id ∨ e = .receiveClear id) ∧
        ∃ size call, c.phase = .fetching r size call))

/-- What a step does to ownership. -/
inductive Turn (s : State ε) (e : Event ε) (t : State ε) : Prop
  | keep (owners : t.owners = s.owners) (round : t.round = s.round)
      (rounds : t.rounds.length = s.rounds.length)
  | take (id : Nat) (starts : Starts s e id) (before : s.owners = [])
      (owners : t.owners = [(id, s.rounds.length)]) (round : t.round = some s.rounds.length)
      (rounds : ∃ size, t.rounds = s.rounds ++ [⟨size, false⟩])
  | give (id r : Nat) (ends : Ends s e id r) (before : s.owners = [(id, r)])
      (held : s.round = some r) (owners : t.owners = []) (round : t.round = none)
      (rounds : t.rounds.length = s.rounds.length)

theorem turn_of_conclusion {s : State ε} (owned : Owned s) {id r : Nat} {c : Receive ε}
    {next : ReceivePhase ε} (found : s.receive? id = some c)
    (ends : c.phase.conclusion? = some (r, next)) :
    Turn s (.receiveStep id) ((s.release r).setReceive id next) := by
  have free : next.owned? = none := by
    cases follows_of_conclusion ends <;> rfl
  have way : c.phase = .stored r ∨ (∃ f, c.phase = .failing r f) ∨ c.phase = .collapsing r := by
    rcases conclusion_cases ends with ⟨phase, _⟩ | ⟨f, phase, _⟩ | ⟨phase, _⟩
    · exact .inl phase
    · exact .inr (.inl ⟨f, phase⟩)
    · exact .inr (.inr phase)
  obtain ⟨before, held, _, gone⟩ := owner_alone owned found (owned_of_conclusion ends)
  exact .give id r ⟨c, found, .inl ⟨.inl rfl, way⟩⟩ before held (gone next free) rfl
    (List.length_modify _ _ _)

theorem turn_of_clearing {s : State ε} (owned : Owned s) {id r : Nat} {c : Receive ε}
    {sequel : Sequel ε} (found : s.receive? id = some c)
    (gives : c.phase.giveBack? = some (r, sequel)) :
    Turn s (.receiveClear id) (s.clear.setReceive id (.signalling r sequel)) := by
  have ends : Ends s (.receiveClear id) id r := by
    refine ⟨c, found, ?_⟩
    rcases giveBack_cases gives with fetching | way
    · exact .inr ⟨.inr rfl, fetching⟩
    · exact .inl ⟨.inr rfl, way⟩
  obtain ⟨before, held, _, gone⟩ := owner_alone owned found (owned_of_giveBack gives)
  exact .give id r ends before held (gone _ rfl) rfl rfl

theorem turn_of_moves {s t : State ε} {e : Event ε} (owned : Owned s) (moved : Moves s e t) :
    Turn s e t := by
  cases moved with
  | aside same =>
    exact .keep (by rw [State.owners, same.receives, State.owners]) same.round
      (congrArg List.length same.rounds)
  | arrive id token fresh =>
    refine .keep ?_ rfl rfl
    simp [State.owners, List.filterMap_append, ownership, ReceivePhase.owned?]
  | refuse found looks => exact .keep (owners_kept owned found (by rw [looks]; rfl)) rfl rfl
  | handOut found looks => exact .keep (owners_kept owned found (by rw [looks]; rfl)) rfl rfl
  | join found looks => exact .keep (owners_kept owned found (by rw [looks]; rfl)) rfl rfl
  | giveUp found looks => exact .keep (owners_kept owned found (by rw [looks]; rfl)) rfl rfl
  | @begin id c found looks sound empty free unfired =>
    exact .take id ⟨rfl, c, found, looks, sound, empty, free, unfired⟩ (owners_of_free owned free)
      (owners_begun owned found free rfl) rfl ⟨_, rfl⟩
  | call found opens => exact .keep (owners_kept owned found (by rw [opens]; rfl)) rfl rfl
  | wake found waits => exact .keep (owners_kept owned found (by rw [waits]; rfl)) rfl rfl
  | store found stores => exact .keep (owners_kept owned found (by rw [stores]; rfl)) rfl rfl
  | conclude found ends => exact turn_of_conclusion owned found ends
  | cancel found waits => exact .keep (owners_kept owned found (by rw [waits]; rfl)) rfl rfl
  | depart found free =>
    refine .keep (owners_without owned found ?_) rfl rfl
    rcases free with looks | ⟨r, waits⟩
    · rw [looks]
      rfl
    · rw [waits]
      rfl
  | @abandon id c r size call found fetches =>
    obtain ⟨before, held, gone, _⟩ := owner_alone owned found (r := r) (by rw [fetches]; rfl)
    exact .give id r ⟨c, found, .inr ⟨.inl rfl, size, call, fetches⟩⟩ before held gone rfl
      (List.length_modify _ _ _)
  | clear found gives => exact turn_of_clearing owned found gives
  | signal found signals goes =>
    refine .keep (owners_kept owned found ?_) rfl (List.length_modify _ _ _)
    rw [signals]
    cases follows_of_sequel goes <;> rfl
  | vanish found signals =>
    exact .keep (owners_without owned found (by rw [signals]; rfl)) rfl (List.length_modify _ _ _)
  | bring found fetches => exact .keep (owners_kept owned found (by rw [fetches]; rfl)) rfl rfl
  | fail found fetches => exact .keep (owners_kept owned found (by rw [fetches]; rfl)) rfl rfl
  | collapse found fetches => exact .keep (owners_kept owned found (by rw [fetches]; rfl)) rfl rfl
  | pause found fetches => exact .keep (owners_kept owned found (by rw [fetches]; rfl)) rfl rfl
  | retry found fetches => exact .keep (owners_kept owned found (by rw [fetches]; rfl)) rfl rfl

theorem setReceive_ids (s : State ε) (id : Nat) (phase : ReceivePhase ε) :
    (s.setReceive id phase).receives.map (·.1) = s.receives.map (·.1) :=
  update_keys s.receives id fun c => { c with phase := phase }

/-- A name is given to one receive only. -/
theorem distinct_next {s t : State ε} {e : Event ε} (distinct : (s.receives.map (·.1)).Nodup)
    (moved : Moves s e t) : (t.receives.map (·.1)).Nodup := by
  have set : ∀ id phase, ((s.setReceive id phase).receives.map (·.1)).Nodup :=
    fun id phase => setReceive_ids s id phase ▸ distinct
  have removed : ∀ id, ((s.without id).receives.map (·.1)).Nodup :=
    fun id => distinct.sublist (List.filter_sublist.map _)
  cases moved with
  | aside same => exact same.receives ▸ distinct
  | arrive id token fresh => exact keys_append distinct _ fresh
  | depart => exact removed _
  | abandon => exact removed _
  | vanish => exact removed _
  | _ => exact set _ _

theorem owned_next {s t : State ε} {e : Event ε} (owned : Owned s) (moved : Moves s e t) :
    Owned t := by
  have distinct := distinct_next owned.distinct moved
  have ⟨_, slot, newest⟩ := owned
  cases turn_of_moves owned moved with
  | keep owners round rounds =>
    refine ⟨distinct, by rw [owners, round, slot], ?_⟩
    rw [round, rounds]
    exact newest
  | take id starts before owners round rounds =>
    obtain ⟨size, rounds⟩ := rounds
    refine ⟨distinct, by rw [owners, round]; rfl, fun r now => ?_⟩
    rw [round, Option.some.injEq] at now
    rw [rounds, List.length_append, List.length_singleton, now]
  | give id r ends before held owners round rounds =>
    refine ⟨distinct, by rw [owners, round]; rfl, fun q now => ?_⟩
    rw [round] at now
    contradiction

theorem owned_of_run {provider : Provider ε} {replaced : Bool} {options : SubscriptionOptions}
    {es : List (Event ε)} {s : State ε}
    (reached : run State.step (.new provider replaced options) es = some s) : Owned s := by
  have base : Owned (State.new provider replaced options) :=
    ⟨List.nodup_nil, rfl, by simp [State.new]⟩
  refine run_invariant (P := fun _ s => Owned s) base ?_ reached
  intro es s e t _ owned moved
  exact owned_next owned (moves_of_step moved)

/-- The rounds that have an owner after a step and did not have it before. -/
def begun (s t : State ε) : List Nat := (t.owners.filter (· ∉ s.owners)).map (·.2)

/-- The rounds that lose their owner in a step. -/
def released (s t : State ε) : List Nat := (s.owners.filter (· ∉ t.owners)).map (·.2)

/-- Rounds begin in the order of their numbers and are given back once each in the same order. -/
theorem rounds_in_turn {provider : Provider ε} {replaced : Bool} {options : SubscriptionOptions}
    {es : List (Event ε)} {s : State ε}
    (reached : run State.step (.new provider replaced options) es = some s) :
    log State.step begun (.new provider replaced options) es = List.range s.rounds.length ∧
    log State.step released (.new provider replaced options) es ++ s.round.toList =
      List.range s.rounds.length := by
  refine run_invariant (P := fun es s =>
    log State.step begun (.new provider replaced options) es = List.range s.rounds.length ∧
    log State.step released (.new provider replaced options) es ++ s.round.toList =
      List.range s.rounds.length) ⟨rfl, rfl⟩ ?_ reached
  rintro es s e t before ⟨begins, ends⟩ moved
  rw [log_snoc begun before moved, log_snoc released before moved, begins]
  have owned := owned_of_run before
  cases turn_of_moves owned (moves_of_step moved) with
  | keep owners round rounds =>
    have none_begun : begun s t = [] := by simp [begun, owners]
    have none_released : released s t = [] := by simp [released, owners]
    rw [none_begun, none_released, round, rounds, List.append_nil, List.append_nil]
    exact ⟨rfl, ends⟩
  | take id starts none_before owners round rounds =>
    obtain ⟨size, rounds⟩ := rounds
    have one_begun : begun s t = [s.rounds.length] := by simp [begun, owners, none_before]
    have none_released : released s t = [] := by simp [released, none_before]
    rw [starts.free, Option.toList_none, List.append_nil] at ends
    rw [one_begun, none_released, round, rounds, List.length_append, List.length_singleton,
      List.range_succ, ends, List.append_nil]
    exact ⟨rfl, rfl⟩
  | give id r how one_before held owners round rounds =>
    have none_begun : begun s t = [] := by simp [begun, owners]
    have one_released : released s t = [r] := by simp [released, owners, one_before]
    rw [held] at ends
    rw [none_begun, one_released, round, rounds, List.append_nil, Option.toList_none,
      List.append_nil]
    exact ⟨rfl, ends⟩

/-- A call to the provider belongs to the owner of the round in flight. -/
theorem inFlight_sublist {s : State ε} (owned : Owned s) : s.inFlight.Sublist s.round.toList := by
  rw [← owned.slot, State.inFlight, State.owners, List.map_filterMap]
  apply read_sublist
  intro x r call
  simp only [calling] at call
  split at call
  · rename_i q size inner phase
    split at call
    · cases call
      simp [ownership, phase, ReceivePhase.owned?]
    · contradiction
  · contradiction

theorem round_iff {s : State ε} (owned : Owned s) (r : Nat) :
    s.round = some r ↔ ∃ id, s.owners = [(id, r)] := by
  constructor
  · intro round
    have slot := owned.slot
    rw [round, Option.toList_some, List.map_eq_singleton_iff] at slot
    obtain ⟨⟨id, q⟩, owners, same⟩ := slot
    exact ⟨id, same ▸ owners⟩
  · rintro ⟨id, owners⟩
    exact (@owned_of_slot _ s owned [] [] id r owners).2.2

theorem free_iff {s : State ε} (owned : Owned s) : s.round = none ↔ s.owners = [] := by
  constructor
  · exact owners_of_free owned
  · intro owners
    have slot := owned.slot
    rw [owners] at slot
    exact Option.toList_eq_nil_iff.mp slot.symm

theorem inFlight_length {s : State ε} (owned : Owned s) : s.inFlight.length ≤ 1 := by
  have size := (inFlight_sublist owned).length_le
  have one : s.round.toList.length ≤ 1 := by cases s.round <;> simp
  omega

theorem Turn.starts {s t : State ε} {e : Event ε} (turn : Turn s e t) {id r : Nat}
    (now : (id, r) ∈ t.owners) (absent : (id, r) ∉ s.owners) : Starts s e id ∧ t.round = some r := by
  cases turn with
  | keep owners => exact absurd (owners ▸ now) absent
  | take id starts _ owners round =>
    rw [owners, List.mem_singleton] at now
    cases now
    exact ⟨starts, round⟩
  | give _ _ _ _ _ owners =>
    rw [owners] at now
    contradiction

theorem Turn.ends {s t : State ε} {e : Event ε} (turn : Turn s e t) {id r : Nat}
    (before : (id, r) ∈ s.owners) (gone : (id, r) ∉ t.owners) :
    Ends s e id r ∧ s.round = some r ∧ t.round = none := by
  cases turn with
  | keep owners => exact absurd (owners.symm ▸ before) gone
  | take _ _ none_before =>
    rw [none_before] at before
    contradiction
  | give id r ends one held owners round =>
    rw [one, List.mem_singleton] at before
    cases before
    exact ⟨ends, held, round⟩

/-- A round leaves the slot only as its own owner gives it back. -/
theorem Turn.cleared {s t : State ε} {e : Event ε} (turn : Turn s e t) {r : Nat}
    (held : s.round = some r) (other : t.round ≠ some r) :
    t.round = none ∧ t.owners = [] ∧ ∃ id, (id, r) ∈ s.owners ∧ Ends s e id r := by
  cases turn with
  | keep _ round => exact absurd (round.trans held) other
  | take _ starts =>
    rw [starts.free] at held
    contradiction
  | give id q ends one now owners round =>
    cases Option.some.inj (held.symm.trans now)
    exact ⟨round, owners, id, one ▸ List.mem_cons_self, ends⟩

/-- The slot is taken exactly while one receive owns a round, so at most one call for messages is in
progress. A round begins only where a receive saw that it is needed, and ends only by its owner. -/
theorem one_round_at_a_time (provider : Provider ε) (replaced : Bool)
    (options : SubscriptionOptions) (es : List (Event ε)) (s : State ε)
    (reached : run State.step (.new provider replaced options) es = some s) :
    (∀ r, s.round = some r ↔ ∃ id, s.owners = [(id, r)]) ∧
    (s.round = none ↔ s.owners = []) ∧
    s.inFlight.length ≤ 1 ∧
    (∀ e t, s.step e = some t → ∀ id r, (id, r) ∈ t.owners → (id, r) ∉ s.owners →
      Starts s e id ∧ t.round = some r) ∧
    (∀ e t, s.step e = some t → ∀ id r, (id, r) ∈ s.owners → (id, r) ∉ t.owners →
      Ends s e id r ∧ s.round = some r ∧ t.round = none) ∧
    (∀ e t, s.step e = some t → ∀ r, s.round = some r → t.round ≠ some r →
      t.round = none ∧ t.owners = [] ∧ ∃ id, (id, r) ∈ s.owners ∧ Ends s e id r) ∧
    log State.step begun (.new provider replaced options) es = List.range s.rounds.length ∧
    log State.step released (.new provider replaced options) es ++ s.round.toList =
      List.range s.rounds.length := by
  have owned := owned_of_run reached
  have turn : ∀ e t, s.step e = some t → Turn s e t :=
    fun e t moved => turn_of_moves owned (moves_of_step moved)
  refine ⟨round_iff owned, free_iff owned, inFlight_length owned, ?_, ?_, ?_, rounds_in_turn reached⟩
  · intro e t moved id r now absent
    exact (turn e t moved).starts now absent
  · intro e t moved id r before gone
    exact (turn e t moved).ends before gone
  · intro e t moved r held other
    exact (turn e t moved).cleared held other

def neverAgain : Provider String := ⟨"relay", fun _ => false, fun _ => .unknown⟩

def parcel (n : Nat) : Parcel := ⟨.empty, [("n", toString n)], some (.number n), none⟩

/-- Two receives share a round; the next round is abandoned, the one after it breaks off, and the
last one is still in flight. -/
def fourRounds : List (Event String) :=
  [.receive 1 none, .receive 2 none, .receiveStep 1, .receiveStep 1, .receiveStep 2,
    .fetched 1 (.ok [parcel 0, parcel 1]) 0, .receiveStep 1, .receiveStep 1, .receiveStep 1,
    .receiveStep 2, .receiveStep 2, .receive 3 none, .receiveStep 3, .receiveStep 3,
    .receiveLeave 3, .receive 4 none, .receiveStep 4, .receiveStep 4, .fetchBroke 4, .receiveStep 4,
    .receive 5 none, .receiveStep 5, .receiveStep 5]

theorem one_round_at_a_time_four_rounds :
    ∃ s : State String, run State.step (.new neverAgain false default) fourRounds = some s ∧
      s.round = some 3 ∧ s.owners = [(5, 3)] ∧ s.inFlight.length ≤ 1 ∧
      log State.step begun (.new neverAgain false default) fourRounds = [0, 1, 2, 3] ∧
      log State.step released (.new neverAgain false default) fourRounds = [0, 1, 2] := by
  have ran : ∃ s : State String, run State.step (.new neverAgain false default) fourRounds = some s ∧
      s.round = some 3 ∧ s.owners = [(5, 3)] ∧ s.rounds.length = 4 := ⟨_, rfl, rfl, rfl, rfl⟩
  obtain ⟨s, reached, round, owners, size⟩ := ran
  have h := one_round_at_a_time neverAgain false default fourRounds s reached
  obtain ⟨_, _, single, _, _, _, begins, ends⟩ := h
  rw [size] at begins ends
  rw [round] at ends
  have three : _ ++ [3] = [0, 1, 2] ++ [3] := ends
  exact ⟨s, reached, round, owners, single, begins, List.append_cancel_right three⟩

end Courier.Subscription
