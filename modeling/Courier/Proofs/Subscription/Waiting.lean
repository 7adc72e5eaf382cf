import Courier.Proofs.Subscription.Changes
import Courier.Proofs.Subscription.Ownership

/-! Nobody is left behind by a round. The owner of a round has a guard, from the moment the round
begins to the moment its end is signalled; it clears the slot before it signals, and between the two
any other call can move, so a new round may begin while those of the old one have not been told. A
round without a guard has been signalled. Whether the provider ever answers is not said here. -/

namespace Courier.Subscription

variable {ε : Type}

/-- The round whose guard a receive in this phase has. -/
def ReceivePhase.guard? : ReceivePhase ε → Option Nat
  | .signalling r _ => some r
  | phase => phase.owned?

def State.guards (s : State ε) : List Nat := s.receives.filterMap fun x => x.2.phase.guard?

/-- A receive that waits can look again at once. -/
def Runnable (s : State ε) (id : Nat) : Prop :=
  s.step (.receiveStep id) = some (s.setReceive id .looking)

theorem guard_cases {phase : ReceivePhase ε} {r : Nat} (guards : phase.guard? = some r) :
    phase.owned? = some r ∨ ∃ sequel, phase = .signalling r sequel := by
  cases phase with
  | signalling q sequel =>
    cases guards
    exact .inr ⟨sequel, rfl⟩
  | _ => exact .inl guards

theorem guard_of_owned {phase : ReceivePhase ε} {r : Nat} (owns : phase.owned? = some r) :
    phase.guard? = some r := by
  cases phase with
  | signalling => cases owns
  | _ => exact owns

theorem mem_guards {s : State ε} {r : Nat} :
    r ∈ s.guards ↔ ∃ x ∈ s.receives, x.2.phase.guard? = some r := List.mem_filterMap

theorem guards_kept {s : State ε} (owned : Owned s) {id : Nat} {c : Receive ε}
    (found : s.receive? id = some c) {phase : ReceivePhase ε} (same : phase.guard? = c.phase.guard?) :
    (s.setReceive id phase).guards = s.guards :=
  read_kept owned.distinct found (f := fun c => { c with phase := phase }) same

theorem guards_removed {s : State ε} (owned : Owned s) {id : Nat} {c : Receive ε}
    (found : s.receive? id = some c) (free : c.phase.guard? = none) :
    (s.without id).guards = s.guards :=
  read_removed owned.distinct found free

theorem guards_of_others {s : State ε} (owned : Owned s) {id q : Nat} {c : Receive ε}
    (found : s.receive? id = some c) (member : q ∈ s.guards) (other : c.phase.guard? ≠ some q) :
    q ∈ (s.without id).guards ∧ ∀ phase, q ∈ (s.setReceive id phase).guards := by
  obtain ⟨before, after, all, rest, changed⟩ :=
    read_around owned.distinct found fun x => x.2.phase.guard?
  have around : q ∈ before ∨ q ∈ after := by
    rw [State.guards, all] at member
    simp only [List.mem_append, Option.mem_toList] at member
    rcases member with (early | here) | late
    · exact .inl early
    · exact absurd here other
    · exact .inr late
  constructor
  · rw [State.guards, State.without, rest]
    exact List.mem_append.mpr around
  · intro phase
    have now := changed fun c => { c with phase := phase }
    rw [State.guards, State.setReceive, now]
    simp only [List.mem_append]
    tauto

theorem over_signal {s : State ε} {r : Nat} (begun : r < s.rounds.length) :
    (s.signal r).isOver r = true := by
  simp [State.isOver, State.signal, begun]

theorem over_kept {s : State ε} {q : Nat} (r : Nat) (ended : s.isOver q = true) :
    (s.signal r).isOver q = true := by
  by_cases same : r = q
  · subst same
    apply over_signal
    by_contra outside
    rw [State.isOver, List.getElem?_eq_none (by omega)] at ended
    contradiction
  · rw [State.isOver, State.signal, List.getElem?_modify_ne _ _ same]
    exact ended

/-- What a step does to the guards and to the signals. -/
inductive Guarding (s : State ε) (e : Event ε) (t : State ε) : Prop
  | keep (guards : t.guards = s.guards) (rounds : t.rounds = s.rounds)
  | begin (id : Nat) (starts : Starts s e id)
      (guards : ∀ r, r ∈ s.guards ∨ r = s.rounds.length → r ∈ t.guards)
      (rounds : t.rounds = s.rounds ++ [⟨s.flow.fetchSize, false⟩])
  | tell (r : Nat) (guards : ∀ q ∈ s.guards, q ≠ r → q ∈ t.guards)
      (rounds : t.rounds = (s.signal r).rounds)

theorem guarding_of_begin {s : State ε} {e : Event ε} (owned : Owned s) {id : Nat} {c : Receive ε}
    (found : s.receive? id = some c) (looks : c.phase = .looking) (starts : Starts s e id) :
    Guarding s e (s.beginRound id) := by
  have kept : ∀ q ∈ s.guards, q ∈ (s.beginRound id).guards := by
    intro q member
    have others := guards_of_others owned found member (by simp [looks, ReceivePhase.guard?,
      ReceivePhase.owned?])
    exact others.2 _
  refine .begin id starts ?_ rfl
  rintro r (member | rfl)
  · exact kept r member
  · refine mem_guards.mpr ⟨_, List.mem_map.mpr ⟨(id, c), call_member found, if_pos rfl⟩, rfl⟩

theorem guarding_of_tell {s t : State ε} {e : Event ε} (owned : Owned s) {id r : Nat} {c : Receive ε}
    (found : s.receive? id = some c) (guards : c.phase.guard? = some r)
    (receives : t.receives = (s.without id).receives ∨
      ∃ phase, t.receives = (s.setReceive id phase).receives)
    (rounds : t.rounds = (s.signal r).rounds) : Guarding s e t := by
  refine .tell r ?_ rounds
  intro q member other
  have others := guards_of_others owned found member (by simp [guards, Ne.symm other])
  rcases receives with gone | ⟨phase, changed⟩
  · rw [State.guards, gone]
    exact others.1
  · rw [State.guards, changed]
    exact others.2 phase

theorem guarding_of_moves {s t : State ε} {e : Event ε} (owned : Owned s) (moved : Moves s e t) :
    Guarding s e t := by
  cases moved with
  | aside same => exact .keep (by rw [State.guards, same.receives, State.guards]) same.rounds
  | arrive id token fresh =>
    refine .keep ?_ rfl
    simp [State.guards, List.filterMap_append, ReceivePhase.guard?, ReceivePhase.owned?]
  | refuse found looks => exact .keep (guards_kept owned found (by rw [looks]; rfl)) rfl
  | handOut found looks => exact .keep (guards_kept owned found (by rw [looks]; rfl)) rfl
  | join found looks => exact .keep (guards_kept owned found (by rw [looks]; rfl)) rfl
  | giveUp found looks => exact .keep (guards_kept owned found (by rw [looks]; rfl)) rfl
  | begin found looks sound empty free unfired =>
    exact guarding_of_begin owned found looks
      ⟨rfl, _, found, looks, sound, empty, free, unfired⟩
  | call found opens => exact .keep (guards_kept owned found (by rw [opens]; rfl)) rfl
  | wake found waits => exact .keep (guards_kept owned found (by rw [waits]; rfl)) rfl
  | store found stores => exact .keep (guards_kept owned found (by rw [stores]; rfl)) rfl
  | conclude found ends =>
    have guards := guard_of_owned (owned_of_conclusion ends)
    exact guarding_of_tell owned found guards (.inr ⟨_, rfl⟩) rfl
  | cancel found waits => exact .keep (guards_kept owned found (by rw [waits]; rfl)) rfl
  | depart found free =>
    refine .keep (guards_removed owned found ?_) rfl
    rcases free with looks | ⟨r, waits⟩
    · rw [looks]
      rfl
    · rw [waits]
      rfl
  | abandon found fetches =>
    exact guarding_of_tell owned found (by rw [fetches]; rfl) (.inl rfl) rfl
  | clear found gives =>
    have guards := guard_of_owned (owned_of_giveBack gives)
    exact .keep (guards_kept owned found guards.symm) rfl
  | signal found signals =>
    exact guarding_of_tell owned found (by rw [signals]; rfl) (.inr ⟨_, rfl⟩) rfl
  | vanish found signals =>
    exact guarding_of_tell owned found (by rw [signals]; rfl) (.inl rfl) rfl
  | bring found fetches => exact .keep (guards_kept owned found (by rw [fetches]; rfl)) rfl
  | fail found fetches => exact .keep (guards_kept owned found (by rw [fetches]; rfl)) rfl
  | collapse found fetches => exact .keep (guards_kept owned found (by rw [fetches]; rfl)) rfl
  | pause found fetches => exact .keep (guards_kept owned found (by rw [fetches]; rfl)) rfl
  | retry found fetches => exact .keep (guards_kept owned found (by rw [fetches]; rfl)) rfl

theorem Guarding.length {s t : State ε} {e : Event ε} (guarding : Guarding s e t) :
    s.rounds.length ≤ t.rounds.length := by
  cases guarding with
  | keep _ rounds => rw [rounds]
  | begin _ _ _ rounds =>
    rw [rounds, List.length_append]
    omega
  | tell r _ rounds => rw [rounds, State.signal, List.length_modify]

theorem Guarding.ended {s t : State ε} {e : Event ε} (guarding : Guarding s e t) {r : Nat}
    (ended : s.isOver r = true) :
    t.isOver r = true := by
  cases guarding with
  | keep _ rounds => rw [State.isOver, rounds, ← State.isOver, ended]
  | begin _ _ _ rounds =>
    rw [State.isOver] at ended
    rw [State.isOver, rounds, List.getElem?_append_left, ended]
    by_contra outside
    rw [List.getElem?_eq_none (by omega)] at ended
    contradiction
  | tell q _ rounds =>
    rw [State.isOver, rounds, ← State.isOver]
    exact over_kept q ended

theorem Change.waits {s : State ε} {e : Event ε} {id r : Nat} {c : Receive ε}
    (change : Change s e id c (.waiting r)) : s.round = some r := by
  cases change with
  | join _ _ round => exact round
  | conclude _ ends => cases follows_of_conclusion ends
  | signal _ _ goes => cases follows_of_sequel goes

theorem Change.signals {s : State ε} {e : Event ε} {id r : Nat} {c : Receive ε} {sequel : Sequel ε}
    (change : Change s e id c (.signalling r sequel)) : e = .receiveClear id := by
  cases change with
  | clear called => exact called
  | conclude _ ends => cases follows_of_conclusion ends
  | signal _ _ goes => cases follows_of_sequel goes

theorem waits_of_origin {s : State ε} {e : Event ε} {id r : Nat} {c : Receive ε}
    (origin : Origin s e id c) (waits : c.phase = .waiting r) :
    s.receive? id = some c ∨ s.round = some r := by
  cases origin with
  | stays before => exact .inl before
  | arrives => cases waits
  | changes _ change =>
    cases waits
    exact .inr change.waits

/-- Only rounds that have begun are waited for, and of these each has a guard or has been
signalled. -/
structure Attended (s : State ε) : Prop where
  begun : ∀ id c r, s.receive? id = some c → c.phase = .waiting r → r < s.rounds.length
  told : ∀ r < s.rounds.length, r ∈ s.guards ∨ s.isOver r = true

theorem attended_next {s t : State ε} {e : Event ε} (owned : Owned s) (attended : Attended s)
    (moved : Moves s e t) : Attended t := by
  have guarding := guarding_of_moves owned moved
  constructor
  · intro id c r found waits
    have size := guarding.length
    rcases waits_of_origin (origin_of_moves owned.distinct moved found) waits with old | now
    · have := attended.begun id c r old waits
      omega
    · have := owned.newest r now
      omega
  · intro r size
    have ended : s.isOver r = true → t.isOver r = true := fun ended => guarding.ended ended
    cases guarding with
    | keep guards rounds =>
      rw [guards]
      exact (attended.told r (rounds ▸ size)).imp_right ended
    | begin id starts guards rounds =>
      rw [rounds, List.length_append, List.length_singleton] at size
      by_cases new : r = s.rounds.length
      · exact .inl (guards r (.inr new))
      · rcases attended.told r (by omega) with guarded | already
        · exact .inl (guards r (.inl guarded))
        · exact .inr (ended already)
    | tell q guards rounds =>
      rw [rounds, State.signal, List.length_modify] at size
      by_cases same : r = q
      · refine .inr ?_
        rw [State.isOver, rounds, ← State.isOver, same]
        exact over_signal (same ▸ size)
      · rcases attended.told r size with guarded | already
        · exact .inl (guards r guarded same)
        · exact .inr (ended already)

theorem attended_of_run {provider : Provider ε} {replaced : Bool} {options : SubscriptionOptions}
    {es : List (Event ε)} {s : State ε}
    (reached : run State.step (.new provider replaced options) es = some s) : Attended s := by
  refine run_invariant (P := fun _ s => Attended s) ⟨?_, by simp [State.new]⟩ ?_ reached
  · intro id c r found
    cases found
  intro es s e t before attended moved
  exact attended_next (owned_of_run before) attended (moves_of_step moved)

theorem runnable_of_over {s : State ε} {id r : Nat} {c : Receive ε} (found : s.receive? id = some c)
    (waits : c.phase = .waiting r) (ended : s.isOver r = true) : Runnable s id := by
  simp [Runnable, State.step, found, State.moveReceive, waits, ended]

/-- The receive that has the guard signals the end of the round in its next step, and then all that
wait for the round can go on. -/
def AboutToTell (s : State ε) (r : Nat) : Prop :=
  ∃ owner d sequel t, s.receive? owner = some d ∧ d.phase = .signalling r sequel ∧
    s.step (.receiveStep owner) = some t ∧ t.isOver r = true ∧
    ∀ id c, s.receive? id = some c → c.phase = .waiting r → Runnable t id

theorem aboutToTell_of_signalling {s : State ε} (owned : Owned s) {owner r : Nat} {d : Receive ε}
    {sequel : Sequel ε} (found : s.receive? owner = some d) (signals : d.phase = .signalling r sequel)
    (begun : r < s.rounds.length) : AboutToTell s r := by
  let t := (s.signal r).proceed owner sequel
  have moved : s.step (.receiveStep owner) = some t := by
    simp [State.step, found, State.moveReceive, signals, t]
  have ended : t.isOver r = true := by
    have told : (s.signal r).isOver r = true := over_signal begun
    dsimp only [t]
    cases sequel <;> exact told
  refine ⟨owner, d, sequel, t, found, signals, moved, ended, fun id c waiter waits => ?_⟩
  have other : id ≠ owner := by
    rintro rfl
    rw [Option.some.inj (waiter.symm.trans found), signals] at waits
    contradiction
  -- the signal moves the owner alone, so who waits is there afterwards
  have still : t.receive? id = some c := by
    dsimp only [t]
    cases sequel with
    | gone =>
      apply call_found
      · exact owned.distinct.sublist (List.filter_sublist.map _)
      · exact List.mem_filter.mpr ⟨call_member waiter, by simpa using other⟩
    | _ => exact update_elsewhere owned.distinct waiter other fun d => { d with phase := _ }
  exact runnable_of_over still waits ended

/-- Who waits does so for the round in the slot, for one that is about to be told, or can go on. -/
theorem waiting_cases {s : State ε} (owned : Owned s) (attended : Attended s) {id r : Nat}
    {c : Receive ε} (found : s.receive? id = some c) (waits : c.phase = .waiting r) :
    (s.round = some r ∧ ∃ owner d, s.receive? owner = some d ∧ d.phase.owned? = some r) ∨
      AboutToTell s r ∨ (s.isOver r = true ∧ Runnable s id) := by
  have begun := attended.begun id c r found waits
  rcases attended.told r begun with guarded | ended
  · -- who has the guard owns the round in the slot, or has cleared the slot and signals next
    obtain ⟨⟨owner, d⟩, member, guards⟩ := mem_guards.mp guarded
    have there : s.receive? owner = some d := call_found owned.distinct member
    rcases guard_cases guards with owns | ⟨sequel, signals⟩
    · exact .inl ⟨(owner_alone owned there owns).2.1, owner, d, there, owns⟩
    · exact .inr (.inl (aboutToTell_of_signalling owned there signals begun))
  · exact .inr (.inr ⟨ended, runnable_of_over found waits ended⟩)

theorem owner_moves {s : State ε} {owner r : Nat} {d : Receive ε} (found : s.receive? owner = some d)
    (owns : d.phase.owned? = some r) (idle : ∀ size call, d.phase ≠ .fetching r size call) :
    ∃ t, s.step (.receiveStep owner) = some t := by
  have step : s.step (.receiveStep owner) = s.moveReceive owner d := by simp [State.step, found]
  rw [step, State.moveReceive]
  cases phase : d.phase with
  | fetching q size call =>
    rw [phase] at owns idle
    cases owns
    exact absurd rfl (idle size call)
  | opening | storing | stored | failing | collapsing => exact ⟨_, rfl⟩
  | _ =>
    rw [phase] at owns
    cases owns

theorem nobody_waits_at_rest {s : State ε} (owned : Owned s) (attended : Attended s)
    (idle : ∀ owner d r size call, s.receive? owner = some d → d.phase ≠ .fetching r size call)
    (rest : ∀ id, s.step (.receiveStep id) = none) {id r : Nat} {c : Receive ε}
    (found : s.receive? id = some c) : c.phase ≠ .waiting r := by
  intro waits
  rcases waiting_cases owned attended found waits with ⟨_, owner, d, there, owns⟩ | tells | ⟨_, goes⟩
  · obtain ⟨t, moved⟩ := owner_moves there owns fun size call => idle owner d r size call there
    rw [rest owner] at moved
    contradiction
  · obtain ⟨owner, _, _, t, _, _, moved, _⟩ := tells
    rw [rest owner] at moved
    contradiction
  · rw [Runnable, rest id] at goes
    contradiction

/-- A round that has left the slot does not come back into it. -/
theorem past_of_run {provider : Provider ε} {replaced : Bool} {options : SubscriptionOptions}
    {es fs : List (Event ε)} {s t : State ε} {r : Nat}
    (reached : run State.step (.new provider replaced options) es = some s)
    (begun : r < s.rounds.length) (gone : s.round ≠ some r) (ran : run State.step s fs = some t) :
    r < t.rounds.length ∧ t.round ≠ some r := by
  refine run_invariant (P := fun _ t => r < t.rounds.length ∧ t.round ≠ some r) ⟨begun, gone⟩ ?_ ran
  rintro fs u e v before ⟨begun, gone⟩ moved
  have whole := run_trans reached before
  -- a round that begins now has a number of its own
  cases turn_of_moves (owned_of_run whole) (moves_of_step moved) with
  | keep _ round rounds => exact ⟨by omega, round ▸ gone⟩
  | take _ _ _ _ round rounds =>
    obtain ⟨size, rounds⟩ := rounds
    rw [round, rounds, List.length_append]
    refine ⟨by omega, fun same => ?_⟩
    have := Option.some.inj same
    omega
  | give _ _ _ _ _ _ round rounds => exact ⟨by omega, by simp [round]⟩

theorem over_of_run {provider : Provider ε} {replaced : Bool} {options : SubscriptionOptions}
    {es fs : List (Event ε)} {s t : State ε} {r : Nat}
    (reached : run State.step (.new provider replaced options) es = some s)
    (ended : s.isOver r = true) (ran : run State.step s fs = some t) : t.isOver r = true := by
  refine run_invariant (P := fun _ t => t.isOver r = true) ended ?_ ran
  intro fs u e v before ended moved
  have whole := run_trans reached before
  exact (guarding_of_moves (owned_of_run whole) (moves_of_step moved)).ended ended

theorem round_given {s t : State ε} {e : Event ε} (owned : Owned s) {owner r : Nat}
    (ends : Ends s e owner r) (moved : s.step e = some t) :
    r < t.rounds.length ∧ t.round ≠ some r := by
  obtain ⟨c, found, way⟩ := ends
  have owns : c.phase.owned? = some r := by
    rcases way with ⟨_, phase | ⟨_, phase⟩ | phase⟩ | ⟨_, _, _, phase⟩ <;> rw [phase] <;> rfl
  have held := (owner_alone owned found owns).2.1
  have newest := owned.newest r held
  have size := (guarding_of_moves owned (moves_of_step moved)).length
  refine ⟨by omega, ?_⟩
  have given : t.round = none := by
    rcases way with ⟨rfl | rfl, phase | ⟨_, phase⟩ | phase⟩ | ⟨rfl | rfl, _, _, phase⟩ <;>
      simp only [State.step, found, State.moveReceive, State.giveBack, State.leave, phase,
        ReceivePhase.giveBack?, Option.bind_eq_bind, Option.bind_some, Option.map_some,
        Option.some.injEq] at moved <;>
      exact moved ▸ rfl
  simp [given]

theorem silent_of_run {provider : Provider ε} {replaced : Bool} {options : SubscriptionOptions}
    {es : List (Event ε)} {s : State ε}
    (reached : run State.step (.new provider replaced options) es = some s)
    (together : ∀ owner, .receiveClear owner ∉ es) :
    ∀ id c r sequel, s.receive? id = some c → c.phase ≠ .signalling r sequel := by
  refine run_invariant (P := fun es s => (∀ owner, .receiveClear owner ∉ es) →
    ∀ id c r sequel, s.receive? id = some c → c.phase ≠ .signalling r sequel) ?_ ?_ reached together
  · intro _ id c r sequel found
    cases found
  · intro es s e t before ih moved together id c r sequel found signals
    cases origin_of_moves (owned_of_run before).distinct (moves_of_step moved) found with
    | stays there =>
      have earlier : ∀ owner, .receiveClear owner ∉ es :=
        fun owner member => together owner (List.mem_append_left _ member)
      exact ih earlier id c r sequel there signals
    | arrives => cases signals
    | changes _ change =>
      cases signals
      exact together id (change.signals ▸ List.mem_append_right _ List.mem_cons_self)

/-- Nobody is left behind. A receive that waits does so for a round that has an owner, or its round is
over and it can go on. The round that has an owner is the one in the slot, or its end is signalled next;
only the former where a round is given back in one go. So where no call to the provider is running and
no receive can step, none waits; and once a round has been given back, in whichever way, none ever waits
for it in vain. -/
theorem nobody_left_behind (provider : Provider ε) (replaced : Bool) (options : SubscriptionOptions)
    (es : List (Event ε)) (s : State ε)
    (reached : run State.step (.new provider replaced options) es = some s) :
    (∀ id c r, s.receive? id = some c → c.phase = .waiting r →
      (∃ owner d, s.receive? owner = some d ∧ d.phase.guard? = some r ∧
        (s.round = some r ∨ AboutToTell s r)) ∨ (s.isOver r = true ∧ Runnable s id)) ∧
    ((∀ owner, .receiveClear owner ∉ es) →
      ∀ id c r, s.receive? id = some c → c.phase = .waiting r →
        (s.round = some r ∧ ∃ owner d, s.receive? owner = some d ∧ d.phase.owned? = some r) ∨
          (s.isOver r = true ∧ Runnable s id)) ∧
    ((∀ owner d r size call, s.receive? owner = some d → d.phase ≠ .fetching r size call) →
      (∀ id, s.step (.receiveStep id) = none) →
        ∀ id c r, s.receive? id = some c → c.phase ≠ .waiting r) ∧
    (∀ e t owner r, s.step e = some t → Ends s e owner r →
      ∀ fs u, run State.step t fs = some u →
        ∀ id c, u.receive? id = some c → c.phase = .waiting r →
          AboutToTell u r ∨ (u.isOver r = true ∧ Runnable u id)) ∧
    (∀ r, s.isOver r = true → ∀ fs u, run State.step s fs = some u → u.isOver r = true) := by
  have owned := owned_of_run reached
  have attended := attended_of_run reached
  refine ⟨?_, ?_, ?_, ?_, ?_⟩
  · intro id c r found waits
    rcases waiting_cases owned attended found waits with ⟨slot, owner, d, there, owns⟩ | tells | ended
    · exact .inl ⟨owner, d, there, guard_of_owned owns, .inl slot⟩
    · have ⟨owner, d, sequel, _, there, signals, _⟩ := tells
      exact .inl ⟨owner, d, there, by rw [signals]; rfl, .inr tells⟩
    · exact .inr ended
  · intro together id c r found waits
    rcases waiting_cases owned attended found waits with slot | tells | ended
    · exact .inl slot
    · obtain ⟨owner, d, sequel, _, there, signals, _⟩ := tells
      exact absurd signals (silent_of_run reached together owner d r sequel there)
    · exact .inr ended
  · intro idle rest id c r found
    exact nobody_waits_at_rest owned attended idle rest found
  · intro e t owner r moved ends fs u ran id c found waits
    have next : run State.step (.new provider replaced options) (es ++ [e]) = some t :=
      run_snoc.mpr ⟨s, reached, moved⟩
    have later : run State.step (.new provider replaced options) (es ++ [e] ++ fs) = some u := by
      rw [run_append, next, Option.bind_some, ran]
    have given := round_given owned ends moved
    have past := past_of_run next given.1 given.2 ran
    rcases waiting_cases (owned_of_run later) (attended_of_run later) found waits with
      ⟨slot, _⟩ | tells
    · exact absurd slot past.2
    · exact tells
  · intro r ended fs u ran
    exact over_of_run reached ended ran

/-- Two receives share a round, and its fetch breaks off. -/
def brokenRound : List (Event String) :=
  [.receive 1 none, .receive 2 none, .receiveStep 1, .receiveStep 1, .receiveStep 2, .fetchBroke 1]

/-- The slot is free, and another receive takes it. -/
def nextRound : List (Event String) := [.receive 3 none, .receiveStep 3]

theorem nobody_left_behind_between_two_rounds :
    ∃ s t u : State String, run State.step (.new neverAgain false default) brokenRound = some s ∧
      s.step (.receiveClear 1) = some t ∧ run State.step t nextRound = some u ∧
      u.round = some 1 ∧ u.receive? 2 = some ⟨none, .waiting 0⟩ ∧ u.isOver 0 = false ∧
      AboutToTell u 0 := by
  have ran : ∃ s t u : State String,
      run State.step (.new neverAgain false default) brokenRound = some s ∧
      s.receive? 1 = some ⟨none, .collapsing 0⟩ ∧ s.step (.receiveClear 1) = some t ∧
      run State.step t nextRound = some u ∧ u.round = some 1 ∧
      u.receive? 2 = some ⟨none, .waiting 0⟩ ∧ u.isOver 0 = false :=
    ⟨_, _, _, rfl, rfl, rfl, rfl, rfl, rfl, rfl⟩
  obtain ⟨s, t, u, reached, collapsing, cleared, later, round, waits, silent⟩ := ran
  have h := nobody_left_behind neverAgain false default brokenRound s reached
  have ends : Ends s (.receiveClear 1) 1 0 := ⟨_, collapsing, .inl ⟨.inr rfl, .inr (.inr rfl)⟩⟩
  rcases h.2.2.2.1 _ t 1 0 cleared ends nextRound u later 2 _ waits rfl with tells | ⟨ended, _⟩
  · exact ⟨s, t, u, reached, cleared, later, round, waits, silent, tells⟩
  · rw [silent] at ended
    contradiction

/-- A round that is neither in the slot nor over can have somebody who waits for it: the next round is
in the slot before the end of this one is signalled. -/
theorem parked_between_two_rounds :
    ¬ ∀ (provider : Provider String) (replaced : Bool) (options : SubscriptionOptions)
      (es : List (Event String)) (s : State String),
      run State.step (.new provider replaced options) es = some s →
      ∀ id c r, s.receive? id = some c → c.phase = .waiting r →
        (s.round = some r ∧ ∃ owner d, s.receive? owner = some d ∧ d.phase.owned? = some r) ∨
          (s.isOver r = true ∧ Runnable s id) := by
  intro claim
  have ran : ∃ s : State String,
      run State.step (.new neverAgain false default) (brokenRound ++ .receiveClear 1 :: nextRound) =
        some s ∧ s.receive? 2 = some ⟨none, .waiting 0⟩ ∧ s.round = some 1 ∧
      s.isOver 0 = false := ⟨_, rfl, rfl, rfl, rfl⟩
  obtain ⟨s, reached, waits, next, silent⟩ := ran
  rcases claim neverAgain false default _ s reached 2 _ 0 waits rfl with ⟨slot, _⟩ | ⟨ended, _⟩
  · rw [next] at slot
    cases slot
  · rw [silent] at ended
    cases ended

end Courier.Subscription
