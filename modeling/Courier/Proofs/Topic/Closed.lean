import Courier.Proofs.Topic.Failures

/-! A topic that has been marked as closed. It stays closed whatever becomes of the shutdown, and a send
that begins then ends without having touched the outbox: its token is asked first, then the topic
refuses it. A send that had been let through before is left to the batcher. -/

namespace Courier.Topic

variable {ε : Type} {s t u : State ε} {e : Event ε} {os : List (Outbox.Event Message ε)}
  {bs : List (Batcher.Event Message ε)} {provider : Provider ε} {options : TopicOptions}
  {es fs : List (Event ε)} {id : Nat} {c : Send ε}

/-- The event marks the topic as closed. -/
def closes (x : State ε × Event ε) : Bool :=
  match x.2 with
  | .shutdownStep id => (x.1.shutdown? id).any fun c => match c.phase with
    | .begun => true
    | _ => false
  | _ => false

theorem closes_iff {call : Closing.Call ε} (found : s.shutdown? id = some call) :
    closes (s, .shutdownStep id) = true ↔ call.phase = .begun := by
  cases phase : call.phase <;> simp [closes, found, phase]

theorem fault_next (moved : Moves s e os t) :
    t.fault = if closes (s, e) then some closedFault else s.fault := by
  cases moved with
  | turn _ own => rcases own with rfl | rfl <;> rfl
  | @close _ id call _ _ _ _ found own moved begins keeps =>
    -- Only the first moment of a closing call sets the fault.
    by_cases begun : call.phase = .begun
    · rcases own with rfl | ⟨_, past⟩
      · rw [if_pos ((closes_iff found).mpr begun)]
        exact begins begun
      · exact absurd begun past
    · rcases own with rfl | ⟨rfl, _⟩
      · rw [if_neg (mt (closes_iff found).mp begun)]
        exact keeps begun
      · exact keeps begun
  | outer passed => cases e <;> cases passed <;> rfl
  | _ => rfl

theorem fault_of_run (reached : run State.step (.new provider options) es = some s) :
    s.fault = if (trace State.step (.new provider options) es).any closes
      then some closedFault else none := by
  refine run_invariant (P := fun es s => s.fault =
    if (trace State.step (.new provider options) es).any closes then some closedFault else none)
    rfl ?_ reached
  intro es s e t ran slot moved
  obtain ⟨os, moves⟩ := moves_of_step moved
  rw [fault_next moves, slot, trace_snoc ran moved, List.any_append]
  cases (trace State.step (.new provider options) es).any closes with
  | true => cases closes (s, e) <;> rfl
  | false => cases closing : closes (s, e) <;> simp [closing]

theorem closed_next (closed : s.fault = some closedFault) (moved : Moves s e os t) :
    t.fault = some closedFault := by
  rcases fault_of_moves moved with same | now
  · exact same.trans closed
  · exact now

/-! Sends that begin on a closed topic. -/

/-- Where a send can stand that began on a closed topic; `before` are the tokens that had fired as it
began, and `now` are those that have by now. -/
inductive Late (before now : List Token) (token : Option Token) : SendPhase ε → Prop
  | begun : Late before now token .begun
  | allowed (unfired : fires before token = false) : Late before now token .allowed
  | refused (unfired : fires before token = false) : Late before now token (.turnedAway closedFault)
  | canceled (fired : fires now token = true) : Late before now token (.turnedAway .canceled)
  | dropped : Late before now token (.dropped none)

/-- It has nothing to do with the outbox, now or later. -/
theorem Late.apart {before now : List Token} {token : Option Token} {phase : SendPhase ε}
    (late : Late before now token phase) : phase.ticket? = none ∧ phase ≠ .admitted := by
  cases late <;> exact ⟨rfl, by simp⟩

theorem Late.fire {before now later : List Token} {token : Option Token} {phase : SendPhase ε}
    (late : Late before now token phase) (more : now ⊆ later) : Late before later token phase := by
  cases late with
  | begun => exact .begun
  | allowed unfired => exact .allowed unfired
  | refused unfired => exact .refused unfired
  | canceled fired => exact .canceled (Closing.fires_later more fired)
  | dropped => exact .dropped

theorem Late.turn {before : List Token} {phase : SendPhase ε}
    (late : Late before s.fired c.token c.phase) (closed : s.fault = some closedFault)
    (older : before ⊆ s.fired) (turn : Turn s c phase) : Late before s.fired c.token phase := by
  have unfired_before : fires s.fired c.token = false → fires before c.token = false := by
    intro unfired
    by_contra fired
    have later := Closing.fires_later older (eq_true_of_ne_false fired)
    simp [unfired] at later
  obtain ⟨ticketless, _⟩ := late.apart
  cases turn with
  | halt _ fired => exact .canceled fired
  | allow _ unfired => exact .allowed (unfired_before unfired)
  | refuse allowed fault =>
    cases Option.some.inj (closed.symm.trans fault)
    rw [allowed] at late
    cases late with
    | allowed unfired => exact .refused unfired
  | reject _ sound => simp [closed] at sound
  | accept _ sound => simp [closed] at sound
  | hear waits => simp [waits, SendPhase.ticket?] at ticketless
  | judge judges => simp [judges, SendPhase.ticket?] at ticketless
  | drop =>
    rw [ticketless]
    exact .dropped

theorem Late.onward {before : List Token} {phase : SendPhase ε}
    (late : Late before s.fired c.token c.phase) (closed : s.fault = some closedFault)
    (older : before ⊆ s.fired) (onward : Onward s id c e os phase) :
    Late before s.fired c.token phase := by
  obtain ⟨ticketless, outside⟩ := late.apart
  cases onward with
  | turn _ turn => exact late.turn closed older turn
  | submit admitted => exact absurd admitted outside
  | cancel waits => simp [waits, SendPhase.ticket?] at ticketless
  | abandon waits => simp [waits, SendPhase.ticket?] at ticketless

theorem late_of_run {before : List Token} {token : Option Token} {message : Message}
    {phase : SendPhase ε} (distinct : (s.sends.map (·.1)).Nodup)
    (closed : s.fault = some closedFault) (older : before ⊆ s.fired)
    (found : s.send? id = some ⟨token, message, phase⟩) (late : Late before s.fired token phase)
    (ran : run State.step s fs = some t) : t.fault = some closedFault ∧
    ∃ phase', t.send? id = some ⟨token, message, phase'⟩ ∧ Late before t.fired token phase' := by
  induction fs generalizing s phase with
  | nil =>
    cases Option.some.inj ran
    exact ⟨closed, phase, found, late⟩
  | cons e fs ih =>
    obtain ⟨u, stepped, rest⟩ := Option.bind_eq_some_iff.mp ran
    obtain ⟨os, moved⟩ := moves_of_step stepped
    have fired := fired_kept moved
    have next : ∃ phase', u.send? id = some ⟨token, message, phase'⟩ ∧
        Late before u.fired token phase' := by
      rcases send_next distinct moved found with same | ⟨phase', onward, changed⟩
      · exact ⟨phase, same, late.fire fired⟩
      · exact ⟨phase', changed, (Late.onward (c := ⟨token, message, phase⟩) late closed older
          onward).fire fired⟩
    obtain ⟨phase', there, still⟩ := next
    exact ih (distinct_next distinct moved) (closed_next closed moved) (fun x old => fired (older old))
      there still rest

theorem late_of_send {token : Option Token} {message : Message}
    (distinct : (s.sends.map (·.1)).Nodup) (closed : s.fault = some closedFault)
    (ran : run State.step s (.send id token message :: fs) = some t) : t.fault = some closedFault ∧
    ∃ phase, t.send? id = some ⟨token, message, phase⟩ ∧ Late s.fired t.fired token phase := by
  obtain ⟨u, arrived, rest⟩ := Option.bind_eq_some_iff.mp ran
  simp only [State.step] at arrived
  split at arrived
  · contradiction
  · rename_i fresh
    have apart := keys_append distinct (⟨token, message, .begun⟩ : Send ε)
      (Option.not_isSome_iff_eq_none.mp fresh)
    have there := call_found apart (List.mem_append_right _ List.mem_cons_self)
    obtain ⟨sends, fault, fired⟩ : u.sends = s.sends ++ [(id, ⟨token, message, .begun⟩)] ∧
        u.fault = s.fault ∧ u.fired = s.fired := by
      cases Option.some.inj arrived
      exact ⟨rfl, rfl, rfl⟩
    rw [← sends] at apart there
    exact late_of_run apart (fault.trans closed) (fired ▸ List.Subset.refl _) there .begun rest

/-- A send without a ticket that has not been let through leaves the outbox alone. -/
theorem outbox_of_own (found : s.send? id = some c) (ticketless : c.phase.ticket? = none)
    (outside : c.phase ≠ .admitted)
    (own : e ∈ [.sendStep id, .sendCancel id, .sendLeave id]) (moved : Moves s e os t) :
    t.outbox = s.outbox := by
  have mine : ∀ {i : Nat} {d : Send ε}, s.send? i = some d → i = id → d = c := by
    rintro i d there rfl
    exact Option.some.inj (there.symm.trans found)
  cases moved with
  | @submit i d _ there admitted =>
    have same : i = id := by simpa using own
    exact absurd (mine there same ▸ admitted) outside
  | @cancel i k d _ there waits =>
    have same : i = id := by simpa using own
    rw [← mine there same, waits] at ticketless
    cases ticketless
  | @abandon i k d _ there waits =>
    have same : i = id := by simpa using own
    rw [← mine there same, waits] at ticketless
    cases ticketless
  | close _ how => rcases how with rfl | ⟨rfl, _⟩ <;> simp at own
  | forget => simp at own
  | discard => simp at own
  | outer passed => cases e <;> simp [Event.outer?] at own passed
  | _ => rfl

/-! Sends that had been let through before. -/

theorem answer_of_refused (reached : Reached provider options es os bs s) {k : Nat}
    (late : k ∈ s.outbox.batcher.refused) : s.answer? k = some (.error Batcher.shutDownFault) := by
  have answered := Batcher.answered_of_run (Outbox.batcher_run reached.outbox)
  rw [answer_of_state reached, Batcher.answer_eq, answered.refused k late, List.head?_cons]

/-- What the batcher says to a refusal is not passed on: the topic is asked instead. -/
theorem steps_of_refused (reached : Reached provider options es os bs s)
    (found : s.send? id = some c) {k : Nat} (late : k ∈ s.outbox.batcher.refused) :
    (c.phase = .waiting k →
      s.step (.sendStep id) = some (s.setSend id (.judging k Batcher.shutDownFault))) ∧
    (∀ f, c.phase = .judging k f →
      s.step (.sendStep id) = some (s.setSend id (.told k (.error closedFault)))) := by
  have ordered := Batcher.ordered_of_run (Outbox.batcher_run reached.outbox)
  have shut := ordered.closed (List.ne_nil_of_mem late)
  have closed := (settled_of_reached reached).shut shut
  constructor
  · intro waits
    have asks : (Batcher.shutDownFault : Fault ε).code = .failedPrecondition := rfl
    simp [State.step, found, State.moveSend, waits, answer_of_refused reached late,
      State.afterAnswer, asks]
  · intro f judges
    simp [State.step, found, State.moveSend, judges, shut, closed]

/-- The batcher takes the message if it has not been shut down, and else refuses it. -/
theorem submits_of_admitted (distinct : (s.sends.map (·.1)).Nodup) (found : s.send? id = some c)
    (admitted : c.phase = .admitted) : ∃ t, s.step (.sendStep id) = some t ∧
      t.send? id = some { c with phase := .waiting s.outbox.batcher.nextTicket } ∧
      t.outbox.attempts = s.outbox.attempts ∧
      (s.outbox.batcher.shut = true → s.outbox.batcher.nextTicket ∈ t.outbox.batcher.refused ∧
        t.outbox.batcher.accepted = s.outbox.batcher.accepted) ∧
      (s.outbox.batcher.shut = false → t.outbox.batcher.accepted =
        s.outbox.batcher.accepted ++ [⟨s.outbox.batcher.nextTicket, c.message⟩]) := by
  have stepped : s.outbox.step (.submit c.message) =
      some { s.outbox with batcher := s.outbox.batcher.submit c.message } := rfl
  have taken := Outbox.accepted_submit stepped
  refine ⟨({ s with outbox := { s.outbox with batcher := s.outbox.batcher.submit c.message } }).setSend
    id (.waiting s.outbox.batcher.nextTicket), ?_, send_set distinct found _, rfl, ?_, ?_⟩
  · simp [State.step, found, State.moveSend, admitted, State.passOn, stepped]
  · intro shut
    rw [shut, if_pos rfl, List.append_nil] at taken
    exact ⟨by simp [State.setSend, Batcher.State.submit, shut], taken⟩
  · intro accepting
    rw [accepting, if_neg Bool.false_ne_true] at taken
    exact taken

/-- A topic that has been marked as closed stays closed, with one fault. A send that begins then is told
of it, or that its token has fired, and never touches the outbox. A send that had been let through
before is taken by the batcher or refused, and what a refused one is told is the fault of the topic,
unless its token fires. -/
theorem closed_for_good (provider : Provider ε) (options : TopicOptions) (es : List (Event ε))
    (s : State ε) (reached : run State.step (.new provider options) es = some s) :
    (s.fault = if (trace State.step (.new provider options) es).any closes
      then some (.canonical .failedPrecondition "Topic closed") else none) ∧
    ((trace State.step (.new provider options) es).any closes = true →
      ∀ id token message fs t, run State.step s (.send id token message :: fs) = some t →
        (∃ phase, t.send? id = some ⟨token, message, phase⟩ ∧ Late s.fired t.fired token phase ∧
          (phase = .begun → t.step (.sendStep id) = some (t.setSend id
            (if fires t.fired token then .turnedAway .canceled else .allowed))) ∧
          (phase = .allowed →
            t.step (.sendStep id) = some (t.setSend id (.turnedAway closedFault)))) ∧
        (∀ e ∈ [.sendStep id, .sendCancel id, .sendLeave id], ∀ u, t.step e = some u →
          u.outbox = t.outbox) ∧
        ∀ a ∈ t.outbox.attempts, id ∉ t.senders a) ∧
    (∀ id c, s.send? id = some c → c.phase = .admitted → ∃ t, s.step (.sendStep id) = some t ∧
      t.send? id = some { c with phase := .waiting s.outbox.batcher.nextTicket } ∧
      t.outbox.attempts = s.outbox.attempts ∧
      (s.outbox.batcher.shut = true → s.outbox.batcher.nextTicket ∈ t.outbox.batcher.refused ∧
        t.outbox.batcher.accepted = s.outbox.batcher.accepted) ∧
      (s.outbox.batcher.shut = false → t.outbox.batcher.accepted =
        s.outbox.batcher.accepted ++ [⟨s.outbox.batcher.nextTicket, c.message⟩])) ∧
    (∀ id c k, s.send? id = some c → k ∈ s.outbox.batcher.refused →
      (c.phase = .waiting k →
        s.step (.sendStep id) = some (s.setSend id (.judging k Batcher.shutDownFault))) ∧
      (∀ f, c.phase = .judging k f →
        s.step (.sendStep id) = some (s.setSend id (.told k (.error closedFault)))) ∧
      (∀ o, c.phase = .told k o →
        o = .error closedFault ∨ (o = .error .canceled ∧ fires s.fired c.token = true))) := by
  have slot := fault_of_run reached
  have ran := reached
  obtain ⟨os, bs, reached⟩ := reached_of_run reached
  have distinct := (ticketed_of_reached reached).distinct
  refine ⟨slot, ?_, ?_, ?_⟩
  · intro closed id token message fs t later
    rw [closed, if_pos rfl] at slot
    obtain ⟨marked, phase, found, late⟩ := late_of_send distinct slot later
    obtain ⟨ticketless, outside⟩ := late.apart
    have after : run State.step (.new provider options) (es ++ .send id token message :: fs) =
        some t := by
      rw [run_append, ran, Option.bind_some, later]
    obtain ⟨os', bs', after⟩ := reached_of_run after
    refine ⟨⟨phase, found, late, ?_, ?_⟩, ?_, ?_⟩
    · rintro rfl
      simp [State.step, found, State.moveSend]
    · rintro rfl
      simp [State.step, found, State.moveSend, marked]
    · intro e own u stepped
      obtain ⟨more, moved⟩ := moves_of_step stepped
      exact outbox_of_own found ticketless outside own moved
    · intro a member sends
      obtain ⟨d, again, x, _, ticket, _⟩ := ticket_of_senders after member sends
      cases Option.some.inj (found.symm.trans again)
      simp [ticketless] at ticket
  · intro id c found admitted
    exact submits_of_admitted distinct found admitted
  · intro id c k found late
    obtain ⟨waiting, judging⟩ := steps_of_refused reached found late
    exact ⟨waiting, judging, fun o told => told_of_refused reached found told late⟩

/-- A send is overtaken by a shutdown after it had been let through, and the batcher refuses it. -/
def overtaken : List (Event String) :=
  [.send 1 none (note "a"), .sendStep 1, .sendStep 1, .shutdown 9 none, .shutdownStep 9,
    .shutdownStep 9, .shutdownStep 9, .sendStep 1]

/-- A send with an illegal message begins after that, and another one whose token fires. -/
def lateComers : List (Event String) :=
  [.send 2 none ⟨.empty, [("", "b")]⟩, .sendStep 2, .sendStep 2, .fire "t",
    .send 3 (some "t") (note "c"), .sendStep 3]

theorem closed_for_good_overtaken :
    ∃ s t : State String, run State.step (.new relay default) overtaken = some s ∧
      s.fault = some (.canonical .failedPrecondition "Topic closed") ∧
      s.step (.sendStep 1) = some (s.setSend 1 (.judging 0 Batcher.shutDownFault)) ∧
      run State.step s lateComers = some t ∧
      t.send? 2 = some ⟨none, ⟨.empty, [("", "b")]⟩, .turnedAway closedFault⟩ ∧
      t.send? 3 = some ⟨some "t", note "c", .turnedAway .canceled⟩ ∧
      ∀ a ∈ t.outbox.attempts, 2 ∉ t.senders a := by
  have ran : ∃ s t : State String, run State.step (.new relay default) overtaken = some s ∧
      (trace State.step (.new relay default) overtaken).any closes = true ∧
      s.send? 1 = some ⟨none, note "a", .waiting 0⟩ ∧ s.outbox.batcher.refused = [0] ∧
      run State.step s lateComers = some t ∧
      t.send? 2 = some ⟨none, ⟨.empty, [("", "b")]⟩, .turnedAway closedFault⟩ ∧
      t.send? 3 = some ⟨some "t", note "c", .turnedAway .canceled⟩ :=
    ⟨_, _, rfl, rfl, rfl, rfl, rfl, rfl, rfl⟩
  obtain ⟨s, t, reached, closed, waits, refused, later, second, third⟩ := ran
  have h := closed_for_good relay default overtaken s reached
  obtain ⟨slot, begins, _, overtakes⟩ := h
  rw [closed, if_pos rfl] at slot
  obtain ⟨_, _, apart⟩ := begins closed 2 none _ _ t later
  exact ⟨s, t, reached, slot, (overtakes 1 _ 0 waits (by simp [refused])).1 rfl, later, second,
    third, apart⟩

/-- A send is let through and a shutdown has marked the topic as closed, but not its batcher. -/
def markedOnly : List (Event String) :=
  [.send 1 none (note "a"), .sendStep 1, .sendStep 1, .shutdown 9 none, .shutdownStep 9]

/-- Neither a send that begins on a closed topic nor one that is overtaken is always told that the
topic is closed: the token of the one may have fired, and the batcher may take the other. -/
theorem closed_not_always_told :
    (¬ ∀ (provider : Provider String) (options : TopicOptions) (es : List (Event String))
      (s : State String), run State.step (.new provider options) es = some s →
      (trace State.step (.new provider options) es).any closes = true →
      ∀ id token message fs t, run State.step s (.send id token message :: fs) = some t →
        ∀ c o, t.send? id = some c → c.phase.outcome? = some o → o = .error closedFault) ∧
    ¬ ∀ (provider : Provider String) (options : TopicOptions) (es : List (Event String))
      (s : State String), run State.step (.new provider options) es = some s →
      (trace State.step (.new provider options) es).any closes = true →
      ∀ id c, s.send? id = some c → c.phase = .admitted → ∀ fs t, run State.step s fs = some t →
        ∀ d o, t.send? id = some d → d.phase.outcome? = some o → o = .error closedFault := by
  constructor
  · intro claim
    have ran : ∃ s t : State String,
        run State.step (.new relay default) (markedOnly ++ [.fire "t"]) = some s ∧
        (trace State.step (.new relay default) (markedOnly ++ [.fire "t"])).any closes = true ∧
        run State.step s [.send 2 (some "t") (note "b"), .sendStep 2] = some t ∧
        t.send? 2 = some ⟨some "t", note "b", .turnedAway .canceled⟩ :=
      ⟨_, _, rfl, rfl, rfl, rfl⟩
    obtain ⟨s, t, reached, closed, later, found⟩ := ran
    have told := claim relay default _ s reached closed 2 _ _ _ t later _ _ found rfl
    cases told
  · intro claim
    have ran : ∃ s t : State String, run State.step (.new relay default) markedOnly = some s ∧
        (trace State.step (.new relay default) markedOnly).any closes = true ∧
        s.send? 1 = some ⟨none, note "a", .admitted⟩ ∧
        run State.step s [.sendStep 1, .look, .call, .returned (.ok ()) 0, .sendStep 1] = some t ∧
        t.send? 1 = some ⟨none, note "a", .told 0 (.ok ())⟩ := ⟨_, _, rfl, rfl, rfl, rfl, rfl⟩
    obtain ⟨s, t, reached, closed, admitted, later, found⟩ := ran
    have told := claim relay default _ s reached closed 1 _ admitted rfl _ t later _ _ found rfl
    cases told

end Courier.Topic
