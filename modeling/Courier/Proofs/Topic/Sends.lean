import Courier.Proofs.Topic.Moves
import Mathlib.Data.List.Perm.Basic

/-! The sends of a topic and what they submit. A send submits its message once, and only after it has
been let through; the tickets that sends hold are those that the batcher has given out. -/

namespace Courier.Topic

variable {ε : Type} {s t : State ε} {e : Event ε} {os : List (Outbox.Event Message ε)}

theorem afterAnswer_ticket (k : Nat) (o : Outcome ε) :
    (State.afterAnswer k o).ticket? = some k := by
  unfold State.afterAnswer
  split
  · rfl
  · split <;> rfl

theorem Turn.ticket {c : Send ε} {phase : SendPhase ε} (turn : Turn s c phase) :
    phase.ticket? = c.phase.ticket? := by
  cases turn with
  | halt begun => rw [begun]; rfl
  | allow begun => rw [begun]; rfl
  | refuse allowed => rw [allowed]; rfl
  | reject allowed => rw [allowed]; rfl
  | accept allowed => rw [allowed]; rfl
  | hear waits => rw [waits, afterAnswer_ticket]; rfl
  | judge judges => rw [judges]; rfl
  | drop => rfl

theorem Turn.live {c : Send ε} {phase : SendPhase ε} (turn : Turn s c phase) :
    State.Send.live c = true := by
  cases turn with
  | halt phase | allow phase | refuse phase | reject phase | accept phase | hear phase
  | judge phase => simp [State.Send.live, phase]
  | drop live => exact live

def entry (x : Nat × Send ε) : Option (Entry Message) :=
  x.2.phase.ticket?.map fun k => ⟨k, x.2.message⟩

/-- What the sends have submitted, by the tickets that they hold. -/
def State.issued (s : State ε) : List (Entry Message) := s.sends.filterMap entry

/-- A step submits nothing, or the message of one send, which gets the next ticket. -/
inductive Issues (s t : State ε) : List (Outbox.Event Message ε) → Prop
  | keep {os : List (Outbox.Event Message ε)} (same : t.issued = s.issued)
      (silent : os.filterMap Outbox.Event.item? = []) : Issues s t os
  | post {m : Message} {before after : List (Entry Message)} (old : s.issued = before ++ after)
      (new : t.issued = before ++ ⟨s.outbox.batcher.nextTicket, m⟩ :: after) :
      Issues s t [.submit m]

theorem issued_kept (distinct : (s.sends.map (·.1)).Nodup) {id : Nat} {c : Send ε}
    (found : s.send? id = some c) {phase : SendPhase ε} (same : phase.ticket? = c.phase.ticket?) :
    (s.setSend id phase).issued = s.issued := by
  have read : entry (id, { c with phase := phase }) = entry (id, c) := by simp [entry, same]
  exact read_kept distinct found (f := fun c => { c with phase := phase }) read

theorem issues_of_moves (distinct : (s.sends.map (·.1)).Nodup) (moved : Moves s e os t) :
    Issues s t os := by
  cases moved with
  | arrive => exact .keep (by simp [State.issued, entry, SendPhase.ticket?]) rfl
  | turn found _ turn => exact .keep (issued_kept distinct found turn.ticket) rfl
  | @submit id c o found admitted =>
    obtain ⟨before, after, old, _, new⟩ := read_around distinct found entry
    have was : s.issued = before ++ after := by
      rw [State.issued, old]
      simp [entry, admitted, SendPhase.ticket?]
    have now := new fun c => { c with phase := .waiting s.outbox.batcher.nextTicket }
    refine .post was (now.trans ?_)
    simp [entry, SendPhase.ticket?]
  | cancel found waits => exact .keep (issued_kept distinct found (by rw [waits]; rfl)) rfl
  | abandon found waits => exact .keep (issued_kept distinct found (by rw [waits]; rfl)) rfl
  | close _ _ moved =>
    refine .keep rfl ?_
    cases moved <;> simp [Outbox.Event.item?]
  | outer passed =>
    refine .keep rfl ?_
    cases e <;> cases passed <;> rfl
  | _ => exact .keep rfl rfl

theorem setSend_ids (s : State ε) (id : Nat) (phase : SendPhase ε) :
    (s.setSend id phase).sends.map (·.1) = s.sends.map (·.1) :=
  update_keys s.sends id fun c => { c with phase := phase }

/-- A name is given to one send only. -/
theorem distinct_next (distinct : (s.sends.map (·.1)).Nodup) (moved : Moves s e os t) :
    (t.sends.map (·.1)).Nodup := by
  cases moved with
  | arrive id token message fresh => exact keys_append distinct _ fresh
  | turn => exact setSend_ids s _ _ ▸ distinct
  | submit => exact setSend_ids s _ _ ▸ distinct
  | cancel => exact setSend_ids s _ _ ▸ distinct
  | abandon => exact setSend_ids s _ _ ▸ distinct
  | _ => exact distinct

theorem send_set (distinct : (s.sends.map (·.1)).Nodup) {id : Nat} {c : Send ε}
    (found : s.send? id = some c) (phase : SendPhase ε) :
    (s.setSend id phase).send? id = some { c with phase := phase } :=
  update_found distinct found fun c => { c with phase := phase }

/-- How a step takes a send further. -/
inductive Onward (s : State ε) (id : Nat) (c : Send ε) :
    Event ε → List (Outbox.Event Message ε) → SendPhase ε → Prop
  | turn {e : Event ε} {phase : SendPhase ε} (own : e = .sendStep id ∨ e = .sendLeave id)
      (turn : Turn s c phase) : Onward s id c e [] phase
  | submit (admitted : c.phase = .admitted) :
      Onward s id c (.sendStep id) [.submit c.message] (.waiting s.outbox.batcher.nextTicket)
  | cancel {k : Nat} (waits : c.phase = .waiting k) (fired : fires s.fired c.token = true) :
      Onward s id c (.sendCancel id) [.leave k] (.told k (.error .canceled))
  | abandon {k : Nat} (waits : c.phase = .waiting k) :
      Onward s id c (.sendLeave id) [.leave k] (.dropped (some k))

theorem Onward.live {id : Nat} {c : Send ε} {phase : SendPhase ε}
    (onward : Onward s id c e os phase) : State.Send.live c = true := by
  cases onward with
  | turn _ turn => exact turn.live
  | submit phase | cancel phase | abandon phase => simp [State.Send.live, phase]

/-- A step takes a send further, or it is about something else and leaves the send as it is. -/
theorem send_next (distinct : (s.sends.map (·.1)).Nodup) (moved : Moves s e os t) {id : Nat}
    {c : Send ε} (found : s.send? id = some c) : t.send? id = some c ∨
      ∃ phase, Onward s id c e os phase ∧ t.send? id = some { c with phase := phase } := by
  have set : ∀ {i : Nat} {d : Send ε} {phase : SendPhase ε}, s.send? i = some d →
      Onward s i d e os phase → (s.setSend i phase).send? id = some c ∨
        ∃ phase', Onward s id c e os phase' ∧
          (s.setSend i phase).send? id = some { c with phase := phase' } := by
    intro i d phase moving onward
    by_cases same : id = i
    · subst same
      cases Option.some.inj (found.symm.trans moving)
      exact .inr ⟨phase, onward, send_set distinct found phase⟩
    · exact .inl (update_elsewhere distinct found same fun c => { c with phase := phase })
  cases moved with
  | arrive i token message fresh =>
    exact .inl
      (call_found (keys_append distinct _ fresh) (List.mem_append_left _ (call_member found)))
  | turn moving own turn => exact set moving (.turn own turn)
  | submit moving admitted => exact set moving (.submit admitted)
  | cancel moving waits fired => exact set moving (.cancel waits fired)
  | abandon moving waits => exact set moving (.abandon waits)
  | _ => exact .inl found

theorem ended_kept (distinct : (s.sends.map (·.1)).Nodup) (moved : Moves s e os t) {id : Nat}
    {c : Send ε} (found : s.send? id = some c) (ended : State.Send.live c = false) :
    t.send? id = some c := by
  rcases send_next distinct moved found with same | ⟨_, onward, _⟩
  · exact same
  · exact absurd onward.live (by simp [ended])

/-- Sends have names of their own, and only legal messages are submitted. -/
structure Ticketed (os : List (Outbox.Event Message ε)) (s : State ε) : Prop where
  distinct : (s.sends.map (·.1)).Nodup
  issued : s.issued.Perm (Outbox.posted os)
  legal : ∀ x ∈ s.sends, x.2.phase = .admitted ∨ x.2.phase.ticket?.isSome = true →
    (x.2.message.metadata.flaw? : Option (Fault ε)) = none

theorem afterAnswer_admitted (k : Nat) (o : Outcome ε) : State.afterAnswer k o ≠ .admitted := by
  intro same
  have ticket := afterAnswer_ticket k o
  rw [same] at ticket
  cases ticket

theorem Turn.legal {c : Send ε} {phase : SendPhase ε} (turn : Turn s c phase)
    (before : c.phase.ticket?.isSome = true → (c.message.metadata.flaw? : Option (Fault ε)) = none)
    (now : phase = .admitted ∨ phase.ticket?.isSome = true) :
    (c.message.metadata.flaw? : Option (Fault ε)) = none := by
  rcases now with admitted | ticket
  · cases turn with
    | accept _ _ legal => exact legal
    | hear => exact absurd admitted (afterAnswer_admitted _ _)
    | _ => cases admitted
  · exact before (turn.ticket ▸ ticket)

theorem legal_next (distinct : (s.sends.map (·.1)).Nodup)
    (legal : ∀ x ∈ s.sends, x.2.phase = .admitted ∨ x.2.phase.ticket?.isSome = true →
      (x.2.message.metadata.flaw? : Option (Fault ε)) = none)
    (moved : Moves s e os t) : ∀ x ∈ t.sends,
      x.2.phase = .admitted ∨ x.2.phase.ticket?.isSome = true →
        (x.2.message.metadata.flaw? : Option (Fault ε)) = none := by
  have set : ∀ {id : Nat} {c : Send ε} {phase : SendPhase ε}, s.send? id = some c →
      (phase = .admitted ∨ phase.ticket?.isSome = true →
        (c.message.metadata.flaw? : Option (Fault ε)) = none) →
      ∀ x ∈ (s.setSend id phase).sends, x.2.phase = .admitted ∨ x.2.phase.ticket?.isSome = true →
        (x.2.message.metadata.flaw? : Option (Fault ε)) = none := by
    intro id c phase found own x member
    rcases update_cases distinct found (f := fun c => { c with phase := phase }) member with
      ⟨old, _⟩ | rfl
    · exact legal x old
    · exact own
  cases moved with
  | arrive id token message =>
    intro x member now
    rcases List.mem_append.mp member with old | new
    · exact legal x old now
    · cases List.mem_singleton.mp new
      simp [SendPhase.ticket?] at now
  | turn found _ turn =>
    exact set found (turn.legal fun ticket => legal _ (call_member found) (.inr ticket))
  | submit found admitted => exact set found fun _ => legal _ (call_member found) (.inl admitted)
  | cancel found waits =>
    exact set found fun _ => legal _ (call_member found) (.inr (by rw [waits]; rfl))
  | abandon found waits =>
    exact set found fun _ => legal _ (call_member found) (.inr (by rw [waits]; rfl))
  | _ => exact legal

variable {provider : Provider ε} {options : TopicOptions} {es : List (Event ε)}
  {bs : List (Batcher.Event Message ε)}

theorem nextTicket_eq (reached : Reached provider options es os bs s) :
    s.outbox.batcher.nextTicket = (Outbox.posted os).length := by
  rw [(Batcher.ordered_of_run (Outbox.batcher_run reached.outbox)).nextTicket,
    Outbox.submissions_eq reached.outbox]

theorem ticketed_of_reached (reached : Reached provider options es os bs s) : Ticketed os s := by
  induction reached with
  | start => exact ⟨List.nodup_nil, .refl _, by simp [State.new]⟩
  | @next _ os more _ _ s t _ before moved _ ih =>
    obtain ⟨distinct, issued, legal⟩ := ih
    refine ⟨distinct_next distinct moved, ?_, legal_next distinct legal moved⟩
    cases issues_of_moves distinct moved with
    | keep same silent => rwa [same, Outbox.posted_other os silent]
    | @post m first later old new =>
      rw [new, Outbox.posted_submit, nextTicket_eq before]
      rw [old] at issued
      exact List.perm_middle.trans ((issued.cons _).trans (List.perm_append_singleton _ _).symm)

theorem issued_tickets (reached : Reached provider options es os bs s) :
    (s.issued.map (·.ticket)).Nodup := by
  have posted : (Outbox.posted os).map (·.ticket) = List.range (Outbox.posted os).length := by
    rw [← Outbox.submissions_eq reached.outbox, Batcher.submissions_tickets]
  have same := (ticketed_of_reached reached).issued.map (·.ticket)
  rw [posted] at same
  exact same.nodup_iff.mpr List.nodup_range

/-! Accepted sends, in the order in which they were submitted. -/

/-- The sends that a step submits to a batcher that takes them. -/
def accepts (s t : State ε) : List (Entry Message) :=
  if s.outbox.batcher.shut then [] else t.issued.filter (· ∉ s.issued)

theorem accepts_keep (same : t.issued = s.issued) : accepts s t = [] := by
  simp [accepts, same]

theorem accepts_post (reached : Reached provider options es os bs s) {m : Message}
    {before after : List (Entry Message)} (old : s.issued = before ++ after)
    (new : t.issued = before ++ ⟨s.outbox.batcher.nextTicket, m⟩ :: after) :
    accepts s t = if s.outbox.batcher.shut then [] else [⟨s.outbox.batcher.nextTicket, m⟩] := by
  have fresh : (⟨s.outbox.batcher.nextTicket, m⟩ : Entry Message) ∉ s.issued := by
    intro there
    have given := ((ticketed_of_reached reached).issued.mem_iff.mp there)
    rw [← Outbox.submissions_eq reached.outbox] at given
    have ticket := List.mem_map_of_mem (f := (·.ticket)) given
    rw [Batcher.submissions_tickets, List.mem_range, Outbox.submissions_eq reached.outbox,
      ← nextTicket_eq reached] at ticket
    exact Nat.lt_irrefl _ ticket
  unfold accepts
  split
  · rfl
  · rw [new, old]
    exact filter_new (old ▸ fresh)

theorem accepted_eq (reached : run State.step (.new provider options) es = some s) :
    s.outbox.batcher.accepted = log State.step accepts (.new provider options) es := by
  refine run_invariant (P := fun es s => s.outbox.batcher.accepted =
    log State.step accepts (.new provider options) es) rfl ?_ reached
  intro es s e t ran accepted moved
  obtain ⟨os, bs, before⟩ := reached_of_run ran
  obtain ⟨more, moves⟩ := moves_of_step moved
  have passed := outbox_of_moves moves
  rw [log_snoc accepts ran moved, ← accepted]
  cases issues_of_moves (ticketed_of_reached before).distinct moves with
  | keep same silent =>
    rw [accepts_keep same, Outbox.accepted_run passed silent, List.append_nil]
  | post old new =>
    simp only [run, Option.bind_fun_some] at passed
    rw [accepts_post before old new, Outbox.accepted_submit passed]

end Courier.Topic
