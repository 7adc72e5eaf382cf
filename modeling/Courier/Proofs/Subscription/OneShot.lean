import Courier.Proofs.Acknowledgement
import Courier.Proofs.Subscription.Acknowledged

/-! What becomes of the acknowledgements of one message over a whole run, with everything else that
happens in between. The message is at any time where the calls on it have led, and they were answered
as by a message that is alone. So its action runs at most once, and what follows depends on whether
that one time came back. -/

namespace Courier.Subscription

open Acknowledgement (Call OneShot)

variable {ε : Type} {s t : State ε} {e : Event ε} {provider : Provider ε} {replaced : Bool}
  {options : SubscriptionOptions} {es : List (Event ε)}

/-- The event as a call on the message with this number. Nothing but a replacement can break off. -/
def Event.press? (serial : Nat) : Event ε → Option (Call Action)
  | .ack n _ returns => if n = serial then some (.ack fun a => a ≠ .replace || returns) else none
  | _ => none

/-- The acknowledgements of the message with this number. -/
def presses (es : List (Event ε)) (serial : Nat) : List (Call Action) :=
  es.filterMap (Event.press? serial)

def pressed? (serial : Nat) : State ε × Event ε → Option (AckAnswer Action)
  | (s, .ack n _ returns) =>
    if n = serial then (s.held? n).map fun h => (State.ackAnswer h returns).1 else none
  | _ => none

/-- What the acknowledgements of the message with this number came to. -/
def pressAnswers (provider : Provider ε) (replaced : Bool) (options : SubscriptionOptions)
    (es : List (Event ε)) (serial : Nat) : List (AckAnswer Action) :=
  (trace State.step (.new provider replaced options) es).filterMap (pressed? serial)

/-- A message that came with this action, with what was asked of it so far and what that came to. -/
structure Followed (a : Action) (calls : List (Call Action)) (answers : List (AckAnswer Action))
    (h : Held) : Prop where
  led : h.ack = (Acknowledgement.ready a).after calls
  replied : answers.map (·.reply h.parcel.message) =
    (Acknowledgement.ready a).replies h.parcel.message calls
  ran : answers.filterMap (·.ran?) = (Acknowledgement.ready a).runs calls

theorem Followed.press {a : Action} {calls : List (Call Action)} {answers : List (AckAnswer Action)}
    {h : Held} (followed : Followed a calls answers h) (returns : Bool) :
    Followed a (calls ++ [.ack fun a => a ≠ .replace || returns])
      (answers ++ [(State.ackAnswer h returns).1]) { h with ack := (State.ackAnswer h returns).2 } := by
  obtain ⟨led, replied, ran⟩ := followed
  refine ⟨?_, ?_, ?_⟩
  · rw [Acknowledgement.after_snoc, ← led]
    rfl
  · rw [Acknowledgement.replies_snoc, ← led, List.map_append, replied]
    rfl
  · rw [Acknowledgement.runs_snoc, ← led, List.filterMap_append, ran, List.filterMap_cons]
    rfl

/-- What a step does to the messages in the application's hands: one of them is acknowledged, or one
more is handed out, or they stay as they are. -/
inductive Handles (s : State ε) : Event ε → State ε → Prop
  | press {serial : Nat} {elapsed : Duration} {returns : Bool} {h : Held} {t : State ε}
      (found : s.held? serial = some h)
      (held : t.held = (s.mark serial (State.ackAnswer h returns).2).held) :
      Handles s (.ack serial elapsed returns) t
  | handOut {e : Event ε} {t : State ε} {serial : Nat} {p : Parcel} (silent : ∀ n, e.press? n = none)
      (held : t.held = s.held ++ [⟨serial, p, .ready (s.action p)⟩]) : Handles s e t
  | keep {e : Event ε} {t : State ε} (silent : ∀ n, e.press? n = none) (held : t.held = s.held) :
      Handles s e t

theorem silent_of_receives (own : e.receives = true) (n : Nat) : e.press? n = none := by
  cases e with
  | ack => cases own
  | _ => rfl

theorem silent_of_outer {inner : Outbox.Event AckId ε} (passed : e.outer? = some inner) (n : Nat) :
    e.press? n = none := by
  cases e with
  | ack => cases passed
  | _ => rfl

/-- A message that has nothing left to run is left as it is. -/
theorem unmarked_of_spent {h : Held} (spent : h.ack.acked = true ∨ h.ack.action = none)
    (returns : Bool) : (State.ackAnswer h returns).2 = h.ack := by
  rw [State.ackAnswer, Acknowledgement.ack]
  rcases spent with acked | nothing
  · rw [if_pos acked]
  · rw [nothing]
    split <;> rfl

theorem marked_of_ready {h : Held} {a : Action} (ready : h.ack = .ready a) (returns : Bool) :
    (State.ackAnswer h returns).2 = ⟨none, a ≠ .replace || returns⟩ := by
  rw [State.ackAnswer, ready]
  rfl

theorem handles_of_moves {os : List (Outbox.Event AckId ε)} (moved : AckMoves s e os t) :
    t.replaced = s.replaced ∧ Handles s e t := by
  cases moved with
  | apart own same =>
    refine ⟨same.replaced, ?_⟩
    rcases same.held with kept | ⟨serial, p, grown⟩
    · exact .keep (silent_of_receives own) kept
    · exact .handOut (silent_of_receives own) grown
  | @again serial elapsed returns h found spent =>
    exact ⟨rfl, .press found (by rw [unmarked_of_spent spent])⟩
  | @replace serial elapsed returns h found fresh =>
    have marked : (State.ackAnswer h returns).2 = ⟨none, returns⟩ := marked_of_ready fresh returns
    exact ⟨rfl, .press found (by rw [marked]; rfl)⟩
  | @submit serial elapsed returns h ackId o found fresh =>
    have marked : (State.ackAnswer h returns).2 = ⟨none, true⟩ := marked_of_ready fresh returns
    exact ⟨rfl, .press found (by rw [marked]; rfl)⟩
  | @skip serial elapsed returns h found fresh =>
    have marked : (State.ackAnswer h returns).2 = ⟨none, true⟩ := marked_of_ready fresh returns
    exact ⟨rfl, .press found (by rw [marked]; rfl)⟩
  | outer passed => exact ⟨rfl, .keep (silent_of_outer passed) rfl⟩
  | close _ own =>
    refine ⟨rfl, .keep (fun n => ?_) rfl⟩
    rcases own with rfl | ⟨rfl, _⟩ <;> rfl
  | _ => exact ⟨rfl, .keep (fun _ => rfl) rfl⟩

theorem presses_snoc (es : List (Event ε)) (e : Event ε) (n : Nat) :
    presses (es ++ [e]) n = presses es n ++ (e.press? n).toList := by
  rw [presses, filterMap_concat, presses]

theorem pressAnswers_snoc (ran : run State.step (.new provider replaced options) es = some s)
    (moved : s.step e = some t) (n : Nat) :
    pressAnswers provider replaced options (es ++ [e]) n =
      pressAnswers provider replaced options es n ++ (pressed? n (s, e)).toList := by
  rw [pressAnswers, trace_snoc ran moved, filterMap_concat, pressAnswers]

theorem pressed_of_silent (silent : e.press? n = none) : pressed? n (s, e) = none := by
  cases e with
  | ack serial elapsed returns =>
    simp only [Event.press?, ite_eq_right_iff, reduceCtorEq, imp_false] at silent
    exact if_neg silent
  | _ => rfl

/-- For a message that the event does not concern nothing is added. -/
theorem pressing_unconcerned (ran : run State.step (.new provider replaced options) es = some s)
    (moved : s.step e = some t) {n : Nat} (silent : e.press? n = none) :
    presses (es ++ [e]) n = presses es n ∧
      pressAnswers provider replaced options (es ++ [e]) n =
        pressAnswers provider replaced options es n := by
  rw [presses_snoc, pressAnswers_snoc ran moved, silent, pressed_of_silent silent]
  exact ⟨List.append_nil _, List.append_nil _⟩

theorem pressing_acked (ran : run State.step (.new provider replaced options) es = some s)
    {h : Held} {elapsed : Duration} {returns : Bool} (found : s.held? h.serial = some h)
    (moved : s.step (.ack h.serial elapsed returns) = some t) :
    presses (es ++ [.ack h.serial elapsed returns]) h.serial =
        presses es h.serial ++ [.ack fun a => a ≠ .replace || returns] ∧
      pressAnswers provider replaced options (es ++ [.ack h.serial elapsed returns]) h.serial =
        pressAnswers provider replaced options es h.serial ++ [(State.ackAnswer h returns).1] := by
  have asked : (Event.ack h.serial elapsed returns : Event ε).press? h.serial =
      some (.ack fun a => a ≠ .replace || returns) := if_pos rfl
  have answered : pressed? h.serial (s, .ack h.serial elapsed returns) =
      some (State.ackAnswer h returns).1 := by
    rw [pressed?, if_pos rfl, found, Option.map_some]
  rw [presses_snoc, pressAnswers_snoc ran moved, asked, answered]
  exact ⟨rfl, rfl⟩

/-- Nothing was asked of messages that are not handed out, and each of the others is where the calls on
it have led. -/
structure Followup (es : List (Event ε)) (answers : Nat → List (AckAnswer Action)) (s : State ε) :
    Prop where
  absent : ∀ n, n ∉ s.held.map (·.serial) → presses es n = [] ∧ answers n = []
  held : ∀ h ∈ s.held, Followed (s.action h.parcel) (presses es h.serial) (answers h.serial) h

theorem followup_next (ran : run State.step (.new provider replaced options) es = some s)
    (moved : s.step e = some t)
    (followup : Followup es (pressAnswers provider replaced options es) s) :
    Followup (es ++ [e]) (pressAnswers provider replaced options (es ++ [e])) t := by
  obtain ⟨os, moves⟩ := ackMoves_of_step moved
  obtain ⟨same, handles⟩ := handles_of_moves moves
  obtain ⟨absent, known⟩ := followup
  have still := fun n (silent : e.press? n = none) => pressing_unconcerned ran moved silent
  cases handles with
  | keep silent held =>
    refine ⟨fun n missing => ?_, fun h member => ?_⟩
    · rw [(still n (silent n)).1, (still n (silent n)).2]
      exact absent n (held ▸ missing)
    · rw [(still _ (silent _)).1, (still _ (silent _)).2, action_eq same]
      exact known h (held ▸ member)
  | @handOut _ _ serial p silent held =>
    have distinct := held_distinct (passed_of_run (run_snoc.mpr ⟨s, ran, moved⟩))
    rw [held, List.map_append, List.nodup_append] at distinct
    have fresh : serial ∉ s.held.map (·.serial) :=
      fun old => distinct.2.2 serial old serial List.mem_cons_self rfl
    refine ⟨fun n missing => ?_, fun h member => ?_⟩
    · rw [(still n (silent n)).1, (still n (silent n)).2]
      rw [held, List.map_append] at missing
      exact absent n fun old => missing (List.mem_append_left _ old)
    · rw [(still _ (silent _)).1, (still _ (silent _)).2, action_eq same]
      rw [held] at member
      rcases List.mem_append.mp member with old | new
      · exact known h old
      · cases List.mem_singleton.mp new
        obtain ⟨unasked, unanswered⟩ := absent serial fresh
        rw [unasked, unanswered]
        exact ⟨rfl, rfl, rfl⟩
  | @press serial elapsed returns h _ found held =>
    obtain ⟨there, rfl⟩ := held_found found
    have other : ∀ n, n ≠ h.serial →
        (Event.ack h.serial elapsed returns : Event ε).press? n = none :=
      fun n name => if_neg (Ne.symm name)
    refine ⟨fun n missing => ?_, fun x member => ?_⟩
    · rw [held, mark_serials] at missing
      have name : n ≠ h.serial := fun same => missing (same ▸ List.mem_map_of_mem there)
      rw [(still n (other n name)).1, (still n (other n name)).2]
      exact absent n missing
    · rcases mark_cases (held ▸ member) with ⟨y, old, name, rfl⟩ | ⟨name, old⟩
      · have distinct := held_distinct (passed_of_run ran)
        have unique : y = h := List.inj_on_of_nodup_map distinct old there name
        subst unique
        obtain ⟨asked, answered⟩ := pressing_acked ran found moved
        rw [asked, answered, action_eq same]
        exact (known y there).press returns
      · rw [(still _ (other _ name)).1, (still _ (other _ name)).2, action_eq same]
        exact known x old

theorem followup_of_run (reached : run State.step (.new provider replaced options) es = some s) :
    Followup es (pressAnswers provider replaced options es) s := by
  refine run_invariant (P := fun es s =>
    Followup es (pressAnswers provider replaced options es) s) ?_ ?_ reached
  · exact ⟨fun n _ => ⟨rfl, rfl⟩, fun h member => nomatch member⟩
  · intro es s e t ran followup moved
    exact followup_next ran moved followup

theorem pressed_iff (event : Event ε) (s : State ε) (n : Nat) :
    (∃ a, ack? (s, event) = some a ∧ a.serial = n) ↔ ∃ c, event.press? n = some c := by
  cases event with
  | ack serial elapsed returns =>
    simp only [ack?, Event.press?, Option.some.injEq, exists_eq_left', Option.ite_none_right_eq_some,
      exists_and_left, exists_eq', and_true]
  | _ => exact ⟨nofun, nofun⟩

/-- The messages that were acknowledged are those that anything was asked of. -/
theorem acknowledged_iff (reached : run State.step (.new provider replaced options) es = some s)
    (n : Nat) : n ∈ (acks provider replaced options es).map (·.serial) ↔ presses es n ≠ [] := by
  have traced : presses es n =
      (trace State.step (.new provider replaced options) es).filterMap fun x => x.2.press? n := by
    rw [presses, ← trace_events reached, List.filterMap_map, trace_events reached]
    rfl
  simp only [traced, acks, List.mem_map, List.mem_filterMap]
  constructor
  · rintro ⟨a, ⟨x, member, acked⟩, same⟩
    obtain ⟨c, asked⟩ := (pressed_iff x.2 x.1 n).mp ⟨a, acked, same⟩
    exact List.ne_nil_of_mem (List.mem_filterMap.mpr ⟨x, member, asked⟩)
  · intro some_asked
    obtain ⟨c, there⟩ := List.exists_mem_of_ne_nil _ some_asked
    obtain ⟨x, member, asked⟩ := List.mem_filterMap.mp there
    obtain ⟨a, acked, same⟩ := (pressed_iff x.2 x.1 n).mpr ⟨c, asked⟩
    exact ⟨a, ⟨x, member, acked⟩, same⟩

/-- Each acknowledged message has had its one action, however often it was acknowledged. -/
theorem samples_counted (reached : run State.step (.new provider replaced options) es = some s) :
    s.samples.length = s.held.countP fun h => !(presses es h.serial).isEmpty := by
  have tally := tally_of_run reached
  have distinct := held_distinct (passed_of_run reached)
  have same : ((firsts (acks provider replaced options es)).map (·.serial)).Perm
      ((s.held.filter fun h => !(presses es h.serial).isEmpty).map (·.serial)) := by
    rw [List.perm_ext_iff_of_nodup (firsts_nodup _) (distinct.sublist (List.filter_sublist.map _))]
    intro n
    rw [firsts_serials, List.mem_map (l := List.filter _ _)]
    constructor
    · intro acked
      obtain ⟨a, member, rfl⟩ := List.mem_map.mp acked
      obtain ⟨h, there, name⟩ := List.mem_map.mp (tally.marks.known a member)
      have asked := (acknowledged_iff reached a.serial).mp acked
      exact ⟨h, List.mem_filter.mpr ⟨there, by simpa [name] using asked⟩, name⟩
    · rintro ⟨h, member, rfl⟩
      have asked := (List.mem_filter.mp member).2
      exact (acknowledged_iff reached h.serial).mpr (by simpa using asked)
  have count := same.length_eq
  rwa [List.length_map, List.length_map, ← List.countP_eq_length_filter, ← List.length_map (·.elapsed),
    ← tally.samples] at count

/-- Nothing breaks off where the provider has no replacement, so an acknowledgement is always seen. -/
theorem acked_of_batched (reached : run State.step (.new provider replaced options) es = some s)
    (batched : replaced = false) {h : Held} (member : h ∈ s.held) :
    h.ack.acked = !(presses es h.serial).isEmpty := by
  obtain ⟨led, _, _⟩ := (followup_of_run reached).held h member
  obtain ⟨_, _, known, _⟩ := reached_of_run reached
  have kept := (replaced_kept known).trans batched
  rw [led]
  cases asked : presses es h.serial with
  | nil => rfl
  | cons c later =>
    have there : c ∈ presses es h.serial := asked ▸ List.mem_cons_self
    obtain ⟨event, _, pressed⟩ := List.mem_filterMap.mp there
    cases event with
    | ack serial elapsed returns =>
      obtain ⟨_, same⟩ := Option.ite_none_right_eq_some.mp pressed
      cases same
      have own : s.action h.parcel ≠ .replace := by
        intro action
        rw [action_replace action] at kept
        cases kept
      rw [Acknowledgement.after_ack, decide_eq_true own]
      rfl
    | _ => cases pressed

/-- Whatever its calls are and whatever its action does, a message from a subscription has its action
run by the first acknowledgement and never again. If that time came back, every later acknowledgement is
told that it is the second and a look shows it; if it broke off, they are told the same as by a message
that was built by the application. In a run of a subscription every message is such a message, and a
provider without a replacement never breaks off. -/
theorem one_shot_unless_broken_off {κ : Type} :
    (∀ (m : Message) (k : κ) (calls : List (Call κ)),
      OneShot m k calls ((Acknowledgement.ready k).replies m calls)
        ((Acknowledgement.ready k).runs calls)) ∧
    (∀ (m : Message) (calls : List (Call κ)),
      Acknowledgement.absent.replies m calls = calls.map
        (Call.declined "ack called on a message that was not obtained from receive" false) ∧
      Acknowledgement.absent.runs calls = []) ∧
    ∀ (provider : Provider ε) (replaced : Bool) (options : SubscriptionOptions)
      (es : List (Event ε)) (s : State ε),
      run State.step (.new provider replaced options) es = some s →
      (∀ h ∈ s.held, OneShot h.parcel.message (s.action h.parcel)
        (presses es h.serial ++ [.look])
        ((pressAnswers provider replaced options es h.serial).map (·.reply h.parcel.message) ++
          [.looked h.ack.acked])
        ((pressAnswers provider replaced options es h.serial).filterMap (·.ran?))) ∧
      s.samples.length = s.held.countP (fun h => !(presses es h.serial).isEmpty) ∧
      (replaced = true → s.replacements = s.samples.length) ∧
      (replaced = false → ∀ h ∈ s.held, h.ack.acked = !(presses es h.serial).isEmpty) := by
  refine ⟨Acknowledgement.oneShot_ready, fun m calls =>
    ⟨Acknowledgement.replies_spent m rfl calls, Acknowledgement.runs_spent false calls⟩, ?_⟩
  intro provider replaced options es s reached
  have tally := tally_of_run reached
  obtain ⟨_, _, known, _⟩ := reached_of_run reached
  have kept := replaced_kept known
  refine ⟨?_, samples_counted reached, ?_, fun batched h member =>
    acked_of_batched reached batched member⟩
  · intro h member
    obtain ⟨led, replied, ran⟩ := (followup_of_run reached).held h member
    have shot := Acknowledgement.oneShot_ready h.parcel.message (s.action h.parcel)
      (presses es h.serial ++ [.look])
    rw [Acknowledgement.replies_snoc, Acknowledgement.runs_snoc, ← led, ← replied, ← ran] at shot
    simpa [Acknowledgement.ran?, Acknowledgement.reply] using shot
  · intro instead
    rw [(tally.replaced (kept.trans instead)).2, tally.samples, List.length_map]

/-- The provider's replacement comes back for the first of two messages and breaks off for the second.
Both are acknowledged again later. -/
def secondBreaksOff : List (Event String) :=
  [.receive 1 none, .receiveStep 1, .receiveStep 1, .fetched 1 (.ok [parcel 0, parcel 1]) 0,
    .receiveStep 1, .receiveStep 1, .receiveStep 1, .receive 2 none, .receiveStep 2,
    .ack 0 (.ofSecs 1) true, .ack 1 (.ofSecs 2) false, .ack 0 (.ofSecs 3) true,
    .ack 1 (.ofSecs 4) true]

theorem one_shot_unless_broken_off_second :
    ∃ s : State String, run State.step (.new relay true default) secondBreaksOff = some s ∧
      OneShot (parcel 0).message Action.replace (presses secondBreaksOff 0 ++ [.look])
        [.returned, .refused ("ack called twice on message: " ++ (parcel 0).message.render),
          .looked true] [.replace] ∧
      OneShot (parcel 1).message Action.replace (presses secondBreaksOff 1 ++ [.look])
        [.brokeOff, .refused "ack called on a message that was not obtained from receive",
          .looked false] [.replace] ∧
      s.samples = [.ofSecs 1, .ofSecs 2] ∧ s.replacements = s.samples.length ∧
    ∃ t : State String, run State.step (.new relay false default) fourMessages = some t ∧
      t.held.map (·.ack.acked) = [true, true, true, true] ∧
      ∀ h ∈ t.held, h.ack.acked = !(presses fourMessages h.serial).isEmpty := by
  have ran : ∃ s : State String,
      run State.step (.new relay true default) secondBreaksOff = some s ∧
      s.held = [⟨0, parcel 0, ⟨none, true⟩⟩, ⟨1, parcel 1, ⟨none, false⟩⟩] ∧ s.replaced = true ∧
      s.samples = [.ofSecs 1, .ofSecs 2] := ⟨_, rfl, rfl, rfl, rfl⟩
  have first : pressAnswers relay true default secondBreaksOff 0 = [.ran .replace true, .twice] := rfl
  have second : pressAnswers relay true default secondBreaksOff 1 =
      [.ran .replace false, .notReceived] := rfl
  obtain ⟨s, reached, held, replaced, samples⟩ := ran
  have action : ∀ p, s.action p = .replace := fun p => by rw [State.action, if_pos replaced]
  have h := one_shot_unless_broken_off (ε := String) (κ := Action)
  obtain ⟨shots, _, instead, _⟩ := h.2.2 relay true default secondBreaksOff s reached
  have zero := shots ⟨0, parcel 0, ⟨none, true⟩⟩ (by simp [held])
  have one := shots ⟨1, parcel 1, ⟨none, false⟩⟩ (by simp [held])
  rw [action, first] at zero
  rw [action, second] at one
  have batched : (run State.step (.new relay false default) fourMessages).map (fun t =>
      t.held.map (·.ack.acked)) = some [true, true, true, true] := by
    decide +kernel
  obtain ⟨t, sent, acked⟩ := Option.map_eq_some_iff.mp batched
  have g := h.2.2 relay false default fourMessages t sent
  obtain ⟨_, _, _, seen⟩ := g
  exact ⟨s, reached, zero, one, samples, instead rfl, t, sent, acked, seen rfl⟩

/-- The replacement breaks off at the first acknowledgement of the only message, which is acknowledged
once more. -/
def brokenOff : List (Event String) :=
  [.receive 1 none, .receiveStep 1, .receiveStep 1, .fetched 1 (.ok [parcel 0]) 0, .receiveStep 1,
    .receiveStep 1, .receiveStep 1, .ack 0 (.ofSecs 1) false, .ack 0 (.ofSecs 2) true]

/-- A message from a subscription whose replacement broke off is not seen as acknowledged, and a second
acknowledgement is not told that it is the second, but that the message came from nowhere. -/
theorem blamed_after_break_off :
    ¬ ∀ (provider : Provider String) (replaced : Bool) (options : SubscriptionOptions)
      (es : List (Event String)) (s : State String),
      run State.step (.new provider replaced options) es = some s →
      ∀ h ∈ s.held, ∀ first later, presses es h.serial = first :: later →
        ((pressAnswers provider replaced options es h.serial).map
            (·.reply h.parcel.message)).tail = later.map
          (Call.declined ("ack called twice on message: " ++ h.parcel.message.render) true) ∧
        h.ack.acked = true := by
  intro claim
  have ran : ∃ s : State String, run State.step (.new relay true default) brokenOff = some s ∧
      s.held = [⟨0, parcel 0, ⟨none, false⟩⟩] := ⟨_, rfl, rfl⟩
  obtain ⟨s, reached, held⟩ := ran
  have seen := claim relay true default brokenOff s reached ⟨0, parcel 0, ⟨none, false⟩⟩ (by simp [held])
    _ _ rfl
  cases seen.2

end Courier.Subscription
