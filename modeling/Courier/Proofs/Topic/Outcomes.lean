import Courier.Proofs.Topic.Sends

/-! What a send is told. Its batch decides, with one exception: a topic that has been shut down takes
every failure with the code of a refusal for a refusal. -/

namespace Courier.Topic

variable {ε : Type} {s t : State ε} {e : Event ε} {os more : List (Outbox.Event Message ε)}
  {provider : Provider ε} {options : TopicOptions} {es : List (Event ε)}
  {bs inner : List (Batcher.Event Message ε)}

/-- A step leaves the fault of the topic alone or closes the topic. -/
theorem fault_of_moves (moved : Moves s e os t) : t.fault = s.fault ∨ t.fault = some closedFault := by
  cases moved with
  | @close _ _ c _ _ _ _ _ _ _ begins keeps =>
    by_cases begun : c.phase = .begun
    · exact .inr (begins begun)
    · exact .inl (keeps begun)
  | _ => exact .inl rfl

theorem fault_of_reached (reached : Reached provider options es os bs s) :
    s.fault = none ∨ s.fault = some closedFault := by
  induction reached with
  | start => exact .inl rfl
  | next _ moved _ ih =>
    rcases fault_of_moves moved with same | closed
    · rwa [same]
    · exact .inr closed

theorem settled_of_reached (reached : Reached provider options es os bs s) :
    Closing.Settled closedFault s.fault s.fired s.shutdowns s.outbox.batcher := by
  induction reached with
  | start =>
    exact ⟨List.nodup_nil, by simp [State.new],
      by simp [State.new, Outbox.State.new, Batcher.State.new], by simp [State.new],
      by simp [State.new]⟩
  | @next es os more bs inner s t e before moved _ ih =>
    cases moved with
    | submit _ _ moved => exact ih.outbox before.outbox moved (by simp)
    | cancel _ _ _ moved => exact ih.outbox before.outbox moved (by simp)
    | abandon _ _ moved => exact ih.outbox before.outbox moved (by simp)
    | outer passed moved =>
      exact ih.outbox before.outbox moved (by cases e <;> cases passed <;> simp)
    | close found own moved begins keeps =>
      refine ih.move before.outbox found moved begins fun marked => ?_
      rcases fault_of_moves (.close found own moved begins keeps) with same | closed
      · exact same.trans marked
      · exact closed
    | enter id token fresh => exact ih.enter token fresh
    | @forget id _ moved => exact (ih.outbox before.outbox moved (by simp)).forget id
    | fire token => exact ih.fire token
    | _ => exact ih

/-- What a send may be told once its message has been submitted. -/
inductive Tells (bs : List (Batcher.Event Message ε)) (s : State ε) (token : Option Token) (k : Nat) :
    Outcome ε → Prop
  | canceled (gaveUp : fires s.fired token = true) : Tells bs s token k (.error .canceled)
  | refused (late : k ∈ s.outbox.batcher.refused) : Tells bs s token k (.error closedFault)
  | outcome {how : Ending ε} (concluded : Batcher.Concluded bs s.outbox.batcher k how) :
      Tells bs s token k (Batcher.outcomeOf how)
  /-- The failure is taken for a refusal. -/
  | mistaken {f : Fault ε}
      (concluded : Batcher.Concluded bs s.outbox.batcher k (.returned (.error f)))
      (code : f.code = .failedPrecondition) (shut : s.outbox.batcher.shut = true) :
      Tells bs s token k (.error closedFault)

/-- Why a send asks whether the topic has been shut down. -/
inductive Suspects (bs : List (Batcher.Event Message ε)) (s : State ε) (k : Nat) : Fault ε → Prop
  | refused (late : k ∈ s.outbox.batcher.refused) : Suspects bs s k Batcher.shutDownFault
  | failed {f : Fault ε}
      (concluded : Batcher.Concluded bs s.outbox.batcher k (.returned (.error f)))
      (code : f.code = .failedPrecondition) : Suspects bs s k f

theorem Tells.later {token : Option Token} {k : Nat} {o : Outcome ε} (tells : Tells bs s token k o)
    (grows : Batcher.Grows s.outbox.batcher t.outbox.batcher) (fired : s.fired ⊆ t.fired) :
    Tells (bs ++ inner) t token k o := by
  cases tells with
  | canceled gaveUp => exact .canceled (Closing.fires_later fired gaveUp)
  | refused late => exact .refused (grows.refused late)
  | outcome concluded => exact .outcome (concluded.later grows)
  | mistaken concluded code shut => exact .mistaken (concluded.later grows) code (grows.shut shut)

theorem Suspects.later {k : Nat} {f : Fault ε} (suspects : Suspects bs s k f)
    (grows : Batcher.Grows s.outbox.batcher t.outbox.batcher) :
    Suspects (bs ++ inner) t k f := by
  cases suspects with
  | refused late => exact .refused (grows.refused late)
  | failed concluded code => exact .failed (concluded.later grows) code

/-- Why a send stands where it stands. -/
def Accounts (bs : List (Batcher.Event Message ε)) (s : State ε) (c : Send ε) : Prop :=
  match c.phase with
  | .turnedAway f =>
    f = .canceled ∨ f = closedFault ∨ c.message.metadata.flaw? = some f
  | .judging k f => Suspects bs s k f
  | .told k o => Tells bs s c.token k o
  | _ => True

theorem Accounts.later {c : Send ε} (accounts : Accounts bs s c)
    (grows : Batcher.Grows s.outbox.batcher t.outbox.batcher) (fired : s.fired ⊆ t.fired) :
    Accounts (bs ++ inner) t c := by
  unfold Accounts at accounts ⊢
  cases phase : c.phase with
  | turnedAway f => simpa only [phase] using accounts
  | judging k f =>
    simp only [phase] at accounts
    exact accounts.later grows
  | told k o =>
    simp only [phase] at accounts
    exact accounts.later grows fired
  | _ => trivial

theorem grows_of_next (before : Outbox.Reached options.batching provider options.retry os bs s.outbox)
    (after : Outbox.Reached options.batching provider options.retry (os ++ more) (bs ++ inner)
      t.outbox) : Batcher.Grows s.outbox.batcher t.outbox.batcher :=
  Outbox.grows_of_reached before after

theorem fired_kept (moved : Moves s e os t) : s.fired ⊆ t.fired := by
  cases moved with
  | fire token => exact List.subset_cons_self _ _
  | _ => exact List.Subset.refl _

/-- Nothing is answered in place of a handler call. -/
theorem answer_of_state (reached : Reached provider options es os bs s) (k : Nat) :
    s.answer? k = s.outbox.batcher.answer? k := by
  have kept := Batcher.abandoned_nil (Outbox.batcher_run reached.outbox) (Outbox.intact reached.outbox)
  unfold State.answer?
  rw [kept]
  cases s.outbox.batcher.answer? k <;> rfl

theorem accounts_of_answer (reached : Reached provider options es os bs s) {c : Send ε} {k : Nat}
    {o : Outcome ε} (answer : s.answer? k = some o) :
    Accounts bs s { c with phase := State.afterAnswer k o } := by
  rw [answer_of_state reached] at answer
  have ran := Outbox.batcher_run reached.outbox
  rcases Batcher.told_of_answer (Batcher.ordered_of_run ran) (Batcher.answered_of_run ran) answer with
    ⟨late, rfl⟩ | ⟨how, concluded, rfl⟩
  · exact Suspects.refused late
  · cases how with
    | panicked => exact Tells.outcome concluded
    | returned o =>
      cases o with
      | ok u => exact Tells.outcome concluded
      | error f =>
        by_cases code : f.code = .failedPrecondition
        · have judging : State.afterAnswer k (Batcher.outcomeOf (.returned (.error f))) =
              .judging k f := if_pos code
          rw [judging]
          exact Suspects.failed concluded code
        · have told : State.afterAnswer k (Batcher.outcomeOf (.returned (.error f))) =
              .told k (.error f) := if_neg code
          rw [told]
          exact Tells.outcome concluded

theorem accounts_of_judging (reached : Reached provider options es os bs s) {c : Send ε} {k : Nat}
    {f : Fault ε} (suspects : Suspects bs s k f) : Tells bs s c.token k
      (.error (if s.outbox.batcher.shut then s.fault.getD f else f)) := by
  have settled := settled_of_reached reached
  have ordered := Batcher.ordered_of_run (Outbox.batcher_run reached.outbox)
  split
  · rename_i shut
    rw [settled.shut shut, Option.getD_some]
    cases suspects with
    | refused late => exact .refused late
    | failed concluded code => exact .mistaken concluded code shut
  · rename_i accepting
    cases suspects with
    | refused late => exact absurd (ordered.closed (List.ne_nil_of_mem late)) accepting
    | failed concluded => exact .outcome concluded

theorem accounts_of_turn (reached : Reached provider options es os bs s) {c : Send ε}
    {phase : SendPhase ε} (turn : Turn s c phase) (accounts : Accounts bs s c) :
    Accounts bs s { c with phase := phase } := by
  cases turn with
  | halt => exact .inl rfl
  | refuse _ fault =>
    rcases fault_of_reached reached with sound | closed
    · rw [sound] at fault
      cases fault
    · rw [closed] at fault
      cases fault
      exact .inr (.inl rfl)
  | reject _ _ flaw => exact .inr (.inr flaw)
  | hear _ answer => exact accounts_of_answer reached answer
  | judge judges =>
    rw [Accounts, judges] at accounts
    exact accounts_of_judging reached accounts
  | _ => trivial

theorem accounts_of_reached (reached : Reached provider options es os bs s) :
    ∀ x ∈ s.sends, Accounts bs s x.2 := by
  induction reached with
  | start => simp [State.new]
  | @next es os more bs inner s t e before moved outbox ih =>
    have distinct := (ticketed_of_reached before).distinct
    have grows := grows_of_next before.outbox outbox
    have fired := fired_kept moved
    have kept : ∀ x ∈ s.sends, Accounts (bs ++ inner) t x.2 :=
      fun x member => (ih x member).later grows fired
    have set : ∀ {id : Nat} {c : Send ε} {phase : SendPhase ε}, s.send? id = some c →
        Accounts (bs ++ inner) t { c with phase := phase } →
        ∀ x ∈ (s.setSend id phase).sends, Accounts (bs ++ inner) t x.2 := by
      intro id c phase found own x member
      rcases update_cases distinct found (f := fun c => { c with phase := phase }) member with
        ⟨old, _⟩ | rfl
      · exact kept x old
      · exact own
    cases moved with
    | arrive id token message =>
      intro x member
      rcases List.mem_append.mp member with old | new
      · exact kept x old
      · cases List.mem_singleton.mp new
        trivial
    | turn found _ turn =>
      exact set found ((accounts_of_turn before turn (ih _ (call_member found))).later grows fired)
    | submit found => exact set found trivial
    | cancel found _ gaveUp => exact set found (Tells.canceled gaveUp)
    | abandon found => exact set found trivial
    | _ => exact kept

end Courier.Topic
