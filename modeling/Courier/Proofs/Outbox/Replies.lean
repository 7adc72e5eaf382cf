import Courier.Proofs.Outbox.Calls

/-! The answers of the provider. Calls and answers alternate, and a batch ends as the answer to the
last call for it says. -/

namespace Courier.Outbox

variable {α ε : Type} {limits : Limits} {provider : Provider ε} {policy : Retry.Policy}
  {es : List (Event α ε)} {bs : List (Batcher.Event α ε)} {s : State α ε}

/-- What the calls of a run came to, in order. -/
def replies (es : List (Event α ε)) : List (Reply ε) := es.filterMap Event.reply?

/-- The last call for the batch with this number was answered with `r`. -/
def LastReply (attempts : List (Attempt α)) (replies : List (Reply ε)) (n : Nat) (r : Reply ε) :
    Prop :=
  ∃ (i : Nat) (a : Attempt α), attempts[i]? = some a ∧ a.number = n ∧
    (∀ (j : Nat) (x : Attempt α), attempts[j]? = some x → x.number = n → j ≤ i) ∧
    replies[i]? = some r

/-- How often the batch with this number has been retried. -/
def retries (attempts : List (Attempt α)) (n : Nat) : Nat := calls attempts n - 1

/-- No retry follows the error. -/
def Final (provider : Provider ε) (policy : Retry.Policy) (retries : Nat) (stopped : Bool)
    (t : Trouble ε) : Prop :=
  provider.retryable t = false ∨ policy.allows retries = false ∨ stopped = true

/-- How a batch ends after the last answer, which came after so many retries. An error that is to be
retried ends it like a panic if the pause before the next attempt has no length. -/
def Means (provider : Provider ε) (policy : Retry.Policy) (retries : Nat) :
    Reply ε → Ending ε → Prop
  | .returned (.ok ()), how => how = .returned (.ok ())
  | .returned (.error t), how => how = .returned (.error (provider.fault t)) ∨
      (how = .panicked ∧ provider.retryable t = true ∧ policy.Stuck retries)
  | .brokeOff, how => how = .panicked

theorem error_of_means {k : Nat} {r : Reply ε} {f : Fault ε}
    (means : Means provider policy k r (.returned (.error f))) :
    ∃ t, r = .returned (.error t) ∧ provider.fault t = f := by
  cases r with
  | brokeOff => cases means
  | returned result =>
    cases result with
    | ok u => cases means
    | error t =>
      rcases means with same | ⟨panicked, _⟩
      · cases same
        exact ⟨t, rfl, rfl⟩
      · cases panicked

/-- An error after which no retry follows ends the batch, wrapped. -/
theorem wrapped_of_final {k : Nat} {t : Trouble ε} {how : Ending ε}
    (means : Means provider policy k (.returned (.error t)) how)
    (final : Final provider policy k false t) : how = .returned (.error (provider.fault t)) := by
  rcases means with wrapped | ⟨_, again, stuck⟩
  · exact wrapped
  · rcases final with never | spent | stopped
    · simp [again] at never
    · simp [stuck.allowed] at spent
    · cases stopped

theorem LastReply.unique {attempts : List (Attempt α)} {replies : List (Reply ε)} {n : Nat}
    {r q : Reply ε} (last : LastReply attempts replies n r) (other : LastReply attempts replies n q) :
    r = q := by
  obtain ⟨i, a, there, number, latest, reply⟩ := last
  obtain ⟨j, b, here, same, newest, answer⟩ := other
  have equal : i = j := Nat.le_antisymm (newest i a there number) (latest j b here same)
  subst equal
  exact Option.some.inj (reply.symm.trans answer)

theorem LastReply.append {attempts more : List (Attempt α)} {replies others : List (Reply ε)}
    {n : Nat} {r : Reply ε} (last : LastReply attempts replies n r)
    (apart : ∀ a ∈ more, a.number ≠ n) : LastReply (attempts ++ more) (replies ++ others) n r := by
  obtain ⟨i, a, there, number, latest, reply⟩ := last
  have before := (List.getElem?_eq_some_iff.mp there).1
  have said := (List.getElem?_eq_some_iff.mp reply).1
  refine ⟨i, a, ?_, number, ?_, ?_⟩
  · rw [List.getElem?_append_left before, there]
  · intro j x at_j same
    rcases Nat.lt_or_ge j attempts.length with old | new
    · rw [List.getElem?_append_left old] at at_j
      exact latest j x at_j same
    · rw [List.getElem?_append_right new] at at_j
      exact absurd same (apart x (List.mem_of_getElem? at_j))
  · rw [List.getElem?_append_left said, reply]

theorem lastReply_of_latest {attempts : List (Attempt α)} {replies : List (Reply ε)} {n : Nat}
    {r : Reply ε} {a : Attempt α} (latest : attempts.getLast? = some a) (number : a.number = n)
    (answered : replies.getLast? = some r) (even : attempts.length = replies.length) :
    LastReply attempts replies n r := by
  rw [List.getLast?_eq_getElem?] at latest answered
  refine ⟨attempts.length - 1, a, latest, number, ?_, even ▸ answered⟩
  intro j x there _
  have bound := (List.getElem?_eq_some_iff.mp there).1
  omega

theorem replies_append (es : List (Event α ε)) (e : Event α ε) :
    replies (es ++ [e]) = replies es ++ e.reply?.toList :=
  filterMap_concat _ _ _

/-- The call that is running has no answer yet; a pause follows the answer that made it. -/
structure Heard (es : List (Event α ε)) (s : State α ε) : Prop where
  talks : s.attempts.length = (replies es).length + s.calling?.toList.length
  phase : ∀ d, s.delivery = some d → d.call.phase = .attempting ∨
    ∃ length t, d.call.phase = .pausing length t ∧
      (replies es).getLast? = some (.returned (.error t))

theorem calling_of_attempting {d : Delivery α ε} (delivery : s.delivery = some d)
    (attempting : d.call.phase = .attempting) : s.calling?.toList.length = 1 := by
  simp [State.calling?, delivery, attempting]

theorem calling_of_pausing {d : Delivery α ε} {length : Duration} {t : Trouble ε}
    (delivery : s.delivery = some d) (pausing : d.call.phase = .pausing length t) :
    s.calling?.toList.length = 0 := by
  simp [State.calling?, delivery, pausing]

theorem Heard.silent {e : Event α ε} {t : State α ε} (heard : Heard es s) (silent : e.reply? = none)
    (attempts : t.attempts = s.attempts) (delivery : t.delivery = s.delivery) :
    Heard (es ++ [e]) t := by
  obtain ⟨talks, phase⟩ := heard
  have calling : t.calling? = s.calling? := by rw [State.calling?, delivery, State.calling?]
  have same : replies (es ++ [e]) = replies es := by
    rw [replies_append, silent, Option.toList_none, List.append_nil]
  refine ⟨?_, ?_⟩
  · rw [same, attempts, calling, talks]
  · rw [same, delivery]
    exact phase

/-- A batch ends with an answer, or is cut off in a pause after one. -/
theorem ends_cases {d : Delivery α ε} {e : Event α ε} {how : Ending ε} (ends : Ends s d e how) :
    (∃ r, e.reply? = some r ∧ d.call.phase = .attempting ∧
      Means s.provider s.policy (d.call.attempts - 1) r how) ∨
    (∃ length t, e.reply? = none ∧ d.call.phase = .pausing length t ∧
      how = .returned (.error (s.provider.fault t))) := by
  cases ends with
  | delivered jitter attempting => exact .inl ⟨_, rfl, attempting, rfl⟩
  | failed t jitter attempting => exact .inl ⟨_, rfl, attempting, .inl rfl⟩
  | stuck t jitter attempting undefined again stuck =>
    exact .inl ⟨_, rfl, attempting, .inr ⟨rfl, again, stuck⟩⟩
  | brokeOff attempting => exact .inl ⟨_, rfl, attempting, rfl⟩
  | cut length t pausing => exact .inr ⟨length, t, rfl, pausing, rfl⟩

theorem heard_of_reached (reached : Reached limits provider policy es bs s) : Heard es s := by
  induction reached with
  | start => exact ⟨rfl, by simp [State.new]⟩
  | @next es _ _ s t e before moved ih =>
    have talks := ih.talks
    cases moved with
    | pass passed =>
      refine ih.silent ?_ rfl rfl
      cases e <;> first | rfl | cases passed
    | look => exact ih.silent rfl rfl rfl
    | stop => exact ih.silent rfl rfl rfl
    | call ready =>
      have free := (ready_batch before ready).2
      refine ⟨?_, ?_⟩
      · rw [replies_append, List.length_append, talks]
        simp [State.calling?, free, Retry.Call.start, Event.reply?]
      · intro d now
        cases Option.some.inj now
        exact .inl rfl
    | settle delivery ends =>
      refine ⟨?_, by simp⟩
      rcases ends_cases ends with ⟨r, reply, attempting, _⟩ | ⟨length, t, reply, pausing, _⟩
      · rw [calling_of_attempting delivery attempting] at talks
        simp [replies_append, reply, State.calling?, talks]
      · rw [calling_of_pausing delivery pausing] at talks
        simp [replies_append, reply, State.calling?, talks]
    | @pause d t jitter length after delivery attempting _ same pausing =>
      rw [calling_of_attempting delivery attempting] at talks
      refine ⟨?_, ?_⟩
      · simp [replies_append, Event.reply?, State.calling?, pausing, talks]
      · intro x now
        cases Option.some.inj now
        exact .inr ⟨length, t, pausing, by simp [replies_append, Event.reply?]⟩
    | retry delivery pausing =>
      rw [calling_of_pausing delivery pausing] at talks
      refine ⟨?_, ?_⟩
      · simp [replies_append, Event.reply?, State.calling?, talks]
      · intro x now
        cases Option.some.inj now
        exact .inl rfl

theorem lastReply_of_ends (reached : Reached limits provider policy es bs s) {d : Delivery α ε}
    {e : Event α ε} {how : Ending ε} (delivery : s.delivery = some d) (ends : Ends s d e how) :
    ∃ r, LastReply s.attempts (replies (es ++ [e])) d.number r ∧
      Means provider policy (retries s.attempts d.number) r how := by
  obtain ⟨talks, phase⟩ := heard_of_reached reached
  obtain ⟨counted, a, latest, number⟩ := (passed_of_reached reached).last d delivery
  obtain ⟨rfl, rfl⟩ := settings_kept reached
  rw [retries, ← counted]
  rw [replies_append]
  rcases ends_cases ends with ⟨r, reply, attempting, means⟩ | ⟨length, t, reply, pausing, rfl⟩
  · rw [calling_of_attempting delivery attempting] at talks
    exact ⟨r, lastReply_of_latest latest number (by simp [reply]) (by simp [reply, talks]), means⟩
  · rw [calling_of_pausing delivery pausing] at talks
    rcases phase d delivery with attempting | ⟨_, u, again, answered⟩
    · rw [pausing] at attempting
      cases attempting
    · rw [pausing] at again
      cases again
      refine ⟨.returned (.error t), lastReply_of_latest latest number ?_ ?_, Or.inl rfl⟩
      · simpa [reply] using answered
      · simp [reply, talks]

theorem endings_passed {e : Event α ε} {inner : Batcher.Event α ε} (passed : e.passed? = some inner)
    (n : Nat) : Batcher.endings (bs ++ [inner]) n = Batcher.endings bs n := by
  apply Batcher.endings_other
  cases e <;> cases passed <;> simp

/-- Every batch that has ended did so as its last answer says. -/
theorem ended_as_answered (reached : Reached limits provider policy es bs s) {n : Nat}
    {how : Ending ε} (ended : how ∈ Batcher.endings bs n) :
    ∃ r, LastReply s.attempts (replies es) n r ∧
      Means provider policy (retries s.attempts n) r how := by
  induction reached with
  | start => cases ended
  | @next es bs more s t e before moved ih =>
    have busy := (Batcher.ended_of_run (batcher_run before)).busy
    -- A batch that has ended is not the one that runs, so calls that are added are not for it.
    have apart : ∀ r ∈ s.batcher.running, how ∈ Batcher.endings bs n → r.number ≠ n := by
      intro r member old same
      rw [← same, busy r member] at old
      cases old
    have kept : ∀ added : List (Attempt α), t.attempts = s.attempts ++ added →
        how ∈ Batcher.endings bs n → (∀ a ∈ added, a.number ≠ n) →
        ∃ r, LastReply t.attempts (replies (es ++ [e])) n r ∧
          Means provider policy (retries t.attempts n) r how := by
      intro added attempts old others
      obtain ⟨r, last, means⟩ := ih old
      have same : retries t.attempts n = retries s.attempts n := by
        rw [retries, attempts, calls_append, calls_other others, Nat.add_zero, retries]
      exact ⟨r, by rw [attempts, replies_append]; exact last.append others, same ▸ means⟩
    cases moved with
    | pass passed =>
      rw [endings_passed passed] at ended
      exact kept [] (List.append_nil _).symm ended (by simp)
    | look =>
      rw [Batcher.endings_other _ (by simp)] at ended
      exact kept [] (List.append_nil _).symm ended (by simp)
    | @call r ready =>
      rw [List.append_nil] at ended
      refine kept _ rfl ended ?_
      simpa using apart r (ready_batch before ready).1 ended
    | @settle _ d how' b delivery ends =>
      rw [Batcher.endings_finish] at ended
      rcases List.mem_append.mp ended with old | new
      · exact kept [] (List.append_nil _).symm old (by simp)
      · split at new
        · rename_i same
          subst same
          cases List.mem_singleton.mp new
          exact lastReply_of_ends before delivery ends
        · cases new
    | pause =>
      rw [List.append_nil] at ended
      exact kept [] (List.append_nil _).symm ended (by simp)
    | @retry d _ _ delivery =>
      rw [List.append_nil] at ended
      refine kept _ rfl ended ?_
      have other : d.number ≠ n := apart d.held (delivery_batch before delivery).1 ended
      simpa using other
    | stop =>
      rw [List.append_nil] at ended
      exact kept [] (List.append_nil _).symm ended (by simp)

/-- A batch that is over has ended once, and each of its waiters has been told so. -/
theorem ending_of_settled (reached : Reached limits provider policy es bs s) {n : Nat}
    {b : List (Entry α)} (taken : s.batcher.taken[n]? = some b)
    (settled : n ∉ s.batcher.running.map (·.number)) :
    ∃ how, Batcher.endings bs n = [how] ∧
      ∀ x ∈ b, s.batcher.answers x.ticket = [Batcher.outcomeOf how] := by
  have ran := batcher_run reached
  have bound := (List.getElem?_eq_some_iff.mp taken).1
  rcases (Batcher.ended_of_run ran).settled n bound with running | crashed | ⟨how, once⟩
  · exact absurd running settled
  · exact absurd crashed (intact reached n)
  · refine ⟨how, once, fun x inside => ?_⟩
    rw [(Batcher.answered_of_run ran).handled n b taken x inside, once, List.map_singleton]

theorem endingsIn_append (bs more : List (Batcher.Event α ε)) :
    endingsIn (bs ++ more) = endingsIn bs ++ endingsIn more :=
  List.filterMap_append

/-- Batches end in the order in which they were taken. -/
structure InTurn (bs : List (Batcher.Event α ε)) (s : State α ε) : Prop where
  counted : s.batcher.taken.length = (endingsIn bs).length + s.batcher.running.length
  newest : ∀ r ∈ s.batcher.running, r.number + 1 = s.batcher.taken.length
  placed : ∀ n, Batcher.endings bs n = (endingsIn bs)[n]?.toList

theorem InTurn.settle {d : Delivery α ε} {how : Ending ε} (turn : InTurn bs s)
    (running : s.batcher.running = [d.held]) (n : Nat) :
    Batcher.endings (bs ++ [.finish d.number how]) n = (endingsIn bs ++ [how])[n]?.toList := by
  have latest := turn.newest d.held (by simp [running])
  have counted := turn.counted
  -- All batches before it have ended, so their endings are as many as its number.
  have number : d.number = (endingsIn bs).length := by
    rw [running, List.length_singleton] at counted
    simp only [Delivery.held] at latest
    omega
  rw [Batcher.endings_finish, turn.placed, number]
  rcases Nat.lt_trichotomy n (endingsIn bs).length with before | here | beyond
  · rw [List.getElem?_append_left before, if_neg (by omega), List.append_nil]
  · subst here
    simp
  · rw [List.getElem?_eq_none (by omega), List.getElem?_eq_none (by simp; omega),
      if_neg (by omega)]
    rfl

theorem inTurn_of_reached (reached : Reached limits provider policy es bs s) : InTurn bs s := by
  induction reached with
  | start => exact ⟨rfl, by simp [State.new, Batcher.State.new], by simp [Batcher.endings, endingsIn]⟩
  | @next es bs _ s _ e before moved ih =>
    have counted := ih.counted
    have placed := ih.placed
    cases moved with
    | @pass _ inner b passed moved =>
      have endless : endingsIn [inner] = [] := by cases e <;> cases passed <;> rfl
      obtain ⟨running, taken⟩ := passed_keeps passed moved
      refine ⟨?_, ?_, ?_⟩
      · rw [endingsIn_append, endless, List.append_nil, taken, running, counted]
      · rw [running, taken]
        exact ih.newest
      · intro n
        rw [endings_passed passed, endingsIn_append, endless, List.append_nil, placed]
    | look moved =>
      have endless : endingsIn [(.look : Batcher.Event α ε)] = [] := rfl
      have same : ∀ n, Batcher.endings (bs ++ [.look]) n = (endingsIn (bs ++ [.look]))[n]?.toList := by
        intro n
        rw [Batcher.endings_other _ (by simp), endingsIn_append, endless, List.append_nil, placed]
      obtain ⟨idle, ⟨running, taken, _⟩ | ⟨batch, running, taken, _⟩⟩ := look_cases before moved
      · refine ⟨?_, by simp [running], same⟩
        rw [endingsIn_append, endless, List.append_nil, taken, running, counted, idle]
      · refine ⟨?_, by simp [running, taken], same⟩
        rw [idle] at counted
        simp [endingsIn_append, endless, running, taken, counted]
    | @settle _ d how b delivery ends moved =>
      obtain ⟨r, _, _, rfl⟩ := Batcher.finish_of_step moved
      have running : s.batcher.running = [d.held] := by
        have hands := hands before
        rw [delivery, (delivery_batch before delivery).2] at hands
        exact hands
      have left : s.batcher.withoutRunning d.number = [] := by
        simp [Batcher.State.withoutRunning, running, Delivery.held]
      refine ⟨?_, ?_, ?_⟩
      · rw [running] at counted
        rw [endingsIn_append, List.length_append, counted, left]
        rfl
      · rw [left]
        simp
      · intro n
        rw [endingsIn_append]
        exact ih.settle running n
    | _ =>
      rw [List.append_nil]
      exact ⟨counted, ih.newest, placed⟩

/-- The endings are those of the batches in their order, each as its last answer says. -/
theorem ending_answered (reached : Reached limits provider policy es bs s) {n : Nat} {how : Ending ε}
    (ended : (endingsIn bs)[n]? = some how) :
    ∃ r, LastReply s.attempts (replies es) n r ∧
      Means provider policy (retries s.attempts n) r how := by
  refine ended_as_answered reached ?_
  rw [(inTurn_of_reached reached).placed, ended]
  exact List.mem_cons_self

theorem ending_of_final (reached : Reached limits provider policy es bs s) {n : Nat} {how : Ending ε}
    (ended : (endingsIn bs)[n]? = some how) {t : Trouble ε}
    (last : LastReply s.attempts (replies es) n (.returned (.error t)))
    (final : Final provider policy (retries s.attempts n) false t) :
    how = .returned (.error (provider.fault t)) := by
  obtain ⟨r, answered, means⟩ := ending_answered reached ended
  rw [answered.unique last] at means
  exact wrapped_of_final means final

theorem advances (reached : Reached limits provider policy es bs s) {d : Delivery α ε}
    (delivery : s.delivery = some d) {inner : Retry.Event Unit (Trouble ε)}
    (steps : (d.call.next? s.policy s.provider.retryable inner).isSome = true) :
    (s.advance inner).isSome = true := by
  obtain ⟨after, stepped⟩ := Option.isSome_iff_exists.mp steps
  have progress : s.progress? inner = some { d with call := after } := by
    simp [State.progress?, delivery, stepped]
  have calls := Batcher.calls_of_run (batcher_run reached)
  have found : (s.batcher.running? d.number).isSome = true := by
    rw [Batcher.State.running?, List.find?_isSome]
    exact ⟨d.held, (delivery_batch reached delivery).1, by simp [Delivery.held]⟩
  obtain ⟨r, found⟩ := Option.isSome_iff_exists.mp found
  simp only [State.advance, progress, Option.bind_eq_bind, Option.bind_some]
  split
  · simp [Batcher.State.step, found]
  · rfl
  · rfl

/-- An error after which no retry follows ends its batch at once, whatever would be drawn. -/
theorem settles_of_final (reached : Reached limits provider policy es bs s) {d : Delivery α ε}
    (delivery : s.delivery = some d) (attempting : d.call.phase = .attempting) {t : Trouble ε}
    (final : Final provider policy (retries s.attempts d.number) s.stopped t) (jitter : Binary64) :
    s.settles? (.returned (.error t) s.stopped jitter) =
        some (.returned (.error (provider.fault t))) ∧
      ∃ u, s.step (.returned (.error t) jitter) = some u ∧ Moves s (.returned (.error t) jitter)
        [.finish d.number (.returned (.error (provider.fault t)))] u := by
  obtain ⟨rfl, rfl⟩ := settings_kept reached
  rw [retries, ← ((passed_of_reached reached).last d delivery).1] at final
  have last : s.verdict d t jitter = .stop := Retry.verdict_stop_iff.mpr final
  obtain ⟨after, stepped, ended⟩ := Retry.ended_of_final attempting final jitter
  obtain ⟨u, moved⟩ := Option.isSome_iff_exists.mp
    (advances reached delivery (Option.isSome_iff_exists.mpr ⟨after, stepped⟩))
  obtain ⟨more, moves, _⟩ := moves_of_advance (.returned (.error t) jitter) moved
  refine ⟨by simp [State.settles?, State.progress?, State.ending?, delivery, stepped, ended], u, moved,
    ?_⟩
  cases moves with
  | pass passed => cases passed
  | settle held ends finished =>
    cases Option.some.inj (delivery.symm.trans held)
    rw [ends.unique (.failed t jitter attempting last)] at finished
    exact .settle delivery (.failed t jitter attempting last) finished
  | pause held _ again =>
    cases Option.some.inj (delivery.symm.trans held)
    rw [last] at again
    cases again

theorem told_of_final (reached : Reached limits provider policy es bs s) {d : Delivery α ε}
    (delivery : s.delivery = some d) (attempting : d.call.phase = .attempting) {t : Trouble ε}
    (final : Final provider policy (retries s.attempts d.number) s.stopped t) (jitter : Binary64) :
    ∃ u, s.step (.returned (.error t) jitter) = some u ∧
      ∀ x ∈ d.batch, u.batcher.answers x.ticket = [.error (provider.fault t)] := by
  obtain ⟨_, u, moved, moves⟩ := settles_of_final reached delivery attempting final jitter
  refine ⟨u, moved, fun x inside => ?_⟩
  have before := batcher_run reached
  have running := (delivery_batch reached delivery).1
  have later := reached.next moves
  have there : u.batcher.taken[d.number]? = some d.batch := by
    have taken : s.batcher.taken[d.number]? = some d.batch :=
      (Batcher.calls_of_run before).batch d.held running
    obtain ⟨more, same⟩ := (grows_of_reached reached later).taken
    rwa [← same, List.getElem?_append_left (List.getElem?_eq_some_iff.mp taken).1]
  have handled := (Batcher.answered_of_run (batcher_run later)).handled
  have free : Batcher.endings bs d.number = [] := (Batcher.ended_of_run before).busy d.held running
  rw [handled d.number d.batch there x inside, Batcher.endings_finish, free, if_pos rfl]
  rfl

end Courier.Outbox
