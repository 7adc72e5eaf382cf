import Courier.Message

/-! A message and any calls of those who hold it, whatever its action does when an acknowledgement
runs it. The calls take turns: each one finds the message as the one before has left it, also where
that one failed and so left the lock poisoned. Nothing is said of an action that calls back into its
own message. -/

namespace Courier

variable {κ : Type}

/-- What a call shows to the one who makes it. -/
inductive AckReply
  | returned
  /-- The action failed half-way, and with it the call that ran it. -/
  | brokeOff
  | refused (text : String)
  | looked (acked : Bool)
  deriving DecidableEq

def AckAnswer.ran? : AckAnswer κ → Option κ
  | .ran k _ => some k
  | _ => none

def AckAnswer.reply (m : Message) (answer : AckAnswer κ) : AckReply :=
  match m.refusalText answer, answer with
  | some text, _ => .refused text
  | none, .ran _ false => .brokeOff
  | none, _ => .returned

namespace Acknowledgement

/-- A call on a message; `returns` tells which actions come back, should this call run one. -/
inductive Call (κ : Type)
  | ack (returns : κ → Bool)
  | look

/-- The reply to a call that runs nothing. -/
def Call.declined (text : String) (acked : Bool) : Call κ → AckReply
  | .ack _ => .refused text
  | .look => .looked acked

def next (a : Acknowledgement κ) : Call κ → Acknowledgement κ
  | .ack returns => (a.ack returns).2
  | .look => a

def reply (m : Message) (a : Acknowledgement κ) : Call κ → AckReply
  | .ack returns => (a.ack returns).1.reply m
  | .look => .looked a.acked

def ran? (a : Acknowledgement κ) : Call κ → Option κ
  | .ack returns => (a.ack returns).1.ran?
  | .look => none

def after (a : Acknowledgement κ) (calls : List (Call κ)) : Acknowledgement κ := calls.foldl next a

/-- The replies to calls that are made one after the other. -/
def replies (m : Message) : Acknowledgement κ → List (Call κ) → List AckReply
  | _, [] => []
  | a, c :: cs => a.reply m c :: replies m (a.next c) cs

/-- The actions that the calls run, in order. -/
def runs : Acknowledgement κ → List (Call κ) → List κ
  | _, [] => []
  | a, c :: cs => (a.ran? c).toList ++ runs (a.next c) cs

/-- What a message with an action to run lives through. An acknowledgement runs the action, once and for
all. If the action came back, every later one is told so and a look shows it; if the action broke off,
the message is from then on like one that never had an action. -/
inductive OneShot (m : Message) (k : κ) : List (Call κ) → List AckReply → List κ → Prop
  | untouched (looks : Nat) :
      OneShot m k (.replicate looks .look) (.replicate looks (.looked false)) []
  | returned (looks : Nat) {returns : κ → Bool} (comesBack : returns k = true)
      (later : List (Call κ)) :
      OneShot m k (.replicate looks .look ++ .ack returns :: later)
        (.replicate looks (.looked false) ++ .returned ::
          later.map (Call.declined ("ack called twice on message: " ++ m.render) true)) [k]
  | brokeOff (looks : Nat) {returns : κ → Bool} (fails : returns k = false)
      (later : List (Call κ)) :
      OneShot m k (.replicate looks .look ++ .ack returns :: later)
        (.replicate looks (.looked false) ++ .brokeOff ::
          later.map (Call.declined "ack called on a message that was not obtained from receive"
            false)) [k]

theorem after_snoc (a : Acknowledgement κ) (calls : List (Call κ)) (c : Call κ) :
    a.after (calls ++ [c]) = (a.after calls).next c := by
  rw [after, List.foldl_append, List.foldl_cons, List.foldl_nil, after]

theorem replies_append (m : Message) (a : Acknowledgement κ) (cs ds : List (Call κ)) :
    a.replies m (cs ++ ds) = a.replies m cs ++ (a.after cs).replies m ds := by
  induction cs generalizing a with
  | nil => rfl
  | cons c cs ih => simp only [List.cons_append, replies, after, List.foldl_cons, ih]

theorem runs_append (a : Acknowledgement κ) (cs ds : List (Call κ)) :
    a.runs (cs ++ ds) = a.runs cs ++ (a.after cs).runs ds := by
  induction cs generalizing a with
  | nil => rfl
  | cons c cs ih =>
    simp only [List.cons_append, runs, after, List.foldl_cons, ih, List.append_assoc]

theorem replies_snoc (m : Message) (a : Acknowledgement κ) (calls : List (Call κ)) (c : Call κ) :
    a.replies m (calls ++ [c]) = a.replies m calls ++ [(a.after calls).reply m c] := by
  rw [replies_append, replies, replies]

theorem runs_snoc (a : Acknowledgement κ) (calls : List (Call κ)) (c : Call κ) :
    a.runs (calls ++ [c]) = a.runs calls ++ ((a.after calls).ran? c).toList := by
  rw [runs_append, runs, runs, List.append_nil]

/-! Looks change nothing. -/

theorem after_looks (a : Acknowledgement κ) (looks : Nat) :
    a.after (.replicate looks .look) = a := by
  induction looks with
  | zero => rfl
  | succ n ih => rwa [List.replicate_succ, after, List.foldl_cons, ← after]

theorem replies_looks (m : Message) (a : Acknowledgement κ) (looks : Nat) :
    a.replies m (.replicate looks .look) = .replicate looks (.looked a.acked) := by
  induction looks with
  | zero => rfl
  | succ n ih =>
    rw [List.replicate_succ, List.replicate_succ, replies]
    exact congrArg _ ih

theorem runs_looks (a : Acknowledgement κ) (looks : Nat) : a.runs (.replicate looks .look) = [] := by
  induction looks with
  | zero => rfl
  | succ n ih =>
    rw [List.replicate_succ, runs]
    exact ih

/-! With nothing to run, a message stays as it is. -/

theorem after_spent (acked : Bool) (calls : List (Call κ)) :
    (⟨none, acked⟩ : Acknowledgement κ).after calls = ⟨none, acked⟩ := by
  induction calls with
  | nil => rfl
  | cons c cs ih =>
    have same : (⟨none, acked⟩ : Acknowledgement κ).next c = ⟨none, acked⟩ := by
      cases c with
      | ack returns => cases acked <;> rfl
      | look => rfl
    rw [after, List.foldl_cons, same]
    exact ih

theorem after_ack (k : κ) (returns : κ → Bool) (later : List (Call κ)) :
    (ready k).after (.ack returns :: later) = ⟨none, returns k⟩ :=
  after_spent (returns k) later

theorem replies_spent (m : Message) {acked : Bool} {text : String}
    (refuses : m.refusalText (if acked then .twice else .notReceived : AckAnswer κ) = some text)
    (calls : List (Call κ)) :
    (⟨none, acked⟩ : Acknowledgement κ).replies m calls = calls.map (Call.declined text acked) := by
  induction calls with
  | nil => rfl
  | cons c cs ih =>
    cases c with
    | ack returns =>
      cases acked <;> cases Option.some.inj refuses <;> exact congrArg _ ih
    | look => exact congrArg _ ih

theorem runs_spent (acked : Bool) (calls : List (Call κ)) :
    (⟨none, acked⟩ : Acknowledgement κ).runs calls = [] := by
  induction calls with
  | nil => rfl
  | cons c cs ih =>
    cases c with
    | ack returns => cases acked <;> exact ih
    | look => exact ih

/-- Calls begin with looks, and that is all there is or an acknowledgement comes next. -/
theorem calls_cases (calls : List (Call κ)) : (∃ looks, calls = .replicate looks .look) ∨
    ∃ looks returns later, calls = .replicate looks .look ++ .ack returns :: later := by
  induction calls with
  | nil => exact .inl ⟨0, rfl⟩
  | cons c cs ih =>
    cases c with
    | ack returns => exact .inr ⟨0, returns, cs, rfl⟩
    | look =>
      rcases ih with ⟨n, rfl⟩ | ⟨n, returns, later, rfl⟩
      · exact .inl ⟨n + 1, rfl⟩
      · exact .inr ⟨n + 1, returns, later, rfl⟩

theorem oneShot_ready (m : Message) (k : κ) (calls : List (Call κ)) :
    OneShot m k calls ((ready k).replies m calls) ((ready k).runs calls) := by
  rcases calls_cases calls with ⟨n, rfl⟩ | ⟨n, returns, later, rfl⟩
  · rw [replies_looks, runs_looks]
    exact .untouched n
  · rw [replies_append, runs_append, replies_looks, runs_looks, after_looks]
    have action : (ready k).ack returns = (.ran k (returns k), ⟨none, returns k⟩) := rfl
    simp only [replies, runs, reply, ran?, next, action]
    rw [runs_spent]
    cases comesBack : returns k with
    | true =>
      rw [replies_spent m rfl]
      exact .returned n comesBack later
    | false =>
      rw [replies_spent m rfl]
      exact .brokeOff n comesBack later

end Acknowledgement

end Courier
