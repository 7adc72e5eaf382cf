import Courier.Batcher
import Courier.Token
import Courier.Rehearsal.Settle

/-!
A rehearsal of a batcher: items are numbers, handler calls follow a script and, once it is used up,
end when they are told to.
-/

namespace Courier.Rehearsal

/-- A submission whose answer has not been reported. -/
structure Submission where
  item : Nat
  ticket : Nat
  /-- The submitter waits for the batch, and stops waiting if its token fires. -/
  waits : Bool
  token : Option Token

/-- What a submitter learned: an outcome, or that nobody will answer. -/
inductive Answer
  | told (outcome : Outcome String)
  | dropped

structure BatchingRow where
  /-- Handler calls begun, with their numbers and items. -/
  batches : List (Nat × List Nat)
  done : List (Nat × Answer)
  shutdowns : List Nat
  pending : Nat
  isShutDown : Bool
  /-- Was the handler call that should end in progress? -/
  finished : Option Bool

inductive BatchingStep
  | add (item : Nat) (token : Option Token)
  | addAll (items : List Nat)
  | finish (number : Nat) (how : Ending String)
  | cancel (token : Token)
  | abort (id : Nat)
  | shutdown (id : Nat)

structure Batching where
  batcher : Batcher.State Nat String
  script : List (Ending String)
  /-- The handler fails at once on a batch that holds one of these. -/
  crashOn : List Nat
  /-- Handler calls that end when they are told to. -/
  held : List Nat
  fired : List Token
  waiting : List Submission
  draining : List Nat
  begun : List (Nat × List Nat)
  done : List (Nat × Answer)

namespace Batching

def act (s : Batching) (e : Batcher.Event Nat String) : Batching :=
  { s with batcher := (s.batcher.step e).getD s.batcher }

/-- A handler call begins. -/
def handle (s : Batching) (r : Batcher.Running Nat) : Batching :=
  let items := r.batch.map (·.item)
  let s := { s with begun := s.begun ++ [(r.number, items)] }
  if items.any s.crashOn.contains then s.act (.crash r.number)
  else match s.script with
    | [] => { s with held := s.held ++ [r.number] }
    | how :: rest => { s with script := rest }.act (.finish r.number how)

def next? (s : Batching) : Option Batching :=
  s.batcher.next?.map fun e =>
    let t := s.act e
    match t.batcher.running? s.batcher.taken.length with
    | some r => t.handle r
    | none => t

/-- Waiters whose token has fired stop waiting. -/
def withdraw (s : Batching) : Batching :=
  let gone := s.waiting.filter fun c => c.waits && fires s.fired c.token
  let t := gone.foldl (fun t c => t.act (.leave c.ticket)) s
  { t with
    waiting := s.waiting.filter fun c => !(c.waits && fires s.fired c.token)
    done := s.done ++ gone.map fun c => (c.item, .told (.error .canceled)) }

def answer? (s : Batching) (c : Submission) : Option Answer :=
  match s.batcher.answer? c.ticket with
  | some o => some (.told o)
  | none =>
    if s.batcher.abandoned.contains c.ticket then
      some (if c.waits then .told (.error Batcher.vanishedFault) else .dropped)
    else none

def collect (s : Batching) : Batching :=
  { s with
    waiting := s.waiting.filter fun c => (s.answer? c).isNone
    done := s.done ++ s.waiting.filterMap fun c => (s.answer? c).map fun a => (c.item, a) }

def submit (s : Batching) (item : Nat) (waits : Bool) (token : Option Token) : Batching :=
  let c : Submission := ⟨item, s.batcher.nextTicket, waits, token⟩
  { s.act (.submit item) with waiting := s.waiting ++ [c] }

/-- What a step does before the handler tasks run, and whether the call that should end was held. -/
def apply (s : Batching) : BatchingStep → Batching × Option Bool
  | .add item token => ((s.submit item true token).withdraw, none)
  | .addAll items => (items.foldl (fun s i => s.submit i false none) s, none)
  | .finish number how =>
    if s.held.contains number then
      ({ s with held := s.held.filter (· ≠ number) }.act (.finish number how), some true)
    else (s, some false)
  | .cancel token => ({ s with fired := token :: s.fired }.withdraw, none)
  | .abort id =>
    let gone := s.waiting.filter (·.item = id)
    let t := gone.foldl (fun t c => t.act (.leave c.ticket)) s
    ({ t with waiting := s.waiting.filter (·.item ≠ id), draining := s.draining.filter (· ≠ id) }.act
      (.drain id .leave), none)
  | .shutdown id => ({ s with draining := s.draining ++ [id] }.act (.drain id .start), none)

def isFinished (s : Batching) (id : Nat) : Bool := s.batcher.drain? id == some .finished

def step (s : Batching) (x : BatchingStep) : Batching × BatchingRow :=
  let (t, finished) := s.apply x
  let size := t.batcher.pending.length + t.script.length + t.draining.length
  let t := (settle next? (moments size) t).collect
  let ended := t.draining.filter t.isFinished
  let t := { t with draining := t.draining.filter fun d => !t.isFinished d }
  let row : BatchingRow := ⟨t.begun, byNumber t.done, ended, t.waiting.length + t.draining.length,
    t.batcher.shut, finished⟩
  ({ t with begun := [], done := [] }, row)

def start (limits : Limits) (script : List (Ending String)) (crashOn : List Nat) : Batching :=
  ⟨.new limits, script, crashOn, [], [], [], [], [], []⟩

def rows (s : Batching) : List BatchingStep → List BatchingRow
  | [] => []
  | x :: rest => (s.step x).2 :: (s.step x).1.rows rest

end Batching

end Courier.Rehearsal
