import Courier.Proofs.Subscription.Ownership
import Mathlib.Data.List.Perm.Basic

/-! Messages reach the application in the order in which the provider gave them, each once. What
the provider brought is, from the oldest to the newest: what was handed out, what is queued, and
what the owner of a round has in its hands before it queues it. -/

namespace Courier.Subscription

variable {ε : Type}

def result (x : Nat × Receive ε) : Option (Nat × Delivery) :=
  match x.2.phase with
  | .done (.ok d) => some (x.1, d)
  | _ => none

/-- The receives that returned a message, each with its message. -/
def State.results (s : State ε) : List (Nat × Delivery) := s.receives.filterMap result

/-- The messages that receives return in a step. -/
def handed (s t : State ε) : List Delivery := (t.results.filter (· ∉ s.results)).map (·.2)

def carried (x : Nat × Receive ε) : Option (List Parcel) :=
  match x.2.phase with
  | .storing _ batch => some batch
  | _ => none

/-- What owners have been given and not yet put into the queue. -/
def State.inHand (s : State ε) : List Parcel := (s.receives.filterMap carried).flatten

/-- All that the provider gave to receives that were there to take it. -/
def brought (es : List (Event ε)) : List Parcel := es.flatMap Event.batch

/-- Messages numbered in the order in which they came in. -/
def deliveries (ps : List Parcel) : List Delivery := ps.zipIdx.map fun x => ⟨x.2, x.1⟩

theorem deliveries_append (ps batch : List Parcel) : deliveries (ps ++ batch) =
    deliveries ps ++ batch.zipIdx.map fun (p, i) => ⟨ps.length + i, p⟩ := by
  rw [deliveries, List.zipIdx_append, List.map_append, Nat.zero_add, deliveries]
  congr 1
  rw [List.zipIdx_eq_map_add, List.map_map]
  rfl

theorem deliveries_serials (ps : List Parcel) :
    (deliveries ps).map (·.serial) = List.range ps.length := by
  simp [deliveries, Function.comp_def, List.range_eq_range']

theorem deliveries_parcels (ps : List Parcel) : (deliveries ps).map (·.parcel) = ps := by
  simp [deliveries, Function.comp_def]

theorem results_kept {s : State ε} (owned : Owned s) {id : Nat} {c : Receive ε}
    (found : s.receive? id = some c) (phase : ReceivePhase ε)
    (same : result (id, { c with phase := phase }) = result (id, c)) :
    (s.setReceive id phase).results = s.results :=
  read_kept owned.distinct found (f := fun c => { c with phase := phase }) same

theorem inHand_kept {s : State ε} (owned : Owned s) {id : Nat} {c : Receive ε}
    (found : s.receive? id = some c) (phase : ReceivePhase ε)
    (same : carried (id, { c with phase := phase }) = carried (id, c)) :
    (s.setReceive id phase).inHand = s.inHand :=
  congrArg List.flatten
    (read_kept owned.distinct found (f := fun c => { c with phase := phase }) same)

/-- Where nobody owns a round, nobody holds a batch. -/
theorem carried_of_free {l : List (Nat × Receive ε)} (free : l.filterMap ownership = []) :
    l.filterMap carried = [] := by
  rw [List.filterMap_eq_nil_iff] at free ⊢
  intro x member
  have nothing := free x member
  cases phase : x.2.phase with
  | storing r batch => simp [ownership, phase, ReceivePhase.owned?] at nothing
  | _ => simp [carried, phase]

/-- An owner alone can hold a batch. -/
theorem inHand_of_owner {s : State ε} (owned : Owned s) {id r : Nat} {c : Receive ε}
    (found : s.receive? id = some c) (owns : c.phase.owned? = some r) :
    s.inHand = (carried (id, c)).toList.flatten ∧ ∀ phase, (s.setReceive id phase).inHand =
      (carried (id, { c with phase := phase })).toList.flatten := by
  obtain ⟨before, after, all, rest, changed⟩ := read_around owned.distinct found carried
  obtain ⟨_, _, alone, _⟩ := owner_alone owned found owns
  have others := rest.symm.trans (carried_of_free alone)
  rw [List.append_eq_nil_iff] at others
  obtain ⟨rfl, rfl⟩ := others
  refine ⟨?_, fun phase => ?_⟩
  · rw [State.inHand, all, List.nil_append, List.append_nil]
  · have now := changed fun c => { c with phase := phase }
    rw [List.nil_append, List.append_nil] at now
    exact congrArg List.flatten now

/-- A receive that looks for a message has not returned one. -/
theorem result_absent {s : State ε} (owned : Owned s) {id : Nat} {c : Receive ε}
    (found : s.receive? id = some c) (looks : c.phase = .looking) (d : Delivery) :
    (id, d) ∉ s.results := by
  intro member
  obtain ⟨x, there, returned⟩ := List.mem_filterMap.mp member
  have here := call_member found
  cases phase : x.2.phase with
  | done outcome =>
    cases outcome with
    | error f => simp [result, phase] at returned
    | ok e =>
      simp only [result, phase, Option.some.injEq, Prod.mk.injEq] at returned
      have same : x = (id, c) := List.inj_on_of_nodup_map owned.distinct there here returned.1
      rw [same, looks] at phase
      contradiction
  | _ => simp [result, phase] at returned

/-- What a receive that is handed a message adds to the results. -/
theorem results_handOut {s : State ε} (owned : Owned s) {id : Nat} {c : Receive ε}
    (found : s.receive? id = some c) (looks : c.phase = .looking) (d : Delivery) :
    (s.setReceive id (.done (.ok d))).results.Perm ((id, d) :: s.results) ∧
      (s.setReceive id (.done (.ok d))).results.filter (· ∉ s.results) = [(id, d)] := by
  obtain ⟨before, after, all, _, changed⟩ := read_around owned.distinct found result
  have now := changed fun c => { c with phase := .done (.ok d) }
  have nothing : result (id, c) = none := by simp [result, looks]
  rw [nothing, Option.toList_none, List.append_nil] at all
  have new : result (id, ({ c with phase := .done (.ok d) } : Receive ε)) = some (id, d) := rfl
  rw [new, Option.toList_some] at now
  have results : (s.setReceive id (.done (.ok d))).results = before ++ [(id, d)] ++ after := now
  -- Had the message been returned before, it would have been by this receive, which still looks.
  have absent := result_absent owned found looks d
  have old : s.results = before ++ after := all
  rw [results, old]
  constructor
  · rw [List.append_assoc, List.singleton_append]
    exact List.perm_middle
  · rw [List.append_assoc, List.singleton_append]
    exact filter_new (old ▸ absent)

/-- What a step does to the messages: nothing, or one of the three moves on their way. -/
inductive Passage (s : State ε) (e : Event ε) (t : State ε) : Prop
  | still (nothing : e.batch = []) (results : t.results = s.results) (inHand : t.inHand = s.inHand)
      (queue : t.queue = s.queue) (arrived : t.arrived = s.arrived)
      (handedOut : t.handedOut = s.handedOut)
  | bring (results : t.results = s.results) (before : s.inHand = []) (inHand : t.inHand = e.batch)
      (queue : t.queue = s.queue) (arrived : t.arrived = s.arrived)
      (handedOut : t.handedOut = s.handedOut)
  | store (nothing : e.batch = []) (results : t.results = s.results) (inHand : t.inHand = [])
      (queue : t.queue = s.queue ++ s.inHand.zipIdx.map fun (p, i) => ⟨s.arrived.length + i, p⟩)
      (arrived : t.arrived = s.arrived ++ s.inHand) (handedOut : t.handedOut = s.handedOut)
  | handOut (nothing : e.batch = []) (d : Delivery) (new : handed s t = [d])
      (results : (t.results.map (·.2)).Perm (d :: s.results.map (·.2)))
      (inHand : t.inHand = s.inHand) (queue : s.queue = d :: t.queue)
      (arrived : t.arrived = s.arrived) (handedOut : t.handedOut = s.handedOut ++ [d])

/-- The receive has returned no message and holds none. -/
def ReceivePhase.bare : ReceivePhase ε → Bool
  | .storing .. => false
  | .done (.ok _) => false
  | _ => true

theorem bare_reads (id : Nat) {c : Receive ε} (bare : c.phase.bare = true) :
    result (id, c) = none ∧ carried (id, c) = none := by
  cases phase : c.phase with
  | storing => simp [ReceivePhase.bare, phase] at bare
  | done outcome =>
    cases outcome with
    | error f => simp only [result, carried, phase, and_self]
    | ok d => simp [ReceivePhase.bare, phase] at bare
  | _ => simp only [result, carried, phase, and_self]

theorem still_of_phase {s t : State ε} (owned : Owned s) {e : Event ε} {id : Nat} {c : Receive ε}
    (found : s.receive? id = some c) (was : c.phase.bare = true) {phase : ReceivePhase ε}
    (now : phase.bare = true) (receives : t.receives = (s.setReceive id phase).receives)
    (nothing : e.batch = []) (queue : t.queue = s.queue) (arrived : t.arrived = s.arrived)
    (handedOut : t.handedOut = s.handedOut) : Passage s e t := by
  obtain ⟨no_result, no_batch⟩ := bare_reads id was
  obtain ⟨still_none, still_nothing⟩ := bare_reads id (c := { c with phase := phase }) now
  have results := results_kept owned found phase (still_none.trans no_result.symm)
  have inHand := inHand_kept owned found phase (still_nothing.trans no_batch.symm)
  rw [State.results, ← receives] at results
  rw [State.inHand, ← receives] at inHand
  exact .still nothing results inHand queue arrived handedOut

theorem still_of_removal {s t : State ε} (owned : Owned s) {e : Event ε} {id : Nat} {c : Receive ε}
    (found : s.receive? id = some c) (was : c.phase.bare = true)
    (receives : t.receives = (s.without id).receives) (nothing : e.batch = [])
    (queue : t.queue = s.queue) (arrived : t.arrived = s.arrived)
    (handedOut : t.handedOut = s.handedOut) : Passage s e t := by
  obtain ⟨no_result, no_batch⟩ := bare_reads id was
  have results := read_removed owned.distinct found no_result
  have inHand := congrArg List.flatten (read_removed owned.distinct found no_batch)
  refine .still nothing ?_ ?_ queue arrived handedOut
  · rw [State.results, receives]
    exact results
  · rw [State.inHand, receives]
    exact inHand

theorem passage_of_handOut {s : State ε} (owned : Owned s) {id : Nat} {c : Receive ε}
    (found : s.receive? id = some c) (looks : c.phase = .looking) {d : Delivery}
    {rest : List Delivery} (queue : s.queue = d :: rest) :
    Passage s (.receiveStep id) (s.handOut id d rest) := by
  obtain ⟨results, new⟩ := results_handOut owned found looks d
  have inHand := inHand_kept owned found (.done (.ok d)) (by simp only [carried, looks])
  have one : handed s (s.handOut id d rest) = [d] := congrArg (List.map Prod.snd) new
  refine .handOut rfl d one (results.map _) inHand queue rfl ?_
  simp [State.handedOut, State.handOut, State.setReceive]

theorem passage_of_store {s : State ε} (owned : Owned s) {id r : Nat} {c : Receive ε}
    {batch : List Parcel} (found : s.receive? id = some c) (stores : c.phase = .storing r batch) :
    Passage s (.receiveStep id) ((s.store batch).setReceive id (.stored r)) := by
  obtain ⟨before, changed⟩ := inHand_of_owner owned found (r := r) (by rw [stores]; rfl)
  have holds : s.inHand = batch := by simpa [carried, stores] using before
  have results := results_kept owned found (.stored r) (by simp only [result, stores])
  refine .store rfl results (changed (.stored r)) ?_ ?_ rfl
  · rw [holds]
    rfl
  · rw [holds]
    rfl

theorem passage_of_bring {s : State ε} (owned : Owned s) {id r size : Nat} {c : Receive ε}
    {call : Fetch ε} {batch : List Parcel} {jitter : Binary64} (found : s.receive? id = some c)
    (fetches : c.phase = .fetching r size call) :
    Passage s (.fetched id (.ok batch) jitter) (s.setReceive id (.storing r batch)) := by
  obtain ⟨before, changed⟩ := inHand_of_owner owned found (r := r) (by rw [fetches]; rfl)
  have none_held : s.inHand = [] := by simpa [carried, fetches] using before
  have now : (s.setReceive id (.storing r batch)).inHand = batch := by
    rw [changed]
    simp [carried]
  have results := results_kept owned found (.storing r batch) (by simp only [result, fetches])
  exact .bring results none_held now rfl rfl rfl

theorem passage_of_moves {s t : State ε} {e : Event ε} (owned : Owned s) (moved : Moves s e t) :
    Passage s e t := by
  cases moved with
  | aside same outside =>
    refine .still (bare_of_outside outside).1 ?_ ?_ same.queue same.arrived same.handedOut
    · rw [State.results, same.receives, State.results]
    · rw [State.inHand, same.receives, State.inHand]
  | arrive id token fresh =>
    refine .still rfl ?_ ?_ rfl rfl rfl
    · simp [State.results, List.filterMap_append, result]
    · simp [State.inHand, List.filterMap_append, carried]
  | refuse found looks =>
    exact still_of_phase owned found (by rw [looks]; rfl) rfl rfl rfl rfl rfl rfl
  | handOut found looks sound queue => exact passage_of_handOut owned found looks queue
  | join found looks =>
    exact still_of_phase owned found (by rw [looks]; rfl) rfl rfl rfl rfl rfl rfl
  | giveUp found looks =>
    exact still_of_phase owned found (by rw [looks]; rfl) rfl rfl rfl rfl rfl rfl
  | begin found looks =>
    exact still_of_phase owned found (by rw [looks]; rfl) rfl rfl rfl rfl rfl rfl
  | call found opens =>
    exact still_of_phase owned found (by rw [opens]; rfl) rfl rfl rfl rfl rfl rfl
  | wake found waits =>
    exact still_of_phase owned found (by rw [waits]; rfl) rfl rfl rfl rfl rfl rfl
  | store found stores => exact passage_of_store owned found stores
  | @conclude id c r next found ends =>
    have bare : c.phase.bare = true ∧ next.bare = true := by
      rcases conclusion_cases ends with ⟨phase, rfl⟩ | ⟨f, phase, rfl⟩ | ⟨phase, rfl⟩
      · exact ⟨by rw [phase]; rfl, rfl⟩
      · exact ⟨by rw [phase]; rfl, rfl⟩
      · exact ⟨by rw [phase]; rfl, rfl⟩
    exact still_of_phase owned found bare.1 bare.2 rfl rfl rfl rfl rfl
  | cancel found waits =>
    exact still_of_phase owned found (by rw [waits]; rfl) rfl rfl rfl rfl rfl rfl
  | @depart id c found free =>
    have bare : c.phase.bare = true := by
      rcases free with looks | ⟨r, waits⟩
      · rw [looks]
        rfl
      · rw [waits]
        rfl
    exact still_of_removal owned found bare rfl rfl rfl rfl rfl
  | abandon found fetches =>
    exact still_of_removal owned found (by rw [fetches]; rfl) rfl rfl rfl rfl rfl
  | @clear id c r sequel found gives =>
    have bare : c.phase.bare = true := by
      rcases giveBack_cases gives with ⟨_, _, phase⟩ | phase | ⟨_, phase⟩ | phase <;>
        rw [phase] <;> rfl
    exact still_of_phase owned found bare rfl rfl rfl rfl rfl rfl
  | @signal id c r sequel next found signals goes =>
    have bare : next.bare = true := by
      rcases phase_cases goes with ⟨_, rfl⟩ | ⟨_, _, rfl⟩ | ⟨_, rfl⟩ <;> rfl
    exact still_of_phase owned found (by rw [signals]; rfl) bare rfl rfl rfl rfl rfl
  | vanish found signals =>
    exact still_of_removal owned found (by rw [signals]; rfl) rfl rfl rfl rfl rfl
  | bring found fetches => exact passage_of_bring owned found fetches
  | fail found fetches moment nothing =>
    exact still_of_phase owned found (by rw [fetches]; rfl) rfl rfl nothing rfl rfl rfl
  | collapse found fetches moment nothing =>
    exact still_of_phase owned found (by rw [fetches]; rfl) rfl rfl nothing rfl rfl rfl
  | pause found fetches moment nothing =>
    exact still_of_phase owned found (by rw [fetches]; rfl) rfl rfl nothing rfl rfl rfl
  | retry found fetches moment nothing =>
    exact still_of_phase owned found (by rw [fetches]; rfl) rfl rfl nothing rfl rfl rfl

/-- Every message is in one place of the way from the provider to the application. -/
structure Passed (provider : Provider ε) (replaced : Bool) (options : SubscriptionOptions)
    (es : List (Event ε)) (s : State ε) : Prop where
  sources : s.arrived ++ s.inHand = brought es
  numbered : s.handedOut ++ s.queue = deliveries s.arrived
  popped : log State.step handed (.new provider replaced options) es = s.handedOut
  once : (s.results.map (·.2)).Perm s.handedOut

theorem passed_of_run {provider : Provider ε} {replaced : Bool} {options : SubscriptionOptions}
    {es : List (Event ε)} {s : State ε}
    (reached : run State.step (.new provider replaced options) es = some s) :
    Passed provider replaced options es s := by
  have base : Passed provider replaced options [] (.new provider replaced options) :=
    ⟨rfl, rfl, rfl, List.Perm.refl []⟩
  refine run_invariant (P := Passed provider replaced options) base ?_ reached
  rintro es s e t before ⟨sources, numbered, popped, once⟩ moved
  have source : brought (es ++ [e]) = brought es ++ e.batch := by simp [brought]
  have logged := log_snoc handed before moved
  have quiet : t.results = s.results → handed s t = [] := by
    intro results
    simp [handed, results]
  cases passage_of_moves (owned_of_run before) (moves_of_step moved) with
  | still nothing results inHand queue arrived handedOut =>
    refine ⟨?_, ?_, ?_, ?_⟩
    · rw [source, nothing, List.append_nil, arrived, inHand, sources]
    · rw [handedOut, queue, arrived, numbered]
    · rw [logged, quiet results, List.append_nil, handedOut, popped]
    · rw [results, handedOut]
      exact once
  | bring results free inHand queue arrived handedOut =>
    rw [free, List.append_nil] at sources
    refine ⟨?_, ?_, ?_, ?_⟩
    · rw [source, arrived, inHand, sources]
    · rw [handedOut, queue, arrived, numbered]
    · rw [logged, quiet results, List.append_nil, handedOut, popped]
    · rw [results, handedOut]
      exact once
  | store nothing results inHand queue arrived handedOut =>
    refine ⟨?_, ?_, ?_, ?_⟩
    · rw [source, nothing, List.append_nil, arrived, inHand, List.append_nil, sources]
    · rw [handedOut, queue, arrived, deliveries_append, ← List.append_assoc, numbered]
    · rw [logged, quiet results, List.append_nil, handedOut, popped]
    · rw [results, handedOut]
      exact once
  | handOut nothing d new results inHand queue arrived handedOut =>
    refine ⟨?_, ?_, ?_, ?_⟩
    · rw [source, nothing, List.append_nil, arrived, inHand, sources]
    · rw [handedOut, arrived, List.append_assoc, List.singleton_append, ← queue, numbered]
    · rw [logged, new, handedOut, popped]
    · rw [handedOut]
      exact (results.trans (once.cons d)).trans (List.perm_append_singleton d s.handedOut).symm

theorem serials_distinct {provider : Provider ε} {replaced : Bool} {options : SubscriptionOptions}
    {es : List (Event ε)} {s : State ε} (passed : Passed provider replaced options es s) :
    (s.results.map fun x => x.2.serial).Nodup := by
  have all : ((s.handedOut ++ s.queue).map (·.serial)).Nodup := by
    rw [passed.numbered, deliveries_serials]
    exact List.nodup_range
  rw [List.map_append, List.nodup_append] at all
  have serials := passed.once.map Delivery.serial
  rw [List.map_map] at serials
  exact serials.nodup_iff.mpr all.1

theorem results_distinct {s : State ε} (owned : Owned s) : (s.results.map (·.1)).Nodup := by
  have part : (s.results.map (·.1)).Sublist (s.receives.map (·.1)) := by
    rw [State.results, List.map_filterMap, ← List.filterMap_eq_map]
    apply read_sublist
    intro x id returned
    obtain ⟨y, reads, rfl⟩ := Option.map_eq_some_iff.mp returned
    simp only [result] at reads
    split at reads
    · cases reads
      rfl
    · contradiction
  exact owned.distinct.sublist part

/-- What is in hand is the batch of one receive that is about to queue it. -/
theorem storing_of_inHand {s : State ε} (owned : Owned s) (holds : s.inHand ≠ []) :
    ∃ id r c, s.receive? id = some c ∧ c.phase = .storing r s.inHand := by
  have some_carried : s.receives.filterMap carried ≠ [] := by
    intro empty
    exact holds (by rw [State.inHand, empty, List.flatten_nil])
  obtain ⟨batch, carries⟩ := List.exists_mem_of_ne_nil _ some_carried
  obtain ⟨⟨id, c⟩, member, holding⟩ := List.mem_filterMap.mp carries
  have found : s.receive? id = some c := call_found owned.distinct member
  cases phase : c.phase with
  | storing r held =>
    have alone := (inHand_of_owner owned found (r := r) (by rw [phase]; rfl)).1
    refine ⟨id, r, c, found, ?_⟩
    simp [alone, carried, phase]
  | _ => simp [carried, phase] at holding

/-- What receives returned, in the order in which they took it, and then what is queued, is what the
provider brought, in order and with its content. A batch that its owner has yet to queue follows at
the end. Nothing is lost, returned twice or altered, whatever is canceled, dropped or shut down. -/
theorem deliveries_in_order (provider : Provider ε) (replaced : Bool)
    (options : SubscriptionOptions) (es : List (Event ε)) (s : State ε)
    (reached : run State.step (.new provider replaced options) es = some s) :
    ((log State.step handed (.new provider replaced options) es ++ s.queue).map (·.parcel)) ++
      s.inHand = brought es ∧
    log State.step handed (.new provider replaced options) es ++ s.queue = deliveries s.arrived ∧
    (s.inHand ≠ [] → ∃ id r c, s.receive? id = some c ∧ c.phase = .storing r s.inHand) ∧
    (∀ id batch jitter t, s.step (.fetched id (.ok batch) jitter) = some t →
      (∃ r, s.owners = [(id, r)]) ∧ t.inHand = batch) ∧
    (s.results.map (·.2)).Perm (log State.step handed (.new provider replaced options) es) ∧
    (s.results.map (·.1)).Nodup ∧ (s.results.map fun x => x.2.serial).Nodup ∧
    s.handedOut = log State.step handed (.new provider replaced options) es := by
  have owned := owned_of_run reached
  have passed := passed_of_run reached
  have ⟨sources, numbered, popped, once⟩ := passed
  rw [popped]
  refine ⟨?_, numbered, storing_of_inHand owned, ?_, once, results_distinct owned,
    serials_distinct passed, rfl⟩
  · rw [numbered, deliveries_parcels, sources]
  · intro id batch jitter t moved
    obtain ⟨c, r, size, call, found, fetches, _, rfl⟩ := bring_of_step moved
    have owns : c.phase.owned? = some r := by rw [fetches]; rfl
    refine ⟨⟨r, (owner_alone owned found owns).1⟩, ?_⟩
    rw [(inHand_of_owner owned found owns).2]
    simp [carried]

/-- The owner of a round is canceled as its batch comes in and is overtaken before it takes its
message; the next owner holds a batch of its own. -/
def overtaken : List (Event String) :=
  [.receive 1 (some "stop"), .receive 2 none, .receiveStep 1, .receiveStep 1, .receiveStep 2,
    .fire "stop", .fetched 1 (.ok [parcel 0, parcel 1]) 0, .receiveStep 1, .receiveStep 1,
    .receiveStep 2, .receiveStep 2, .receiveStep 1, .receive 3 none, .receiveStep 3, .receiveStep 3,
    .fetched 3 (.ok [parcel 2]) 0]

theorem deliveries_in_order_overtaken :
    ∃ s : State String, run State.step (.new neverAgain false default) overtaken = some s ∧
      log State.step handed (.new neverAgain false default) overtaken =
        [⟨0, parcel 0⟩, ⟨1, parcel 1⟩] ∧
      s.inHand = [parcel 2] ∧ brought overtaken = [parcel 0, parcel 1, parcel 2] ∧
      (s.results.map fun x => x.2.serial).Nodup := by
  have ran : ∃ s : State String, run State.step (.new neverAgain false default) overtaken = some s ∧
      s.handedOut = [⟨0, parcel 0⟩, ⟨1, parcel 1⟩] ∧ s.queue = [] ∧ s.inHand = [parcel 2] :=
    ⟨_, rfl, rfl, rfl, rfl⟩
  obtain ⟨s, reached, handedOut, queue, inHand⟩ := ran
  have h := deliveries_in_order neverAgain false default overtaken s reached
  obtain ⟨sources, _, _, _, _, _, serials, popped⟩ := h
  rw [← popped, handedOut, queue, inHand] at sources
  exact ⟨s, reached, popped ▸ handedOut, inHand, sources.symm, serials⟩

end Courier.Subscription
