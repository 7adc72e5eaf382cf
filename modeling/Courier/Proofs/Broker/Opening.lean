import Courier.Broker.Opening
import Courier.Proofs.Broker
import Mathlib.Data.List.Induction
import Mathlib.Data.Nat.Digits.Defs

/-! Opening by URL, all or nothing. The pairs of the query are looked at from left to right, and the first
that does not fit ends it; then the name, then the topic. Nothing is changed before the last of these
questions is answered, so a refusal finds the broker as it was. -/

namespace Courier.Opening

open Broker (attached_create attached_set)

/-! ### What is quoted -/

/-- A character that shows, other than a quote or a backslash. -/
def Plain (c : Char) : Prop := 0x20 ≤ c.toNat ∧ c.toNat < 0x7f ∧ c ≠ '"' ∧ c ≠ '\\'

instance (c : Char) : Decidable (Plain c) := inferInstanceAs (Decidable (_ ∧ _))

theorem printable_of_plain {c : Char} (plain : Plain c) : Text.isUnprintable c = false := by
  have apart : Text.unprintableRanges.toList.all (fun r => r.2 < 0x20 || 0x7f ≤ r.1) = true := by
    decide +kernel
  obtain ⟨low, high, _⟩ := plain
  rw [Text.isUnprintable, ← Array.any_toList, List.any_eq_false]
  intro r member
  have outside := List.all_eq_true.mp apart r member
  simp only [Bool.or_eq_true, decide_eq_true_eq] at outside
  simp only [Bool.and_eq_true, decide_eq_true_eq]
  omega

theorem escape_plain {c : Char} (plain : Plain c) : Text.escape c = [c] := by
  have shows := printable_of_plain plain
  obtain ⟨low, _, noQuote, noSlash⟩ := plain
  have control : ∀ d : Char, d.toNat < 0x20 → c ≠ d := by
    rintro d below rfl
    omega
  rw [Text.escape, if_neg noQuote, if_neg noSlash, if_neg (control '\n' (by decide)),
    if_neg (control '\r' (by decide)), if_neg (control '\t' (by decide)),
    if_neg (control (Char.ofNat 0) (by decide)), shows, if_neg Bool.false_ne_true]

/-- A plain text stands between its quotes as it is. -/
theorem quoted_plain (s : String) (plain : (s.toList.all fun c => Plain c) = true) :
    Text.quoted s = "\"" ++ s ++ "\"" := by
  have same : ∀ cs : List Char, (cs.all fun c => Plain c) = true → cs.flatMap Text.escape = cs := by
    intro cs plain
    induction cs with
    | nil => rfl
    | cons c cs ih =>
      rw [List.all_cons, Bool.and_eq_true, decide_eq_true_eq] at plain
      rw [List.flatMap_cons, escape_plain plain.1, ih plain.2, List.singleton_append]
  apply String.toList_inj.mp
  rw [Text.quoted, same _ plain, String.toList_ofList, String.toList_append, String.toList_append]
  rfl

/-! ### What a query asks for -/

/-- The text writes the number: decimal digits, the highest first, after at most one plus sign. -/
def Writes (s : String) (n : Nat) : Prop :=
  ∃ digits : List Char, digits ≠ [] ∧ (∀ c ∈ digits, c.isDigit = true) ∧
    (s.toList = digits ∨ s.toList = '+' :: digits) ∧
    Nat.ofDigits 10 (digits.reverse.map fun c => c.toNat - '0'.toNat) = n

/-- The pair sets the deadline to so many milliseconds. -/
def Sets (pair : String × String) (n : UInt64) : Prop :=
  pair.1 = "ackdeadline" ∧ Writes pair.2 n.toNat

def Fits (pair : String × String) : Prop := ∃ n, Sets pair n

/-- What is objected to a pair that does not fit. -/
def objection (pair : String × String) : Objection :=
  if pair.1 = "ackdeadline" then .badDeadline pair.2 else .unknownParameter pair.1

/-- The last pair counts, and there is a deadline without any. -/
inductive Settles (usual : Duration) (pairs : List (String × String)) : Duration → Prop
  | unset (none : pairs = []) : Settles usual pairs usual
  | last {pair : String × String} {n : UInt64} (isLast : pairs.getLast? = some pair)
      (sets : Sets pair n) : Settles usual pairs (.ofMillis n)

theorem foldl_digits (digits : List Char) :
    digits.foldl (fun n c => n * 10 + (c.toNat - '0'.toNat)) 0 =
      Nat.ofDigits 10 (digits.reverse.map fun c => c.toNat - '0'.toNat) := by
  induction digits using List.reverseRecOn with
  | nil => rfl
  | append_singleton digits c ih =>
    rw [List.foldl_append, List.foldl_cons, List.foldl_nil, ih, List.reverse_append,
      List.reverse_singleton, List.singleton_append, List.map_cons, Nat.ofDigits_cons, Nat.add_comm,
      Nat.mul_comm 10]

/-- The characters after a plus sign, or all of them. -/
def unsigned : List Char → List Char
  | '+' :: rest => rest
  | cs => cs

theorem millis_eq (s : String) : millis? s =
    if !(unsigned s.toList).isEmpty && (unsigned s.toList).all Char.isDigit &&
        (unsigned s.toList).foldl (fun n c => n * 10 + (c.toNat - '0'.toNat)) 0 < UInt64.size then
      some ((unsigned s.toList).foldl (fun n c => n * 10 + (c.toNat - '0'.toNat)) 0).toUInt64
    else none := rfl

theorem unsigned_cases (cs : List Char) : cs = unsigned cs ∨ cs = '+' :: unsigned cs := by
  rw [unsigned.eq_def]
  split
  · exact .inr rfl
  · exact .inl rfl

theorem unsigned_eq {cs digits : List Char} (digital : ∀ c ∈ digits, c.isDigit = true)
    (written : cs = digits ∨ cs = '+' :: digits) : unsigned cs = digits := by
  rcases written with rfl | rfl
  · rw [unsigned.eq_def]
    split
    · exact absurd (digital '+' List.mem_cons_self) (by decide)
    · rfl
  · rfl

theorem millis_iff {s : String} {n : UInt64} : millis? s = some n ↔ Writes s n.toNat := by
  rw [millis_eq]
  constructor
  · intro read
    split at read
    · rename_i fits
      simp only [Bool.and_eq_true, Bool.not_eq_true', List.all_eq_true, decide_eq_true_eq,
        List.isEmpty_eq_false_iff] at fits
      obtain ⟨⟨nonempty, digital⟩, small⟩ := fits
      cases read
      refine ⟨_, nonempty, digital, unsigned_cases _, ?_⟩
      rw [← foldl_digits]
      exact (Nat.mod_eq_of_lt small).symm
    · cases read
  · rintro ⟨digits, nonempty, digital, written, value⟩
    have small : n.toNat < UInt64.size := n.toNat_lt
    rw [unsigned_eq digital written, foldl_digits, value, if_pos]
    · exact congrArg some UInt64.ofNat_toNat
    · simpa [nonempty, small] using digital

theorem deadline_fit {pair : String × String} {n : UInt64} (sets : Sets pair n) (current : Duration)
    (rest : List (String × String)) :
    deadline current (pair :: rest) = deadline (.ofMillis n) rest := by
  rw [deadline, if_pos sets.1, millis_iff.mpr sets.2]

theorem deadline_unfit {pair : String × String} (unfit : ¬ Fits pair) (current : Duration)
    (rest : List (String × String)) : deadline current (pair :: rest) = .error (objection pair) := by
  rw [deadline, objection]
  split
  · rename_i named
    cases read : millis? pair.2 with
    | none => rfl
    | some n => exact absurd ⟨n, named, millis_iff.mp read⟩ unfit
  · rfl

/-- A query without objection settles the deadline. -/
theorem deadline_settles {pairs : List (String × String)} (fit : ∀ p ∈ pairs, Fits p)
    (current : Duration) : ∃ d, deadline current pairs = .ok d ∧ Settles current pairs d := by
  induction pairs generalizing current with
  | nil => exact ⟨current, rfl, .unset rfl⟩
  | cons pair rest ih =>
    obtain ⟨n, sets⟩ := fit pair List.mem_cons_self
    obtain ⟨d, read, settles⟩ := ih (fun p member => fit p (List.mem_cons_of_mem _ member)) (.ofMillis n)
    refine ⟨d, (deadline_fit sets current rest).trans read, ?_⟩
    cases settles with
    | unset none => exact .last (by rw [none]; rfl) sets
    | last isLast sets' => exact .last (by rw [List.getLast?_cons, isLast]; rfl) sets'

theorem deadline_objects {before after : List (String × String)} {pair : String × String}
    (earlier : ∀ p ∈ before, Fits p) (unfit : ¬ Fits pair) (current : Duration) :
    deadline current (before ++ pair :: after) = .error (objection pair) := by
  induction before generalizing current with
  | nil => exact deadline_unfit unfit current after
  | cons first before ih =>
    obtain ⟨n, sets⟩ := earlier first List.mem_cons_self
    rw [List.cons_append, deadline_fit sets]
    exact ih (fun p member => earlier p (List.mem_cons_of_mem _ member)) _

theorem first_unfit {pairs : List (String × String)} (some_unfit : ¬ ∀ p ∈ pairs, Fits p) :
    ∃ before pair after, pairs = before ++ pair :: after ∧ (∀ p ∈ before, Fits p) ∧ ¬ Fits pair := by
  induction pairs with
  | nil => exact absurd (fun p member => nomatch member) some_unfit
  | cons first rest ih =>
    by_cases fits : Fits first
    · have later : ¬ ∀ p ∈ rest, Fits p := fun all =>
        some_unfit (List.forall_mem_cons.mpr ⟨fits, all⟩)
      obtain ⟨before, pair, after, split, earlier, unfit⟩ := ih later
      exact ⟨first :: before, pair, after, by rw [split, List.cons_append],
        List.forall_mem_cons.mpr ⟨fits, earlier⟩, unfit⟩
    · exact ⟨[], first, rest, rfl, nofun, fits⟩

/-! ### What a URL does to a broker -/

/-- The name that a URL asks for. -/
def asked (u : Url) : String := u.hostText ++ u.path.text

structure Subscribable (u : Url) (b : Broker) : Prop where
  fit : ∀ p ∈ u.fields, Fits p
  named : asked u ≠ ""
  there : b.hasTopic (asked u) = true

/-- Why a subscription is refused: the first pair that does not fit, else the name, else the topic. -/
inductive SubscriptionRefused (u : Url) (b : Broker) : Fault MissingTopic → Prop
  | pair {before after : List (String × String)} {p : String × String}
      (split : u.fields = before ++ p :: after) (earlier : ∀ q ∈ before, Fits q) (unfit : ¬ Fits p) :
      SubscriptionRefused u b (.refused "Subscription" u.text (objection p).message)
  | unnamed (fit : ∀ p ∈ u.fields, Fits p) (empty : asked u = "") :
      SubscriptionRefused u b (.refused "Subscription" u.text Objection.noName.message)
  | missing (fit : ∀ p ∈ u.fields, Fits p) (named : asked u ≠ "")
      (absent : b.hasTopic (asked u) = false) :
      SubscriptionRefused u b (.provider .notFound "mem" ⟨asked u⟩)

/-- One mailbox more, attached to the topic behind those it had, and nothing else. -/
structure Attached (b : Broker) (name : String) (d : Duration) (t : Broker) : Prop where
  topic : ∃ numbers, b.attached? name = some numbers ∧
    t.attached? name = some (numbers ++ [b.mailboxes.length])
  others : ∀ other, other ≠ name → t.attached? other = b.attached? other
  names : t.topics.map (·.1) = b.topics.map (·.1)
  mailboxes : t.mailboxes = b.mailboxes ++ [.new d]
  gone : t.gone = b.gone

structure Publishable (u : Url) : Prop where
  bare : u.fields = []
  named : asked u ≠ ""

inductive TopicRefused (u : Url) : Fault MissingTopic → Prop
  | pair {p : String × String} {rest : List (String × String)} (first : u.fields = p :: rest) :
      TopicRefused u (.refused "Topic" u.text (Objection.unknownParameter p.1).message)
  | unnamed (bare : u.fields = []) (empty : asked u = "") :
      TopicRefused u (.refused "Topic" u.text Objection.noName.message)

theorem SubscriptionRefused.first {u : Url} {b : Broker} {fault : Fault MissingTopic}
    (refused : SubscriptionRefused u b fault) {p : String × String} {rest : List (String × String)}
    (fields : u.fields = p :: rest) (unfit : ¬ Fits p) :
    fault = .refused "Subscription" u.text (objection p).message := by
  have here : p ∈ u.fields := fields ▸ List.mem_cons_self
  cases refused with
  | @pair before after q split earlier =>
    rw [fields] at split
    cases before with
    | nil =>
      cases split
      rfl
    | cons x before =>
      cases split
      exact absurd (earlier p List.mem_cons_self) unfit
  | unnamed fit => exact absurd (fit p here) unfit
  | missing fit => exact absurd (fit p here) unfit

theorem TopicRefused.first {u : Url} {fault : Fault MissingTopic} (refused : TopicRefused u fault)
    {p : String × String} {rest : List (String × String)} (fields : u.fields = p :: rest) :
    fault = .refused "Topic" u.text (Objection.unknownParameter p.1).message := by
  cases refused with
  | pair first =>
    cases fields.symm.trans first
    rfl
  | unnamed bare => cases fields.symm.trans bare

/-- The name is there, with the mailboxes that it had; if it was there before, nothing happened. -/
structure Named (b : Broker) (name : String) (t : Broker) : Prop where
  topic : t.attached? name = some ((b.attached? name).getD [])
  others : ∀ other, other ≠ name → t.attached? other = b.attached? other
  again : b.hasTopic name = true → t = b
  mailboxes : t.mailboxes = b.mailboxes
  gone : t.gone = b.gone

theorem topicName_eq (u : Url) :
    topicName u = if asked u = "" then .error .noName else .ok (asked u) := by
  simp only [topicName, String.isEmpty_iff]
  rfl

theorem attached_open {b : Broker} {name : String} (there : b.hasTopic name = true) (d : Duration)
    (options : SubscriptionOptions) :
    ∃ t, b.openSubscription name d options = .ok (⟨b.mailboxes.length, options⟩, t) ∧
      Attached b name d t := by
  obtain ⟨numbers, found⟩ := Option.isSome_iff_exists.mp there
  refine ⟨{ b.setAttached name (numbers ++ [b.mailboxes.length]) with
    mailboxes := b.mailboxes ++ [.new d] }, by rw [Broker.openSubscription, found]; rfl, ?_⟩
  refine ⟨⟨numbers, found, ?_⟩, fun other differs => ?_, ?_, rfl, rfl⟩
  · refine (attached_set b name name _).trans ?_
    rw [if_pos rfl, found]
    rfl
  · exact (attached_set b name other _).trans (if_neg differs)
  · rw [Broker.setAttached, List.map_map]
    refine List.map_congr_left fun topic _ => ?_
    by_cases same : topic.1 = name
    · simp [same]
    · simp [same]

theorem named_open (b : Broker) (name : String) (options : TopicOptions) :
    ∃ t, b.openTopic name options = (⟨name, options⟩, t) ∧ Named b name t := by
  obtain ⟨gone, mailboxes⟩ := Broker.create_aside b name
  refine ⟨(b.createTopic name).2, rfl, ?_, ?_, ?_, mailboxes, gone⟩
  · rw [attached_create, if_pos rfl]
  · intro other differs
    rw [attached_create, if_neg differs]
  · intro there
    rw [Broker.create_again there]

theorem open_subscription (o : Opening) {u : Url} {b : Broker} (can : Subscribable u b) :
    ∃ d t, Settles (.ofSecs 60) u.fields d ∧
      o.openSubscription u b = (.ok ⟨b.mailboxes.length, o.subscription⟩, t) ∧
      Attached b (asked u) d t := by
  obtain ⟨d, read, settles⟩ := deadline_settles can.fit Broker.defaultAckDeadline
  obtain ⟨t, opened, attached⟩ := attached_open can.there d o.subscription
  have asks : subscriptionOf u = .ok (asked u, d) := by
    rw [subscriptionOf, read, topicName_eq, if_neg can.named]
    rfl
  refine ⟨d, t, settles, ?_, attached⟩
  rw [openSubscription, asks]
  simp only [opened]

theorem refuse_subscription (o : Opening) {u : Url} {b : Broker} (cannot : ¬ Subscribable u b) :
    ∃ fault, o.openSubscription u b = (.error fault, b) ∧ SubscriptionRefused u b fault := by
  by_cases fit : ∀ p ∈ u.fields, Fits p
  · obtain ⟨d, read, _⟩ := deadline_settles fit Broker.defaultAckDeadline
    by_cases named : asked u = ""
    · refine ⟨_, ?_, .unnamed fit named⟩
      rw [openSubscription, subscriptionOf, read, topicName_eq, if_pos named]
      rfl
    · have absent : b.hasTopic (asked u) = false :=
        Bool.eq_false_of_not_eq_true fun there => cannot ⟨fit, named, there⟩
      refine ⟨_, ?_, .missing fit named absent⟩
      have asks : subscriptionOf u = .ok (asked u, d) := by
        rw [subscriptionOf, read, topicName_eq, if_neg named]
        rfl
      rw [openSubscription, asks]
      simp only [Broker.open_missing absent]
      rfl
  · obtain ⟨before, p, after, split, earlier, unfit⟩ := first_unfit fit
    refine ⟨_, ?_, .pair split earlier unfit⟩
    rw [openSubscription, subscriptionOf, split, deadline_objects earlier unfit]
    rfl

theorem open_topic (o : Opening) {u : Url} (can : Publishable u) (b : Broker) :
    ∃ t, o.openTopic u b = (.ok ⟨asked u, o.topic⟩, t) ∧ Named b (asked u) t := by
  obtain ⟨t, opened, named⟩ := named_open b (asked u) o.topic
  refine ⟨t, ?_, named⟩
  rw [openTopic, topicOf, can.bare]
  simp only [topicName_eq, if_neg can.named, opened]

theorem refuse_topic (o : Opening) {u : Url} (cannot : ¬ Publishable u) (b : Broker) :
    ∃ fault, o.openTopic u b = (.error fault, b) ∧ TopicRefused u fault := by
  cases fields : u.fields with
  | nil =>
    have unnamed : asked u = "" := by
      by_contra named
      exact cannot ⟨fields, named⟩
    refine ⟨_, ?_, .unnamed fields unnamed⟩
    rw [openTopic, topicOf, fields]
    simp only [topicName_eq, if_pos unnamed]
    rfl
  | cons p rest =>
    refine ⟨_, ?_, .pair fields⟩
    rw [openTopic, topicOf, fields]
    rfl

/-- For every URL and every broker: a subscription is opened exactly if each pair fits, there is a name
and the topic is there, and is then the one mailbox more, with the deadline that the query settles; a
topic is opened exactly if there is no pair and there is a name. A refusal tells the first reason and
leaves the broker as it was. -/
theorem opened_or_untouched (o : Opening) (u : Url) (b : Broker) :
    (((∃ link, (o.openSubscription u b).1 = .ok link) ↔ Subscribable u b) ∧
      (Subscribable u b → ∃ d t, Settles (.ofSecs 60) u.fields d ∧
        o.openSubscription u b = (.ok ⟨b.mailboxes.length, o.subscription⟩, t) ∧
        Attached b (asked u) d t) ∧
      (¬ Subscribable u b → ∃ fault,
        o.openSubscription u b = (.error fault, b) ∧ SubscriptionRefused u b fault)) ∧
    ((∃ link, (o.openTopic u b).1 = .ok link) ↔ Publishable u) ∧
      (Publishable u → ∃ t, o.openTopic u b = (.ok ⟨asked u, o.topic⟩, t) ∧ Named b (asked u) t) ∧
      (¬ Publishable u → ∃ fault, o.openTopic u b = (.error fault, b) ∧ TopicRefused u fault) := by
  refine ⟨⟨⟨?_, ?_⟩, open_subscription o, refuse_subscription o⟩, ⟨?_, ?_⟩,
    fun can => open_topic o can b, fun cannot => refuse_topic o cannot b⟩
  · rintro ⟨link, opened⟩
    by_contra cannot
    obtain ⟨fault, refused, _⟩ := refuse_subscription o cannot
    rw [refused] at opened
    cases opened
  · intro can
    obtain ⟨d, t, _, opened, _⟩ := open_subscription o can
    exact ⟨_, congrArg Prod.fst opened⟩
  · rintro ⟨link, opened⟩
    by_contra cannot
    obtain ⟨fault, refused, _⟩ := refuse_topic o cannot b
    rw [refused] at opened
    cases opened
  · intro can
    obtain ⟨t, opened, _⟩ := open_topic o can b
    exact ⟨_, congrArg Prod.fst opened⟩

/-- Of two deadlines the last one counts, with its sign and zeros; where a value is no number, the first
such is told, and not what comes after it. A topic takes no deadline. -/
theorem opened_or_untouched_two_deadlines :
    let u : Url := ⟨"mem", some ⟨"", "", "orders", none⟩, .divided ["eu"],
      some "ackdeadline=5&ackdeadline=%2B007", none⟩
    let v : Url := { u with query := some "ackdeadline=soon&color=blue" }
    let b : Broker := (Broker.empty.openTopic "orders/eu" default).2
    let o : Opening := default
    Subscribable u b ∧ ¬ Subscribable v b ∧
    (∃ t, o.openSubscription u b = (.ok ⟨0, o.subscription⟩, t) ∧
      Attached b "orders/eu" (.ofMillis 7) t) ∧
    (∃ fault, o.openSubscription v b = (.error fault, b) ∧ SubscriptionRefused v b fault ∧
      fault = .refused "Subscription" "mem://orders/eu?ackdeadline=soon&color=blue"
        "invalid ackdeadline \"soon\", expected milliseconds") ∧
    ∃ fault, o.openTopic u b = (.error fault, b) ∧ TopicRefused u fault ∧
      fault = .refused "Topic" "mem://orders/eu?ackdeadline=5&ackdeadline=%2B007"
        "unknown query parameter \"ackdeadline\"" := by
  intro u v b o
  have pairs : u.fields = [("ackdeadline", "5"), ("ackdeadline", "+007")] := by decide +kernel
  have first : Sets ("ackdeadline", "5") 5 := ⟨rfl, millis_iff.mp (by decide +kernel)⟩
  have second : Sets ("ackdeadline", "+007") 7 := ⟨rfl, millis_iff.mp (by decide +kernel)⟩
  have name : asked u = "orders/eu" := by decide +kernel
  have can : Subscribable u b := by
    refine ⟨?_, by rw [name]; decide, by rw [name]; decide +kernel⟩
    rw [pairs]
    simpa using ⟨⟨5, first⟩, 7, second⟩
  have misspelt : v.fields = [("ackdeadline", "soon"), ("color", "blue")] := by decide +kernel
  have unfit : ¬ Fits ("ackdeadline", "soon") := by
    rintro ⟨n, _, writes⟩
    have nothing : millis? "soon" = none := by decide +kernel
    rw [millis_iff.mpr writes] at nothing
    cases nothing
  have cannot : ¬ Subscribable v b := by
    intro can
    have member : ("ackdeadline", "soon") ∈ v.fields := by simp [misspelt]
    exact unfit (can.fit _ member)
  obtain ⟨⟨_, opens, _⟩, _⟩ := opened_or_untouched o u b
  obtain ⟨⟨_, _, refuses⟩, _⟩ := opened_or_untouched o v b
  obtain ⟨_, _, _, refuses_topic⟩ := opened_or_untouched o u b
  obtain ⟨d, t, settles, opened, attached⟩ := opens can
  have settled : d = .ofMillis 7 := by
    cases settles with
    | unset none => cases pairs.symm.trans none
    | last isLast sets =>
      rw [pairs] at isLast
      cases isLast
      have same := (millis_iff.mpr sets.2).symm.trans (millis_iff.mpr second.2)
      rw [Option.some.inj same]
  rw [name, settled] at attached
  have unbare : ¬ Publishable u := by
    intro bare
    cases pairs.symm.trans bare.bare
  obtain ⟨fault, refused, reason⟩ := refuses cannot
  obtain ⟨other, refused_too, too⟩ := refuses_topic unbare
  have text : v.text = "mem://orders/eu?ackdeadline=soon&color=blue" := by decide +kernel
  have text_too : u.text = "mem://orders/eu?ackdeadline=5&ackdeadline=%2B007" := by decide +kernel
  have words : (objection ("ackdeadline", "soon")).message =
      "invalid ackdeadline " ++ Text.quoted "soon" ++ ", expected milliseconds" := rfl
  have words_too : (Objection.unknownParameter "ackdeadline").message =
      "unknown query parameter " ++ Text.quoted "ackdeadline" := rfl
  have told := reason.first misspelt unfit
  have told_too := too.first pairs
  rw [text, words, quoted_plain "soon" (by decide +kernel)] at told
  rw [text_too, words_too, quoted_plain "ackdeadline" (by decide +kernel)] at told_too
  exact ⟨can, cannot, ⟨t, opened, attached⟩, ⟨fault, refused, reason, told⟩,
    other, refused_too, too, told_too⟩

end Courier.Opening
