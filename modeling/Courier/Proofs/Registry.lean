import Courier.Registry
import Mathlib.Data.List.Forall2
import Mathlib.Data.List.Induction
import Mathlib.Data.List.Sort
import Mathlib.Data.String.Basic

/-! A registry over its history. Registration lowers a scheme and a question does not, so that they agree
rests on two facts: every entry is kept in lower case, and a URL that was read has its scheme in lower
case. Which entry is found is then the first registration that was asked for under this scheme, in any
case of its letters, and neither a refusal nor a question changes that. -/

namespace Courier

/-- The same character, or the two cases of one letter between `A` and `Z`. -/
def SameLetter (c d : Char) : Prop :=
  c = d ∨ (c.isUpper = true ∧ d.toNat = c.toNat + 32) ∨ (d.isUpper = true ∧ c.toNat = d.toNat + 32)

instance (c d : Char) : Decidable (SameLetter c d) := inferInstanceAs (Decidable (_ ∨ _ ∨ _))

/-- Equal but for the case of letters. -/
def SameScheme (s t : String) : Prop := List.Forall₂ SameLetter s.toList t.toList

theorem isUpper_iff (c : Char) : c.isUpper = true ↔ 65 ≤ c.toNat ∧ c.toNat ≤ 90 :=
  decide_eq_true_iff

theorem toNat_toLower (c : Char) :
    c.toLower.toNat = if 65 ≤ c.toNat ∧ c.toNat ≤ 90 then c.toNat + 32 else c.toNat := by
  by_cases upper : 65 ≤ c.toNat ∧ c.toNat ≤ 90
  · have both : c.val ≥ 'A'.val ∧ c.val ≤ 'Z'.val := upper
    have lowers : c.toLower = ⟨c.val + 32, _⟩ := dif_pos both
    rw [if_pos upper, lowers]
    show (c.val + 32).toNat = c.val.toNat + 32
    have small : c.val.toNat ≤ 90 := upper.2
    rw [UInt32.toNat_add]
    exact Nat.mod_eq_of_lt (by simp; omega)
  · have neither : ¬ (c.val ≥ 'A'.val ∧ c.val ≤ 'Z'.val) := upper
    have stays : c.toLower = c := dif_neg neither
    rw [if_neg upper, stays]

theorem toLower_eq_iff {c d : Char} : c.toLower = d.toLower ↔ SameLetter c d := by
  rw [SameLetter, ← Char.toNat_inj, ← Char.toNat_inj, toNat_toLower, toNat_toLower, isUpper_iff,
    isUpper_iff]
  split <;> split <;> omega

theorem toLower_again (c : Char) : c.toLower.toLower = c.toLower := by
  rw [toLower_eq_iff, SameLetter, ← Char.toNat_inj, isUpper_iff, isUpper_iff, toNat_toLower]
  split <;> omega

theorem lowered_eq_iff {s t : String} : loweredScheme s = loweredScheme t ↔ SameScheme s t := by
  rw [loweredScheme, loweredScheme, String.ofList_inj, ← List.forall₂_eq_eq_eq,
    List.forall₂_map_left_iff, List.forall₂_map_right_iff, SameScheme]
  simp only [toLower_eq_iff]

instance (s t : String) : Decidable (SameScheme s t) := decidable_of_iff _ lowered_eq_iff

theorem lowered_again (s : String) : loweredScheme (loweredScheme s) = loweredScheme s := by
  rw [loweredScheme, loweredScheme, String.toList_ofList, List.map_map]
  simp only [Function.comp_def, toLower_again]

/-! ### The scheme of a URL -/

namespace Url

theorem scheme_lowered {cs rest : List Char} {scheme : String} (found : scheme? cs = some (scheme, rest)) :
    loweredScheme scheme = scheme := by
  rw [scheme?] at found
  split at found
  · split at found
    · cases found
      simpa only [loweredScheme, String.toList_ofList] using lowered_again (String.ofList _)
    · cases found
  · cases found

theorem scheme_of_parts {scheme : String} {cs marks : List Char} {u : Url}
    (read : ofParts scheme cs marks = .ok u) : u.scheme = scheme := by
  unfold ofParts at read
  cases place : readPlace scheme cs with
  | error flaw =>
    rw [place] at read
    cases read
  | ok found =>
    rw [place] at read
    simp only [bind, Except.bind] at read
    split at read <;> cases read <;> rfl

theorem scheme_of_text {text : String} {u : Url} (read : ofText text = .ok u) :
    loweredScheme u.scheme = u.scheme := by
  rw [ofText] at read
  split at read
  · rename_i scheme cs found
    rw [scheme_of_parts read]
    exact scheme_lowered found
  · cases read

end Url

/-! ### Histories -/

namespace Registry

variable {Ω ε : Type} {kind : String} {r : Registry Ω} {calls : List (String × Ω)}

/-- What a registry is asked. -/
inductive Request (Ω : Type)
  | register (scheme : String) (opener : Ω)
  | lookup (u : Url)
  | resolve (text : String)
  | schemes

/-- The registry after a request. A registration that is refused leaves it as it is, and so does every
question. -/
def serve (r : Registry Ω) : Request Ω → Registry Ω
  | .register scheme opener =>
    match r.register scheme opener with
    | .ok next => next
    | .error _ => r
  | _ => r

def Request.registration? : Request Ω → Option (String × Ω)
  | .register scheme opener => some (scheme, opener)
  | _ => none

/-- Everything that was to be registered, refused or not, in order. -/
def registrations (requests : List (Request Ω)) : List (String × Ω) :=
  requests.filterMap Request.registration?

/-- The registry holds the first call for each scheme, in lower case. -/
structure Holds (kind : String) (calls : List (String × Ω)) (r : Registry Ω) : Prop where
  kind_eq : r.kind = kind
  first : ∀ scheme, r.find? scheme =
    (calls.find? fun c => loweredScheme c.1 = scheme).map (·.2)
  distinct : (r.entries.map (·.1)).Nodup
  keys : ∀ scheme, scheme ∈ r.entries.map (·.1) ↔ ∃ c ∈ calls, loweredScheme c.1 = scheme

theorem holds_empty (kind : String) : Holds kind [] (empty kind : Registry Ω) := by
  refine ⟨rfl, fun _ => rfl, List.nodup_nil, fun scheme => ?_⟩
  simp [empty]

theorem Holds.found_iff (holds : Holds kind calls r) (scheme : String) :
    (r.find? scheme).isSome = true ↔ ∃ c ∈ calls, loweredScheme c.1 = scheme := by
  rw [holds.first, Option.isSome_map, List.find?_isSome]
  simp only [decide_eq_true_eq]

theorem Holds.refused (holds : Holds kind calls r) {scheme : String}
    (taken : ∃ c ∈ calls, SameScheme c.1 scheme) (opener : Ω) :
    r.register scheme opener = .error ⟨kind, loweredScheme scheme⟩ := by
  obtain ⟨c, earlier, same⟩ := taken
  have found := (holds.found_iff _).mpr ⟨c, earlier, lowered_eq_iff.mpr same⟩
  simp only [register, found, if_true, holds.kind_eq]

theorem Holds.admitted (holds : Holds kind calls r) {scheme : String}
    (free : ∀ c ∈ calls, ¬ SameScheme c.1 scheme) (opener : Ω) :
    r.register scheme opener =
      .ok { r with entries := r.entries ++ [(loweredScheme scheme, opener)] } := by
  have absent : ¬ (r.find? (loweredScheme scheme)).isSome = true := by
    rw [holds.found_iff]
    rintro ⟨c, earlier, same⟩
    exact free c earlier (lowered_eq_iff.mp same)
  simp only [register, absent]
  rfl

/-- A later call for a scheme that was asked for before is never the first one. -/
theorem find_again {scheme : String} (taken : ∃ c ∈ calls, SameScheme c.1 scheme) (opener : Ω)
    (wanted : String) : (calls ++ [(scheme, opener)]).find? (fun c => loweredScheme c.1 = wanted) =
      calls.find? fun c => loweredScheme c.1 = wanted := by
  rw [List.find?_append]
  by_cases this : loweredScheme scheme = wanted
  · obtain ⟨c, earlier, same⟩ := taken
    have found : (calls.find? fun c => loweredScheme c.1 = wanted).isSome = true :=
      List.find?_isSome.mpr ⟨c, earlier, decide_eq_true ((lowered_eq_iff.mpr same).trans this)⟩
    exact Option.or_of_isSome found
  · simp [this]

theorem Holds.register (holds : Holds kind calls r) (scheme : String) (opener : Ω) :
    Holds kind (calls ++ [(scheme, opener)]) (r.serve (.register scheme opener)) := by
  by_cases taken : ∃ c ∈ calls, SameScheme c.1 scheme
  · have same : r.serve (.register scheme opener) = r := by rw [serve, holds.refused taken]
    rw [same]
    refine ⟨holds.kind_eq, fun wanted => ?_, holds.distinct, fun wanted => ?_⟩
    · rw [find_again taken, holds.first]
    · rw [holds.keys]
      constructor
      · exact fun ⟨c, earlier, is⟩ => ⟨c, List.mem_append_left _ earlier, is⟩
      · rintro ⟨c, member, is⟩
        rcases List.mem_append.mp member with earlier | last
        · exact ⟨c, earlier, is⟩
        · obtain ⟨d, earlier, same⟩ := taken
          rw [List.mem_singleton.mp last] at is
          exact ⟨d, earlier, (lowered_eq_iff.mpr same).trans is⟩
  · have free : ∀ c ∈ calls, ¬ SameScheme c.1 scheme := fun c earlier same => taken ⟨c, earlier, same⟩
    have next : r.serve (.register scheme opener) =
        { r with entries := r.entries ++ [(loweredScheme scheme, opener)] } := by
      rw [serve, holds.admitted free]
    rw [next]
    refine ⟨holds.kind_eq, fun wanted => ?_, ?_, fun wanted => ?_⟩
    · have before := holds.first wanted
      simp only [find?] at before ⊢
      rw [List.find?_append, List.find?_append, Option.map_or, Option.map_or, before]
      by_cases this : loweredScheme scheme = wanted <;> simp [this]
    · rw [List.map_append, List.nodup_append]
      refine ⟨holds.distinct, List.nodup_singleton _, ?_⟩
      intro key old new is same
      rw [List.mem_singleton.mp is] at same
      obtain ⟨c, earlier, lowered⟩ := (holds.keys key).mp old
      exact free c earlier (lowered_eq_iff.mp (lowered.trans same))
    · rw [List.map_append, List.mem_append, holds.keys]
      simp [List.mem_append, or_and_right, exists_or, eq_comm]

/-- After any requests the registry holds what was registered. -/
theorem holds_after (kind : String) (requests : List (Request Ω)) :
    Holds kind (registrations requests) (requests.foldl serve (empty kind)) := by
  induction requests using List.reverseRecOn with
  | nil => exact holds_empty kind
  | append_singleton requests request before =>
    rw [List.foldl_append, registrations, List.filterMap_append]
    have asked : Holds kind (registrations requests ++ []) (requests.foldl serve (empty kind)) := by
      rwa [List.append_nil]
    cases request with
    | register scheme opener => exact before.register scheme opener
    | lookup _ => exact asked
    | resolve _ => exact asked
    | schemes => exact asked

theorem Holds.lookup_eq (holds : Holds kind calls r) {u : Url}
    (lowered : loweredScheme u.scheme = u.scheme) :
    r.lookup u = (match calls.find? fun c => SameScheme c.1 u.scheme with
      | some c => .ok c.2
      | none => .error (.noProvider kind u.scheme) : Except (Fault ε) Ω) := by
  have same : (fun c : String × Ω => decide (loweredScheme c.1 = u.scheme)) =
      fun c => decide (SameScheme c.1 u.scheme) := by
    funext c
    rw [decide_eq_decide, ← lowered_eq_iff, lowered]
  rw [lookup, holds.first, same, holds.kind_eq]
  cases calls.find? fun c => SameScheme c.1 u.scheme <;> rfl

/-- Who was found first is found for ever. -/
theorem find_kept {p : String × Ω → Bool} {c : String × Ω} (found : calls.find? p = some c)
    (later : List (String × Ω)) : (calls ++ later).find? p = some c := by
  rw [List.find?_append, found, Option.some_or]

theorem Holds.schemes_increase (holds : Holds kind calls r) : r.schemes.Pairwise (· < ·) := by
  have ordered : r.schemes.Pairwise (· ≤ ·) := by
    refine (List.pairwise_mergeSort ?_ ?_ _).imp of_decide_eq_true
    · intro a b c first second
      exact decide_eq_true (String.le_trans (of_decide_eq_true first) (of_decide_eq_true second))
    · intro a b
      simpa using String.le_total a b
  have distinct : r.schemes.Nodup := (List.mergeSort_perm _ _).nodup_iff.mpr holds.distinct
  exact ordered.imp₂ (fun _ _ le ne => lt_of_le_of_ne le ne) distinct

theorem Holds.mem_schemes (holds : Holds kind calls r) (scheme : String) :
    scheme ∈ r.schemes ↔ ∃ c ∈ calls, loweredScheme c.1 = scheme := by
  rw [schemes, List.mem_mergeSort, holds.keys]

/-- After any requests, refused registrations among them: a registration is refused exactly if an earlier
call named the same scheme, and then changes nothing; what is found for a URL that was read is the opener
of the first call that named its scheme, and stays so, and if there is none that is told; and the listed
schemes are those of all calls, in lower case, each once and in order. -/
theorem first_registration_wins (kind : String) (requests : List (Request Ω)) :
    let r := requests.foldl serve (empty kind)
    let calls := registrations requests
    (∀ (scheme : String) (opener : Ω),
      ((∃ taken, r.register scheme opener = .error taken) ↔ ∃ c ∈ calls, SameScheme c.1 scheme) ∧
      ∀ taken, r.register scheme opener = .error taken →
        taken = ⟨kind, loweredScheme scheme⟩ ∧ r.serve (.register scheme opener) = r) ∧
    (∀ (text : String) (u : Url), Url.ofText text = .ok u →
      r.resolve text = ((r.lookup u).map fun o => (o, u) : Except (Fault ε) (Ω × Url)) ∧
      r.lookup u = (match calls.find? fun c => SameScheme c.1 u.scheme with
        | some c => .ok c.2
        | none => .error (.noProvider kind u.scheme) : Except (Fault ε) Ω) ∧
      ∀ (later : List (Request Ω)) (opener : Ω), r.lookup u = (.ok opener : Except (Fault ε) Ω) →
        (later.foldl serve r).lookup u = (.ok opener : Except (Fault ε) Ω)) ∧
    r.schemes.Pairwise (· < ·) ∧
    ∀ scheme, scheme ∈ r.schemes ↔ ∃ c ∈ calls, loweredScheme c.1 = scheme := by
  intro r calls
  have holds : Holds kind calls r := holds_after kind requests
  refine ⟨fun scheme opener => ?_, fun text u read => ?_, holds.schemes_increase, holds.mem_schemes⟩
  · by_cases earlier : ∃ c ∈ calls, SameScheme c.1 scheme
    · have refused := holds.refused earlier opener
      refine ⟨⟨fun _ => earlier, fun _ => ⟨_, refused⟩⟩, fun taken again => ⟨?_, ?_⟩⟩
      · rw [refused] at again
        exact (Except.error.inj again).symm
      · rw [serve, refused]
    · have admitted := holds.admitted (fun c member same => earlier ⟨c, member, same⟩) opener
      rw [admitted]
      exact ⟨⟨nofun, fun named => absurd named earlier⟩, nofun⟩
  · have lowered := Url.scheme_of_text read
    refine ⟨by rw [resolve, read], holds.lookup_eq lowered, fun later opener found => ?_⟩
    have after : Holds kind (calls ++ registrations later) (later.foldl serve r) := by
      have all := holds_after kind (requests ++ later)
      rwa [List.foldl_append, registrations, List.filterMap_append] at all
    rw [holds.lookup_eq lowered] at found
    rw [after.lookup_eq lowered]
    cases first : calls.find? fun c => SameScheme c.1 u.scheme with
    | none =>
      rw [first] at found
      cases found
    | some c =>
      rw [first] at found
      rw [find_kept first]
      exact found

/-- One scheme named three times, with questions in between: the first opener is found however the URL
is written, and the names that came later are refused. -/
theorem first_registration_wins_three_names :
    let requests : List (Request Nat) := [.register "Zeta" 1, .register "mEm" 2, .schemes,
      .resolve "zeta://a", .register "MEM" 3]
    let r := requests.foldl serve (empty "Topic")
    let u : Url := ⟨"mem", some ⟨"", "", "orders", none⟩, .divided [], none, none⟩
    Url.ofText "MeM://orders" = .ok u ∧
    r.register "meM" 4 = .error ⟨"Topic", "mem"⟩ ∧ r.serve (.register "meM" 4) = r ∧
    r.resolve "MeM://orders" = (.ok (2, u) : Except (Fault Empty) (Nat × Url)) ∧
    ([Request.register "mem" 5].foldl serve r).lookup u = (.ok 2 : Except (Fault Empty) Nat) ∧
    "zeta" ∈ r.schemes := by
  intro requests r u
  have read : Url.ofText "MeM://orders" = .ok u := rfl
  have calls : registrations requests = [("Zeta", 1), ("mEm", 2), ("MEM", 3)] := rfl
  have first : (registrations requests).find? (fun c => SameScheme c.1 u.scheme) =
      some ("mEm", 2) := by
    rw [calls]
    decide +kernel
  obtain ⟨refusals, answers, _, listed⟩ := first_registration_wins (ε := Empty) "Topic" requests
  obtain ⟨refused_iff, refusal⟩ := refusals "meM" 4
  obtain ⟨taken, refused⟩ := refused_iff.mpr
    ⟨("mEm", 2), by rw [calls]; decide, lowered_eq_iff.mp (by decide +kernel)⟩
  obtain ⟨same, unchanged⟩ := refusal taken refused
  have lowered : loweredScheme "meM" = "mem" := by decide +kernel
  rw [lowered] at same
  subst same
  obtain ⟨resolved, found, kept⟩ := answers "MeM://orders" u read
  rw [first] at found
  refine ⟨read, refused, unchanged, ?_, kept _ 2 found, ?_⟩
  · rw [resolved, found]
    rfl
  · exact (listed "zeta").mpr ⟨("Zeta", 1), by rw [calls]; decide, by decide +kernel⟩

end Registry

end Courier
