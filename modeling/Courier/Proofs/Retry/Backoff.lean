import Courier.Proofs.Binary64.Power
import Courier.Proofs.Duration
import Courier.Proofs.Retry.Moves
import Courier.Proofs.Settings.Rules

/-! The pauses of validated settings. Growth may overflow and may lead to no number at all, but the cap is
applied before anything that could break off: what is capped lies between zero and the cap, the range
of the random part lies between as much below and as much above, and what becomes the pause is far from
the longest duration. The random part is applied after the cap, so a pause can be longer than the cap by
its share, and by no more. -/

namespace Courier.Retry

/-- What a draw from the range can give. Nothing is drawn for an exact pause, and a range that is
undefined gives nothing. -/
inductive Spread.Gives : Spread → Binary64 → Prop
  | exact (jitter : Binary64) : Gives .exact jitter
  | within {reach jitter : Binary64} (above : (-reach).le jitter = true)
      (below : jitter.le reach = true) : Gives (.within reach) jitter

instance (spread : Spread) (jitter : Binary64) : Decidable (spread.Gives jitter) :=
  match spread with
  | .exact => .isTrue (.exact jitter)
  | .within reach =>
    decidable_of_iff ((-reach).le jitter = true ∧ jitter.le reach = true)
      ⟨fun ⟨above, below⟩ => .within above below, fun | .within above below => ⟨above, below⟩⟩
  | .undefined => .isFalse nofun

/-- A run admits what a draw can give, from a range that is there. -/
theorem gives_iff {spread : Spread} {jitter : Binary64} :
    spread.Gives jitter ↔ spread ≠ .undefined ∧ spread.admits jitter = true := by
  cases spread with
  | exact => exact ⟨fun _ => ⟨nofun, rfl⟩, fun _ => .exact jitter⟩
  | within reach =>
    rw [Spread.admits, Bool.and_eq_true]
    constructor
    · intro given
      cases given with
      | within above below => exact ⟨nofun, above, below⟩
    · rintro ⟨_, above, below⟩
      exact .within above below
  | undefined => exact ⟨nofun, fun ⟨there, _⟩ => absurd rfl there⟩

namespace Policy

/-- The number of seconds that becomes the pause. -/
def pauseSecs (p : Policy) (attempt : Nat) (jitter : Binary64) : Binary64 :=
  match p.spread attempt with
  | .exact => p.cappedSecs attempt
  | .within _ => (p.cappedSecs attempt + jitter).max 0
  | .undefined => .nan

/-- The longest that a pause can become, in seconds: the cap and the random part of it. -/
def longestSecs (p : Policy) : Binary64 := p.maxDelay.toSecs + p.maxDelay.toSecs * p.jitterPercent

/-- What the rules of validated settings come to for the policy. -/
structure Tame (p : Policy) (w : Nat) : Prop where
  growth : p.multiplier.NotNegative
  share : p.jitterPercent.place? = some (w : Int)
  low : w ≤ unitsPerOne
  exact : p.useJitter = false → w = 0
  cap : p.maxDelay.units ≤ twoTo 56 * unitsPerOne

variable {p : Policy} {attempt w c r : Nat} {jitter : Binary64}

theorem pause_eq (p : Policy) (attempt : Nat) (jitter : Binary64) :
    p.pause? attempt jitter = Duration.ofSecs? (p.pauseSecs attempt jitter) := by
  rw [pause?, pauseSecs]
  cases p.spread attempt with
  | exact => exact rfl
  | within reach => exact rfl
  | undefined => exact rfl

theorem capped_place (growth : p.multiplier.NotNegative) (attempt : Nat) :
    ∃ c : Nat, (p.cappedSecs attempt).place? = some (c : Int) ∧ c ≤ p.maxDelay.units := by
  have cap := p.maxDelay.toSecs_place
  have grown := Binary64.mul_notNegative (.inr ⟨_, p.initialDelay.toSecs_place⟩)
    (Binary64.pow_notNegative growth (Nat.min attempt (twoTo 31 - 1)))
  rw [cappedSecs]
  rcases grown with nothing | ⟨b, place⟩
  · -- zero times infinity, or a factor that is no number: the cap is what is left
    rw [nothing, Binary64.nan_min]
    exact ⟨_, cap, Nat.le_refl _⟩
  · exact ⟨_, Binary64.min_place place cap, Nat.min_le_right _ _⟩

theorem reach_place (capped : (p.cappedSecs attempt).place? = some (c : Int)) (below : c < overflow)
    (share : p.jitterPercent.place? = some (w : Int)) (low : w ≤ unitsPerOne) :
    (p.cappedSecs attempt * p.jitterPercent).place? =
      some (roundedUnits (c * w) unitsPerOne : Int) :=
  Binary64.mul_place capped share below (Nat.lt_of_le_of_lt low one_lt_overflow)

/-- No range at all, or one of finite ends, as far below as above. -/
theorem spread_cases (capped : (p.cappedSecs attempt).place? = some (c : Int)) (below : c < overflow)
    (share : p.jitterPercent.place? = some (w : Int)) (low : w ≤ unitsPerOne) :
    (p.spread attempt = .exact ∧
      (p.useJitter = false ∨ roundedUnits (c * w) unitsPerOne = 0)) ∨
    ∃ reach, p.spread attempt = .within reach ∧
      reach.place? = some (roundedUnits (c * w) unitsPerOne : Int) ∧
      0 < roundedUnits (c * w) unitsPerOne := by
  have place := reach_place capped below share low
  have inside : roundedUnits (c * w) unitsPerOne < overflow :=
    Nat.lt_of_le_of_lt (rounded_share_le (Binary64.place_onGrid capped).1 low) below
  have finite : (p.cappedSecs attempt * p.jitterPercent).isFinite = true :=
    Binary64.isFinite_of_place place (by rwa [Int.natAbs_natCast])
  have empty := Binary64.le_eq place Binary64.zero_place
  rw [spread]
  cases random : p.useJitter with
  | false => exact .inl ⟨rfl, .inl rfl⟩
  | true =>
    dsimp only
    rw [if_pos rfl, empty, finite, if_pos rfl]
    by_cases nothing : roundedUnits (c * w) unitsPerOne = 0
    · rw [nothing]
      exact .inl ⟨rfl, .inr rfl⟩
    · rw [if_neg (by rw [decide_eq_true_iff]; omega)]
      exact .inr ⟨_, rfl, place, Nat.pos_of_ne_zero nothing⟩

theorem longest_place (tame : p.Tame w) :
    p.longestSecs.place? = some (roundedUnits
      (p.maxDelay.units + roundedUnits (p.maxDelay.units * w) unitsPerOne) 1 : Int) := by
  have cap := p.maxDelay.toSecs_place
  have inside := p.maxDelay.units_lt_overflow
  have extra := Binary64.mul_place cap tame.share inside (Nat.lt_of_le_of_lt tame.low one_lt_overflow)
  refine Binary64.add_place cap extra ?_ ?_ (Int.natCast_add _ _).symm
  · rwa [Int.natAbs_natCast]
  · rw [Int.natAbs_natCast]
    exact Nat.lt_of_le_of_lt (rounded_share_le (Binary64.place_onGrid cap).1 tame.low) inside

/-- What becomes the pause lies between zero and what is capped with its random part, and is not above
what is capped unless the part drawn is positive. -/
theorem secs_place (capped : (p.cappedSecs attempt).place? = some (c : Int)) (below : c < overflow)
    (share : p.jitterPercent.place? = some (w : Int)) (low : w ≤ unitsPerOne)
    (given : (p.spread attempt).Gives jitter) :
    ∃ n : Nat, (p.pauseSecs attempt jitter).place? = some (n : Int) ∧
      n ≤ roundedUnits (c + roundedUnits (c * w) unitsPerOne) 1 ∧
      (p.spread attempt = .exact ∨ jitter.le 0 = true → n ≤ c) ∧
      (∀ r : Nat, p.spread attempt ≠ .exact → jitter.place? = some (r : Int) →
        n = roundedUnits (c + r) 1) := by
  have onGrid := (Binary64.place_onGrid capped).1
  have reachLe : roundedUnits (c * w) unitsPerOne ≤ c := rounded_share_le onGrid low
  rw [pauseSecs]
  rcases spread_cases capped below share low with ⟨exact, _⟩ | ⟨reach, within, place, _⟩
  · rw [exact]
    refine ⟨c, capped, ?_, fun _ => Nat.le_refl c, fun _ other => absurd rfl other⟩
    exact le_roundedUnits onGrid (Nat.le_of_lt below) Nat.one_pos (by omega)
  · rw [within] at given ⊢
    obtain _ | ⟨fromBelow, fromAbove⟩ := given
    obtain ⟨low', z, lowPlace, drawn, above⟩ := Binary64.places_of_le fromBelow
    obtain ⟨z', high', drawn', highPlace, most⟩ := Binary64.places_of_le fromAbove
    rw [Binary64.neg_place place] at lowPlace
    rw [place] at highPlace
    rw [drawn] at drawn'
    cases lowPlace
    cases highPlace
    cases drawn'
    generalize reachUnits : roundedUnits (c * w) unitsPerOne = r at *
    obtain ⟨n, sum⟩ := Int.eq_ofNat_of_zero_le (a := c + z) (by omega)
    have added : (p.cappedSecs attempt + jitter).place? = some (roundedUnits n 1 : Int) := by
      refine Binary64.add_place capped drawn ?_ ?_ sum
      · rwa [Int.natAbs_natCast]
      · omega
    dsimp only
    rw [Binary64.max_zero added]
    refine ⟨_, added, rounded_sum_mono (by omega), ?_, ?_⟩
    · rintro (exact | negative)
      · cases exact
      · rw [Binary64.le_eq drawn Binary64.zero_place, decide_eq_true_iff] at negative
        exact roundedUnits_le onGrid (by omega)
    · intro k _ same
      rw [drawn, Option.some.injEq] at same
      have sum' : n = c + k := by omega
      rw [sum']

theorem Tame.capped (tame : p.Tame w) (attempt : Nat) :
    ∃ c : Nat, (p.cappedSecs attempt).place? = some (c : Int) ∧ c ≤ p.maxDelay.units ∧
      c < overflow := by
  obtain ⟨c, capped, atMost⟩ := capped_place tame.growth attempt
  exact ⟨c, capped, atMost, Nat.lt_of_le_of_lt atMost p.maxDelay.units_lt_overflow⟩

theorem twice_le {a b : Nat} (left : a ≤ twoTo 56 * unitsPerOne) (right : b ≤ twoTo 56 * unitsPerOne) :
    roundedUnits (a + b) 1 ≤ twoTo 57 * unitsPerOne := by
  have sum := rounded_sum_le left right
  rwa [show (56 + 1 : Nat) = 57 from rfl] at sum

theorem longest_le (tame : p.Tame w) :
    roundedUnits (p.maxDelay.units + roundedUnits (p.maxDelay.units * w) unitsPerOne) 1 ≤
      twoTo 57 * unitsPerOne := by
  have share : roundedUnits (p.maxDelay.units * w) unitsPerOne ≤ p.maxDelay.units :=
    rounded_share_le (Binary64.place_onGrid p.maxDelay.toSecs_place).1 tame.low
  exact twice_le tame.cap (Nat.le_trans share tame.cap)

/-- Once the growth has reached the cap, the random part can add its whole share to it. -/
theorem longest_reached (tame : p.Tame w)
    (reached : p.maxDelay.toSecs.le (p.cappedSecs attempt) = true) :
    ∃ jitter, (p.spread attempt).Gives jitter ∧
      p.pause? attempt jitter = Duration.ofSecs? p.longestSecs := by
  obtain ⟨c, capped, atMost, below⟩ := tame.capped attempt
  rw [Binary64.le_eq p.maxDelay.toSecs_place capped, decide_eq_true_iff] at reached
  obtain rfl : c = p.maxDelay.units := by omega
  have top := longest_place tame
  have topInside := Nat.lt_of_le_of_lt (longest_le tame) (ones_lt_overflow (Nat.le_refl _) (by omega))
  have onGrid := (Binary64.place_onGrid capped).1
  rcases spread_cases capped below tame.share tame.low with ⟨exact, none⟩ | ⟨reach, within, place, _⟩
  · have nothing : roundedUnits (p.maxDelay.units * w) unitsPerOne = 0 := by
      rcases none with off | nothing
      · rw [tame.exact off, Nat.mul_zero, roundedUnits_zero]
      · exact nothing
    rw [nothing, Nat.add_zero, roundedUnits_onGrid onGrid (Nat.le_of_lt below)] at top
    refine ⟨0, ?_, ?_⟩
    · rw [exact]
      exact .exact 0
    · rw [pause_eq, pauseSecs, exact, Duration.ofSecs_place top below]
      exact Duration.ofSecs_place capped below
  · have given : (p.spread attempt).Gives reach := by
      rw [within]
      refine .within ?_ ?_
      · rw [Binary64.le_eq (Binary64.neg_place place) place]
        exact decide_eq_true (by omega)
      · rw [Binary64.le_eq place place]
        exact decide_eq_true (by omega)
    obtain ⟨n, added, _, _, whole⟩ := secs_place capped below tame.share tame.low given
    rw [whole _ (by rw [within]; nofun) place] at added
    refine ⟨reach, given, ?_⟩
    rw [pause_eq, Duration.ofSecs_place added topInside, Duration.ofSecs_place top topInside]

theorem Tame.spread_defined (tame : p.Tame w) (attempt : Nat) : p.spread attempt ≠ .undefined := by
  obtain ⟨c, capped, _, below⟩ := tame.capped attempt
  rcases spread_cases capped below tame.share tame.low with ⟨exact, _⟩ | ⟨_, within, _⟩
  · rw [exact]
    nofun
  · rw [within]
    nofun

/-- The ends of the range, and what lies between them, are numbers. -/
theorem Tame.reach_drawable {reach : Binary64} (tame : p.Tame w)
    (within : p.spread attempt = .within reach) :
    Binary64.lt 0 reach = true ∧ reach.isFinite = true ∧ (-reach).le reach = true ∧
      (reach - -reach).isFinite = true := by
  obtain ⟨c, capped, atMost, below⟩ := tame.capped attempt
  rcases spread_cases capped below tame.share tame.low with
    ⟨exact, _⟩ | ⟨reach', within', place, positive⟩
  · rw [exact] at within
    cases within
  rw [within] at within'
  cases within'
  have share : roundedUnits (c * w) unitsPerOne ≤ c :=
    rounded_share_le (Binary64.place_onGrid capped).1 tame.low
  generalize roundedUnits (c * w) unitsPerOne = r at place positive share
  have inside : r < overflow := Nat.lt_of_le_of_lt share below
  have small : r ≤ twoTo 56 * unitsPerOne := Nat.le_trans share (Nat.le_trans atMost tame.cap)
  have width : roundedUnits (r + r) 1 < overflow :=
    Nat.lt_of_le_of_lt (twice_le small small) (ones_lt_overflow (Nat.le_refl _) (by omega))
  have minus := Binary64.neg_place place
  have between : (reach - -reach).place? = some (roundedUnits (r + r) 1 : Int) := by
    refine Binary64.add_place place (Binary64.neg_place minus) ?_ ?_ ?_ <;> omega
  refine ⟨?_, ?_, ?_, ?_⟩
  · rw [Binary64.lt_eq Binary64.zero_place place]
    exact decide_eq_true (Int.ofNat_lt.mpr positive)
  · exact Binary64.isFinite_of_place place (by omega)
  · rw [Binary64.le_eq minus place]
    exact decide_eq_true (by omega)
  · exact Binary64.isFinite_of_place between (by omega)

theorem Tame.secs_small (tame : p.Tame w) (given : (p.spread attempt).Gives jitter) :
    ∃ n : Nat, (p.pauseSecs attempt jitter).place? = some (n : Int) ∧ n ≤ twoTo 57 * unitsPerOne := by
  obtain ⟨c, capped, atMost, below⟩ := tame.capped attempt
  have small : c ≤ twoTo 56 * unitsPerOne := Nat.le_trans atMost tame.cap
  have share : roundedUnits (c * w) unitsPerOne ≤ c :=
    rounded_share_le (Binary64.place_onGrid capped).1 tame.low
  obtain ⟨n, place, lifted, _⟩ := secs_place capped below tame.share tame.low given
  exact ⟨n, place, Nat.le_trans lifted (twice_le small (Nat.le_trans share small))⟩

theorem Tame.pause_le_longest {longest : Duration} (tame : p.Tame w)
    (given : (p.spread attempt).Gives jitter)
    (isLongest : Duration.ofSecs? p.longestSecs = some longest) :
    ∃ pause, p.pause? attempt jitter = some pause ∧ pause.nanos ≤ longest.nanos := by
  obtain ⟨c, capped, atMost, below⟩ := tame.capped attempt
  obtain ⟨n, place, lifted, _⟩ := secs_place capped below tame.share tame.low given
  have topInside := Nat.lt_of_le_of_lt (longest_le tame) (ones_lt_overflow (Nat.le_refl _) (by omega))
  have part := rounded_product_mono (w := w) atMost
  have range : n ≤ roundedUnits
      (p.maxDelay.units + roundedUnits (p.maxDelay.units * w) unitsPerOne) 1 :=
    Nat.le_trans lifted (rounded_sum_mono (Nat.add_le_add atMost part))
  rw [pause_eq]
  exact Duration.ofSecs_mono place (longest_place tame) range topInside isLongest

theorem Tame.pause_le_most {most : Duration} (tame : p.Tame w)
    (given : (p.spread attempt).Gives jitter) (isMost : Duration.ofSecs? p.maxDelay.toSecs = some most)
    (unlifted : p.spread attempt = .exact ∨ jitter.le 0 = true) :
    ∃ pause, p.pause? attempt jitter = some pause ∧ pause.nanos ≤ most.nanos := by
  obtain ⟨c, capped, atMost, below⟩ := tame.capped attempt
  obtain ⟨n, place, _, lowered, _⟩ := secs_place capped below tame.share tame.low given
  rw [pause_eq]
  exact Duration.ofSecs_mono place p.maxDelay.toSecs_place (Nat.le_trans (lowered unlifted) atMost)
    p.maxDelay.units_lt_overflow isMost

theorem Tame.limits (tame : p.Tame w) :
    ∃ most longest, Duration.ofSecs? p.maxDelay.toSecs = some most ∧
      Duration.ofSecs? p.longestSecs = some longest ∧ most.nanos ≤ longest.nanos := by
  have top := longest_place tame
  have topLe := longest_le tame
  have cap := p.maxDelay.toSecs_place
  obtain ⟨longest, isLongest⟩ := Duration.ofSecs_some top (by omega) topLe
  obtain ⟨most, isMost, atMost⟩ := Duration.ofSecs_mono cap top
    (le_roundedUnits (Binary64.place_onGrid cap).1 (Nat.le_of_lt p.maxDelay.units_lt_overflow)
      Nat.one_pos (by omega))
    (Nat.lt_of_le_of_lt topLe (ones_lt_overflow (Nat.le_refl _) (by omega))) isLongest
  exact ⟨most, longest, isMost, isLongest, atMost⟩

end Policy

/-! ### Validated settings -/

variable {ε : Type} {s : Settings}

open Settings (valid_iff)

theorem rules_of_valid (accepted : s.validate = (.ok () : Except (Fault ε) Unit)) :
    s.retry.multiplier.lt 1 = false ∧ Binary64.le 0 s.retry.jitterPercent = true ∧
    s.retry.jitterPercent.le 1 = true := by
  obtain ⟨sound, factor⟩ := Settings.flawless_iff.mp (valid_iff.mp accepted)
  have share := Settings.share_iff.mpr sound.share
  rw [Bool.and_eq_true] at share
  refine ⟨eq_false_of_ne_true fun below => ?_, share⟩
  exact Settings.not_below.mpr factor ((Settings.lt_iff_left Binary64.one_place).mp below)

theorem policy_fields (r : RetrySettings) :
    r.policy.maxDelay = .ofMillis r.maxDelayMs ∧ r.policy.multiplier = r.multiplier ∧
    r.policy.jitterPercent = r.jitterPercent.clamp 0 1 ∧
    (r.policy.useJitter = false ↔ r.jitterPercent.same 0 = true) := by
  rw [RetrySettings.policy]
  split
  · rename_i zero
    exact ⟨rfl, rfl, rfl, fun _ => zero, fun _ => rfl⟩
  · rename_i some
    exact ⟨rfl, rfl, rfl, nofun, fun zero => absurd zero some⟩

theorem clamp_eq {x : Binary64} {w : Nat} (place : x.place? = some (w : Int))
    (low : w ≤ unitsPerOne) : x.clamp 0 1 = x := by
  rw [Binary64.clamp, Binary64.lt_eq place Binary64.zero_place,
    Binary64.lt_eq Binary64.one_place place]
  simp only [decide_eq_true_iff]
  rw [if_neg (by omega), if_neg (by omega)]

theorem ofMillis_le (n : UInt64) :
    (Duration.ofMillis n).nanos ≤ twoTo 55 * Duration.nanosPerSec := by
  have count : n.toNat < UInt64.size := n.toNat_lt
  have few : UInt64.size * Duration.nanosPerMilli ≤ twoTo 55 * Duration.nanosPerSec := by decide
  exact Nat.le_trans (Nat.mul_le_mul_right _ (Nat.le_of_lt count)) few

theorem tame_of_valid (accepted : s.validate = (.ok () : Except (Fault ε) Unit)) :
    s.retry.policy.jitterPercent = s.retry.jitterPercent ∧ ∃ w, s.retry.policy.Tame w := by
  obtain ⟨grows, low, high⟩ := rules_of_valid accepted
  obtain ⟨maxDelay, multiplier, percent, unused⟩ := policy_fields s.retry
  obtain ⟨w, place, atMostOne⟩ := Binary64.place_of_share low high
  rw [clamp_eq place atMostOne] at percent
  refine ⟨percent, w, ?_, ?_, atMostOne, ?_, ?_⟩
  · rw [multiplier]
    cases number : s.retry.multiplier.place? with
    | none =>
      left
      cases same : s.retry.multiplier with
      | nan => rfl
      | infinite negative => rw [same] at number; cases number
      | finite negative m => rw [same] at number; cases number
    | some a =>
      right
      rw [Binary64.lt_eq number Binary64.one_place, decide_eq_false_iff_not] at grows
      obtain ⟨n, rfl⟩ := Int.eq_ofNat_of_zero_le (a := a) (by omega)
      exact ⟨n, number⟩
  · rw [percent]
    exact place
  · intro off
    have same := unused.mp off
    rw [Binary64.same, Binary64.le_eq place Binary64.zero_place, Bool.and_eq_true,
      decide_eq_true_iff] at same
    omega
  · have cap := Duration.units_le (ofMillis_le s.retry.maxDelayMs)
    rwa [show (55 + 1 : Nat) = 56 from rfl, ← maxDelay] at cap

/-- Under validated settings no retried call breaks over the pause before a retry. -/
theorem never_stuck (accepted : s.validate = (.ok () : Except (Fault ε) Unit)) (retries : Nat) :
    ¬ s.retry.policy.Stuck retries := by
  rintro ⟨_, jitter, admitted, pauseless⟩
  obtain ⟨_, w, tame⟩ := tame_of_valid accepted
  have given := gives_iff.mpr ⟨tame.spread_defined retries, admitted⟩
  obtain ⟨n, place, small⟩ := tame.secs_small given
  obtain ⟨pause, lasts⟩ := Duration.ofSecs_some place (by omega) small
  rw [Policy.pause_eq, lasts] at pauseless
  cases pauseless

/-- No pause of validated settings breaks off, whatever the factor is: infinity and what is not a number
pass the rules. For every attempt the range of the random part exists, and is empty or has two finite
ends in order, no further apart than numbers go; and for whatever is drawn from it, what becomes the
pause is a number from zero up to less than 2^64 seconds, and there is a pause of that length. -/
theorem pause_always_exists (accepted : s.validate = (.ok () : Except (Fault ε) Unit))
    (attempt : Nat) :
    s.retry.policy.spread attempt ≠ .undefined ∧
    (∀ reach, s.retry.policy.spread attempt = .within reach →
      Binary64.lt 0 reach = true ∧ reach.isFinite = true ∧ (-reach).le reach = true ∧
      (reach - -reach).isFinite = true) ∧
    ∀ jitter, (s.retry.policy.spread attempt).Gives jitter →
      Binary64.le 0 (s.retry.policy.pauseSecs attempt jitter) = true ∧
      (s.retry.policy.pauseSecs attempt jitter).lt (Binary64.ofNat (twoTo 64)) = true ∧
      s.retry.policy.pause? attempt jitter =
        Duration.ofSecs? (s.retry.policy.pauseSecs attempt jitter) ∧
      ∃ pause, s.retry.policy.pause? attempt jitter = some pause := by
  obtain ⟨_, w, tame⟩ := tame_of_valid accepted
  refine ⟨tame.spread_defined attempt, fun _ within => tame.reach_drawable within, ?_⟩
  intro jitter given
  obtain ⟨n, place, small⟩ := tame.secs_small given
  have less : n < twoTo 64 * unitsPerOne := Nat.lt_of_le_of_lt small
    (Nat.mul_lt_mul_of_pos_right (twoTo_lt_twoTo (by omega)) unitsPerOne_pos)
  refine ⟨?_, ?_, Policy.pause_eq _ _ _, ?_⟩
  · rw [Binary64.le_eq Binary64.zero_place place]
    exact decide_eq_true (Int.ofNat_le.mpr (Nat.zero_le n))
  · rw [Binary64.lt_eq place (Binary64.ofNat_place _),
      roundedUnits_onGrid (onGrid_twoTo_ones 64)
        (Nat.le_of_lt (ones_lt_overflow (Nat.le_refl _) (by omega)))]
    exact decide_eq_true (Int.ofNat_lt.mpr less)
  · rw [Policy.pause_eq]
    exact Duration.ofSecs_some place (by omega) small

/-- An infinite factor on nothing at all, the longest cap there is, and all of it random. -/
def steepest : Settings :=
  { (default : Settings) with retry := ⟨0, 18446744073709551615, .infinite false, 1, none⟩ }

/-- At the last attempt the pause may be twice the cap. -/
theorem pause_always_exists_steepest :
    steepest.validate = (.ok () : Except (Fault Empty) Unit) ∧
    (steepest.retry.policy.spread 4294967295).Gives steepest.retry.policy.maxDelay.toSecs ∧
    ∃ pause, steepest.retry.policy.pause? 4294967295 steepest.retry.policy.maxDelay.toSecs =
      some pause := by
  have accepted : steepest.validate = (.ok () : Except (Fault Empty) Unit) :=
    valid_iff.mpr (by decide +kernel)
  have given : (steepest.retry.policy.spread 4294967295).Gives
      steepest.retry.policy.maxDelay.toSecs := by decide +kernel
  obtain ⟨_, _, pauses⟩ := pause_always_exists accepted 4294967295
  obtain ⟨_, _, _, exists_pause⟩ := pauses steepest.retry.policy.maxDelay.toSecs given
  exact ⟨accepted, given, exists_pause⟩

/-- A pause is bounded by the cap, as a number of seconds, and its random share of it. The part drawn
lifts it above the cap only where it is positive. The bound is exact: once the growth has reached the
cap, some draw makes a pause of just that length. -/
theorem pause_within_cap_and_share (accepted : s.validate = (.ok () : Except (Fault ε) Unit))
    (attempt : Nat) :
    let cap := (Duration.ofMillis s.retry.maxDelayMs).toSecs
    ∃ most longest, Duration.ofSecs? cap = some most ∧
      Duration.ofSecs? (cap + cap * s.retry.jitterPercent) = some longest ∧
      most.nanos ≤ longest.nanos ∧
      (∀ jitter, (s.retry.policy.spread attempt).Gives jitter →
        ∃ pause, s.retry.policy.pause? attempt jitter = some pause ∧ pause.nanos ≤ longest.nanos ∧
          (s.retry.jitterPercent.same 0 = true ∨ jitter.le 0 = true → pause.nanos ≤ most.nanos)) ∧
      (cap.le (s.retry.policy.cappedSecs attempt) = true →
        ∃ jitter, (s.retry.policy.spread attempt).Gives jitter ∧
          s.retry.policy.pause? attempt jitter = some longest) := by
  intro cap
  obtain ⟨share, w, tame⟩ := tame_of_valid accepted
  obtain ⟨maxDelay, _, _, unused⟩ := policy_fields s.retry
  have capIs : s.retry.policy.maxDelay.toSecs = cap := by rw [maxDelay]
  obtain ⟨most, longest, isMost, isLongest, atMost⟩ := tame.limits
  refine ⟨most, longest, capIs ▸ isMost, ?_, atMost, ?_, ?_⟩
  · rw [← capIs, ← share]
    exact isLongest
  · intro jitter given
    obtain ⟨pause, isPause, lower⟩ := tame.pause_le_longest given isLongest
    refine ⟨pause, isPause, lower, fun notAbove => ?_⟩
    have unlifted : s.retry.policy.spread attempt = .exact ∨ jitter.le 0 = true := by
      refine notAbove.imp_left fun unshared => ?_
      rw [Policy.spread, unused.mpr unshared]
      rfl
    obtain ⟨pause', isPause', lower'⟩ := tame.pause_le_most given isMost unlifted
    rw [isPause, Option.some.injEq] at isPause'
    rw [isPause']
    exact lower'
  · intro reached
    rw [← capIs] at reached
    obtain ⟨jitter, given, same⟩ := Policy.longest_reached tame reached
    exact ⟨jitter, given, same.trans isLongest⟩

/-- At the sixth attempt of the default settings the growth has reached the cap of thirty seconds, and
a quarter is added to it. -/
theorem pause_within_cap_and_share_default :
    (default : Settings).validate = (.ok () : Except (Fault Empty) Unit) ∧
    ((default : Settings).retry.policy.spread 5).Gives (Binary64.ofRatio false 15 2) ∧
    ∃ longest, Duration.ofSecs? (Binary64.ofRatio false 75 2) = some longest ∧
      longest.nanos = 37500000000 ∧
      ∀ jitter, ((default : Settings).retry.policy.spread 5).Gives jitter →
        ∃ pause, (default : Settings).retry.policy.pause? 5 jitter = some pause ∧
          pause.nanos ≤ longest.nanos := by
  have accepted : (default : Settings).validate = (.ok () : Except (Fault Empty) Unit) :=
    valid_iff.mpr (by decide +kernel)
  obtain ⟨most, longest, _, isLongest, _, bounded, _⟩ := pause_within_cap_and_share accepted 5
  have length : Duration.ofSecs? (Binary64.ofRatio false 75 2) =
      some ⟨37500000000, by decide⟩ := by decide +kernel
  have sum : (Duration.ofMillis (default : Settings).retry.maxDelayMs).toSecs +
      (Duration.ofMillis (default : Settings).retry.maxDelayMs).toSecs *
        (default : Settings).retry.jitterPercent = Binary64.ofRatio false 75 2 := by decide +kernel
  rw [sum] at isLongest
  refine ⟨accepted, by decide +kernel, longest, isLongest, ?_, fun jitter given => ?_⟩
  · rw [length, Option.some.injEq] at isLongest
    rw [← isLongest]
  · obtain ⟨pause, isPause, atMost, _⟩ := bounded jitter given
    exact ⟨pause, isPause, atMost⟩

/-- The cap does not bound every pause: here one of thirty-seven seconds and a half passes it. -/
theorem pause_beyond_cap :
    (default : Settings).validate = (.ok () : Except (Fault Empty) Unit) ∧
    ((default : Settings).retry.policy.spread 5).Gives (Binary64.ofRatio false 15 2) ∧
    ∃ most pause, Duration.ofSecs? (Duration.ofMillis (default : Settings).retry.maxDelayMs).toSecs =
        some most ∧
      (default : Settings).retry.policy.pause? 5 (Binary64.ofRatio false 15 2) = some pause ∧
      most.nanos = 30000000000 ∧ pause.nanos = 37500000000 := by
  refine ⟨valid_iff.mpr (by decide +kernel), by decide +kernel, ⟨30000000000, by decide⟩,
    ⟨37500000000, by decide⟩, by decide +kernel, by decide +kernel, rfl, rfl⟩

end Courier.Retry
