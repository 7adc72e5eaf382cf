import Courier.Flow
import Courier.Proofs.Binary64.Places

/-! The limits of what is asked for at once. The wanted number is compared with the ceiling after both
have been rounded, so a ceiling beyond 53 bits may be rounded up; a number below that is still not
above the ceiling, because rounding never passes a number that is on the grid. A ceiling of at most
53 bits is itself on the grid, and then the size is the wanted number cut off at both ends. -/

namespace Courier

namespace Binary64

theorem finite_le (m n : Magnitude) :
    (finite false m).le (finite false n) = decide (m.units ≤ n.units) := by
  rw [le_eq rfl rfl]
  exact decide_eq_decide.mpr Int.ofNat_le

theorem le_infinite {x : Binary64} {a : Int} (place : x.place? = some a) (bound : a ≤ overflow) :
    x.le (infinite false) = true := by
  rw [le_eq place rfl]
  exact decide_eq_true bound

/-- A number that is below a count, rounded, counts no more than that. -/
theorem toCount_le {x : Binary64} {n : Nat} (below : (ofNat n).le x = false) : x.toCount ≤ n := by
  cases x with
  | nan => exact Nat.zero_le n
  | infinite negative =>
    cases negative with
    | true => exact Nat.zero_le n
    | false =>
      exfalso
      refine Bool.false_ne_true (below.symm.trans ?_)
      rw [ofNat, round]
      split
      · rename_i finite
        exact le_infinite rfl (Int.ofNat_le.mpr (Nat.le_of_lt finite))
      · exact le_infinite rfl (Int.le_refl _)
  | finite negative m =>
    cases negative with
    | true => exact Nat.zero_le n
    | false =>
      refine Nat.le_trans (Nat.min_le_left _ _) ?_
      have one : 0 < unitsPerOne := twoTo_pos _
      have units : m.units < n * unitsPerOne := by
        refine Nat.lt_of_not_le fun above => ?_
        have rounded : gridNearest (n * unitsPerOne) 1 ≤ m.units :=
          gridNearest_le m.onGrid (by omega)
        have bound := m.lt_overflow
        rw [ofNat, round, dif_pos (by omega), finite_le] at below
        exact of_decide_eq_false below rounded
      exact Nat.le_of_lt ((Nat.div_lt_iff_lt_mul one).mpr units)

/-- A number that is not below a count of at most 53 bits counts at least as much. -/
theorem le_toCount {x : Binary64} {n : Nat} (small : n ≤ twoTo 53) (above : (ofNat n).le x = true) :
    n ≤ x.toCount := by
  have one : 0 < unitsPerOne := twoTo_pos _
  have room : n ≤ UInt64.size - 1 := Nat.le_trans small (by decide)
  have exact : gridNearest (n * unitsPerOne) 1 = n * unitsPerOne :=
    gridNearest_onGrid (onGrid_mul_twoTo small)
  have inRange : gridNearest (n * unitsPerOne) 1 < overflow := by
    rw [exact]
    refine Nat.lt_of_le_of_lt (Nat.mul_le_mul_right _ small) ?_
    rw [unitsPerOne, overflow, ← twoTo_add]
    exact twoTo_lt_twoTo (by omega)
  rw [ofNat, round, dif_pos inRange] at above
  cases x with
  | nan => simp [le, place?] at above
  | infinite negative =>
    cases negative with
    | false => exact room
    | true =>
      rw [le_eq rfl rfl, decide_eq_true_iff] at above
      have positive : (0 : Int) < overflow := Int.ofNat_lt.mpr (twoTo_pos _)
      simp only [signed, if_true, Bool.false_eq_true, if_false] at above
      omega
  | finite negative m =>
    cases negative with
    | false =>
      rw [finite_le, decide_eq_true_iff] at above
      have units : n * unitsPerOne ≤ m.units := exact ▸ above
      exact Nat.le_min.mpr ⟨(Nat.le_div_iff_mul_le one).mpr units, room⟩
    | true =>
      rw [le_eq rfl rfl, decide_eq_true_iff] at above
      simp only [signed, if_true, Bool.false_eq_true, if_false, exact] at above
      have nothing : n * unitsPerOne = 0 := by omega
      exact Nat.le_of_eq ((Nat.mul_eq_zero.mp nothing).resolve_right (Nat.ne_of_gt one))

end Binary64

namespace Flow

theorem ceiling_eq (f : Flow) : f.ceiling = max 1 f.options.maxFetchSize.toNat :=
  Nat.max_comm _ _

theorem fetchSize_fresh (options : FlowOptions) : (Flow.new options).fetchSize = 1 := rfl

theorem fetchSize_bounds (f : Flow) :
    1 ≤ f.fetchSize ∧ f.fetchSize ≤ max 1 f.options.maxFetchSize.toNat := by
  rw [← ceiling_eq]
  have least : 1 ≤ f.ceiling := Nat.le_max_right _ _
  unfold fetchSize
  split
  · exact ⟨Nat.le_refl 1, least⟩
  · dsimp only
    split
    · exact ⟨least, Nat.le_refl _⟩
    · rename_i below
      have count := Binary64.toCount_le (eq_false_of_ne_true below)
      exact ⟨Nat.le_max_right _ _, Nat.max_le.mpr ⟨count, least⟩⟩

theorem record_options (f : Flow) (elapsed : Duration) : (f.record elapsed).options = f.options := rfl

theorem foldl_options (f : Flow) (samples : List Duration) :
    (samples.foldl record f).options = f.options := by
  induction samples generalizing f with
  | nil => rfl
  | cons elapsed samples ih => rw [List.foldl_cons, ih, record_options]

/-- There is an average as soon as there is a sample. -/
theorem foldl_average (f : Flow) (samples : List Duration) :
    (samples.foldl record f).average = none ↔ samples = [] ∧ f.average = none := by
  induction samples generalizing f with
  | nil => exact (and_iff_right rfl).symm
  | cons elapsed samples ih =>
    rw [List.foldl_cons, ih]
    simp [record]

/-- Where the ceiling is a number exactly, the comparison with it is the one of counts. -/
theorem fetchSize_eq {f : Flow} {a : Binary64} (average : f.average = some a)
    (small : f.ceiling ≤ twoTo 53) :
    f.fetchSize = max 1 (min f.ceiling (f.options.desired.toSecs / a).ceil.toCount) := by
  have least : 1 ≤ f.ceiling := Nat.le_max_right _ _
  simp only [fetchSize, average]
  split
  · rename_i above
    have enough := Binary64.le_toCount small above
    omega
  · rename_i below
    have atMost := Binary64.toCount_le (eq_false_of_ne_true below)
    rw [Nat.min_eq_right atMost]
    exact Nat.max_comm _ _

/-- The size asked for stays between one and the configured most, which is raised to one, for every
configuration and every list of samples: whatever the average has become, a number, an infinity or
not a number at all. Before any sample it is one, and up to a ceiling of 53 bits it is the wanted
number itself, cut off at one and at the ceiling. -/
theorem fetch_size_in_range (options : FlowOptions) (samples : List Duration) :
    1 ≤ (samples.foldl record (new options)).fetchSize ∧
    (samples.foldl record (new options)).fetchSize ≤ max 1 options.maxFetchSize.toNat ∧
    (samples = [] → (samples.foldl record (new options)).fetchSize = 1) ∧
    ((samples.foldl record (new options)).average = none ↔ samples = []) ∧
    ∀ a, (samples.foldl record (new options)).average = some a →
      max 1 options.maxFetchSize.toNat ≤ twoTo 53 →
      (samples.foldl record (new options)).fetchSize =
        max 1 (min (max 1 options.maxFetchSize.toNat) (options.desired.toSecs / a).ceil.toCount) := by
  have kept : (samples.foldl record (new options)).options = options := foldl_options _ _
  have bounds := fetchSize_bounds (samples.foldl record (new options))
  have top := ceiling_eq (samples.foldl record (new options))
  rw [kept] at bounds top
  refine ⟨bounds.1, bounds.2, ?_, ?_, ?_⟩
  · rintro rfl
    exact fetchSize_fresh options
  · rw [foldl_average]
    exact and_iff_left rfl
  · intro a average small
    rw [fetchSize_eq average (top ▸ small), top, kept]

/-- Half a second under the default options makes four, by the last part. -/
theorem fetch_size_in_range_half_second :
    ([⟨500000000, by decide⟩].foldl record (new default)).fetchSize = 4 := by
  have small : max 1 (default : FlowOptions).maxFetchSize.toNat ≤ twoTo 53 := by decide +kernel
  have size := (fetch_size_in_range default [⟨500000000, by decide⟩]).2.2.2.2 _ rfl small
  rw [size]
  decide +kernel

end Flow

end Courier
