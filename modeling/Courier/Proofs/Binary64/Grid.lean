import Courier.Binary64

/-! Rounding to the grid. What is on the grid is its own rounding, and rounding never passes it; from
this it follows that rounding keeps the order of quotients. The error is at most half of the spacing,
so it is at most one part in 2^53 of what has at least 53 bits. -/

namespace Courier

theorem twoTo_lt_twoTo {m n : Nat} (less : m < n) : twoTo m < twoTo n :=
  Nat.pow_lt_pow_right (by omega) less

theorem divNearest_le_of_le {num den k : Nat} (le : num ≤ k * den) : divNearest num den ≤ k := by
  by_cases zero : den = 0
  · have nothing : num = 0 := by simpa [zero] using le
    simp [divNearest, zero, nothing]
  · have below : num / den ≤ k := by
      rw [Nat.div_le_iff_le_mul_add_pred (by omega), Nat.mul_comm]
      omega
    rcases Nat.lt_or_eq_of_le below with less | same
    · exact Nat.le_trans (divNearest_le num den) less
    · -- the quotient is exact, and nothing is rounded
      have whole := Nat.div_add_mod num den
      rw [same, Nat.mul_comm] at whole
      have exact : num % den = 0 := by omega
      simp [divNearest, exact, Ne.symm zero, same]

theorem le_divNearest_of_le {num den k : Nat} (positive : 0 < den) (le : k * den ≤ num) :
    k ≤ divNearest num den :=
  Nat.le_trans ((Nat.le_div_iff_mul_le positive).mpr le) (le_divNearest num den)

theorem divNearest_error (num den : Nat) (positive : 0 < den) :
    2 * (divNearest num den * den) ≤ 2 * num + den ∧
    2 * num ≤ 2 * (divNearest num den * den) + den := by
  have whole := Nat.div_add_mod num den
  have rest := Nat.mod_lt num positive
  rw [Nat.mul_comm] at whole
  simp only [divNearest]
  split
  · rw [Nat.add_mul, Nat.one_mul]
    omega
  · omega

theorem div_le_div_of_cross {num den num' den' : Nat} (positive : 0 < den) (positive' : 0 < den')
    (cross : num * den' ≤ num' * den) : num / den ≤ num' / den' := by
  rw [Nat.le_div_iff_mul_le positive']
  refine Nat.le_of_mul_le_mul_right ?_ positive
  calc num / den * den' * den = num / den * den * den' := Nat.mul_right_comm _ _ _
    _ ≤ num * den' := Nat.mul_le_mul_right den' (Nat.div_mul_le_self num den)
    _ ≤ num' * den := cross

theorem divNearest_mono {num den num' den' : Nat} (positive : 0 < den) (positive' : 0 < den')
    (cross : num * den' ≤ num' * den) : divNearest num den ≤ divNearest num' den' := by
  have quotients := div_le_div_of_cross positive positive' cross
  rcases Nat.lt_or_eq_of_le quotients with less | same
  · exact Nat.le_trans (divNearest_le num den) (Nat.le_trans less (le_divNearest num' den'))
  · -- equal quotients: what decides is the rest, as a share of the denominator
    have rests : num % den * den' ≤ num' % den' * den := by
      have left := congrArg (· * den') (Nat.div_add_mod num den)
      have right := congrArg (· * den) (Nat.div_add_mod num' den')
      simp only [Nat.add_mul, ← same] at left right
      have swap : den * (num / den) * den' = den' * (num / den) * den := by
        rw [Nat.mul_right_comm, Nat.mul_right_comm den', Nat.mul_comm den den']
      omega
    have doubled : 2 * (num % den) * den' ≤ 2 * (num' % den') * den := by
      rw [Nat.mul_assoc, Nat.mul_assoc]
      exact Nat.mul_le_mul_left 2 rests
    have carried : den ≤ 2 * (num % den) → den' ≤ 2 * (num' % den') := by
      intro half
      refine Nat.le_of_mul_le_mul_right ?_ positive
      calc den' * den = den * den' := Nat.mul_comm _ _
        _ ≤ 2 * (num % den) * den' := Nat.mul_le_mul_right den' half
        _ ≤ 2 * (num' % den') * den := doubled
    have strictly : den < 2 * (num % den) → den' < 2 * (num' % den') := by
      intro half
      refine Nat.lt_of_mul_lt_mul_right (a := den) ?_
      calc den' * den = den * den' := Nat.mul_comm _ _
        _ < 2 * (num % den) * den' := Nat.mul_lt_mul_of_pos_right half positive'
        _ ≤ 2 * (num' % den') * den := doubled
    simp only [divNearest, ← same]
    split
    · rename_i up
      rcases up with half | ⟨half, odd⟩
      · exact Nat.le_of_eq (if_pos (.inl (strictly half))).symm
      · have reached := carried (Nat.le_of_eq half.symm)
        exact Nat.le_of_eq (if_pos (by omega)).symm
    · split <;> omega

theorem spacing_dvd {m n : Nat} (le : m ≤ n) : spacing m ∣ spacing n := by
  apply twoTo_dvd_twoTo
  by_cases zero : m = 0
  · simp [zero]
  · have less : m.log2 < n.log2 + 1 :=
      (log2_lt_iff zero).mpr (Nat.lt_of_le_of_lt le (lt_twoTo_log2 n))
    omega

theorem spacing_pos (units : Nat) : 0 < spacing units := twoTo_pos _

theorem onGrid_twoTo (k : Nat) : OnGrid (twoTo k) := by
  rw [← Nat.one_mul (twoTo k)]
  exact onGrid_mul_twoTo (twoTo_pos 53)

theorem spacing_twoTo (k : Nat) : spacing (twoTo k) = twoTo (k - 52) := by
  have binade : (1 * twoTo k).log2 = Nat.log2 1 + k := log2_mul_twoTo (by omega)
  rw [Nat.one_mul, show Nat.log2 1 = 0 from rfl, Nat.zero_add] at binade
  rw [spacing, binade]

/-- The grid is kept by a power of two. -/
theorem onGrid_scaled {g : Nat} (onGrid : OnGrid g) (k : Nat) : OnGrid (g * twoTo k) := by
  obtain ⟨count, whole⟩ := Nat.dvd_of_mod_eq_zero onGrid
  have few : count ≤ twoTo 53 := by
    have quotient : g / spacing g = count := Nat.div_eq_of_eq_mul_right (spacing_pos g) whole
    exact quotient ▸ Nat.le_of_lt (div_spacing_lt g)
  rw [whole, spacing, Nat.mul_comm (twoTo _), Nat.mul_assoc, ← twoTo_add]
  exact onGrid_mul_twoTo few

theorem gridNearest_le {num den g : Nat} (onGrid : OnGrid g) (le : num ≤ g * den) :
    gridNearest num den ≤ g := by
  have quotient : num / den ≤ g := Nat.div_le_of_le_mul (by rw [Nat.mul_comm]; exact le)
  -- the grid at the quotient is no coarser than the one at `g`, so `g` is on both
  obtain ⟨k, whole⟩ := Nat.dvd_trans (spacing_dvd quotient) (Nat.dvd_of_mod_eq_zero onGrid)
  rw [gridNearest]
  generalize spacing (num / den) = s at whole
  have steps : divNearest num (den * s) ≤ k := by
    apply divNearest_le_of_le
    calc num ≤ g * den := le
      _ = k * (den * s) := by rw [whole, Nat.mul_comm s k, Nat.mul_assoc, Nat.mul_comm s den]
  calc divNearest num (den * s) * s ≤ k * s := Nat.mul_le_mul_right s steps
    _ = g := by rw [whole, Nat.mul_comm]

/-- A power of two below the quotient is below its rounding. -/
theorem twoTo_le_gridNearest {num den k : Nat} (positive : 0 < den) (le : twoTo k * den ≤ num) :
    twoTo k ≤ gridNearest num den := by
  have quotient : twoTo k ≤ num / den := (Nat.le_div_iff_mul_le positive).mpr le
  have nonzero : num / den ≠ 0 := by have := twoTo_pos k; omega
  have binade : k ≤ (num / den).log2 := (le_log2_iff nonzero).mpr quotient
  rw [gridNearest, spacing]
  generalize exponent : (num / den).log2 = e at binade
  have steps : twoTo (e - (e - 52)) ≤ divNearest num (den * twoTo (e - 52)) := by
    apply le_divNearest_of_le (Nat.mul_pos positive (twoTo_pos _))
    calc twoTo (e - (e - 52)) * (den * twoTo (e - 52))
        = twoTo e * den := by
          rw [Nat.mul_comm den, ← Nat.mul_assoc, ← twoTo_add, Nat.sub_add_cancel (Nat.sub_le e 52)]
      _ ≤ num := by
          rw [← Nat.le_div_iff_mul_le positive, ← exponent]
          exact twoTo_log2_le nonzero
  calc twoTo k ≤ twoTo e := twoTo_le_twoTo binade
    _ = twoTo (e - (e - 52)) * twoTo (e - 52) := by
      rw [← twoTo_add, Nat.sub_add_cancel (Nat.sub_le e 52)]
    _ ≤ divNearest num (den * twoTo (e - 52)) * twoTo (e - 52) := Nat.mul_le_mul_right _ steps

theorem gridNearest_mono {num den num' den' : Nat} (positive : 0 < den) (positive' : 0 < den')
    (cross : num * den' ≤ num' * den) : gridNearest num den ≤ gridNearest num' den' := by
  have quotients := div_le_div_of_cross positive positive' cross
  rcases Nat.lt_or_eq_of_le (Nat.le_of_dvd (spacing_pos _) (spacing_dvd quotients)) with finer | same
  · -- a power of two lies between the two quotients, and neither rounding passes it
    have nonzero : num' / den' ≠ 0 := by
      intro zero
      rw [zero] at finer quotients
      rw [Nat.le_zero.mp quotients] at finer
      exact Nat.lt_irrefl _ finer
    have binades : (num / den).log2 < (num' / den').log2 := by
      refine Nat.lt_of_not_le fun above => ?_
      exact Nat.not_le_of_lt finer (twoTo_le_twoTo (Nat.sub_le_sub_right above 52))
    have below : num / den < twoTo (num' / den').log2 := by
      by_cases zero : num / den = 0
      · rw [zero]
        exact twoTo_pos _
      · exact (log2_lt_iff zero).mp binades
    calc gridNearest num den ≤ twoTo (num' / den').log2 :=
          gridNearest_le (onGrid_twoTo _) (Nat.le_of_lt ((Nat.div_lt_iff_lt_mul positive).mp below))
      _ ≤ gridNearest num' den' :=
          twoTo_le_gridNearest positive' ((Nat.le_div_iff_mul_le positive').mp (twoTo_log2_le nonzero))
  · rw [gridNearest, gridNearest, same]
    refine Nat.mul_le_mul_right _ (divNearest_mono ?_ ?_ ?_)
    · exact Nat.mul_pos positive (spacing_pos _)
    · exact Nat.mul_pos positive' (spacing_pos _)
    · rw [← Nat.mul_assoc, ← Nat.mul_assoc]
      exact Nat.mul_le_mul_right _ cross

theorem gridNearest_onGrid {g : Nat} (onGrid : OnGrid g) : gridNearest g 1 = g := by
  apply Nat.le_antisymm (gridNearest_le onGrid (by omega))
  obtain ⟨k, whole⟩ := Nat.dvd_of_mod_eq_zero onGrid
  have positive : 0 < spacing g := twoTo_pos _
  have quotient : g / spacing g = k := Nat.div_eq_of_eq_mul_right positive whole
  calc g = k * spacing g := by rw [Nat.mul_comm, ← whole]
    _ ≤ divNearest g (1 * spacing (g / 1)) * spacing (g / 1) := by
      rw [Nat.div_one, Nat.one_mul]
      exact Nat.mul_le_mul_right _ (quotient ▸ le_divNearest g (spacing g))

theorem le_gridNearest {num den g : Nat} (onGrid : OnGrid g) (positive : 0 < den)
    (le : g * den ≤ num) : g ≤ gridNearest num den := by
  rw [← gridNearest_onGrid onGrid]
  exact gridNearest_mono Nat.one_pos positive (by omega)

theorem gridNearest_error (num den : Nat) (positive : 0 < den) :
    2 * (gridNearest num den * den) ≤ 2 * num + den * spacing (num / den) ∧
    2 * num ≤ 2 * (gridNearest num den * den) + den * spacing (num / den) := by
  have step := divNearest_error num _ (Nat.mul_pos positive (spacing_pos (num / den)))
  have same : gridNearest num den * den =
      divNearest num (den * spacing (num / den)) * (den * spacing (num / den)) := by
    rw [gridNearest, Nat.mul_assoc, Nat.mul_comm (spacing _) den]
  rwa [same]

/-- Less than half of the spacing is rounded away. -/
theorem gridNearest_add {g t : Nat} (onGrid : OnGrid g) (small : 2 * t < spacing g) :
    gridNearest (g + t) 1 = g := by
  by_cases zero : g = 0
  · have none : t = 0 := by
      rw [zero] at small
      have one : spacing 0 = 1 := rfl
      omega
    rw [none]
    exact gridNearest_onGrid onGrid
  · obtain ⟨k, whole⟩ := Nat.dvd_of_mod_eq_zero onGrid
    -- there is room for a whole step before the next binade, so `t` does not lead into it
    have room : g + spacing g ≤ twoTo (g.log2 + 1) := by
      obtain ⟨j, steps⟩ : spacing g ∣ twoTo (g.log2 + 1) := twoTo_dvd_twoTo (by omega)
      have before : spacing g * k < spacing g * j := by
        rw [← whole, ← steps]
        exact lt_twoTo_log2 g
      calc g + spacing g = spacing g * (k + 1) := by rw [Nat.mul_add, ← whole, Nat.mul_one]
        _ ≤ spacing g * j := Nat.mul_le_mul_left _ (Nat.lt_of_mul_lt_mul_left before)
        _ = twoTo (g.log2 + 1) := steps.symm
    have binade : (g + t).log2 = g.log2 := by
      have low := (le_log2_iff (k := g.log2) (n := g + t) (by omega)).mpr
        (Nat.le_trans (twoTo_log2_le zero) (Nat.le_add_right g t))
      have high := (log2_lt_iff (k := g.log2 + 1) (n := g + t) (by omega)).mpr (by omega)
      omega
    have same : spacing (g + t) = spacing g := by rw [spacing, binade, ← spacing]
    have positive : 0 < spacing g := spacing_pos g
    have parts : g + t = t + spacing g * k := by rw [← whole, Nat.add_comm]
    have quotient : (g + t) / spacing g = k := by
      rw [parts, Nat.add_mul_div_left _ _ positive, Nat.div_eq_of_lt (by omega), Nat.zero_add]
    have rest : (g + t) % spacing g = t := by
      rw [parts, Nat.add_mul_mod_self_left, Nat.mod_eq_of_lt (by omega)]
    have down : divNearest (g + t) (spacing g) = k := by
      simp only [divNearest, quotient, rest]
      exact if_neg (by omega)
    rw [gridNearest, Nat.div_one, same, Nat.one_mul, down, Nat.mul_comm]
    exact whole.symm

/-- What has at least 53 bits is rounded by at most one part in 2^53. -/
theorem gridNearest_relative {num den : Nat} (positive : 0 < den) (normal : twoTo 52 * den ≤ num) :
    twoTo 53 * (gridNearest num den * den) ≤ (twoTo 53 + 1) * num ∧
    (twoTo 53 - 1) * num ≤ twoTo 53 * (gridNearest num den * den) := by
  have quotient : twoTo 52 ≤ num / den := (Nat.le_div_iff_mul_le positive).mpr normal
  have nonzero : num / den ≠ 0 := by have := twoTo_pos 52; omega
  have binade : 52 ≤ (num / den).log2 := (le_log2_iff nonzero).mpr quotient
  have share : twoTo 52 * (den * spacing (num / den)) ≤ num := by
    calc twoTo 52 * (den * spacing (num / den))
        = twoTo (num / den).log2 * den := by
          rw [Nat.mul_comm den, ← Nat.mul_assoc, spacing, ← twoTo_add, Nat.add_sub_cancel' binade]
      _ ≤ num := by
          rw [← Nat.le_div_iff_mul_le positive]
          exact twoTo_log2_le nonzero
  have error := gridNearest_error num den positive
  have double : twoTo 53 = twoTo 52 * 2 := twoTo_succ 52
  generalize den * spacing (num / den) = step at share error
  generalize gridNearest num den * den = near at error
  have above := Nat.mul_le_mul_left (twoTo 52) error.1
  have below := Nat.mul_le_mul_left (twoTo 52) error.2
  rw [Nat.mul_add, ← Nat.mul_assoc, ← Nat.mul_assoc, ← double] at above below
  rw [Nat.add_mul, Nat.sub_mul, Nat.one_mul]
  omega

end Courier
