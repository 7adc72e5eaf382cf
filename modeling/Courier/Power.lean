/-!
Powers of two and of ten. Main statements: a power of a sum is a product of powers, and the binary
logarithm tells between which powers of two a number lies.
-/

namespace Courier

def twoTo (n : Nat) : Nat := Nat.pow 2 n

def tenTo (n : Nat) : Nat := Nat.pow 10 n

theorem twoTo_pos (n : Nat) : 0 < twoTo n := Nat.two_pow_pos n

theorem twoTo_add (m n : Nat) : twoTo (m + n) = twoTo m * twoTo n := Nat.pow_add 2 m n

theorem twoTo_succ (n : Nat) : twoTo (n + 1) = twoTo n * 2 := Nat.pow_succ 2 n

theorem twoTo_le_twoTo {m n : Nat} (h : m ≤ n) : twoTo m ≤ twoTo n :=
  Nat.pow_le_pow_right (by omega) h

theorem twoTo_dvd_twoTo {m n : Nat} (h : m ≤ n) : twoTo m ∣ twoTo n := Nat.pow_dvd_pow 2 h

theorem twoTo_log2_le {n : Nat} (h : n ≠ 0) : twoTo n.log2 ≤ n := Nat.log2_self_le h

theorem lt_twoTo_log2 (n : Nat) : n < twoTo (n.log2 + 1) := Nat.lt_log2_self

theorem log2_lt_iff {n k : Nat} (h : n ≠ 0) : n.log2 < k ↔ n < twoTo k := Nat.log2_lt h

theorem le_log2_iff {n k : Nat} (h : n ≠ 0) : k ≤ n.log2 ↔ twoTo k ≤ n := Nat.le_log2 h

theorem log2_mul_twoTo {m k : Nat} (h : m ≠ 0) : (m * twoTo k).log2 = m.log2 + k := by
  have hp : m * twoTo k ≠ 0 := Nat.mul_ne_zero h (Nat.pos_iff_ne_zero.1 (twoTo_pos k))
  have hlow : twoTo (m.log2 + k) ≤ m * twoTo k := by
    rw [twoTo_add]
    exact Nat.mul_le_mul_right _ (twoTo_log2_le h)
  have hhigh : m * twoTo k < twoTo (m.log2 + k + 1) := by
    rw [Nat.add_right_comm, twoTo_add]
    exact Nat.mul_lt_mul_of_pos_right (lt_twoTo_log2 m) (twoTo_pos k)
  have h1 := (le_log2_iff hp).2 hlow
  have h2 := (log2_lt_iff hp).2 hhigh
  omega

end Courier
