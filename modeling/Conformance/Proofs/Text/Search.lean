import Conformance.Text.Lines
/-!
# What binary search finds

A search never looks past the end of its table, sorted or not (`narrow_bounds`).  In a table whose
first `k` entries are those that are not past the key (`Splits`), it comes to the last of them: it
finds the key there, or says that the key would stand behind it (`search_of_splits`).
-/
namespace Conformance.Text

theorem narrow_bounds (table : Array UInt32) (key : UInt32) (base size : Nat) (h : 0 < size) :
    base ≤ narrow table key base size ∧ narrow table key base size < base + size := by
  fun_induction narrow table key base size with
  | case1 base size hone => omega
  | case2 base size hmany middle ih =>
    have hin := ih (by omega)
    by_cases hpast : key < table.getD middle 0
    · simp only [hpast, dite_true, ite_true] at hin ⊢
      omega
    · simp only [hpast, dite_false, ite_false] at hin ⊢
      omega

theorem search_eq {table : Array UInt32} {key : UInt32} (hne : 0 < table.size) :
    search table key =
      if table.getD (narrow table key 0 table.size) 0 = key then
        .ok (narrow table key 0 table.size)
      else .error (if table.getD (narrow table key 0 table.size) 0 < key then
        narrow table key 0 table.size + 1 else narrow table key 0 table.size) := by
  have hempty : table.isEmpty = false := by
    rw [Array.isEmpty, decide_eq_false_iff_not]
    omega
  rw [search, hempty]
  rfl

/-- The first `k` entries of a table are those that are not past the key. -/
structure Splits (table : Array UInt32) (key : UInt32) (k : Nat) : Prop where
  le_size : k ≤ table.size
  lt_iff : ∀ i < table.size, i < k ↔ table.getD i 0 ≤ key

section

variable {table : Array UInt32} {key : UInt32} {k : Nat} (hsplit : Splits table key k)

include hsplit

theorem narrow_of_splits (base size : Nat) (hsize : base + size ≤ table.size) (hbase : base < k)
    (hk : k ≤ base + size) : narrow table key base size = k - 1 := by
  fun_induction narrow table key base size with
  | case1 base size hone => omega
  | case2 base size hmany middle ih =>
    -- the last entry that is not past the key stays in the stretch
    have hmiddle := hsplit.lt_iff middle (by omega)
    by_cases hpast : key < table.getD middle 0
    · simp only [hpast, dite_true, ite_true] at ih ⊢
      have hnot : ¬middle < k := by rwa [hmiddle, UInt32.not_le]
      exact ih (by omega) hbase (by omega)
    · simp only [hpast, dite_false, ite_false] at ih ⊢
      have hlt : middle < k := by rwa [hmiddle, ← UInt32.not_lt]
      exact ih (by omega) hlt (by omega)

/-- **A search finds the key, or the place behind the last entry that is not past it.** -/
theorem search_of_splits (hk : 0 < k) :
    search table key = .ok (k - 1) ∨ search table key = .error k := by
  have hle := hsplit.le_size
  have hnarrow := narrow_of_splits hsplit 0 table.size (by omega) hk (by omega)
  have hentry : table.getD (k - 1) 0 ≤ key := (hsplit.lt_iff (k - 1) (by omega)).1 (by omega)
  rw [search_eq (by omega), hnarrow]
  by_cases heq : table.getD (k - 1) 0 = key
  · exact .inl (if_pos heq)
  · have hlt : table.getD (k - 1) 0 < key := UInt32.lt_of_le_of_ne hentry heq
    rw [if_neg heq, if_pos hlt, Nat.sub_add_cancel hk]
    exact .inr rfl

end

theorem search_bounds (table : Array UInt32) (key : UInt32) (hne : 0 < table.size) :
    (∃ i < table.size, search table key = .ok i) ∨
      ∃ i ≤ table.size, search table key = .error i := by
  have hin := narrow_bounds table key 0 table.size hne
  rw [search_eq hne]
  split
  · exact .inl ⟨_, by omega, rfl⟩
  · exact .inr ⟨_, by split <;> omega, rfl⟩

end Conformance.Text
