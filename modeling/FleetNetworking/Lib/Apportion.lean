import Mathlib

/-!
# Proportional shares, rounded up

A budget `b` is split among items in proportion to their weights, each share rounded up:
`ceilShare b w W = ⌈b·w/W⌉`, for `W` the total weight.  With positive weights every share is at
least one and at most the budget (`one_le_ceilShare`, `ceilShare_le`), and the shares add up to
at least the budget and less than the budget plus the number of items (`le_sum_ceilShare`,
`sum_ceilShare_lt`): rounding up gives away less than one unit per item.
-/

namespace Apportion

/-- The share of weight `w` in the budget `b`, out of the total weight `W`, rounded up. -/
def ceilShare (b w W : ℤ) : ℤ := ⌈((b * w : ℤ) : ℚ) / W⌉

variable {b w W : ℤ}

/-- A positive weight of a positive budget gets at least one. -/
lemma one_le_ceilShare (hb : 0 < b) (hw : 0 < w) (hW : 0 < W) : 1 ≤ ceilShare b w W := by
  have hq : (0 : ℚ) < ((b * w : ℤ) : ℚ) / W :=
    div_pos (by exact_mod_cast mul_pos hb hw) (by exact_mod_cast hW)
  exact Int.ceil_pos.mpr hq

/-- A weight that is part of the total gets at most the budget. -/
lemma ceilShare_le (hb : 0 ≤ b) (hwW : w ≤ W) (hW : 0 < W) : ceilShare b w W ≤ b := by
  have hW' : (0 : ℚ) < W := by exact_mod_cast hW
  rw [ceilShare, Int.ceil_le, div_le_iff₀ hW']
  have : b * w ≤ b * W := mul_le_mul_of_nonneg_left hwW hb
  exact_mod_cast this

section Sums

variable {ι : Type*} (l : List ι) (f : ι → ℤ)

/-- The exact shares add up to the budget. -/
lemma sum_exact_shares (hW : (l.map f).sum = W) (hWpos : 0 < W) :
    (l.map fun i => ((b * f i : ℤ) : ℚ) / W).sum = b := by
  have hW' : (W : ℚ) ≠ 0 := by exact_mod_cast hWpos.ne'
  calc (l.map fun i => ((b * f i : ℤ) : ℚ) / W).sum
      = (l.map fun i => (b : ℚ) / W * f i).sum := by
        congr 1
        refine List.map_congr_left fun i _ => ?_
        push_cast
        ring
    _ = (b : ℚ) / W * ((l.map f).sum : ℤ) := by
        rw [List.sum_map_mul_left, Int.cast_list_sum, List.map_map]
        rfl
    _ = b := by
        rw [hW]
        field_simp

/-- The shares, summed in `ℚ`. -/
lemma cast_sum_ceilShare :
    (((l.map fun i => ceilShare b (f i) W).sum : ℤ) : ℚ) =
      (l.map fun i => ((ceilShare b (f i) W : ℤ) : ℚ)).sum := by
  rw [Int.cast_list_sum, List.map_map]
  rfl

/-- **The shares cover the budget.** -/
theorem le_sum_ceilShare (hW : (l.map f).sum = W) (hWpos : 0 < W) :
    b ≤ (l.map fun i => ceilShare b (f i) W).sum := by
  have hle : (l.map fun i => ((b * f i : ℤ) : ℚ) / W).sum ≤
      (l.map fun i => ((ceilShare b (f i) W : ℤ) : ℚ)).sum :=
    List.sum_le_sum fun i _ => Int.le_ceil _
  rw [sum_exact_shares l f hW hWpos, ← cast_sum_ceilShare] at hle
  exact_mod_cast hle

/-- **Rounding up gives away less than one per item.** -/
theorem sum_ceilShare_lt (hW : (l.map f).sum = W) (hWpos : 0 < W) :
    (l.map fun i => ceilShare b (f i) W).sum < b + l.length := by
  -- a positive total has an item, and each share is below its exact share plus one
  obtain ⟨i, hi⟩ : ∃ i, i ∈ l := by
    cases l with
    | nil => simp at hW; omega
    | cons i _ => exact ⟨i, List.mem_cons_self⟩
  have hlt : (l.map fun i => ((ceilShare b (f i) W : ℤ) : ℚ)).sum <
      (l.map fun i => ((b * f i : ℤ) : ℚ) / W + 1).sum :=
    List.sum_lt_sum _ _ (fun i _ => (Int.ceil_lt_add_one _).le) ⟨i, hi, Int.ceil_lt_add_one _⟩
  rw [List.sum_map_add, sum_exact_shares l f hW hWpos, ← cast_sum_ceilShare] at hlt
  have hlen : (l.map fun _ => (1 : ℚ)).sum = l.length := by simp
  rw [hlen] at hlt
  exact_mod_cast hlt

end Sums

end Apportion
