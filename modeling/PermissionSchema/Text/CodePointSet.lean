/-!
# Sets of code points

A `CodePointSet` lists the code points that share a property as ascending, separate ranges. A
look-up stops at the first range that does not end before the code point, and `contains_iff` says
that nothing is missed by stopping there.
-/

namespace PermissionSchema

/-- Whether the ranges ascend from `floor` on: each is nonempty and starts after the end of the one
    before it. -/
def ascendsFrom (floor : Nat) : List (Nat × Nat) → Bool
  | [] => true
  | range :: rest =>
    decide (floor ≤ range.1) && decide (range.1 ≤ range.2) && ascendsFrom (range.2 + 1) rest

/-- Whether `n` lies in one of the ranges, both ends included. -/
def coveredBy (n : Nat) : List (Nat × Nat) → Bool
  | [] => false
  | range :: rest => if n ≤ range.2 then decide (range.1 ≤ n) else coveredBy n rest

theorem lt_fst_of_ascendsFrom {floor n : Nat} {ranges : List (Nat × Nat)}
    (hasc : ascendsFrom floor ranges = true) (hlt : n < floor) {range : Nat × Nat}
    (hmem : range ∈ ranges) : n < range.1 := by
  induction ranges generalizing floor with
  | nil => simp at hmem
  | cons first rest ih =>
    simp only [ascendsFrom, Bool.and_eq_true, decide_eq_true_eq] at hasc
    rcases List.mem_cons.1 hmem with hfirst | hrest
    · subst hfirst
      omega
    · exact ih hasc.2 (by omega) hrest

/-- Looking no further than the first range that does not end before `n` is enough. -/
theorem coveredBy_iff {floor n : Nat} {ranges : List (Nat × Nat)}
    (hasc : ascendsFrom floor ranges = true) :
    coveredBy n ranges = true ↔ ∃ range ∈ ranges, range.1 ≤ n ∧ n ≤ range.2 := by
  induction ranges generalizing floor with
  | nil => simp [coveredBy]
  | cons first rest ih =>
    simp only [ascendsFrom, Bool.and_eq_true, decide_eq_true_eq] at hasc
    by_cases hn : n ≤ first.2
    · simp only [coveredBy, hn, if_true, decide_eq_true_eq]
      constructor
      · exact fun hle => ⟨first, List.mem_cons_self, hle, hn⟩
      · rintro ⟨range, hmem, hle, _⟩
        rcases List.mem_cons.1 hmem with hfirst | hrest
        · exact hfirst ▸ hle
        · have := lt_fst_of_ascendsFrom hasc.2 (Nat.lt_succ_of_le hn) hrest
          omega
    · simp [coveredBy, hn, ih hasc.2]

/-- The code points that share a property, as ascending, separate ranges. -/
structure CodePointSet where
  ranges : List (Nat × Nat)
  ascends : ascendsFrom 0 ranges = true

namespace CodePointSet

def contains (s : CodePointSet) (c : Char) : Bool := coveredBy c.toNat s.ranges

theorem contains_iff {s : CodePointSet} {c : Char} :
    s.contains c = true ↔ ∃ range ∈ s.ranges, range.1 ≤ c.toNat ∧ c.toNat ≤ range.2 :=
  coveredBy_iff s.ascends

end CodePointSet

end PermissionSchema
