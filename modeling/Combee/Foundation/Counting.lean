import Combee.Foundation.Machine
import Mathlib.Data.Fintype.BigOperators
import Mathlib.Tactic.Abel

/-!
# Counting — sums over the processes of a pool

Where the pool has finitely many processes, a quantity that each of them holds can be added up. A
step of one process changes the sum by what that process holds more or less (`sum_update`).
-/

namespace Combee.Foundation.Pool

variable {ι P M : Type*} [Fintype ι] [DecidableEq ι] [AddCommMonoid M]

/-- The sum after the process `i` has moved to `p`, without subtraction. -/
lemma sum_update (f : ι → P → M) (procs : ι → P) (i : ι) (p : P) :
    (∑ j, f j (Function.update procs i p j)) + f i (procs i) = (∑ j, f j (procs j)) + f i p := by
  rw [← Finset.add_sum_erase _ (fun j => f j (procs j)) (Finset.mem_univ i),
    ← Finset.add_sum_erase _ _ (Finset.mem_univ i), Function.update_self]
  have hothers : ∀ j ∈ Finset.univ.erase i, f j (Function.update procs i p j) = f j (procs j) :=
    fun j hj => by rw [Function.update_of_ne (Finset.ne_of_mem_erase hj)]
  rw [Finset.sum_congr rfl hothers]
  abel

end Combee.Foundation.Pool
