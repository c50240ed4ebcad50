/-! Powers and totals of natural numbers. -/

namespace Guardrail

/-- A power of two. -/
def twoTo (n : Nat) : Nat := Nat.pow 2 n

/-- A power of ten. -/
def tenTo (n : Nat) : Nat := Nat.pow 10 n

def total (ns : List Nat) : Nat := ns.foldr Nat.add 0

@[simp] theorem total_cons (n : Nat) (ns : List Nat) : total (n :: ns) = n + total ns := rfl

@[simp] theorem total_append (ns ms : List Nat) : total (ns ++ ms) = total ns + total ms := by
  induction ns with
  | nil => exact (Nat.zero_add _).symm
  | cons n rest ih => rw [List.cons_append, total_cons, ih, total_cons, Nat.add_assoc]

theorem total_replicate (count n : Nat) : total (List.replicate count n) = count * n := by
  induction count with
  | zero => exact (Nat.zero_mul n).symm
  | succ count ih => rw [List.replicate_succ, total_cons, ih, Nat.succ_mul, Nat.add_comm]

/-- A change of one of several things changes their total by as much. -/
theorem total_modify {α : Type} (f : α → Nat) (g : α → α) {l : List α} {i : Nat} {a : α}
    (h : l[i]? = some a) :
    total ((l.modify i g).map f) + f a = total (l.map f) + f (g a) := by
  induction l generalizing i with
  | nil => cases h
  | cons first rest ih =>
    cases i with
    | zero =>
      cases h
      simp only [List.modify_zero_cons, List.map_cons, total_cons]
      omega
    | succ i =>
      have := ih h
      simp only [List.modify_succ_cons, List.map_cons, total_cons]
      omega

theorem countP_eq_total {α : Type} (p : α → Bool) (l : List α) :
    l.countP p = total (l.map fun a => if p a then 1 else 0) := by
  induction l with
  | nil => rfl
  | cons a rest ih => rw [List.countP_cons, ih, List.map_cons, total_cons, Nat.add_comm]

end Guardrail
