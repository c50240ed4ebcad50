import Guardrail.Moderation.Pacer
import Mathlib.Data.List.Basic

/-! # How many slots lie in one second

A pacer keeps its slots a period apart (`slots_spaced`), and a window has room for as many as are a
period apart (`within_spaced`). Callers that all ask at once get that many (`slots_replicate`). The
period of a rate is a second divided by it and cut to nanoseconds, so the rate is kept if nothing
is cut off, and exceeded otherwise. -/

namespace Guardrail.Moderation.Pacer

/-- The slots for callers at these instants, who ask one after the other. -/
def slots (p : Pacer) : List Nat → List Nat
  | [] => []
  | now :: later => (p.acquire now).1 :: (p.acquire now).2.slots later

/-- How many of the instants lie in the window of this length from `start` on. -/
def within (start length : Nat) (instants : List Nat) : Nat :=
  instants.countP fun t => start ≤ t ∧ t < start + length

/-! ## Slots are a period apart -/

theorem next_le_of_mem_slots {p : Pacer} {times : List Nat} {slot : Nat}
    (h : slot ∈ p.slots times) : p.next ≤ slot := by
  induction times generalizing p with
  | nil => cases h
  | cons now later ih =>
    have hnext : p.next ≤ (p.acquire now).1 := Nat.le_max_right ..
    rcases List.mem_cons.mp h with rfl | h
    · exact hnext
    · exact Nat.le_trans hnext (Nat.le_trans (Nat.le_add_right ..) (ih h))

theorem slots_spaced (p : Pacer) (times : List Nat) :
    (p.slots times).Pairwise fun slot later => slot + p.period ≤ later := by
  induction times generalizing p with
  | nil => exact .nil
  | cons now later ih => exact .cons (fun _ h => next_le_of_mem_slots h) (ih (p.acquire now).2)

theorem spaced_getLast {gap first : Nat} {rest : List Nat}
    (h : (first :: rest).Pairwise fun a b => a + gap ≤ b) :
    first + rest.length * gap ≤ (first :: rest).getLast (List.cons_ne_nil _ _) := by
  induction rest generalizing first with
  | nil => simp
  | cons second rest ih =>
    have hstep : first + gap ≤ second := List.rel_of_pairwise_cons h (List.mem_cons_self ..)
    have hrest := ih (List.pairwise_cons.mp h).2
    rw [List.getLast_cons (List.cons_ne_nil _ _), List.length_cons, Nat.succ_mul]
    omega

/-- Between the first and the last instant in a window there are gaps for all the others. -/
theorem within_spaced {gap : Nat} {instants : List Nat}
    (h : instants.Pairwise fun a b => a + gap ≤ b) (start : Nat) {length : Nat}
    (hlen : 0 < length) : (within start length instants - 1) * gap < length := by
  rw [within, List.countP_eq_length_filter]
  cases hinside : instants.filter fun t => start ≤ t ∧ t < start + length with
  | nil => simpa using hlen
  | cons first rest =>
    have hin {t : Nat} (ht : t ∈ first :: rest) : start ≤ t ∧ t < start + length := by
      rw [← hinside, List.mem_filter, decide_eq_true_eq] at ht
      exact ht.2
    have hfirst := hin (List.mem_cons_self ..)
    have hlast := hin (List.getLast_mem (List.cons_ne_nil first rest))
    have hgaps := spaced_getLast (hinside ▸ h.filter _)
    rw [List.length_cons, Nat.add_sub_cancel]
    omega

/-! ## Callers that ask at once -/

theorem slots_replicate (p : Pacer) (callers : Nat) :
    p.slots (List.replicate callers 0) =
      (List.range callers).map fun i => p.next + i * p.period := by
  induction callers generalizing p with
  | zero => rfl
  | succ callers ih =>
    rw [List.replicate_succ, slots, ih, List.range_succ_eq_map, List.map_cons, List.map_map]
    simp only [acquire, Nat.zero_max, Nat.zero_mul, Nat.add_zero]
    congr 2
    funext i
    simp only [Function.comp, Nat.succ_mul]
    omega

theorem within_replicate {period : Nat} (callers : Nat)
    (h : (callers - 1) * period < nanosPerSecond) :
    within 0 nanosPerSecond (slots ⟨period, 0⟩ (List.replicate callers 0)) = callers := by
  rw [slots_replicate, within, List.countP_map, List.countP_eq_length.mpr, List.length_range]
  intro i hi
  have hle : i ≤ callers - 1 := Nat.le_sub_one_of_lt (List.mem_range.mp hi)
  have := Nat.mul_le_mul_right period hle
  simp only [Function.comp, Nat.zero_add, Nat.zero_le, true_and, decide_eq_true_eq]
  omega

/-- **A rate is kept if and only if it divides a second.** In a window of one second, wherever it
begins, there can be as many slots as are apart by the rate's period, which is cut to nanoseconds:
one more than the rate if there is a rest, any number if the rate is above one in a nanosecond. -/
theorem rate_kept_iff {rate : Nat} (h : 0 < rate) :
    ∃ p, perSecond? rate = some p ∧ p.period = nanosPerSecond / rate ∧
      ((∀ times, times.Pairwise (· ≤ ·) → ∀ start,
          within start nanosPerSecond (p.slots times) ≤ rate) ↔ rate ∣ nanosPerSecond) ∧
      ∀ count, (∃ times, times.Pairwise (· ≤ ·) ∧ ∃ start,
          within start nanosPerSecond (p.slots times) = count) ↔
        (count - 1) * p.period < nanosPerSecond := by
  have hsecond : 0 < nanosPerSecond := by decide
  have hroom (times : List Nat) (start : Nat) :=
    within_spaced (slots_spaced ⟨nanosPerSecond / rate, 0⟩ times) start hsecond
  have hsorted (callers : Nat) : (List.replicate callers 0).Pairwise (· ≤ ·) :=
    List.pairwise_replicate.mpr (.inr (Nat.le_refl 0))
  refine ⟨⟨nanosPerSecond / rate, 0⟩, if_neg (Nat.ne_of_gt h), rfl, ⟨fun hkept => ?_, ?_⟩, ?_⟩
  · -- If something is cut off, one caller more than the rate gets a slot in the first second.
    by_contra hrest
    have hlt : rate * (nanosPerSecond / rate) < nanosPerSecond :=
      Nat.lt_of_le_of_ne (Nat.mul_div_le ..) fun he => hrest ⟨_, he.symm⟩
    have hmany := within_replicate (rate + 1) (by simpa using hlt)
    have := hkept _ (hsorted (rate + 1)) 0
    omega
  · intro hdvd times _ start
    have hperiod := Nat.mul_div_cancel' hdvd
    by_contra hmany
    have hle : rate ≤ within start nanosPerSecond (slots ⟨nanosPerSecond / rate, 0⟩ times) - 1 := by
      omega
    have := Nat.mul_le_mul_right (nanosPerSecond / rate) hle
    have := hroom times start
    dsimp only at this
    omega
  · rintro count
    constructor
    · rintro ⟨times, -, start, rfl⟩
      exact hroom times start
    · intro hcount
      exact ⟨_, hsorted count, 0, within_replicate count hcount⟩

theorem four_kept_three_exceeded : 0 < 4 ∧ 0 < 3 ∧
    (∀ times, times.Pairwise (· ≤ ·) → ∀ start,
      within start nanosPerSecond (slots ⟨250000000, 0⟩ times) ≤ 4) ∧
    (∃ times, times.Pairwise (· ≤ ·) ∧ ∃ start,
      within start nanosPerSecond (slots ⟨333333333, 0⟩ times) = 4) ∧
    ¬ ∃ times, times.Pairwise (· ≤ ·) ∧ ∃ start,
      within start nanosPerSecond (slots ⟨333333333, 0⟩ times) = 5 := by
  obtain ⟨p, hp, -, hfour, -⟩ := rate_kept_iff (show 0 < 4 by decide)
  obtain ⟨q, hq, hperiod, -, hthree⟩ := rate_kept_iff (show 0 < 3 by decide)
  cases hp
  cases hq
  refine ⟨by decide, by decide, hfour.mpr (by decide), (hthree 4).mpr (by decide), ?_⟩
  exact fun hfive => absurd ((hthree 5).mp hfive) (by decide)

/-- At three a second, four callers that ask at once all get a slot within one second. -/
theorem fourth_slot_too_early : ∃ p, perSecond? 3 = some p ∧
    p.slots [0, 0, 0, 0] = [0, 333333333, 666666666, 999999999] ∧
    ¬ within 0 nanosPerSecond (p.slots [0, 0, 0, 0]) ≤ 3 :=
  ⟨⟨333333333, 0⟩, by decide, by decide, by decide⟩

end Guardrail.Moderation.Pacer
