import Guardrail.Proofs.Moderation.Completion

/-! # What happens as time passes

`advance` is bounded by the work that is left, and every move that is due until then leaves less of
it (`work_perform_lt`); so the bound is never what ends it. It makes the earliest move again and
again, until none is due any more (`Advanced`). -/

namespace Guardrail.Moderation

namespace Detector

variable {d d' : Detector} {now target : Nat}

/-! ## While no move is due -/

/-- As long as no move is due, the moves and their instants stay the same. -/
theorem moves_eq_of_lt {later : Nat} (hle : now ≤ later) (h : ∀ m ∈ d.moves now, later < m.1) :
    d.moves later = d.moves now := by
  have hworker {i : Nat} (hi : i < d.workers.length) :
      d.workerMove later i d.workers[i] = d.workerMove now i d.workers[i] := by
    have hlt {m : Nat × Move} (hm : d.workerMove now i d.workers[i] = some m) : later < m.1 :=
      h m (mem_moves.mpr (.inl ⟨i, _, List.getElem?_eq_getElem hi, hm⟩))
    cases hw : d.workers[i] with
    | idle =>
      rw [hw] at hlt
      simp only [workerMove] at hlt ⊢
      split
      · rfl
      · rename_i hfree
        have := hlt (if_neg hfree)
        omega
    | taken | reporting =>
      rw [hw] at hlt
      have := hlt rfl
      omega
    | pacing | calling =>
      rw [hw] at hlt
      have := hlt rfl
      simp only [workerMove, Option.some.injEq, Prod.mk.injEq, and_true]
      omega
  have hsweeper {j : Nat} (hj : j < d.sweepers.length) :
      max later d.sweepers[j].next = max now d.sweepers[j].next := by
    have := h (max now d.sweepers[j].next, .tick j)
      (mem_moves.mpr (.inr ⟨j, _, List.getElem?_eq_getElem hj, rfl, rfl⟩))
    omega
  refine congrArg₂ (· ++ ·) (congrArg (List.filterMap id) ?_) ?_
  · exact List.mapIdx_eq_mapIdx_iff.mpr fun i hi => hworker hi
  · exact List.mapIdx_eq_mapIdx_iff.mpr fun j hj => by rw [hsweeper hj]

/-! ## Less and less is left to do -/

/-- Every sweeper has an interval, or else it would tick without end at one instant. -/
def Timed (d : Detector) : Prop := ∀ s ∈ d.sweepers, 0 < s.interval

theorem work_eq_load (d : Detector) (target : Nat) : d.work target =
    d.load (fun _ => true) + total (d.sweepers.map fun s => target + 1 - s.next) := by
  have hload : workerLoad (fun _ => true) = phase := by
    funext w
    cases w <;> rfl
  rw [work, load, hload, List.countP_true]

theorem perform_tick {j : Nat} {s : Sweeper} (hs : d.sweepers[j]? = some s) (now : Nat) :
    d.perform now (.tick j) = { d.sweep now with
      sweepers := d.sweepers.modify j fun s => { s with next := s.next + s.interval } } := by
  obtain ⟨hj, rfl⟩ := List.getElem?_eq_some_iff.mp hs
  rw [perform, hs, List.modify_eq_set_getElem?, hs]
  rfl

theorem Moved.sweepers {m : Move} (hm : Moved now d m d') (hworker : ∀ j, m ≠ .tick j) :
    d'.sweepers = d.sweepers := by
  cases hm with
  | take | acquire | begin | finish | report => rfl
  | tick j => exact absurd rfl (hworker j)

theorem work_perform_lt (hopen : d.closed = false) (htimed : d.Timed) {m : Move}
    (due : (now, m) ∈ d.moves now) (hle : now ≤ target) :
    (d.perform now m).work target < d.work target := by
  rcases mem_moves.mp due with ⟨i, w, -, hm⟩ | ⟨j, s, hs, hnext, rfl⟩
  · have hworker (j : Nat) : m ≠ .tick j := fun he => workerMove_ne_tick (he ▸ hm)
    have hmoved := perform_moved hopen due
    have hload := hmoved.load_lt hworker
    rw [work_eq_load, work_eq_load, hmoved.sweepers hworker]
    omega
  · have hinterval := htimed s (List.mem_of_getElem? hs)
    have hticks := total_modify (fun s : Sweeper => target + 1 - s.next)
      (fun s => { s with next := s.next + s.interval }) hs
    rw [perform_tick hs]
    simp only [work, sweep] at hticks ⊢
    omega

theorem Timed.perform (htimed : d.Timed) (hopen : d.closed = false) {m : Move}
    (due : (now, m) ∈ d.moves now) : (d.perform now m).Timed := by
  rcases mem_moves.mp due with ⟨i, w, -, hm⟩ | ⟨j, s, hs, -, rfl⟩
  · have hworker (j : Nat) : m ≠ .tick j := fun he => workerMove_ne_tick (he ▸ hm)
    rw [Timed, (perform_moved hopen due).sweepers hworker]
    exact htimed
  · rw [Timed, perform_tick hs]
    intro s' hs'
    obtain ⟨i, hi⟩ := List.mem_iff_getElem?.mp hs'
    rw [List.getElem?_modify] at hi
    obtain ⟨s, hs, rfl⟩ := Option.map_eq_some_iff.mp hi
    have := htimed s (List.mem_of_getElem? hs)
    split <;> exact this

/-! ## All that is due happens -/

/-- Until the target the earliest move is made, again and again, each at its instant, and then none
is due that early. -/
inductive Advanced (target : Nat) : Nat → Detector → Detector → Prop
  | rest {now : Nat} {d : Detector} (h : ∀ m ∈ d.moves now, target < m.1) : Advanced target now d d
  | move {now t : Nat} {d d' : Detector} {m : Move} (next : d.next? now = some (t, m))
      (due : t ≤ target) (h : Advanced target t (d.perform t m) d') : Advanced target now d d'

theorem advanced_of_work_le (hopen : d.closed = false) (htimed : d.Timed) {bound : Nat}
    (hbound : d.work target ≤ bound) :
    Advanced target now d (advanceUpTo target bound now d) := by
  induction bound generalizing now d with
  | zero =>
    refine .rest fun m hm => ?_
    obtain ⟨⟨t, first⟩, hnext, hle⟩ := next?_isSome_of_mem hm
    obtain ⟨-, due⟩ := due_of_mem_moves (next?_mem hnext)
    by_contra hlate
    have hdue : t ≤ target := by omega
    have := work_perform_lt hopen htimed due hdue
    omega
  | succ bound ih =>
    rw [advanceUpTo]
    split
    · rename_i t m hnext
      obtain ⟨-, due⟩ := due_of_mem_moves (next?_mem hnext)
      split
      · rename_i hle
        have hwork := work_perform_lt hopen htimed due hle
        have hfixed : Fixed d.client d.options d := ⟨rfl, rfl, hopen⟩
        have hopen' := (hfixed.moved (perform_moved hopen due)).not_closed
        exact .move hnext hle (ih hopen' (htimed.perform hopen due) (by omega))
      · rename_i hlate
        refine .rest fun m' hm' => ?_
        obtain ⟨first, hfirst, hle⟩ := next?_isSome_of_mem hm'
        cases hnext.symm.trans hfirst
        omega
    · rename_i hnone
      refine .rest fun m hm => ?_
      obtain ⟨first, hfirst, -⟩ := next?_isSome_of_mem hm
      cases hnone.symm.trans hfirst

/-- What happens by itself does not depend on when one begins to wait for it. -/
theorem Advanced.later (h : Advanced target now d d') {later : Nat} (hle : now ≤ later)
    (hquiet : ∀ m ∈ d.moves now, later < m.1) : Advanced target later d d' := by
  have hmoves := moves_eq_of_lt hle hquiet
  cases h with
  | rest h => exact .rest (hmoves ▸ h)
  | move next due h =>
    refine .move ?_ due h
    rw [next?_eq_minOn?, hmoves, ← next?_eq_minOn?, next]

end Detector

section Reachable

variable {client : Client} {options : Options} {now : Nat} {d : Detector}

theorem Reachable.timed (h : Reachable client options now d) : d.Timed := by
  induction h with
  | new => exact nofun
  | @step now _ d _ hr hs ih =>
    cases hs with
    | lookup text =>
      obtain ⟨cache, -, he⟩ := d.lookup_frame now text
      rw [he]
      exact ih
    | enqueue text =>
      unfold Detector.enqueue
      dsimp only
      split <;> exact ih
    | start workers =>
      rw [Detector.start_frame hr.fixed.not_closed]
      exact ih
    | startSweeper interval =>
      unfold Detector.startSweeper
      split
      · exact ih
      · rename_i hstarts
        intro s hs
        rcases List.mem_append.mp hs with hs | hs
        · exact ih s hs
        · cases List.mem_singleton.mp hs
          simp only [Bool.or_eq_true, decide_eq_true_eq, not_or] at hstarts
          exact Nat.pos_of_ne_zero hstarts.2
    | sweep | listen | wait => exact ih
    | move due => exact ih.perform hr.fixed.not_closed due

theorem Reachable.advanced (h : Reachable client options now d) (target : Nat) :
    Detector.Advanced target now d (d.advance now target) :=
  Detector.advanced_of_work_le h.fixed.not_closed h.timed (Nat.le_refl _)

end Reachable
end Guardrail.Moderation
