import BatteryIndicator.Proofs.EvaluationRun
import Mathlib.Algebra.Ring.Parity
/-!
# FlashRun — the two icons of a flashing step in turn

One phase serves the flashing steps of all themes and of both directions.  An evaluation that meets such a step shows the
icon that the phase says and turns the phase; any other evaluation leaves it alone (`phase_outcome`).  So the phase after
a run is that of the start, turned as often as a flashing step was met (`phase_run`), and the icons of flashing steps
alternate whatever is evaluated between them (`flashing_alternates`).
-/
namespace BatteryIndicator
namespace Evaluation

/-- The step that covers the level has an alternate icon. -/
def Call.flashes (c : Call) : Bool := (stepFor c.theme c.direction c.level).any Step.flashing

variable {s : State} {c : Call} {step : Step}

/-! ## One evaluation -/

theorem flashes_eq_true_iff : c.flashes = true ↔
    ∃ step alternate, stepFor c.theme c.direction c.level = some step ∧ step.alternate = some alternate := by
  unfold Call.flashes Step.flashing
  rw [Option.any_eq_true]
  simp only [Option.isSome_iff_exists]
  constructor
  · rintro ⟨step, hstep, alternate, halternate⟩
    exact ⟨step, alternate, hstep, halternate⟩
  · rintro ⟨step, alternate, hstep, halternate⟩
    exact ⟨step, hstep, alternate, halternate⟩

/-- **A flashing step turns the phase**, and nothing else does. -/
theorem phase_outcome (s : State) (c : Call) : (c.outcome s).2.phase = (s.phase ^^ c.flashes) := by
  obtain ⟨hnone, h⟩ | ⟨step, hstep, h⟩ := evaluate_cases c.theme c.direction c.level s
  · have hflashes : c.flashes = false := by simp [Call.flashes, hnone]
    rw [Call.outcome, h, hflashes, Bool.xor_false]
  · have hflashes : c.flashes = step.flashing := by simp [Call.flashes, hstep]
    rw [Call.outcome, h, hflashes]
    unfold State.next
    by_cases hflashing : step.flashing = true
    · simp [hflashing]
    · simp [hflashing]

/-- A flashing step shows its alternate icon in one phase and its primary icon in the other. -/
theorem outcome_of_flashing {alternate : String} (hstep : stepFor c.theme c.direction c.level = some step)
    (halternate : step.alternate = some alternate) :
    (c.outcome s).1.step = some step ∧ (c.outcome s).1.alternate = s.phase ∧
      (c.outcome s).1.icon = some (c.theme.directory.child (if s.phase then alternate else step.icon)) := by
  have hicon : iconOf s step = (if s.phase then alternate else step.icon, s.phase) := by
    unfold iconOf
    rw [halternate]
    cases s.phase <;> rfl
  unfold Call.outcome evaluate
  rw [hstep]
  dsimp only
  rw [hicon]
  exact ⟨rfl, rfl, rfl⟩

theorem outcome_of_steady (h : c.flashes = false) :
    (c.outcome s).1.alternate = false ∧
      (c.outcome s).1.icon =
        (stepFor c.theme c.direction c.level).map fun step => c.theme.directory.child step.icon := by
  obtain ⟨hnone, heval⟩ | ⟨step, hstep, heval⟩ := evaluate_cases c.theme c.direction c.level s
  · rw [Call.outcome, heval, hnone]
    exact ⟨rfl, rfl⟩
  · have halternate : step.alternate = none := by
      have hsteady : step.flashing = false := by simpa [Call.flashes, hstep] using h
      simpa [Step.flashing] using hsteady
    have hicon : iconOf s step = (step.icon, false) := by
      unfold iconOf
      rw [halternate]
    rw [Call.outcome, heval, hstep, hicon]
    exact ⟨rfl, rfl⟩

/-! ## Runs -/

/-- **The phase after a run** is the phase before it, turned once for every flashing step. -/
theorem phase_run : ∀ (calls : List Call) (s : State),
    (run calls s).phase = (s.phase ^^ decide (Odd (calls.countP Call.flashes)))
  | [], s => by simp [run]
  | c :: cs, s => by
    have hrest : (run (c :: cs) s).phase = ((s.phase ^^ c.flashes) ^^ decide (Odd (cs.countP Call.flashes))) := by
      rw [← phase_outcome]
      exact phase_run cs (c.outcome s).2
    rw [hrest, List.countP_cons]
    -- a flashing step turns the parity of the count as it turns the phase
    by_cases hc : c.flashes = true
    · by_cases hodd : Odd (cs.countP Call.flashes) <;> simp [hc, hodd, Nat.odd_add_one]
    · simp [hc]

theorem run_concat (calls : List Call) (c : Call) (s : State) :
    run (calls ++ [c]) s = (c.outcome (run calls s)).2 := by
  simp [run]

/-- Every evaluation of a run is made in the state that the evaluations before it left. -/
theorem outcomes_eq_append : ∀ (calls : List Call) (s : State) (before : List (Call × Evaluation)) (c : Call)
    (e : Evaluation) (after : List (Call × Evaluation)), outcomes s calls = before ++ (c, e) :: after →
      e = (c.outcome (run (before.map Prod.fst) s)).1
  | [], _, before, _, _, _, h => by cases before <;> cases h
  | d :: ds, s, [], c, e, after, h => by
    rw [outcomes, List.nil_append, List.cons.injEq] at h
    obtain ⟨rfl, rfl⟩ := Prod.mk.inj h.1
    rfl
  | d :: ds, s, b :: before, c, e, after, h => by
    rw [outcomes, List.cons_append, List.cons.injEq] at h
    obtain ⟨rfl, h⟩ := h
    exact outcomes_eq_append ds (d.outcome s).2 before c e after h

/-- **Flashing steps alternate strictly.**  Of the evaluations of a run, those that meet a flashing step show its
alternate icon and its primary icon in turn, beginning with what the phase at the start says, whatever themes,
directions and levels they are of and whatever stands between them.  All others show no alternate icon and leave the
phase as it is.  After the run the phase has turned as often as a flashing step was met. -/
theorem flashing_alternates (s : State) (calls : List Call) :
    (∀ before c e after, outcomes s calls = before ++ (c, e) :: after →
      (c.flashes = true → ∃ step alternate,
        stepFor c.theme c.direction c.level = some step ∧ step.alternate = some alternate ∧ e.step = some step ∧
        e.alternate = (s.phase ^^ decide (Odd (before.countP fun o => o.1.flashes))) ∧
        e.icon = some (c.theme.directory.child (if e.alternate then alternate else step.icon))) ∧
      (c.flashes = false →
        e.alternate = false ∧
        e.icon = (stepFor c.theme c.direction c.level).map (fun step => c.theme.directory.child step.icon) ∧
        (run (before.map Prod.fst ++ [c]) s).phase = (run (before.map Prod.fst) s).phase)) ∧
    (run calls s).phase = (s.phase ^^ decide (Odd (calls.countP Call.flashes))) := by
  refine ⟨fun before c e after hsplit => ?_, phase_run calls s⟩
  have he := outcomes_eq_append calls s before c e after hsplit
  have hphase : (run (before.map Prod.fst) s).phase =
      (s.phase ^^ decide (Odd (before.countP fun o => o.1.flashes))) := by
    rw [phase_run, List.countP_map]
    rfl
  constructor
  · intro hflashes
    obtain ⟨step, alternate, hstep, halternate⟩ := flashes_eq_true_iff.1 hflashes
    obtain ⟨hshown, hturn, hicon⟩ := outcome_of_flashing (s := run (before.map Prod.fst) s) hstep halternate
    rw [← he] at hshown hturn hicon
    refine ⟨step, alternate, hstep, halternate, hshown, hturn.trans hphase, ?_⟩
    rw [hicon, hturn]
  · intro hsteady
    obtain ⟨halternate, hicon⟩ := outcome_of_steady (s := run (before.map Prod.fst) s) hsteady
    rw [← he] at halternate hicon
    refine ⟨halternate, hicon, ?_⟩
    rw [run_concat, phase_outcome, hsteady, Bool.xor_false]

/-- A theme that flashes while it charges and when the battery is low. -/
def beacon : Theme Step :=
  ⟨some 2, .ofString "icons", [⟨0, 90, "plug.png", some "bolt.png", none⟩, ⟨90, 100, "full.png", none, none⟩],
    [⟨0, 10, "low.png", some "empty.png", none⟩, ⟨10, 100, "good.png", none, none⟩]⟩

/-- A low battery, a good one, an empty one that no step covers, and a charge. -/
def dipping : List Call :=
  [⟨beacon, .discharging, 5⟩, ⟨beacon, .discharging, 50⟩, ⟨beacon, .discharging, 0⟩]

theorem flashing_alternates_dipping :
    ∃ e, outcomes ⟨none, true⟩ (dipping ++ [⟨beacon, .charging, 50⟩]) =
        outcomes ⟨none, true⟩ dipping ++ [(⟨beacon, .charging, 50⟩, e)] ∧
      Call.flashes ⟨beacon, .charging, 50⟩ = true ∧ e.alternate = false ∧
      ∃ step alternate, e.step = some step ∧ step.alternate = some alternate ∧
        e.icon = some (beacon.directory.child step.icon) := by
  have hsplit : outcomes ⟨none, true⟩ (dipping ++ [⟨beacon, .charging, 50⟩]) =
      outcomes ⟨none, true⟩ dipping ++ [(⟨beacon, .charging, 50⟩, _)] := rfl
  have hflashes : Call.flashes ⟨beacon, .charging, 50⟩ = true := by decide +kernel
  obtain ⟨step, alternate, -, halternate, hstep, hturn, hicon⟩ :=
    ((flashing_alternates ⟨none, true⟩ _).1 _ _ _ [] hsplit).1 hflashes
  have hcount : ((outcomes ⟨none, true⟩ dipping).countP fun o => o.1.flashes) = 1 := by decide +kernel
  rw [hcount] at hturn
  refine ⟨_, hsplit, hflashes, hturn, step, alternate, hstep, halternate, ?_⟩
  rw [hicon, hturn]
  rfl

end Evaluation
end BatteryIndicator
