import BatteryIndicator.Proofs.EvaluationRun
import BatteryIndicator.Proofs.Step.Chain
import BatteryIndicator.Proofs.Step.Malformed
import BatteryIndicator.Proofs.Theme.Shape
/-!
# Zero — what is shown at a level of exactly zero

The step sets of theme files are those of definitions (`defined_of_registered`), so they are chains that start at zero.
Zero is not above the start of such a chain, but a maximum may be any number that can be written: a step after a
negative maximum starts below zero, and covers zero unless it ends below it too (`hidden_at_zero_iff`).
-/
namespace BatteryIndicator

namespace Step

/-- The steps are those that some text defines. -/
def Defined (steps : List Step) : Prop := ∃ definition count r, Definition.read definition count = .ok r ∧ r.steps = steps

theorem defined_nil : Defined [] := ⟨"", 0, _, rfl, rfl⟩

theorem Defined.chained {steps : List Step} (h : Defined steps) : Chained 0 steps := by
  obtain ⟨definition, count, r, hr, rfl⟩ := h
  rw [(Definition.read_eq_ok_iff.1 hr).2]
  exact Definition.chained_ofEntries _ 0

/-- A text is not cut into more fields than an index can count. -/
theorem Defined.length_le {steps : List Step} (h : Defined steps) : steps.length ≤ 2 ^ 63 := by
  obtain ⟨definition, count, r, hr, rfl⟩ := h
  obtain ⟨hcount, rfl⟩ := Definition.read_eq_ok_iff.1 hr
  have hsteps := Definition.length_steps_le (Text.fields ',' (count - 1).toNat definition.toList) 0
  have hfields := Text.length_fields ',' (count - 1).toNat definition.toList
  rw [Definition.entries]
  omega

end Step

namespace Theme
namespace File

open Evaluation Step

variable {t t' : Theme Step} {text : String}

/-- A line leaves a step set as it is or puts a defined one in its place. -/
theorem applyLine_defined (h : applyLine t text = .ok t') (ht : ∀ d, Defined (t.stepsFor d)) (d : Direction) :
    Defined (t'.stepsFor d) := by
  unfold applyLine at h
  split at h
  · next key value hline =>
    split at h
    · next happly =>
      cases h
      rcases apply_made happly with ⟨-, n, -, -, rfl⟩ | ⟨-, rfl⟩ | ⟨r, hr, -, hset⟩
      · rw [stepsFor_congr rfl rfl]
        exact ht d
      · rw [stepsFor_congr rfl rfl]
        exact ht d
      · obtain ⟨e, rfl⟩ : ∃ e, t' = t.putSteps e r.steps := hset.elim (fun h => ⟨_, h.2⟩) fun h => ⟨_, h.2⟩
        rw [stepsFor_putSteps]
        split
        · exact ⟨value, _, r, hr, rfl⟩
        · exact ht d
    · cases h; exact ht d
    · cases h
  · cases h; exact ht d

theorem defined_of_build {directory : Path} {body : List String} (h : build directory body = .ok t) :
    ∀ d, Defined (t.stepsFor d) := by
  have hnew : ∀ d, Defined ((Theme.new directory).stepsFor d) := fun d => by cases d <;> exact defined_nil
  exact build_induction hnew (fun t text t' hline ht => applyLine_defined hline ht) h

/-- **The step sets of the themes of theme files are defined by a text**, or empty. -/
theorem defined_of_registered {files : List Source} {name : String} (h : (registered files).theme? name = some t) :
    ∀ d, Defined (t.stepsFor d) := by
  obtain ⟨s, -, body, -, hbuild⟩ := block_of_registered h
  exact defined_of_build hbuild

/-- **A theme of theme files shows nothing at a level of exactly zero unless a negative maximum of it is followed by one
that is not negative.**  Nothing shown means no icon, no step and no event, and a state that stays as it was; the level
may be either zero, and the direction and the state may be any. -/
theorem hidden_at_zero_iff {files : List Source} {name : String} (h : (registered files).theme? name = some t)
    (d : Direction) {level : Binary64} (hzero : level.equal 0 = true) (s : State) :
    evaluate t d level s = (.hidden, s) ↔ ((t.stepsFor d).map maximum).IsChain fun x y => x < 0 → ¬ 0 ≤ y := by
  have hle : level ≤ 0 := Binary64.le_of_equal hzero
  have hge : 0 ≤ level := Binary64.le_of_equal (Binary64.equal_symm hzero)
  have hlt : ∀ x : Binary64, x < level ↔ x < 0 := fun x =>
    ⟨fun hx => Binary64.lt_of_lt_of_le hx hle, fun hx => Binary64.lt_of_lt_of_le hx hge⟩
  have hreach : ∀ y : Binary64, level ≤ y ↔ 0 ≤ y := fun y =>
    ⟨fun hy => Binary64.le_trans hge hy, fun hy => Binary64.le_trans hle hy⟩
  have hstart : ¬ (0 : Binary64) < 0 := by decide +kernel
  rw [evaluate_eq_hidden_iff, stepFor, List.find?_eq_none, (defined_of_registered h d).chained.uncovered_iff,
    List.isChain_cons]
  simp only [hlt, hreach]
  exact ⟨fun hchain => hchain.2, fun hchain => ⟨fun y _ hneg => absurd hneg hstart, hchain⟩⟩

/-- A theme file whose maxima fall below zero and rise again, when it charges by way of what is not a number. -/
def sunken : Source :=
  ⟨⟨"themes.conf", .ofString "icons"⟩,
    ["[a]", "steps = 3", "charging = -5:a.png, nan:b.png, 100:c.png", "discharging = -5:a.png, 0:b.png, 100:c.png"], none⟩

theorem hidden_at_zero_sunken :
    ∃ t, (registered [sunken]).theme? "a" = some t ∧ (Binary64.zero true).equal 0 = true ∧
      evaluate t .full (.zero true) .start = (.hidden, .start) ∧ evaluate t .discharging 0 .start ≠ (.hidden, .start) := by
  have hmaxima : ((registered [sunken]).theme? "a").map
      (fun t => ((t.stepsFor .full).map maximum, (t.stepsFor .discharging).map maximum)) =
        some ([Binary64.neg 5, .notANumber, 100], [Binary64.neg 5, 0, 100]) := by decide +kernel
  obtain ⟨t, ht, hsteps⟩ := Option.map_eq_some_iff.1 hmaxima
  obtain ⟨hcharging, hdischarging⟩ := Prod.mk.inj hsteps
  have hzero : (Binary64.zero true).equal 0 = true := by decide +kernel
  refine ⟨t, ht, hzero, (hidden_at_zero_iff ht .full hzero .start).2 ?_, fun hshown => ?_⟩
  · rw [hcharging]
    decide +kernel
  · have hchain := (hidden_at_zero_iff ht .discharging (by decide +kernel) .start).1 hshown
    rw [hdischarging] at hchain
    exact absurd hchain (by decide +kernel)

/-- A level of exactly zero may be covered by a step. -/
theorem not_always_hidden_at_zero :
    ¬ ∀ (files : List Source) (name : String) (t : Theme Step), (registered files).theme? name = some t →
      ∀ (d : Direction) (s : State), evaluate t d 0 s = (.hidden, s) := by
  intro h
  have hshown : ((registered [sunken]).theme? "a").map (fun t => (evaluate t .discharging 0 .start).1.visible) =
      some true := by decide +kernel
  obtain ⟨t, ht, hvisible⟩ := Option.map_eq_some_iff.1 hshown
  rw [h [sunken] "a" t ht .discharging .start] at hvisible
  cases hvisible

end File
end Theme
end BatteryIndicator
