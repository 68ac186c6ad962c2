import BatteryIndicator.Proofs.Step.Malformed
import BatteryIndicator.Proofs.Theme.Assignment
import BatteryIndicator.Proofs.Theme.Shape
/-!
# StepLine — the line that assigns a step set

A step set is assigned by one line, whose value is cut into as many fields as the theme declares steps.  The line is
accepted exactly if the theme declares a number of steps, the value has that many fields, and none of them is malformed;
nothing makes up for a field that is dropped (`defineSteps_eq`).
-/
namespace BatteryIndicator
namespace Theme

open Step (Chained Malformed Writes entryOf)
open Step.Definition

/-- The fields that a definition is cut into for a theme. -/
def fieldsFor (t : Theme Step) (definition : String) : List (List Char) :=
  Text.fields ',' (t.stepCount.getD 0 - 1) definition.toList

/-- A definition that is no step set for a theme: the theme declares no number of steps, the definition has not enough
commas for it, or a field is malformed. -/
def Unfit (t : Theme Step) (definition : String) : Prop :=
  t.stepCount = none ∨ (∃ n ∈ t.stepCount, definition.toList.count ',' < n - 1) ∨
    ∃ f ∈ t.fieldsFor definition, Malformed f

instance (t : Theme Step) (definition : String) : Decidable (t.Unfit definition) :=
  inferInstanceAs (Decidable (_ ∨ _ ∨ _))

/-- The entries that are dropped of a definition for a theme. -/
def droppedFor (t : Theme Step) (definition : String) : List DroppedEntry :=
  ((t.fieldsFor definition).filter fun f => decide (Malformed f)).map entryOf

variable {t : Theme Step} {d : Direction} {definition : String}

theorem read_fieldsFor (hcount : ∀ n ∈ t.stepCount, n ≤ 2 ^ 63) (definition : String) :
    read definition (t.stepCount.getD 0) = .ok (ofEntries 0 ((t.fieldsFor definition).map Text.trim)) := by
  have hcuts : ((t.stepCount.getD 0 : Nat) - 1 : Int).toNat = t.stepCount.getD 0 - 1 := by omega
  refine read_eq_ok_iff.2 ⟨?_, by rw [hcuts]; rfl⟩
  cases ht : t.stepCount with
  | none => decide
  | some n => exact_mod_cast hcount n ht

theorem length_steps_iff (hpos : ∀ n ∈ t.stepCount, 1 ≤ n) (definition : String) :
    t.stepCount = some (ofEntries 0 ((t.fieldsFor definition).map Text.trim)).steps.length ↔ ¬t.Unfit definition := by
  have hfields : (t.fieldsFor definition).length = min (t.stepCount.getD 0 - 1) (definition.toList.count ',') + 1 :=
    Text.length_fields _ _ _
  have hle := length_steps_le (t.fieldsFor definition) 0
  have hall := length_steps_eq_iff (t.fieldsFor definition) 0
  unfold Unfit
  cases ht : t.stepCount with
  | none => simp
  | some n =>
    have hn := hpos n ht
    rw [ht, Option.getD_some] at hfields
    simp only [Option.mem_some_iff, Option.some.injEq, reduceCtorEq, false_or, exists_eq_left', not_or, not_exists,
      not_and]
    rw [← hall]
    omega

/-- **What a definition does to a theme**: it is refused exactly if it is unfit, and else it puts the steps that its
fields write in the place of the step set; the malformed fields are told in both cases. -/
theorem defineSteps_eq (hcount : ∀ n ∈ t.stepCount, 1 ≤ n ∧ n ≤ 2 ^ 63) (d : Direction) (definition : String) :
    (t.Unfit definition ∧ ∃ actual,
      t.defineSteps d definition = .refused (.shapeMismatch t.stepCount actual) (t.droppedFor definition)) ∨
    (¬t.Unfit definition ∧ ∃ steps, t.stepCount = some steps.length ∧ List.Forall₂ Writes (t.fieldsFor definition) steps ∧
      Chained 0 steps ∧ t.defineSteps d definition = .made (t.putSteps d steps) (t.droppedFor definition)) := by
  have hread := read_fieldsFor (fun n hn => (hcount n hn).2) definition
  have hfits := length_steps_iff (fun n hn => (hcount n hn).1) definition
  have hdropped := dropped_ofEntries (t.fieldsFor definition) 0
  have hwrites := writes_ofEntries (t.fieldsFor definition) 0
  have hchain := chained_ofEntries ((t.fieldsFor definition).map Text.trim) 0
  generalize ofEntries 0 ((t.fieldsFor definition).map Text.trim) = r at hread hfits hdropped hwrites hchain
  unfold defineSteps setSteps checkShape
  rw [hread]
  by_cases hunfit : t.Unfit definition
  · refine .inl ⟨hunfit, r.steps.length, ?_⟩
    have hcheck : ¬t.stepCount = some r.steps.length := fun h => hfits.1 h hunfit
    simp only [if_neg hcheck, Except.map, hdropped]
    rfl
  · refine .inr ⟨hunfit, r.steps, hfits.2 hunfit, ?_, hchain, ?_⟩
    · have hall : (t.fieldsFor definition).filter (fun f => !decide (Malformed f)) = t.fieldsFor definition := by
        refine List.filter_eq_self.2 fun f hf => ?_
        have hsound : ¬Malformed f := fun h => hunfit (.inr (.inr ⟨f, hf, h⟩))
        simpa using hsound
      rwa [hall] at hwrites
    · simp only [if_pos (hfits.2 hunfit), Except.map, hdropped]
      rfl

theorem apply_stepKey (d : Direction) (value : String) (t : Theme Step) :
    t.apply (File.stepKey d) value = t.defineSteps d value := by
  cases d <;> rfl

namespace File

/-! ## The line -/

/-- The key of a step set, an equals sign and a definition are a line that assigns the step set. -/
theorem classify_written (d : Direction) (definition : String) (h : '\n' ∉ Text.trim definition.toList) :
    Line.classify (stepKey d ++ " = " ++ definition) =
      .pair (stepKey d) (String.ofList (Text.trim definition.toList)) := by
  obtain ⟨c, key, hkey, hstart, hinside, hlower⟩ : ∃ c key, (stepKey d).toList = c :: key ∧ Line.startsKey c = true ∧
      key.all Line.inKey = true ∧ Text.lower (c :: key) = c :: key := by
    cases d <;> exact ⟨_, _, rfl, by decide, by decide +kernel, by decide +kernel⟩
  have htext : stepKey d ++ " = " ++ definition = String.ofList (Line.assignment (c :: key) definition.toList) := by
    rw [← String.ofList_toList (s := stepKey d ++ " = " ++ definition), String.toList_append, String.toList_append, hkey]
    simp [Line.assignment]
  rw [htext, Line.classify_assignment hstart (List.all_eq_true.1 hinside) h, hlower, ← hkey, String.ofList_toList]

/-- **A line that assigns a step set is accepted exactly if it is well formed.**  Let the open block have declared from
one to `2 ^ 63` steps, or no number of steps yet.  The line is refused, for the shape of its step set and for nothing
else, exactly if no number is declared, or there are not enough commas, or a field is malformed; then the theme stays
as it is.  Otherwise the step set becomes the steps that the fields write, each where the one before it ends, and nothing
else of the theme changes.  In both cases each malformed field, and nothing else, is one more problem. -/
theorem step_line_accepted_iff (origin : Origin) (number : Nat) {p : Progress} {name text definition : String}
    {t : Theme Step} {d : Direction} (hline : Line.classify text = .pair (stepKey d) definition)
    (hopen : p.open? = some (name, t)) (hcount : ∀ n ∈ t.stepCount, 1 ≤ n ∧ n ≤ 2 ^ 63) :
    let noted := p.note ((t.droppedFor definition).map .entry)
    ((∃ declared actual q, step origin number text p = .error (.shapeMismatch declared actual, q)) ↔
      t.Unfit definition) ∧
    (∀ f q, step origin number text p = .error (f, q) →
      (∃ actual, f = .shapeMismatch t.stepCount actual) ∧ q = noted) ∧
    ∀ q, step origin number text p = .ok q →
      ∃ steps, q = { noted with open? := some (name, t.putSteps d steps) } ∧ t.stepCount = some steps.length ∧
        List.Forall₂ Writes (t.fieldsFor definition) steps ∧ Chained 0 steps := by
  intro noted
  rcases defineSteps_eq hcount d definition with ⟨hunfit, actual, hrefused⟩ | ⟨hfit, steps, hsize, hwrites, hchain, hmade⟩
  · have hstep : step origin number text p = .error (.shapeMismatch t.stepCount actual, noted) := by
      simp only [step, hline, hopen, apply_stepKey, hrefused, noted]
    rw [hstep]
    refine ⟨⟨fun _ => hunfit, fun _ => ⟨_, _, _, rfl⟩⟩, fun f q h => ?_, fun q h => (by cases h)⟩
    cases h
    exact ⟨⟨actual, rfl⟩, rfl⟩
  · have hstep : step origin number text p = .ok { noted with open? := some (name, t.putSteps d steps) } := by
      simp only [step, hline, hopen, apply_stepKey, hmade, noted]
    rw [hstep]
    refine ⟨⟨?_, fun h => absurd h hfit⟩, fun f q h => (by cases h), fun q h => ?_⟩
    · rintro ⟨declared, actual, q, h⟩
      cases h
    · cases h
      exact ⟨steps, rfl, hsize, hwrites, hchain⟩

/-- A comma in the last field is not cut at: in one line it belongs to an icon, in the other to what should be a
number. -/
theorem step_line_accepted_iff_commas :
    let origin : Origin := ⟨"themes", .ofString "icons"⟩
    let t : Theme Step := ⟨some 2, .ofString "icons", [], []⟩
    let p : Progress := ⟨[], some ("a", t), []⟩
    (∃ steps q, step origin 3 "charging = 50:low.png, 100:a,b.png:full.png" p = .ok q ∧
      q = { p with open? := some ("a", { t with charging := steps }) } ∧ steps.length = 2) ∧
    ∃ declared actual q, step origin 3 "discharging = 50:low.png, , 100:full.png" p =
        .error (.shapeMismatch declared actual, q) ∧
      q = { p with problems := [.entry ⟨", 100:full.png", .invalidMaximum ", 100"⟩] } := by
  intro origin t p
  have hcount : ∀ n ∈ t.stepCount, 1 ≤ n ∧ n ≤ 2 ^ 63 := by decide
  constructor
  · have hline := classify_written .charging "50:low.png, 100:a,b.png:full.png" (by decide)
    obtain ⟨hiff, hrefused, hmade⟩ := step_line_accepted_iff origin 3 (p := p) hline rfl hcount
    have hdropped : t.droppedFor (String.ofList (Text.trim "50:low.png, 100:a,b.png:full.png".toList)) = [] := by
      decide +kernel
    rw [hdropped] at hmade
    cases hstep : step origin 3 "charging = 50:low.png, 100:a,b.png:full.png" p with
    | error e =>
      obtain ⟨⟨actual, hf⟩, -⟩ := hrefused e.1 e.2 hstep
      have hunfit := hiff.1 ⟨_, actual, e.2, by rw [← hf]; exact hstep⟩
      exact absurd hunfit (by decide +kernel)
    | ok q =>
      obtain ⟨steps, rfl, hsize, -⟩ := hmade q hstep
      exact ⟨steps, _, rfl, rfl, (Option.some.inj hsize).symm⟩
  · have hline := classify_written .discharging "50:low.png, , 100:full.png" (by decide)
    obtain ⟨hiff, hrefused, -⟩ := step_line_accepted_iff origin 3 (p := p) hline rfl hcount
    have hdropped : t.droppedFor (String.ofList (Text.trim "50:low.png, , 100:full.png".toList)) =
        [⟨", 100:full.png", .invalidMaximum ", 100"⟩] := by decide +kernel
    rw [hdropped] at hrefused
    obtain ⟨declared, actual, q, hstep⟩ := hiff.2 (by decide +kernel)
    obtain ⟨-, rfl⟩ := hrefused _ _ hstep
    exact ⟨declared, actual, _, hstep, rfl⟩

end File
end Theme
end BatteryIndicator
