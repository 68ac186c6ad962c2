import BatteryIndicator.Proofs.Theme.Registered
import Mathlib.Data.List.DropRight
/-!
# Shape — step sets and the declared number of steps

A step set is checked when it is assigned, and not again when its block declares another number of steps.  So it has as
many steps as were declared when it was assigned last (`Sized`), and it fits its theme exactly when no later line of
the block declares another number.
-/
namespace BatteryIndicator
namespace Theme

variable {key value text : String} {d : Direction} {t t' : Theme Step}

/-- Whether two directions use one step set. -/
def SameSet (d e : Direction) : Prop := d = .discharging ↔ e = .discharging

instance (d e : Direction) : Decidable (SameSet d e) := inferInstanceAs (Decidable (_ ↔ _))

theorem stepsFor_putSteps (d e : Direction) (steps : List Step) (t : Theme Step) :
    (t.putSteps d steps).stepsFor e = if SameSet d e then steps else t.stepsFor e := by
  cases d <;> cases e <;> rfl

theorem stepsFor_congr (hcharging : t'.charging = t.charging) (hdischarging : t'.discharging = t.discharging)
    (d : Direction) : t'.stepsFor d = t.stepsFor d := by
  cases d <;> assumption

theorem setSteps_eq_ok {steps : List Step} (h : t.setSteps d steps = .ok t') :
    t.stepCount = some steps.length ∧ t' = t.putSteps d steps := by
  unfold setSteps checkShape at h
  split at h
  · next hcount => cases h; exact ⟨hcount, rfl⟩
  · cases h

namespace File

/-- The number of steps that a line declares, if the declaration is accepted. -/
def countOf? (text : String) : Option Nat :=
  match Line.classify text with
  | .pair key value =>
    if key = "steps" then (Numeral.int? value.toList).bind fun n => if 0 < n then some n.toNat else none else none
  | _ => none

/-- The key of the step set that is used in a direction. -/
def stepKey : Direction → String
  | .discharging => "discharging"
  | _ => "charging"

/-- Whether a line assigns the step set that is used in a direction. -/
def definesSteps (d : Direction) (text : String) : Bool :=
  match Line.classify text with
  | .pair key _ => key == stepKey d
  | _ => false

/-- The last number of steps that lines declare. -/
def lastCount (body : List String) : Option Nat := (body.filterMap countOf?).getLast?

/-- The lines up to the last one that assigns a step set. -/
def upToLast (d : Direction) (body : List String) : List String := body.rdropWhile fun l => !definesSteps d l

/-! ## What one line does -/

theorem setStepCount_eq_ok {n : Int} (h : t.setStepCount n = .ok t') :
    0 < n ∧ t' = { t with stepCount := some n.toNat } := by
  unfold setStepCount at h
  split at h
  · cases h
  · next hn => cases h; exact ⟨by omega, rfl⟩

theorem declareCount_made {dropped : List DroppedEntry} (h : t.declareCount value = .made t' dropped) :
    ∃ n : Int, Numeral.int? value.toList = some n ∧ 0 < n ∧ t' = { t with stepCount := some n.toNat } := by
  unfold declareCount at h
  split at h
  · cases h
  · next n hn =>
    split at h
    · next hset =>
      cases h
      obtain ⟨hpos, rfl⟩ := setStepCount_eq_ok hset
      exact ⟨n, hn, hpos, rfl⟩
    · cases h

theorem declareCount_ignored {fault : LineFault} (h : t.declareCount value = .ignored fault) (n : Int)
    (hn : Numeral.int? value.toList = some n) : ¬ 0 < n := by
  intro hpos
  rw [declareCount, hn] at h
  dsimp only at h
  rw [setStepCount, if_neg (by omega)] at h
  cases h

theorem defineSteps_made {dropped : List DroppedEntry} (h : t.defineSteps d value = .made t' dropped) :
    ∃ r, Step.Definition.read value (t.stepCount.getD 0) = .ok r ∧ t.stepCount = some r.steps.length ∧
      t' = t.putSteps d r.steps := by
  unfold defineSteps at h
  split at h
  · cases h
  · next r hr =>
    split at h
    · next hset => cases h; exact ⟨r, hr, setSteps_eq_ok hset⟩
    · cases h

theorem defineSteps_ne_ignored (fault : LineFault) : t.defineSteps d value ≠ .ignored fault := by
  intro h
  unfold defineSteps at h
  split at h
  · cases h
  · split at h <;> cases h

/-- **A key and a value declare the number of steps, set the directory, or assign one of the step sets**, with the steps
that the value defines, whose number is then the one declared. -/
theorem apply_made {dropped : List DroppedEntry} (h : t.apply key value = .made t' dropped) :
    (key = "steps" ∧ ∃ n : Int, Numeral.int? value.toList = some n ∧ 0 < n ∧
      t' = { t with stepCount := some n.toNat }) ∨
    (key = "dir" ∧ t' = t.setDirectory (.ofString value)) ∨
    ∃ r, Step.Definition.read value (t.stepCount.getD 0) = .ok r ∧ t.stepCount = some r.steps.length ∧
      (key = "charging" ∧ t' = t.putSteps .charging r.steps ∨
        key = "discharging" ∧ t' = t.putSteps .discharging r.steps) := by
  unfold apply at h
  split at h
  · next hkey => exact .inl ⟨hkey, declareCount_made h⟩
  split at h
  · next hkey => cases h; exact .inr (.inl ⟨hkey, rfl⟩)
  split at h
  · next hkey =>
    obtain ⟨r, hr, hcount, ht⟩ := defineSteps_made h
    exact .inr (.inr ⟨r, hr, hcount, .inl ⟨hkey, ht⟩⟩)
  split at h
  · next hkey =>
    obtain ⟨r, hr, hcount, ht⟩ := defineSteps_made h
    exact .inr (.inr ⟨r, hr, hcount, .inr ⟨hkey, ht⟩⟩)
  · cases h

/-- A line that is ignored declares nothing and assigns nothing. -/
theorem apply_ignored {fault : LineFault} (h : t.apply key value = .ignored fault) :
    key ≠ "charging" ∧ key ≠ "discharging" ∧
      (key = "steps" → ∀ n : Int, Numeral.int? value.toList = some n → ¬ 0 < n) := by
  unfold apply at h
  split at h
  · next hkey =>
    subst hkey
    exact ⟨by decide, by decide, fun _ => declareCount_ignored h⟩
  · next hkey =>
    split at h
    · cases h
    split at h
    · exact absurd h (defineSteps_ne_ignored fault)
    split at h
    · exact absurd h (defineSteps_ne_ignored fault)
    · next hcharging hdischarging => exact ⟨hcharging, hdischarging, fun hsteps => absurd hsteps hkey⟩

theorem countOf?_pair (h : Line.classify text = .pair key value) :
    countOf? text =
      if key = "steps" then (Numeral.int? value.toList).bind fun n => if 0 < n then some n.toNat else none
      else none := by
  rw [countOf?, h]

theorem definesSteps_pair (h : Line.classify text = .pair key value) (d : Direction) :
    definesSteps d text = (key == stepKey d) := by
  rw [definesSteps, h]

/-- No other key assigns a step set. -/
theorem beq_stepKey (hcharging : key ≠ "charging") (hdischarging : key ≠ "discharging") (d : Direction) :
    (key == stepKey d) = false := by
  cases d <;> simp [stepKey, hcharging, hdischarging]

/-- Lines other than keys and values declare nothing and assign nothing. -/
theorem shapeless (h : ∀ key value, Line.classify text ≠ .pair key value) (d : Direction) :
    countOf? text = none ∧ definesSteps d text = false := by
  unfold countOf? definesSteps
  constructor
  · split
    · next key value hline => exact absurd hline (h key value)
    · rfl
  · split
    · next key value hline => exact absurd hline (h key value)
    · rfl

/-- **What a line of a block does to the shape of its theme**: it moves the count to the one it declares, and it changes
a step set only by assigning it, at the size that is declared. -/
theorem applyLine_shape (h : applyLine t text = .ok t') (d : Direction) :
    t'.stepCount = (countOf? text).or t.stepCount ∧
      (definesSteps d text = true → countOf? text = none ∧ t.stepCount = some (t'.stepsFor d).length) ∧
      (definesSteps d text = false → t'.stepsFor d = t.stepsFor d) := by
  unfold applyLine at h
  split at h
  · next key value hline =>
    rw [countOf?_pair hline, definesSteps_pair hline]
    split at h
    · next happly =>
      cases h
      rcases apply_made happly with ⟨rfl, n, hn, hpos, rfl⟩ | ⟨rfl, rfl⟩ | ⟨r, -, hcount, ⟨rfl, rfl⟩ | ⟨rfl, rfl⟩⟩
      · rw [if_pos rfl, hn, Option.bind_some, if_pos hpos, beq_stepKey (by decide) (by decide)]
        exact ⟨rfl, fun hd => absurd hd Bool.false_ne_true, fun _ => by cases d <;> rfl⟩
      · rw [if_neg (by decide), beq_stepKey (by decide) (by decide)]
        exact ⟨rfl, fun hd => absurd hd Bool.false_ne_true, fun _ => by cases d <;> rfl⟩
      · rw [if_neg (by decide), stepsFor_putSteps]
        cases d <;> simp [stepKey, hcount, putSteps, SameSet]
      · rw [if_neg (by decide), stepsFor_putSteps]
        cases d <;> simp [stepKey, hcount, putSteps, SameSet]
    · next happly =>
      cases h
      obtain ⟨hcharging, hdischarging, hcount⟩ := apply_ignored happly
      rw [beq_stepKey hcharging hdischarging]
      refine ⟨?_, fun hd => absurd hd Bool.false_ne_true, fun _ => rfl⟩
      split
      · next hkey =>
        cases hn : Numeral.int? value.toList with
        | none => rfl
        | some n => rw [Option.bind_some, if_neg (hcount hkey n hn)]; rfl
      · rfl
    · cases h
  · next hline =>
    cases h
    obtain ⟨hcount, hdefines⟩ := shapeless hline d
    rw [hcount, hdefines]
    exact ⟨rfl, fun hd => absurd hd Bool.false_ne_true, fun _ => rfl⟩

/-! ## All lines of a block -/

variable {body : List String}

theorem countOf?_pos {n : Nat} (h : countOf? text = some n) : 0 < n := by
  unfold countOf? at h
  split at h
  · split at h
    · obtain ⟨i, -, hi⟩ := Option.bind_eq_some_iff.1 h
      split at hi
      · cases hi; omega
      · cases hi
    · cases h
  · cases h

theorem lastCount_pos {n : Nat} (h : lastCount body = some n) : 0 < n := by
  obtain ⟨l, -, hl⟩ := List.mem_filterMap.1 (List.mem_of_getLast? h)
  exact countOf?_pos hl

theorem lastCount_concat (body : List String) (l : String) :
    lastCount (body ++ [l]) = (countOf? l).or (lastCount body) := by
  rw [lastCount, List.filterMap_append, List.getLast?_append, lastCount]
  cases h : countOf? l <;> simp [h]

theorem upToLast_concat (d : Direction) (body : List String) (l : String) :
    upToLast d (body ++ [l]) = if definesSteps d l then body ++ [l] else upToLast d body := by
  rw [upToLast, List.rdropWhile_concat, upToLast]
  cases definesSteps d l <;> rfl

/-- **The shape that the lines of a block give its theme**: the count that was declared last, and in each direction as
many steps as were declared when they were assigned last. -/
structure Sized (body : List String) (t : Theme Step) : Prop where
  count : t.stepCount = lastCount body
  unassigned : ∀ d, upToLast d body = [] → t.stepsFor d = []
  assigned : ∀ d, upToLast d body ≠ [] → lastCount (upToLast d body) = some (t.stepsFor d).length

namespace Sized

theorem new (directory : Path) : Sized [] (.new directory) :=
  ⟨rfl, fun d _ => by cases d <;> rfl, fun _ h => absurd rfl h⟩

theorem concat (h : Sized body t) (hline : applyLine t text = .ok t') : Sized (body ++ [text]) t' := by
  refine ⟨?_, fun d => ?_, fun d => ?_⟩
  · rw [lastCount_concat, ← h.count]
    exact (applyLine_shape hline .charging).1
  all_goals
    obtain ⟨-, hassigns, hkeeps⟩ := applyLine_shape hline d
    rw [upToLast_concat]
    cases hd : definesSteps d text
  · rw [if_neg Bool.false_ne_true, hkeeps hd]
    exact h.unassigned d
  · rw [if_pos rfl]
    exact fun hnil => absurd hnil (by simp)
  · rw [if_neg Bool.false_ne_true, hkeeps hd]
    exact h.assigned d
  · rw [if_pos rfl]
    obtain ⟨hcount, hsize⟩ := hassigns hd
    exact fun _ => by rw [lastCount_concat, hcount, ← h.count, hsize]; rfl

theorem of_build (directory : Path) : ∀ {body : List String} {t : Theme Step}, build directory body = .ok t →
    Sized body t := by
  intro body
  -- from the last line, since a step set is measured against the lines before it
  induction body using List.reverseRecOn with
  | nil => intro t h; cases h; exact new directory
  | append_singleton body l ih =>
    intro t h
    obtain ⟨t₀, hbody, hline⟩ := build_concat_eq_ok h
    exact (ih hbody).concat hline

theorem stepsFor_eq_nil_iff (h : Sized body t) (d : Direction) : t.stepsFor d = [] ↔ upToLast d body = [] := by
  refine ⟨fun hnil => ?_, h.unassigned d⟩
  by_contra hne
  have hcount := h.assigned d hne
  rw [hnil] at hcount
  exact absurd (lastCount_pos hcount) (by decide)

/-- A step set that is assigned fits its theme if no other count was declared after it. -/
theorem fits_iff (h : Sized body t) (d : Direction) :
    (t.stepsFor d = [] ∨ t.stepCount = some (t.stepsFor d).length) ↔
      (upToLast d body = [] ∨ lastCount (upToLast d body) = lastCount body) := by
  rw [h.stepsFor_eq_nil_iff]
  by_cases hnil : upToLast d body = []
  · exact ⟨fun _ => .inl hnil, fun _ => .inl hnil⟩
  · rw [h.count, h.assigned d hnil]
    exact or_congr_right eq_comm

end Sized

/-- **The themes of theme files have the shape that the lines of their blocks give them.**  A count is positive.  A step
set is empty if no line of the block assigns it, and then only; it has as many steps as the theme declares, unless a line
after the last assignment declares another number. -/
theorem shape_of_registered {files : List Source} {name : String} {t : Theme Step}
    (h : (registered files).theme? name = some t) :
    (∀ n, t.stepCount = some n → 0 < n) ∧
      ∃ s ∈ files, ∃ body, (name, body) ∈ blocks s.lines ∧ build s.origin.directory body = .ok t ∧
        ∀ d, (t.stepsFor d = [] ↔ upToLast d body = []) ∧
          ((t.stepsFor d = [] ∨ t.stepCount = some (t.stepsFor d).length) ↔
            (upToLast d body = [] ∨ lastCount (upToLast d body) = lastCount body)) := by
  obtain ⟨s, hs, body, hmem, hbuild⟩ := block_of_registered h
  have hsized := Sized.of_build _ hbuild
  refine ⟨fun n hn => ?_, s, hs, body, hmem, hbuild, fun d => ⟨hsized.stepsFor_eq_nil_iff d, hsized.fits_iff d⟩⟩
  rw [hsized.count] at hn
  exact lastCount_pos hn

/-- A theme file that declares another number of steps after a step set. -/
def redeclared : Source :=
  ⟨⟨"themes.conf", .ofString "icons"⟩, ["[a]", "steps = 1", "charging = 100:x.png", "steps = 2"], none⟩

theorem shape_of_redeclared :
    ∃ t, (registered [redeclared]).theme? "a" = some t ∧ t.stepsFor .discharging = [] ∧
      ¬ (t.stepsFor .charging = [] ∨ t.stepCount = some (t.stepsFor .charging).length) := by
  obtain ⟨t, ht⟩ : ∃ t, (registered [redeclared]).theme? "a" = some t := Option.isSome_iff_exists.1 (by decide +kernel)
  obtain ⟨-, s, hs, body, hmem, -, hshape⟩ := shape_of_registered ht
  have hblocks : blocks redeclared.lines = [("a", ["steps = 1", "charging = 100:x.png", "steps = 2"])] := by
    decide +kernel
  rw [List.mem_singleton.1 hs, hblocks, List.mem_singleton] at hmem
  cases hmem
  refine ⟨t, ht, (hshape .discharging).1.2 (by decide +kernel), fun hfits => ?_⟩
  exact absurd ((hshape .charging).2.1 hfits) (by decide +kernel)

/-- A registered theme may have another number of steps than it declares. -/
theorem not_all_registered_fit :
    ¬ ∀ (files : List Source) (name : String) (t : Theme Step), (registered files).theme? name = some t →
      (∀ n, t.stepCount = some n → 0 < n) ∧ ∀ d, t.stepsFor d = [] ∨ t.stepCount = some (t.stepsFor d).length := by
  intro h
  have hsizes : ((registered [redeclared]).theme? "a").map
      (fun t => (t.stepCount, (t.stepsFor .charging).length)) = some (some 2, 1) := by decide +kernel
  obtain ⟨t, ht, hsize⟩ := Option.map_eq_some_iff.1 hsizes
  obtain ⟨hcount, hlength⟩ := Prod.mk.inj hsize
  rcases (h [redeclared] "a" t ht).2 .charging with hnil | hfits
  · rw [hnil] at hlength
    cases hlength
  · rw [hcount, hlength] at hfits
    cases hfits

end File
end Theme
end BatteryIndicator
