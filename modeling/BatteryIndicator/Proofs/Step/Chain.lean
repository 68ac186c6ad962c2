import BatteryIndicator.Evaluation
import BatteryIndicator.Proofs.Number.Order
import BatteryIndicator.Step.Definition
import Mathlib.Algebra.Group.Int.Defs
import Mathlib.Algebra.Group.Nat.Defs
import Mathlib.Data.List.Chain
/-!
# Chain — steps whose ranges join

The steps of a definition are a chain: the first range starts at zero and every other one where the range before it
ends, however many entries were dropped between the two (`chained_ofEntries`).  The maxima need not ascend, so ranges
of a chain may overlap or be empty.  Still no level above the start falls between two ranges: the first step that
reaches up to the level also starts below it (`Chained.find?_covers`).
-/
namespace BatteryIndicator
namespace Step

/-- Steps of which the first starts at a number, and every other one where the step before it ends. -/
inductive Chained : Binary64 → List Step → Prop
  | nil (start : Binary64) : Chained start []
  | cons (s : Step) {ss : List Step} (rest : Chained s.maximum ss) : Chained s.minimum (s :: ss)

/-- The step with no event attached. -/
def bare (s : Step) : Step := { s with event := none }

variable {start level : Binary64} {s : Step} {steps : List Step} {entry : List Char}

/-! ## The steps of a definition -/

theorem minimum_of_ofFields {fields : List (List Char)} (h : ofFields start fields = .ok s) : s.minimum = start := by
  unfold ofFields at h
  split at h
  · split at h
    · cases h
    · dsimp only at h
      split at h
      · cases h
      · cases h; rfl
  · cases h

theorem minimum_of_ofEntry (h : ofEntry start entry = .ok s) : s.minimum = start := minimum_of_ofFields h

namespace Definition

/-- **The entries give a chain**: one that is dropped leaves the start of the next one where it is. -/
theorem chained_ofEntries : ∀ (es : List (List Char)) (start : Binary64), Chained start (ofEntries start es).steps
  | [], start => .nil start
  | e :: es, start => by
    rw [ofEntries]
    cases h : ofEntry start e with
    | ok s =>
      have hchain : Chained s.minimum (s :: (ofEntries s.maximum es).steps) := .cons s (chained_ofEntries es s.maximum)
      rw [minimum_of_ofEntry h] at hchain
      exact hchain
    | error fault => exact chained_ofEntries es start

/-- A definition can be read unless it is for more steps than a text can be cut into. -/
theorem read_eq_ok_iff {definition : String} {count : Int} {r : Definition} :
    read definition count = .ok r ↔ count ≤ 2 ^ 63 ∧ r = ofEntries 0 (entries (count - 1).toNat definition) := by
  have hlimit : cutLimit = 2 ^ 63 - 1 := by decide
  unfold read
  dsimp only
  split
  · next hcuts =>
    constructor
    · intro h; cases h
    · rintro ⟨hcount, -⟩; omega
  · next hcuts =>
    constructor
    · intro h; cases h; exact ⟨by omega, rfl⟩
    · rintro ⟨-, rfl⟩; rfl

end Definition

/-! ## Levels -/

theorem covers_iff : s.covers level = true ↔ s.minimum < level ∧ level ≤ s.maximum := by
  rw [covers, Bool.and_eq_true]
  rfl

/-- Events have no part in a chain. -/
theorem chained_map_bare : ∀ {steps : List Step} {start : Binary64},
    Chained start (steps.map bare) ↔ Chained start steps
  | [], start => ⟨fun _ => .nil start, fun _ => .nil start⟩
  | s :: _, _ =>
    ⟨fun | .cons _ rest => .cons s (chained_map_bare.1 rest), fun | .cons _ rest => .cons s.bare (chained_map_bare.2 rest)⟩

/-- **Above its start a chain has no holes**: the first step that covers a level is the first one that reaches up to
it. -/
theorem Chained.find?_covers (h : Chained start steps) (hnumber : ∀ s ∈ steps, s.maximum.isNaN = false)
    (hstart : start < level) : steps.find? (fun s => s.covers level) = steps.find? fun s => level.le s.maximum := by
  -- along the chain: a step that does not reach up to the level ends below it, and there the next one starts
  induction h with
  | nil start => rfl
  | cons s rest ih =>
    have hcovers : s.covers level = level.le s.maximum := by
      have hlt : s.minimum.lt level = true := hstart
      rw [covers, hlt, Bool.true_and]
    rw [List.find?_cons, List.find?_cons, hcovers]
    cases hle : level.le s.maximum with
    | true => rfl
    | false =>
      have hnot : ¬ level ≤ s.maximum := fun h => Bool.false_ne_true (hle.symm.trans h)
      have hlevel : level.isNaN = false := Binary64.isNaN_right_of_le (Binary64.le_of_lt hstart)
      have hbelow : s.maximum < level := Binary64.lt_of_not_le hlevel (hnumber s List.mem_cons_self) hnot
      exact ih (fun t ht => hnumber t (List.mem_cons_of_mem _ ht)) hbelow

/-- A chain leaves a level uncovered when no number of it below the level is followed by one that reaches up to it. -/
theorem Chained.uncovered_iff (h : Chained start steps) :
    (∀ s ∈ steps, ¬ s.covers level) ↔
      (start :: steps.map maximum).IsChain fun x y => x < level → ¬ level ≤ y := by
  induction h with
  | nil start => simp
  | cons s rest ih =>
    rw [List.forall_mem_cons, List.map_cons, List.isChain_cons_cons, ih, covers_iff, not_and]

end Step

namespace Evaluation

open Step

/-- **No level above zero falls between the steps of a definition.**  A definition can be read when it is for at most
`2 ^ 63` steps, and only then, and its steps are a chain that starts at zero.  In a theme with these steps, whatever
events are attached to them, the step for a level above zero is the first one whose maximum reaches up to the level, and
there is none exactly when all maxima lie below it; the maxima may be in any order, as long as all of them are
numbers. -/
theorem stepFor_eq_first_reaching (definition : String) (count : Int) :
    ((∃ r, Definition.read definition count = .ok r) ↔ count ≤ 2 ^ 63) ∧
    ∀ r, Definition.read definition count = .ok r →
      Chained 0 r.steps ∧
      ∀ (t : Theme Step) (d : Direction) (level : Binary64), (t.stepsFor d).map bare = r.steps.map bare →
        (∀ s ∈ t.stepsFor d, s.maximum.isNaN = false) → 0 < level →
          stepFor t d level = (t.stepsFor d).find? (fun s => level.le s.maximum) ∧
          (stepFor t d level = none ↔ ∀ s ∈ t.stepsFor d, s.maximum < level) := by
  refine ⟨⟨?_, fun hcount => ⟨_, Definition.read_eq_ok_iff.2 ⟨hcount, rfl⟩⟩⟩, fun r hr => ?_⟩
  · rintro ⟨r, hr⟩
    exact (Definition.read_eq_ok_iff.1 hr).1
  have hchain : Chained 0 r.steps := by
    rw [(Definition.read_eq_ok_iff.1 hr).2]
    exact Definition.chained_ofEntries _ 0
  refine ⟨hchain, fun t d level hsteps hnumber hlevel => ?_⟩
  have hsame : Chained 0 (t.stepsFor d) := by
    rw [← chained_map_bare, hsteps]
    exact chained_map_bare.2 hchain
  have hfirst : stepFor t d level = (t.stepsFor d).find? fun s => level.le s.maximum :=
    hsame.find?_covers hnumber hlevel
  refine ⟨hfirst, ?_⟩
  rw [hfirst, List.find?_eq_none]
  constructor
  · intro hnone s hs
    have hnan : level.isNaN = false := Binary64.isNaN_right_of_le (Binary64.le_of_lt hlevel)
    exact Binary64.lt_of_not_le hnan (hnumber s hs) (hnone s hs)
  · intro hbelow s hs
    exact Binary64.not_le_of_lt (hbelow s hs)

/-- A theme with the steps of `40:a.png, oops, -3:b.png, 90:c.png` and an event at the last one. -/
def unordered : Theme Step :=
  ⟨some 3, .ofString "icons",
    [⟨0, 40, "a.png", none, none⟩, ⟨40, Binary64.neg 3, "b.png", none, none⟩,
      ⟨Binary64.neg 3, 90, "c.png", none, some (.hook "alarm" none)⟩], []⟩

theorem stepFor_unordered :
    ∃ r, Definition.read "40:a.png, oops, -3:b.png, 90:c.png" 4 = .ok r ∧ Chained 0 r.steps ∧
      (stepFor unordered .unknown 50).map Step.icon = some "c.png" ∧ stepFor unordered .full 95 = none := by
  obtain ⟨hreads, hlaw⟩ := stepFor_eq_first_reaching "40:a.png, oops, -3:b.png, 90:c.png" 4
  obtain ⟨r, hr⟩ := hreads.2 (by decide)
  obtain ⟨hchain, hlevels⟩ := hlaw r hr
  have hsteps : unordered.charging.map bare = r.steps.map bare := by
    rw [(Definition.read_eq_ok_iff.1 hr).2]
    decide +kernel
  have hnumber : ∀ s ∈ unordered.charging, s.maximum.isNaN = false := by decide +kernel
  have hmiddle := (hlevels unordered .unknown 50 hsteps hnumber (by decide +kernel)).1
  have habove := (hlevels unordered .full 95 hsteps hnumber (by decide +kernel)).2
  refine ⟨r, hr, hchain, ?_, habove.2 (by decide +kernel)⟩
  rw [hmiddle]
  decide +kernel

end Evaluation
end BatteryIndicator
