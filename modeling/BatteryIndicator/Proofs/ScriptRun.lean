import BatteryIndicator.Proofs.Theme.Registered
import BatteryIndicator.Script
/-!
# ScriptRun — what a script leaves in a registry

A script that runs to its end adds no theme and removes none.  Its calls change the themes each for itself
(`Script.Call.change`), and the last default that it chooses stands.
-/
namespace BatteryIndicator
namespace Script

/-- The default that a call chooses. -/
def Call.default? : Call → Option String
  | .makeDefault name => some name
  | _ => none

/-- What a call does to the theme under a name. -/
def Call.change (name : String) (t : Theme Step) : Call → Except Failure (Theme Step)
  | .setEvent theme index command direction =>
    if theme = name then command.argv.bind fun argv => t.setEvent index (.command argv) direction else .ok t
  | .setDirectory theme directory => if theme = name then .ok (t.setDirectory directory) else .ok t
  | _ => .ok t

/-- What calls do to the theme under a name, one after the other. -/
def changeAll (name : String) (calls : Script) (t : Theme Step) : Except Failure (Theme Step) :=
  calls.foldlM (fun t c => c.change name t) t

/-- The registry holds what calls make of another one: its names, the default unless they choose one, and its themes
changed. -/
structure Reworks (calls : Script) (r r' : Registry (Theme Step)) : Prop where
  names : r'.names = r.names
  default? : r'.default? = (calls.filterMap Call.default?).getLast?.or r.default?
  theme? : ∀ name, (r'.theme? name).map Except.ok = (r.theme? name).map (changeAll name calls)

variable {r r' : Registry (Theme Step)} {name : String} {t t' : Theme Step}

theorem changeAll_singleton (name : String) (c : Call) (t : Theme Step) : changeAll name [c] t = c.change name t := by
  show (c.change name t >>= pure) = _
  rw [bind_pure]

theorem changeAll_append (name : String) (early late : Script) (t : Theme Step) :
    changeAll name (early ++ late) t = changeAll name early t >>= changeAll name late :=
  List.foldlM_append

namespace Reworks

theorem nil (r : Registry (Theme Step)) : Reworks [] r r :=
  ⟨rfl, rfl, fun _ => rfl⟩

/-- A call that chooses no default and changes no theme. -/
theorem unchanged {c : Call} (hdefault : c.default? = none) (hchange : ∀ name t, c.change name t = .ok t)
    (r : Registry (Theme Step)) : Reworks [c] r r := by
  refine ⟨rfl, by simp [hdefault], fun name => ?_⟩
  cases r.theme? name with
  | none => rfl
  | some t => rw [Option.map_some, Option.map_some, changeAll_singleton, hchange]

/-- A call that replaces the theme under one name. -/
theorem replaced {c : Call} (hdefault : c.default? = none) (ht : r.theme? name = some t)
    (hown : c.change name t = .ok t') (hothers : ∀ other t, name ≠ other → c.change other t = .ok t) :
    Reworks [c] r (r.register name t') := by
  refine ⟨?_, by simp [hdefault, Registry.register], fun other => ?_⟩
  · rw [Registry.names_register, if_pos]
    exact (Registry.contains_iff name r).1 (Option.isSome_iff_exists.2 ⟨t, ht⟩)
  · rw [Registry.theme?_register]
    by_cases h : name = other
    · subst h
      rw [if_pos rfl, ht, Option.map_some, Option.map_some, changeAll_singleton, hown]
    · rw [if_neg h]
      cases r.theme? other with
      | none => rfl
      | some t => rw [Option.map_some, Option.map_some, changeAll_singleton, hothers other t h]

theorem append {early late : Script} {r₁ : Registry (Theme Step)} (hearly : Reworks early r r₁)
    (hlate : Reworks late r₁ r') : Reworks (early ++ late) r r' := by
  refine ⟨hlate.names.trans hearly.names, ?_, fun name => ?_⟩
  · rw [hlate.default?, hearly.default?, List.filterMap_append, List.getLast?_append, Option.or_assoc]
  · rw [hlate.theme? name]
    have hname := hearly.theme? name
    cases ht : r.theme? name with
    | none =>
      rw [ht, Option.map_none, Option.map_eq_none_iff] at hname
      rw [hname]
      rfl
    | some t =>
      rw [ht, Option.map_some] at hname
      obtain ⟨t₁, ht₁, hchange⟩ := Option.map_eq_some_iff.1 hname
      rw [ht₁, Option.map_some, Option.map_some, changeAll_append, ← hchange]
      rfl

end Reworks

/-- **What one call does.** -/
theorem perform_eq_ok {c : Call} (h : c.perform r = .ok r') : Reworks [c] r r' := by
  cases c with
  | makeDefault name =>
    cases h
    refine ⟨rfl, rfl, fun n => ?_⟩
    show (r.theme? n).map Except.ok = _
    cases r.theme? n <;> rfl
  | setEvent theme index command direction =>
    cases hargv : command.argv with
    | error f => rw [Call.perform, hargv] at h; cases h
    | ok argv =>
      rw [Call.perform, hargv] at h
      change Registry.setEvent theme index (.command argv) direction r = .ok r' at h
      unfold Registry.setEvent at h
      split at h
      · cases h
      · next t ht =>
        cases hset : t.setEvent index (.command argv) direction with
        | error f => rw [hset] at h; cases h
        | ok t' =>
          rw [hset] at h
          cases h
          refine .replaced rfl ht ?_ fun other t hother => ?_
          · rw [Call.change, if_pos rfl, hargv]
            exact hset
          · rw [Call.change, if_neg hother]
  | setDirectory theme directory =>
    change Registry.setDirectory theme directory r = .ok r' at h
    unfold Registry.setDirectory at h
    split at h
    · cases h
    · next t ht =>
      cases h
      refine .replaced rfl ht ?_ fun other t hother => ?_
      · rw [Call.change, if_pos rfl]
      · rw [Call.change, if_neg hother]
  | expectThemes names =>
    rw [Call.perform] at h
    split at h
    · cases h; exact .unchanged rfl (fun _ _ => rfl) r
    · cases h
  | expectMissing name =>
    rw [Call.perform] at h
    split at h
    · cases h
    · cases h; exact .unchanged rfl (fun _ _ => rfl) r
  | fail text => cases h

/-- **What a script does that runs to its end.** -/
theorem performAll_eq : ∀ {calls : Script} {r r' : Registry (Theme Step)}, performAll calls r = (none, r') →
    Reworks calls r r'
  | [], r, _, h => by cases h; exact .nil r
  | c :: cs, r, r', h => by
    unfold performAll at h
    split at h
    · next r₁ hc => exact (perform_eq_ok hc).append (performAll_eq h)
    · cases h

end Script
end BatteryIndicator
