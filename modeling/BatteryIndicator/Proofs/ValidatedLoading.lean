import BatteryIndicator.CommandLine
import BatteryIndicator.Proofs.LoadPrecedence
import BatteryIndicator.Proofs.Theme.Placed
/-!
# ValidatedLoading — a theme file that validates can be loaded

Validating a theme file reads it as loading does, but into an empty registry and with the default directory of icons.
How the reading ends depends on neither (`ending_eq`), so the file validates exactly when it loads.  What loading leaves
is the registry that was there, overlaid with the themes that validating reads.
-/
namespace BatteryIndicator

namespace Registry

variable {θ : Type}

/-- Over a registry, the names that it has keep their places, and those that it has not follow in the order in which they
come up. -/
theorem names_registerAll_append (r : Registry θ) (ts : List (String × θ)) :
    (r.registerAll ts).names = r.names ++ (registerAll ts empty).names.filter fun name => name ∉ r.names := by
  induction ts using List.reverseRecOn with
  | nil => simp [registerAll, names, empty, Entries.keys]
  | append_singleton ts t ih =>
    have hconcat : ∀ r : Registry θ, r.registerAll (ts ++ [t]) = (r.registerAll ts).register t.1 t.2 := fun r =>
      List.foldl_append
    rw [hconcat, hconcat, names_register, names_register, ih]
    by_cases hold : t.1 ∈ r.names
    · by_cases hnew : t.1 ∈ (registerAll ts empty).names <;> simp [hold, hnew]
    · by_cases hnew : t.1 ∈ (registerAll ts empty).names <;> simp [hold, hnew]

end Registry

namespace Loading

/-- How the reading of a theme file ends: with the name of its last theme, if it has one, or with a failure. -/
def ending (directory path : Path) (fs : Files) : Except Failure (Option String) :=
  (readThemes directory path fs).bind Theme.File.Reading.result

theorem ending_eq (directory directory' path : Path) (fs : Files) :
    ending directory path fs = ending directory' path fs := by
  unfold ending readThemes
  cases fs.readLines path with
  | error f => rfl
  | ok r =>
    obtain ⟨lines, failure?⟩ := r
    cases failure? with
    | none =>
      have hread := Theme.File.read_unplaced path.text directory directory' lines
      have hresult := congrArg Theme.File.Reading.result hread
      exact hresult
    | some f =>
      have hread := Theme.File.readUpTo_unplaced path.text directory directory' f lines
      have hresult := congrArg Theme.File.Reading.result hread
      exact hresult

/-- **Loading a theme file fails exactly when its reading does**, and with the same failure. -/
theorem failure_loadThemes (icons path : Path) (fs : Files) (r : Registry (Theme Step)) :
    (loadThemes icons path fs r).1 = match ending icons path fs with
      | .error f => some f
      | .ok _ => none := by
  unfold loadThemes ending
  cases readThemes icons path fs with
  | error f => rfl
  | ok reading =>
    have hload := load_fst reading r
    dsimp only [Except.bind]
    rw [← hload]
    rcases ThemeStore.load reading r with ⟨f | last, r'⟩ <;> rfl

theorem loadThemes_eq_none_iff (icons path : Path) (fs : Files) (r : Registry (Theme Step)) :
    (loadThemes icons path fs r).1 = none ↔ ∃ last, ending icons path fs = .ok last := by
  rw [failure_loadThemes]
  cases ending icons path fs <;> simp

theorem loadThemes_eq_some_iff {f : Failure} (icons path : Path) (fs : Files) (r : Registry (Theme Step)) :
    (loadThemes icons path fs r).1 = some f ↔ ending icons path fs = .error f := by
  rw [failure_loadThemes]
  cases ending icons path fs <;> simp

end Loading

namespace CommandLine

theorem exitCode_endWith (told : Failure → Bool) (f : Failure) (effects : List Effect) :
    (endWith told f effects).exitCode = 1 := by
  unfold endWith
  split <;> rfl

/-- **A theme file validates exactly when its reading comes to its end.** -/
theorem exitCode_validate_iff (file : String) (fs : Files) :
    (validate file fs).exitCode = 0 ↔
      ∃ last, Loading.ending Settings.defaultIconDirectory (.ofString file) fs = .ok last := by
  unfold validate Loading.ending
  cases Loading.readThemes Settings.defaultIconDirectory (.ofString file) fs with
  | error f => simp [Except.bind, exitCode_endWith]
  | ok reading =>
    dsimp only [Except.bind]
    cases reading.result with
    | error f => simp [exitCode_endWith]
    | ok last => simp [succeed]

end CommandLine

namespace Theme
namespace File

/-- **Validation predicts loading.**  A theme file validates exactly when it can be loaded into a registry, whatever themes
are there and whichever directory new themes start with.  Lines that are read into a registry end with the same name or
failure, and have the same problems, as when they are read into an empty one with the default directory.  The default
stays what it was.  The names that were there keep their places, and the new ones follow in their order.  A name that the
lines complete a theme for has that theme, which is the same in both but for the directory that it starts with: the last
directory that its block sets is its directory in both.  Any other name has the theme it had. -/
theorem validation_predicts_loading (file : String) (fs : Files) (r : Reader (Registry (Theme Step))) (source : String)
    (lines : List String) :
    ((CommandLine.validate file fs).exitCode = 0 ↔
      (Loading.loadThemes r.directory (.ofString file) fs r.store).1 = none) ∧
    let alone := (Reader.mk Settings.defaultIconDirectory (Registry.empty : Registry (Theme Step)) []).readLines source lines
    let done := r.readLines source lines
    done.1 = alone.1 ∧ done.2.problems = r.problems ++ alone.2.problems ∧
    done.2.store.default? = r.store.default? ∧
    done.2.store.names = r.store.names ++ (alone.2.store.names.filter fun name => name ∉ r.store.names) ∧
    ∀ name, match alone.2.store.theme? name with
      | none => done.2.store.theme? name = r.store.theme? name
      | some t => ∃ body, lastUnder name (completeBlocks r.directory lines) = some body ∧
          t.directory = (lastDirectory body).getD Settings.defaultIconDirectory ∧
          done.2.store.theme? name = some (t.setDirectory ((lastDirectory body).getD r.directory)) := by
  refine ⟨?_, ?_⟩
  · rw [CommandLine.exitCode_validate_iff, Loading.loadThemes_eq_none_iff,
      Loading.ending_eq Settings.defaultIconDirectory r.directory]
  intro alone done
  have hreadings := read_unplaced source Settings.defaultIconDirectory r.directory lines
  have hdone : done.2.store = r.store.registerAll (read ⟨source, r.directory⟩ lines).themes := rfl
  have halone : alone.2.store = Registry.empty.registerAll (read ⟨source, Settings.defaultIconDirectory⟩ lines).themes :=
    rfl
  have hnames : (read ⟨source, r.directory⟩ lines).themes.map Prod.fst =
      (read ⟨source, Settings.defaultIconDirectory⟩ lines).themes.map Prod.fst := by
    have h := congrArg (fun s : Reading => s.themes.map Prod.fst) hreadings
    simpa [Reading.unplaced, unplacedAll, Function.comp_def] using h.symm
  refine ⟨(congrArg Reading.result hreadings).symm, ?_, ?_, ?_, fun name => ?_⟩
  · show r.problems ++ _ = r.problems ++ ([] ++ _)
    rw [List.nil_append]
    exact congrArg (r.problems ++ ·) (congrArg Reading.problems hreadings).symm
  · rw [hdone, Registry.default?_registerAll]
  · have hordered : ∀ ts : List (String × Theme Step),
        (Registry.empty.registerAll ts).names = (ts.map Prod.fst).eraseDups := fun ts => by
      have hempty : (Registry.empty : Registry (Theme Step)).names = ([] : List String).eraseDups := rfl
      rw [Registry.names_registerAll ts hempty, List.nil_append]
    rw [hdone, Registry.names_registerAll_append, halone, hordered, hordered, hnames]
  · have hplaced := lastUnder_read_placed source Settings.defaultIconDirectory r.directory lines name
    rw [hdone, halone, Registry.theme?_registerAll, Registry.theme?_registerAll]
    cases hbody : lastUnder name (completeBlocks r.directory lines) with
    | none =>
      rw [hbody] at hplaced
      rw [hplaced.1, hplaced.2]
      rfl
    | some body =>
      rw [hbody] at hplaced
      obtain ⟨t, ht, hdirectory, ht'⟩ := hplaced
      rw [ht, ht']
      exact ⟨body, rfl, hdirectory, rfl⟩

end File
end Theme
end BatteryIndicator
