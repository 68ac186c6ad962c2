import BatteryIndicator.Loading
import BatteryIndicator.Proofs.Theme.BreakOff
import BatteryIndicator.Proofs.Theme.StepLine
/-!
# Refusal — why a reading breaks off, and what it leaves

The line at which a reading breaks off assigns a step set, and it is refused for the shape of the step set or, beyond
the number of fields that a text can be cut into, for the number of steps that its block declares (`applyLine_eq_error`).
So these are the two ways in which reading can fail (`readLines_result`), and in both the store is left with the complete
blocks before the one that is lost (`readLines_leaves`).
-/
namespace BatteryIndicator
namespace Theme
namespace File

variable {origin : Origin} {lines before inside : List String} {header line name : String} {f : Failure}
  {t : Theme Step}

/-! ## Why a line is refused -/

theorem definesSteps_iff {d : Direction} : definesSteps d line = true ↔ ∃ value, Line.classify line = .pair (stepKey d) value := by
  unfold definesSteps
  constructor
  · intro h
    split at h
    · next key value hline => exact ⟨value, beq_iff_eq.1 h ▸ hline⟩
    · cases h
  · rintro ⟨value, hline⟩
    rw [hline]
    exact beq_self_eq_true _

theorem defineSteps_of_tooMany {n : Nat} (hn : n ∈ t.stepCount) (hlimit : 2 ^ 63 < n) (d : Direction) (value : String) :
    t.defineSteps d value = .refused .tooManyFields [] := by
  have hcuts : Step.Definition.cutLimit < ((t.stepCount.getD 0 : Nat) - 1 : Int).toNat := by
    have hbound : Step.Definition.cutLimit = 2 ^ 63 - 1 := by decide
    rw [Option.mem_def.1 hn, Option.getD_some]
    omega
  rw [defineSteps, Step.Definition.read, if_pos hcuts]

theorem defineSteps_refused {d : Direction} {value : String} {dropped : List DroppedEntry}
    (h : t.defineSteps d value = .refused f dropped) (hlimit : ∀ n ∈ t.stepCount, n ≤ 2 ^ 63) :
    ∃ actual, f = .shapeMismatch t.stepCount actual := by
  rw [defineSteps, read_fieldsFor hlimit] at h
  dsimp only [setSteps, checkShape] at h
  split at h
  · cases h
  · next hset =>
    cases h
    split at hset
    · cases hset
    · cases hset; exact ⟨_, rfl⟩

theorem declareCount_ne_refused (f : Failure) (dropped : List DroppedEntry) (value : String) :
    t.declareCount value ≠ .refused f dropped := by
  intro h
  unfold declareCount at h
  split at h
  · cases h
  · split at h <;> cases h

theorem apply_refused {key value : String} {dropped : List DroppedEntry} (h : t.apply key value = .refused f dropped) :
    ∃ d, key = stepKey d ∧ t.defineSteps d value = .refused f dropped := by
  unfold apply at h
  split at h
  · exact absurd h (declareCount_ne_refused f dropped value)
  split at h
  · cases h
  split at h
  · next hkey => exact ⟨.charging, hkey, h⟩
  split at h
  · next hkey => exact ⟨.discharging, hkey, h⟩
  · cases h

/-- **A line that ends a reading assigns a step set.**  It does so in a block that declares more steps than a text can be
cut into, or else the step set has not the declared number of steps. -/
theorem applyLine_eq_error (h : applyLine t line = .error f) : (∃ d, definesSteps d line = true) ∧
    (f = .tooManyFields ∧ (∃ n ∈ t.stepCount, 2 ^ 63 < n) ∨
      (∃ actual, f = .shapeMismatch t.stepCount actual) ∧ ∀ n ∈ t.stepCount, n ≤ 2 ^ 63) := by
  unfold applyLine at h
  split at h
  · next key value hline =>
    split at h
    · cases h
    · cases h
    · next g dropped happly =>
      cases h
      obtain ⟨d, rfl, hrefused⟩ := apply_refused happly
      refine ⟨⟨d, definesSteps_iff.2 ⟨value, hline⟩⟩, ?_⟩
      by_cases hmany : ∃ n ∈ t.stepCount, 2 ^ 63 < n
      · obtain ⟨n, hn, hlimit⟩ := hmany
        rw [defineSteps_of_tooMany hn hlimit] at hrefused
        cases hrefused
        exact .inl ⟨rfl, n, hn, hlimit⟩
      · have hlimit : ∀ n ∈ t.stepCount, n ≤ 2 ^ 63 := fun n hn => Nat.le_of_not_lt fun h => hmany ⟨n, hn, h⟩
        exact .inr ⟨defineSteps_refused hrefused hlimit, hlimit⟩
  · cases h

theorem applyLine_of_tooMany {d : Direction} (hdefines : definesSteps d line = true) {n : Nat} (hn : n ∈ t.stepCount)
    (hlimit : 2 ^ 63 < n) : applyLine t line = .error .tooManyFields := by
  obtain ⟨value, hline⟩ := definesSteps_iff.1 hdefines
  rw [applyLine, hline]
  dsimp only
  rw [apply_stepKey, defineSteps_of_tooMany hn hlimit]

/-- **A reading fails for the shape of a step set or for too many fields**, and for nothing else. -/
theorem read_eq_error (h : (read origin lines).result = .error f) :
    (∃ declared actual, f = .shapeMismatch declared actual) ∨ f = .tooManyFields := by
  obtain ⟨before, header, inside, line, rest, -, hbreak⟩ := read_eq_error_iff.1 h
  obtain ⟨t, -, hline⟩ := hbreak.refused
  rcases (applyLine_eq_error hline).2 with ⟨rfl, -⟩ | ⟨⟨actual, rfl⟩, -⟩
  · exact .inr rfl
  · exact .inl ⟨_, actual, rfl⟩

/-! ## What a reader and a loading are left with -/

namespace Reader

variable {ρ : Type} [ThemeStore ρ]

/-- **Reading lines gives the name of their last header, or fails for the shape of a step set**, and in one case besides:
after lines that can be read to their end, a line assigns a step set in a block whose count, the last one that was
declared, is beyond the number of fields that a text can be cut into. -/
theorem readLines_result (r : Reader ρ) (source : String) (lines : List String) :
    let result := (r.readLines source lines).1
    (result = .ok (lines.filterMap header?).getLast? ∨
      (∃ declared actual, result = .error (.shapeMismatch declared actual)) ∨ result = .error .tooManyFields) ∧
    (result = .error .tooManyFields ↔
      ∃ before header inside line rest, lines = before ++ header :: (inside ++ line :: rest) ∧
        (∃ name, header? header = some name) ∧ (∀ l ∈ inside, header? l = none) ∧
        (∃ last, (r.readLines source (before ++ header :: inside)).1 = .ok last) ∧
        (∃ d, definesSteps d line = true) ∧ ∃ n ∈ lastCount inside, 2 ^ 63 < n) := by
  have hread : ∀ ls, (r.readLines source ls).1 = (read ⟨source, r.directory⟩ ls).result := fun _ => rfl
  simp only [hread]
  constructor
  · cases hresult : (read ⟨source, r.directory⟩ lines).result with
    | ok last =>
      obtain ⟨-, rfl⟩ := read_eq_ok _ hresult
      exact .inl (by rw [← map_fst_blocks, List.getLast?_map])
    | error f =>
      rcases read_eq_error hresult with ⟨declared, actual, rfl⟩ | rfl
      · exact .inr (.inl ⟨declared, actual, rfl⟩)
      · exact .inr (.inr rfl)
  · rw [read_eq_error_iff]
    constructor
    · rintro ⟨before, header, inside, line, rest, hlines, h⟩
      obtain ⟨name, hname⟩ := h.headed
      obtain ⟨t, hinside, hline⟩ := h.refused
      obtain ⟨hdefines, ⟨-, hmany⟩ | ⟨⟨actual, hshape⟩, -⟩⟩ := applyLine_eq_error hline
      · rw [(Sized.of_build _ hinside).count] at hmany
        exact ⟨before, header, inside, line, rest, hlines, ⟨name, hname⟩, h.within,
          ⟨_, (read_block_eq_ok_iff hname h.within _).2 ⟨rfl, h.complete, t, hinside⟩⟩, hdefines, hmany⟩
      · cases hshape
    · rintro ⟨before, header, inside, line, rest, hlines, ⟨name, hname⟩, hwithin, ⟨last, hlast⟩, ⟨d, hdefines⟩, n, hn,
        hmany⟩
      obtain ⟨-, hcomplete, t, hinside⟩ := (read_block_eq_ok_iff hname hwithin last).1 hlast
      rw [← (Sized.of_build _ hinside).count] at hn
      exact ⟨before, header, inside, line, rest, hlines, hcomplete, ⟨name, hname⟩, hwithin, t, hinside,
        applyLine_of_tooMany hdefines hn hmany⟩

/-- A block that declares too many steps fails in another way than for the shape of a step set. -/
theorem not_every_failure_of_shape :
    ¬ ∀ (r : Reader (Registry (Theme Step))) (source : String) (lines : List String),
      (r.readLines source lines).1 = .ok (lines.filterMap header?).getLast? ∨
        ∃ declared actual, (r.readLines source lines).1 = .error (.shapeMismatch declared actual) := by
  intro h
  have htooMany : ∀ x : Except Failure (Option String), (x matches .error .tooManyFields) = true →
      x = .error .tooManyFields := by
    intro x hx
    split at hx
    · rfl
    · cases hx
  have hlines := h ⟨.ofString "icons", .empty, []⟩ "themes" ["[a]", "steps = 9223372036854775809", "charging = 100:x.png"]
  rw [htooMany (readLines "themes" _ _).1 (by decide +kernel)] at hlines
  rcases hlines with hok | ⟨declared, actual, hshape⟩
  · cases hok
  · cases hshape

theorem store_of_breaksOff {r : Reader ρ} {source : String} (h : BreaksOff ⟨source, r.directory⟩ f before header inside line)
    (rest : List String) : (r.readLines source (before ++ header :: (inside ++ line :: rest))).2.store =
      (r.readLines source before).2.store := by
  rw [readLines, readLines, themes_eq_of_breaksOff h rest]

/-- Lines that can be read to their end change only the themes that their headers name. -/
theorem theme?_readLines {r : Reader (Registry (Theme Step))} {source : String} {last : Option String}
    (h : (r.readLines source before).1 = .ok last) (hname : ∀ l ∈ before, header? l ≠ some name) :
    (r.readLines source before).2.store.theme? name = r.store.theme? name := by
  have hnames : (read ⟨source, r.directory⟩ before).themes.map Prod.fst = before.filterMap header? := by
    have hkeys := congrArg (List.map Prod.fst) (read_eq_ok _ h).1
    rw [List.map_map, builds, List.map_map] at hkeys
    exact hkeys.trans (map_fst_blocks before)
  have hnone : lastUnder name (read ⟨source, r.directory⟩ before).themes = none := by
    refine Option.eq_none_iff_forall_ne_some.2 fun t ht => ?_
    have hmem : name ∈ before.filterMap header? := hnames ▸ List.mem_map_of_mem (mem_of_lastUnder ht)
    obtain ⟨l, hl, hheader⟩ := List.mem_filterMap.1 hmem
    exact hname l hl hheader
  show (r.store.registerAll _).theme? name = _
  rw [Registry.theme?_registerAll, hnone, Option.none_or]

end Reader

/-- A file whose lines cannot be read to their end is loaded as far as they can be, and its end is not looked at. -/
theorem loadThemes_of_error {directory path : Path} {fs : Files} {failure? : Option Failure}
    (hlines : fs.readLines path = .ok (lines, failure?)) (h : (read ⟨path.text, directory⟩ lines).result = .error f)
    (r : Registry (Theme Step)) : Loading.loadThemes directory path fs r =
      (some f, ThemeStore.adoptAll (read ⟨path.text, directory⟩ lines).themes r,
        (read ⟨path.text, directory⟩ lines).problems.map Problem.effect) := by
  have hreading : Loading.readThemes directory path fs = .ok (read ⟨path.text, directory⟩ lines) := by
    rw [Loading.readThemes, hlines]
    cases failure? with
    | none => rfl
    | some g => exact congrArg Except.ok (readUpTo_of_error h g)
  rw [Loading.loadThemes, hreading]
  dsimp only
  rw [ThemeStore.load, h]

namespace Reader

/-- **A reading that fails leaves complete blocks only.**  It breaks off at one line: the lines before it are read into
its block, and the lines up to it fail.  What is left is what the lines before the header of that block leave, which can
be read to their end: the same names in the same order, the same themes, and the default that was there before.  A name
that none of these lines declares, and be it that of the lost block, has the theme it had, or none.  A file that has the
lines at its front leaves the same when it is loaded, whatever comes after them. -/
theorem readLines_leaves (r : Reader (Registry (Theme Step))) {source : String} (h : (r.readLines source lines).1 = .error f) :
    ∃ before header name inside line rest, lines = before ++ header :: (inside ++ line :: rest) ∧
      header? header = some name ∧ (∀ l ∈ inside, header? l = none) ∧
      (r.readLines source (before ++ header :: inside)).1 = .ok (some name) ∧
      (r.readLines source (before ++ header :: (inside ++ [line]))).1 = .error f ∧
      (∃ last, (r.readLines source before).1 = .ok last) ∧
      let left := (r.readLines source before).2.store
      (r.readLines source lines).2.store = left ∧ left.default? = r.store.default? ∧
      (∀ n, (∀ l ∈ before, header? l ≠ some n) → left.theme? n = r.store.theme? n) ∧
      ∀ path fs failure?, fs.readLines path = .ok (lines, failure?) →
        (Loading.loadThemes r.directory path fs r.store).1 = some f ∧
          (Loading.loadThemes r.directory path fs r.store).2.1 = left := by
  obtain ⟨before, header, inside, line, rest, rfl, hbreak⟩ := read_eq_error_iff.1 h
  obtain ⟨name, hname⟩ := hbreak.headed
  obtain ⟨t, hinside, -⟩ := hbreak.refused
  obtain ⟨last, hlast⟩ := hbreak.complete
  have hstore := store_of_breaksOff hbreak rest
  refine ⟨before, header, name, inside, line, rest, rfl, hname, hbreak.within,
    (read_block_eq_ok_iff hname hbreak.within _).2 ⟨rfl, hbreak.complete, t, hinside⟩,
    read_eq_error_iff.2 ⟨before, header, inside, line, [], rfl, hbreak⟩, ⟨last, hlast⟩, hstore,
    Registry.default?_registerAll _ r.store, fun n hn => theme?_readLines hlast hn, ?_⟩
  intro path fs failure? hlines
  -- how the lines are read does not depend on where they come from
  have hresult := (read_eq ⟨path.text, r.directory⟩ _).2.trans ((read_eq ⟨source, r.directory⟩ _).2.symm.trans h)
  have hthemes := (read_eq ⟨path.text, r.directory⟩ (before ++ header :: (inside ++ line :: rest))).1.trans
    (read_eq ⟨source, r.directory⟩ _).1.symm
  rw [loadThemes_of_error hlines hresult, hthemes]
  exact ⟨rfl, hstore⟩

/-- A block that is lost under a name that a complete block and a registered theme have before it. -/
theorem readLines_leaves_earlier :
    let r : Reader (Registry (Theme Step)) := ⟨.ofString "icons", ⟨[("a", .new (.ofString "old"))], some "a"⟩, []⟩
    let lines := ["[b]", "[a]", "dir = new", "[a]", "steps = 2", "charging = 100:x.png", "[c]"]
    let done := r.readLines "themes" lines
    (∃ declared actual, done.1 = .error (.shapeMismatch declared actual)) ∧
      (∃ before header inside line rest, lines = before ++ header :: (inside ++ line :: rest) ∧
        (∃ last, (r.readLines "themes" before).1 = .ok last) ∧ done.2.store = (r.readLines "themes" before).2.store) ∧
      done.2.store.default? = some "a" ∧ done.2.store.names = ["a", "b"] ∧
      done.2.store.theme? "a" = some (.new (.ofString "new")) := by
  intro r lines done
  have hshape : ∀ x : Except Failure (Option String), (x matches .error (.shapeMismatch _ _)) = true →
      ∃ declared actual, x = .error (.shapeMismatch declared actual) := by
    intro x hx
    split at hx
    · next declared actual => exact ⟨declared, actual, rfl⟩
    · cases hx
  obtain ⟨declared, actual, hfails⟩ := hshape done.1 (by decide +kernel)
  obtain ⟨before, header, name, inside, line, rest, hlines, -, -, -, -, hread, hstore, hdefault, -, -⟩ :=
    readLines_leaves r hfails
  exact ⟨⟨declared, actual, hfails⟩, ⟨before, header, inside, line, rest, hlines, hread, hstore⟩,
    (congrArg Registry.default? hstore).trans hdefault, by decide +kernel, by decide +kernel⟩

end Reader

end File
end Theme
end BatteryIndicator
