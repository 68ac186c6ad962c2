import BatteryIndicator.Proofs.Theme.Append
import BatteryIndicator.Proofs.Theme.Shape
/-!
# Placed — what the directory decides that themes start with

Nothing in the reading of a theme file looks at a directory.  So a reading whose themes start with another directory
is the same reading once directories are forgotten (`readFrom_unplaced`): it has the same problems, ends in the same
way, and completes the same themes.  The directory of a theme is the one that the last `dir` line of its block sets, and
the one it starts with if there is no such line (`build_directory`).
-/
namespace BatteryIndicator
namespace Theme

/-! ## Forgetting directories -/

/-- The theme with its directory forgotten. -/
def unplaced (t : Theme Step) : Theme Step := t.setDirectory (.ofString "")

variable {t t' : Theme Step} {key value : String} {d : Direction}

theorem eq_of_unplaced_eq (h : t.unplaced = t'.unplaced) : t' = t.setDirectory t'.directory := by
  cases t
  cases t'
  cases h
  rfl

/-- What a key and a value do, but for directories. -/
def Change.unplaced : Change → Change
  | .made t dropped => .made t.unplaced dropped
  | .ignored fault => .ignored fault
  | .refused f dropped => .refused f dropped

theorem Change.cases_of_unplaced_eq {c c' : Change} (h : c.unplaced = c'.unplaced) :
    (∃ t t' dropped, c = .made t dropped ∧ c' = .made t' dropped ∧ t.unplaced = t'.unplaced) ∨
    (∃ fault, c = .ignored fault ∧ c' = .ignored fault) ∨
    ∃ f dropped, c = .refused f dropped ∧ c' = .refused f dropped := by
  cases c with
  | made t dropped =>
    cases c' <;> simp only [Change.unplaced, made.injEq, reduceCtorEq] at h
    obtain ⟨ht, rfl⟩ := h
    exact .inl ⟨_, _, _, rfl, rfl, ht⟩
  | ignored fault =>
    cases c' <;> simp only [Change.unplaced, ignored.injEq, reduceCtorEq] at h
    exact .inr (.inl ⟨_, rfl, by rw [h]⟩)
  | refused f dropped =>
    cases c' <;> simp only [Change.unplaced, refused.injEq, reduceCtorEq] at h
    obtain ⟨rfl, rfl⟩ := h
    exact .inr (.inr ⟨_, _, rfl, rfl⟩)

theorem declareCount_unplaced (t : Theme Step) (value : String) :
    (t.unplaced.declareCount value).unplaced = (t.declareCount value).unplaced := by
  unfold declareCount setStepCount
  cases Numeral.int? value.toList with
  | none => rfl
  | some n =>
    dsimp only
    by_cases hn : n ≤ 0
    · rw [if_pos hn, if_pos hn]
    · rw [if_neg hn, if_neg hn]
      rfl

theorem defineSteps_unplaced (d : Direction) (t : Theme Step) (value : String) :
    (t.unplaced.defineSteps d value).unplaced = (t.defineSteps d value).unplaced := by
  have hcount : t.unplaced.stepCount = t.stepCount := rfl
  unfold defineSteps setSteps checkShape
  rw [hcount]
  cases Step.Definition.read value (t.stepCount.getD 0) with
  | error f => rfl
  | ok r =>
    dsimp only
    by_cases hsize : t.stepCount = some r.steps.length
    · rw [if_pos hsize]
      cases d <;> rfl
    · rw [if_neg hsize]
      rfl

/-- **A key and a value do the same whatever the directory is.** -/
theorem apply_unplaced (t : Theme Step) (key value : String) :
    (t.unplaced.apply key value).unplaced = (t.apply key value).unplaced := by
  unfold apply
  by_cases hsteps : key = "steps"
  · rw [if_pos hsteps, if_pos hsteps, declareCount_unplaced]
  rw [if_neg hsteps, if_neg hsteps]
  by_cases hdir : key = "dir"
  · rw [if_pos hdir, if_pos hdir]
    rfl
  rw [if_neg hdir, if_neg hdir]
  by_cases hcharging : key = "charging"
  · rw [if_pos hcharging, if_pos hcharging, defineSteps_unplaced]
  rw [if_neg hcharging, if_neg hcharging]
  by_cases hdischarging : key = "discharging"
  · rw [if_pos hdischarging, if_pos hdischarging, defineSteps_unplaced]
  rw [if_neg hdischarging, if_neg hdischarging]

theorem apply_congr_unplaced (h : t.unplaced = t'.unplaced) (key value : String) :
    (t.apply key value).unplaced = (t'.apply key value).unplaced := by
  rw [← apply_unplaced t, h, apply_unplaced t']

namespace File

/-- The named themes with their directories forgotten. -/
def unplacedAll (ts : List (String × Theme Step)) : List (String × Theme Step) := ts.map fun b => (b.1, b.2.unplaced)

def Progress.unplaced (p : Progress) : Progress :=
  ⟨unplacedAll p.complete, p.open?.map fun b => (b.1, b.2.unplaced), p.problems⟩

def Reading.unplaced (r : Reading) : Reading := { r with themes := unplacedAll r.themes }

/-- What a line comes to, but for directories. -/
def unplacedStep (s : Except (Failure × Progress) Progress) : Except (Failure × Progress) Progress :=
  match s with
  | .ok p => .ok p.unplaced
  | .error (f, p) => .error (f, p.unplaced)

theorem close_unplaced (p : Progress) : p.close.unplaced = p.unplaced.close := by
  cases hp : p.open? <;> simp [Progress.unplaced, Progress.close, unplacedAll, hp]

theorem enter_unplaced (name : String) (directory : Path) (p : Progress) :
    (p.enter name directory).unplaced = p.unplaced.enter name (.ofString "") := by
  unfold Progress.enter
  rw [← close_unplaced]
  rfl

/-- **A line does the same whatever the directories are**, that of the themes read so far and that of new ones. -/
theorem step_unplaced (source : String) (directory directory' : Path) (n : Nat) (text : String) {p p' : Progress}
    (h : p.unplaced = p'.unplaced) :
    unplacedStep (step ⟨source, directory⟩ n text p) = unplacedStep (step ⟨source, directory'⟩ n text p') := by
  have hnote : ∀ ps : List Problem, (p.note ps).unplaced = (p'.note ps).unplaced := fun ps =>
    congrArg (Progress.note ps) h
  unfold step
  cases Line.classify text with
  | blank => exact congrArg Except.ok h
  | comment => exact congrArg Except.ok h
  | header name =>
    have henter : (p.enter name directory).unplaced = (p'.enter name directory').unplaced := by
      rw [enter_unplaced, enter_unplaced, h]
    exact congrArg Except.ok henter
  | unrecognized => exact congrArg Except.ok (hnote _)
  | pair key value =>
    have hopen : p.open?.map (fun b => (b.1, b.2.unplaced)) = p'.open?.map fun b => (b.1, b.2.unplaced) :=
      congrArg Progress.open? h
    dsimp only
    cases hp : p.open? with
    | none =>
      cases hp' : p'.open? with
      | none => exact congrArg Except.ok (hnote _)
      | some b => rw [hp, hp'] at hopen; cases hopen
    | some b =>
      cases hp' : p'.open? with
      | none => rw [hp, hp'] at hopen; cases hopen
      | some b' =>
        -- one block is open in both, and its themes differ in their directories at most
        obtain ⟨name, t⟩ := b
        obtain ⟨name', t'⟩ := b'
        rw [hp, hp'] at hopen
        obtain ⟨rfl, ht⟩ := Prod.mk.inj (Option.some.inj hopen)
        rcases Change.cases_of_unplaced_eq (apply_congr_unplaced ht key value) with
          ⟨u, u', dropped, hu, hu', hmade⟩ | ⟨fault, hu, hu'⟩ | ⟨f, dropped, hu, hu'⟩
        · have hnext : Progress.unplaced { p.note (dropped.map .entry) with open? := some (name, u) } =
              Progress.unplaced { p'.note (dropped.map .entry) with open? := some (name, u') } := by
            have hopened : (some (name, u.unplaced) : Option (String × Theme Step)) = some (name, u'.unplaced) := by
              rw [hmade]
            exact congrArg₂ (fun (q : Progress) b => { q with open? := b }) (hnote (dropped.map .entry)) hopened
          simp only [hu, hu']
          exact congrArg Except.ok hnext
        · simp only [hu, hu']
          exact congrArg Except.ok (hnote _)
        · simp only [hu, hu']
          exact congrArg (fun q => Except.error (f, q)) (hnote (dropped.map .entry))

theorem readFrom_unplaced (source : String) (directory directory' : Path) {after : Progress → Reading}
    (hafter : ∀ p p' : Progress, p.unplaced = p'.unplaced → (after p).unplaced = (after p').unplaced) :
    ∀ (lines : List String) (n : Nat) (p p' : Progress), p.unplaced = p'.unplaced →
      (readFrom ⟨source, directory⟩ after n lines p).unplaced = (readFrom ⟨source, directory'⟩ after n lines p').unplaced
  | [], _, p, p', h => hafter p p' h
  | l :: ls, n, p, p', h => by
    have hstep := step_unplaced source directory directory' n l h
    unfold readFrom
    cases hl : step ⟨source, directory⟩ n l p with
    | ok q =>
      cases hl' : step ⟨source, directory'⟩ n l p' with
      | ok q' =>
        rw [hl, hl'] at hstep
        exact readFrom_unplaced source directory directory' hafter ls (n + 1) q q' (Except.ok.inj hstep)
      | error e => rw [hl, hl'] at hstep; cases hstep
    | error e =>
      cases hl' : step ⟨source, directory'⟩ n l p' with
      | ok q' => rw [hl, hl'] at hstep; cases hstep
      | error e' =>
        rw [hl, hl'] at hstep
        obtain ⟨hfailure, hprogress⟩ := Prod.mk.inj (Except.error.inj hstep)
        exact congrArg₂ breakOff hfailure hprogress

theorem read_unplaced (source : String) (directory directory' : Path) (lines : List String) :
    (read ⟨source, directory⟩ lines).unplaced = (read ⟨source, directory'⟩ lines).unplaced := by
  refine readFrom_unplaced source directory directory' (fun p p' h => ?_) lines 1 .start .start rfl
  have hclose : p.close.unplaced = p'.close.unplaced := by rw [close_unplaced, close_unplaced, h]
  have hnames : p.open?.map Prod.fst = p'.open?.map Prod.fst := by
    have hopen := congrArg (fun q : Progress => q.open?.map Prod.fst) h
    simpa [Progress.unplaced, Function.comp_def] using hopen
  unfold finish
  rw [hnames]
  exact congrArg (fun q : Progress => Reading.mk q.complete q.problems (.ok (p'.open?.map Prod.fst))) hclose

theorem readUpTo_unplaced (source : String) (directory directory' : Path) (f : Failure) (lines : List String) :
    (readUpTo ⟨source, directory⟩ f lines).unplaced = (readUpTo ⟨source, directory'⟩ f lines).unplaced := by
  refine readFrom_unplaced source directory directory' (fun p p' h => ?_) lines 1 .start .start rfl
  exact congrArg (breakOff f) h

/-! ## Directories -/

/-- The directory that a line sets. -/
def directoryOf? (text : String) : Option Path :=
  match Line.classify text with
  | .pair key value => if key = "dir" then some (.ofString value) else none
  | _ => none

/-- The directory that the last line of these to set one sets. -/
def lastDirectory (body : List String) : Option Path := (body.filterMap directoryOf?).getLast?

theorem directoryOf?_pair {text : String} (h : Line.classify text = .pair key value) :
    directoryOf? text = if key = "dir" then some (.ofString value) else none := by
  rw [directoryOf?, h]

theorem lastDirectory_concat (body : List String) (l : String) :
    lastDirectory (body ++ [l]) = (directoryOf? l).or (lastDirectory body) := by
  rw [lastDirectory, List.filterMap_append, List.getLast?_append, lastDirectory]
  cases h : directoryOf? l <;> simp [h]

theorem applyLine_directory {text : String} (h : applyLine t text = .ok t') :
    t'.directory = (directoryOf? text).getD t.directory := by
  unfold applyLine at h
  split at h
  · next key value hline =>
    rw [directoryOf?_pair hline]
    split at h
    · next happly =>
      cases h
      rcases apply_made happly with ⟨rfl, n, -, -, rfl⟩ | ⟨rfl, rfl⟩ | ⟨r, -, -, ⟨rfl, rfl⟩ | ⟨rfl, rfl⟩⟩ <;> rfl
    · next fault happly =>
      cases h
      have hkey : key ≠ "dir" := by
        rintro rfl
        cases happly
      rw [if_neg hkey]
      rfl
    · cases h
  · next hline =>
    cases h
    unfold directoryOf?
    split
    · next key value hpair => exact absurd hpair (hline key value)
    · rfl

/-- **The directory of a theme is the last one that its block sets**, or the one that it starts with. -/
theorem build_directory {directory : Path} : ∀ {body : List String} {t : Theme Step}, build directory body = .ok t →
    t.directory = (lastDirectory body).getD directory := by
  intro body
  induction body using List.reverseRecOn with
  | nil => intro t h; cases h; rfl
  | append_singleton body l ih =>
    intro t h
    obtain ⟨t₀, hbody, hline⟩ := build_concat_eq_ok h
    rw [applyLine_directory hline, ih hbody, lastDirectory_concat]
    cases directoryOf? l <;> rfl

/-! ## Complete blocks -/

/-- The blocks of a file before the first one that fails. -/
def completeBlocks (directory : Path) (lines : List String) : List (String × List String) :=
  (blocks lines).takeWhile fun b => (build directory b.2).isOk

theorem Built.map_ofOpen_themes_eq_takeWhile : ∀ bs : Built,
    (themes bs).map ofOpen = bs.takeWhile fun b => b.2.isOk
  | [] => rfl
  | (name, .ok t) :: bs => by
    rw [themes, List.map_cons, map_ofOpen_themes_eq_takeWhile bs]
    rfl
  | (_, .error _) :: _ => rfl

/-- **The themes of a reading are those of its complete blocks.** -/
theorem map_ofOpen_themes_read (origin : Origin) (lines : List String) :
    (read origin lines).themes.map Built.ofOpen = builds origin.directory (completeBlocks origin.directory lines) := by
  rw [(read_eq origin lines).1, Built.map_ofOpen_themes_eq_takeWhile, builds, List.takeWhile_map]
  rfl

theorem lastUnder_themes_read (origin : Origin) (lines : List String) (name : String) :
    (lastUnder name (read origin lines).themes).map Except.ok =
      (lastUnder name (completeBlocks origin.directory lines)).map (build origin.directory) := by
  rw [← lastUnder_map, ← lastUnder_map]
  exact congrArg (lastUnder name) (map_ofOpen_themes_read origin lines)

/-- Which blocks are complete does not depend on the directory that their themes start with. -/
theorem completeBlocks_eq (directory directory' : Path) (lines : List String) :
    completeBlocks directory lines = completeBlocks directory' lines := by
  have htake : ∀ d : Path, completeBlocks d lines = (blocks lines).take (read ⟨"", d⟩ lines).themes.length := by
    intro d
    have hlength := congrArg List.length (map_ofOpen_themes_read ⟨"", d⟩ lines)
    rw [List.length_map, builds, List.length_map] at hlength
    rw [hlength]
    exact List.prefix_iff_eq_take.1 (List.takeWhile_prefix _)
  have hthemes := congrArg (fun r : Reading => r.themes.length) (read_unplaced "" directory directory' lines)
  simp only [Reading.unplaced, unplacedAll, List.length_map] at hthemes
  rw [htake directory, htake directory', hthemes]

/-- **The theme of a name, read with one directory and with another**, comes from the same block, and is the same but
for its directory if that block sets none. -/
theorem lastUnder_read_placed (source : String) (directory directory' : Path) (lines : List String) (name : String) :
    match lastUnder name (completeBlocks directory' lines) with
    | none => lastUnder name (read ⟨source, directory⟩ lines).themes = none ∧
        lastUnder name (read ⟨source, directory'⟩ lines).themes = none
    | some body => ∃ t, lastUnder name (read ⟨source, directory⟩ lines).themes = some t ∧
        t.directory = (lastDirectory body).getD directory ∧
        lastUnder name (read ⟨source, directory'⟩ lines).themes =
          some (t.setDirectory ((lastDirectory body).getD directory')) := by
  have hthemes := lastUnder_themes_read ⟨source, directory⟩ lines name
  have hthemes' := lastUnder_themes_read ⟨source, directory'⟩ lines name
  have hunplaced : (lastUnder name (read ⟨source, directory⟩ lines).themes).map unplaced =
      (lastUnder name (read ⟨source, directory'⟩ lines).themes).map unplaced := by
    rw [← lastUnder_map, ← lastUnder_map]
    exact congrArg (fun r : Reading => lastUnder name r.themes) (read_unplaced source directory directory' lines)
  dsimp only at hthemes hthemes'
  rw [completeBlocks_eq directory directory'] at hthemes
  cases hbody : lastUnder name (completeBlocks directory' lines) with
  | none =>
    rw [hbody, Option.map_none, Option.map_eq_none_iff] at hthemes hthemes'
    exact ⟨hthemes, hthemes'⟩
  | some body =>
    rw [hbody, Option.map_some, Option.map_eq_some_iff] at hthemes hthemes'
    obtain ⟨t, ht, hbuild⟩ := hthemes
    obtain ⟨t', ht', hbuild'⟩ := hthemes'
    rw [ht, ht', Option.map_some, Option.map_some, Option.some.injEq] at hunplaced
    refine ⟨t, ht, build_directory hbuild.symm, ?_⟩
    rw [ht', ← build_directory hbuild'.symm]
    exact congrArg some (eq_of_unplaced_eq hunplaced)

end File
end Theme
end BatteryIndicator
