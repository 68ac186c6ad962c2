import BatteryIndicator.Loading
import BatteryIndicator.Proofs.ScriptRun
import Mathlib.Data.List.Forall2
/-!
# LoadPrecedence — which source has the last word

Theme files and scripts are read one after the other into one registry.  What it holds after them (`Loaded`) is told by
the sources alone: the names that their blocks declare, the default that they chose last, and for each name the block
that declares it last, with the calls that come after that block (`latest`).
-/
namespace BatteryIndicator
namespace Loading

/-- What a stage reads: the lines of a theme file, or the calls of a script. -/
inductive Source where
  | themes (lines : List String)
  | script (calls : Script)

namespace Source

def blocks : Source → List (String × List String)
  | .themes lines => Theme.File.blocks lines
  | .script _ => []

def calls : Source → Script
  | .themes _ => []
  | .script calls => calls

def names (s : Source) : List String := s.blocks.map Prod.fst

/-- The names that a source makes the default: a theme file that of its last block, a script those of its calls. -/
def defaults : Source → List String
  | .themes lines => ((Theme.File.blocks lines).getLast?.map Prod.fst).toList
  | .script calls => calls.filterMap Script.Call.default?

theorem getLast?_defaults_themes (lines : List String) :
    (defaults (.themes lines)).getLast? = (Theme.File.blocks lines).getLast?.map Prod.fst := by
  rw [defaults]
  cases (Theme.File.blocks lines).getLast? <;> rfl

end Source

/-- The last block of a name, and the calls that come after it. -/
def latest (name : String) : List Source → Option (List String × Script)
  | [] => none
  | s :: later => (latest name later).or ((lastUnder name s.blocks).map fun body => (body, later.flatMap Source.calls))

/-- What a block and calls after it come to. -/
def finished (icons : Path) (name : String) (b : List String × Script) : Except Failure (Theme Step) :=
  Theme.File.build icons b.1 >>= Script.changeAll name b.2

/-- **What a registry holds after sources.** -/
structure Loaded (icons : Path) (past : List Source) (r : Registry (Theme Step)) : Prop where
  names : r.names = (past.flatMap Source.names).eraseDups
  default? : r.default? = (past.flatMap Source.defaults).getLast?
  theme? : ∀ name, (r.theme? name).map Except.ok = (latest name past).map (finished icons name)

variable {icons : Path} {past : List Source} {r r' : Registry (Theme Step)} {lines : List String} {calls : Script}

theorem latest_concat (name : String) (s : Source) : ∀ past : List Source,
    latest name (past ++ [s]) = ((lastUnder name s.blocks).map fun body => (body, [])).or
      ((latest name past).map fun b => (b.1, b.2 ++ s.calls))
  | [] => by
    rw [List.nil_append, latest, latest, latest]
    cases lastUnder name s.blocks <;> rfl
  | p :: past => by
    rw [List.cons_append, latest, latest_concat name s past, latest, Option.map_or, Option.or_assoc, Option.map_map,
      List.flatMap_append, List.flatMap_singleton]
    rfl

theorem latest_concat_themes (name : String) (lines : List String) (past : List Source) :
    latest name (past ++ [.themes lines]) =
      ((lastUnder name (Theme.File.blocks lines)).map fun body => (body, [])).or (latest name past) := by
  rw [latest_concat]
  simp only [Source.calls, List.append_nil, Option.map_id']
  rfl

theorem latest_concat_script (name : String) (calls : Script) (past : List Source) :
    latest name (past ++ [.script calls]) = (latest name past).map fun b => (b.1, b.2 ++ calls) := by
  rw [latest_concat]
  rfl

theorem finished_nil (icons : Path) (name : String) (body : List String) :
    finished icons name (body, []) = Theme.File.build icons body :=
  bind_pure (Theme.File.build icons body)

theorem finished_append (icons : Path) (name : String) (body : List String) (early late : Script) :
    finished icons name (body, early ++ late) = finished icons name (body, early) >>= Script.changeAll name late := by
  rw [finished, finished, bind_assoc]
  exact bind_congr fun t => Script.changeAll_append name early late t

namespace Loaded

theorem empty (icons : Path) : Loaded icons [] .empty := ⟨rfl, rfl, fun _ => rfl⟩

/-- **A theme file that is read to its end adds its blocks.** -/
theorem after_themes (h : Loaded icons past r) (source : String) {last : Option String}
    (hread : (Theme.File.read ⟨source, icons⟩ lines).result = .ok last) :
    Loaded icons (past ++ [.themes lines])
      (ThemeStore.load (Theme.File.read ⟨source, icons⟩ lines) r).2 := by
  obtain ⟨hall, hlast⟩ := Theme.File.read_eq_ok ⟨source, icons⟩ hread
  have hload : (ThemeStore.load (Theme.File.read ⟨source, icons⟩ lines) r).2 =
      { r.registerAll (Theme.File.read ⟨source, icons⟩ lines).themes with default? := last.or r.default? } := by
    rw [ThemeStore.load, hread, ← Registry.default?_registerAll (Theme.File.read ⟨source, icons⟩ lines).themes r]
    cases last <;> rfl
  have hnames : (Theme.File.read ⟨source, icons⟩ lines).themes.map Prod.fst = Source.names (.themes lines) := by
    have hkeys := congrArg (List.map Prod.fst) hall
    rw [List.map_map, Theme.File.builds, List.map_map] at hkeys
    exact hkeys
  rw [hload]
  refine ⟨?_, ?_, fun name => ?_⟩
  · show (r.registerAll _).names = _
    rw [Registry.names_registerAll _ h.names, hnames, List.flatMap_append, List.flatMap_singleton]
  · rw [List.flatMap_append, List.flatMap_singleton, List.getLast?_append, ← h.default?,
      Source.getLast?_defaults_themes, ← hlast]
  · show ((r.registerAll _).theme? name).map Except.ok = _
    have hlatest : (lastUnder name (Theme.File.read ⟨source, icons⟩ lines).themes).map Except.ok =
        (lastUnder name (Theme.File.blocks lines)).map (Theme.File.build icons) := by
      rw [← lastUnder_map, ← lastUnder_map]
      exact congrArg (lastUnder name) hall
    rw [Registry.theme?_registerAll, Option.map_or, hlatest, h.theme? name, latest_concat_themes, Option.map_or,
      Option.map_map]
    congr 2
    funext body
    exact (finished_nil icons name body).symm

/-- **A script that runs to its end changes the themes that are there.** -/
theorem after_script (h : Loaded icons past r) (hrun : calls.performAll r = (none, r')) :
    Loaded icons (past ++ [.script calls]) r' := by
  have hworks := Script.performAll_eq hrun
  refine ⟨?_, ?_, fun name => ?_⟩
  · rw [hworks.names, h.names, List.flatMap_append, List.flatMap_singleton]
    show _ = (_ ++ []).eraseDups
    rw [List.append_nil]
  · rw [hworks.default?, h.default?, List.flatMap_append, List.flatMap_singleton, List.getLast?_append]
    rfl
  · -- a name without a theme has no block either, so the calls change nothing on both sides
    have hname := h.theme? name
    rw [hworks.theme? name, latest_concat_script]
    cases hlatest : latest name past with
    | none =>
      rw [hlatest, Option.map_none, Option.map_eq_none_iff] at hname
      rw [hname]
      rfl
    | some b =>
      rw [hlatest, Option.map_some] at hname
      obtain ⟨t, ht, hfinished⟩ := Option.map_eq_some_iff.1 hname
      rw [ht, Option.map_some, Option.map_some, Option.map_some, finished_append, ← hfinished]
      rfl

end Loaded

/-! ## The stages of a loading -/

/-- The lines of a theme file that is there. -/
def linesAt (path : Path) (fs : Files) : List String :=
  match fs.fileExists path, fs.readLines path with
  | .ok true, .ok r => r.1
  | _, _ => []

/-- The calls of a script that is there. -/
def callsAt (path : Path) (fs : Files) : Script :=
  match fs.fileExists path, fs.readScript path with
  | .ok true, .ok calls => calls
  | _, _ => []

def sourcesIn (dir : Path) (fs : Files) : List Source :=
  [.themes (linesAt (Locations.themesIn dir) fs), .script (callsAt (Locations.scriptIn dir) fs)]

/-- The sources in the order in which they are read: those of the system, then those of the user. -/
def sources (l : Locations) (fs : Files) : List Source := sourcesIn l.system fs ++ sourcesIn l.user fs

/-- A stage that succeeds adds a source to what was loaded. -/
def Adds (icons : Path) (stage : Stage) (source : Source) : Prop :=
  ∀ past r r' effects, stage r = (none, r', effects) → Loaded icons past r → Loaded icons (past ++ [source]) r'

theorem load_fst (reading : Theme.File.Reading) (r : Registry (Theme Step)) :
    (ThemeStore.load reading r).1 = reading.result := by
  unfold ThemeStore.load
  dsimp only
  split
  · next hresult => exact hresult.symm
  · rfl

/-- A theme file that is loaded was read to its end. -/
theorem loadThemes_success {path : Path} {fs : Files} {effects : List Effect}
    (h : loadThemes icons path fs r = (none, r', effects)) :
    ∃ lines last, fs.readLines path = .ok (lines, none) ∧
      (Theme.File.read ⟨path.text, icons⟩ lines).result = .ok last ∧
      r' = (ThemeStore.load (Theme.File.read ⟨path.text, icons⟩ lines) r).2 := by
  unfold loadThemes at h
  split at h
  · cases h
  · next reading hreading =>
    have hresult := load_fst reading r
    dsimp only at h
    split at h
    · next last r₁ hload =>
      cases h
      rw [hload] at hresult
      unfold readThemes at hreading
      cases hlines : fs.readLines path with
      | error f => rw [hlines] at hreading; cases hreading
      | ok read =>
        obtain ⟨lines, failure?⟩ := read
        rw [hlines] at hreading
        cases failure? with
        | none => cases hreading; exact ⟨lines, last, rfl, hresult.symm, by rw [hload]⟩
        | some f =>
          cases hreading
          obtain ⟨g, hg⟩ := Theme.File.readUpTo_result ⟨path.text, icons⟩ f lines
          cases hresult.trans hg
    · cases h

theorem runScript_success {path : Path} {fs : Files} {effects : List Effect}
    (h : runScript path fs r = (none, r', effects)) :
    ∃ calls : Script, fs.readScript path = .ok calls ∧ calls.performAll r = (none, r') := by
  unfold runScript at h
  split at h
  · cases h
  · next calls hcalls =>
    obtain ⟨hfailure, hdone⟩ := Prod.mk.inj h
    exact ⟨calls, hcalls, Prod.ext (Option.map_eq_none_iff.1 hfailure) (Prod.mk.inj hdone).1⟩

theorem adds_themes (icons path : Path) (fs : Files) (otherwise : List Effect) :
    Adds icons (ifThere path fs (loadThemes icons path fs) otherwise) (.themes (linesAt path fs)) := by
  intro past r r' effects hstage h
  unfold ifThere at hstage
  unfold linesAt
  split at hstage
  · cases hstage
  · next hthere =>
    obtain ⟨lines, last, hlines, hresult, rfl⟩ := loadThemes_success hstage
    rw [hthere, hlines]
    exact h.after_themes path.text hresult
  · next hthere =>
    cases hstage
    rw [hthere]
    have hempty : (Theme.File.read ⟨path.text, icons⟩ []).result = .ok none := rfl
    exact h.after_themes path.text hempty

theorem adds_script (icons path : Path) (fs : Files) (otherwise : List Effect) :
    Adds icons (ifThere path fs (runScript path fs) otherwise) (.script (callsAt path fs)) := by
  intro past r r' effects hstage h
  unfold ifThere at hstage
  unfold callsAt
  split at hstage
  · cases hstage
  · next hthere =>
    obtain ⟨calls, hcalls, hrun⟩ := runScript_success hstage
    rw [hthere, hcalls]
    exact h.after_script hrun
  · next hthere =>
    cases hstage
    rw [hthere]
    exact h.after_script rfl

theorem adds_directory (icons dir : Path) (fs : Files) (otherwise : List Effect) :
    List.Forall₂ (Adds icons) (directory icons dir fs otherwise) (sourcesIn dir fs) :=
  .cons (adds_themes _ _ _ _) (.cons (adds_script _ _ _ _) .nil)

/-- **Stages that all succeed leave what their sources come to.** -/
theorem loaded_inOrder : ∀ {stages : List Stage} {ss : List Source}, List.Forall₂ (Adds icons) stages ss →
    ∀ {past r r' effects}, inOrder stages r = (none, r', effects) → Loaded icons past r → Loaded icons (past ++ ss) r'
  | [], _, .nil, past, r, r', effects, hrun, h => by
    cases hrun
    rw [List.append_nil]
    exact h
  | stage :: stages, s :: ss, .cons hadds hrest, past, r, r', effects, hrun, h => by
    unfold inOrder at hrun
    split at hrun
    · cases hrun
    · next r₁ logged hstage =>
      obtain ⟨hfailure, hlater⟩ := Prod.mk.inj hrun
      have hloaded := loaded_inOrder hrest (Prod.ext hfailure (Prod.ext (Prod.mk.inj hlater).1 rfl))
        (hadds past r r₁ logged hstage h)
      rw [List.append_assoc] at hloaded
      exact hloaded

/-! ## The last word -/

/-- The block that the user's theme file declares last under a name leaves nothing of the system's. -/
theorem latest_of_user {l : Locations} {fs : Files} {name : String} {body : List String}
    (h : lastUnder name (Theme.File.blocks (linesAt (Locations.themesIn l.user) fs)) = some body) :
    latest name (sources l fs) = some (body, callsAt (Locations.scriptIn l.user) fs) := by
  have huser : latest name (sourcesIn l.user fs) = some (body, callsAt (Locations.scriptIn l.user) fs ++ []) := by
    rw [sourcesIn, latest, latest, Source.blocks, Source.blocks, h]
    rfl
  rw [List.append_nil] at huser
  show Option.or (Option.or (latest name (sourcesIn l.user fs)) _) _ = _
  rw [huser]
  rfl

theorem defaultName_eq_ok {name : String} (h : defaultName r = .ok name) :
    r.default? = some name ∧ name ∈ r.names := by
  unfold defaultName at h
  split at h
  · next chosen hdefault =>
    split at h
    · next hcontains => cases h; exact ⟨hdefault, (Registry.contains_iff _ r).1 hcontains⟩
    · cases h
  · cases h

theorem defaultName_eq_error (h : ∀ name, r.default? = some name → name ∉ r.names) :
    defaultName r = .error (.noDefaultTheme r.default?) := by
  unfold defaultName
  split
  · next name hdefault =>
    rw [if_neg fun hcontains => h name hdefault ((Registry.contains_iff name r).1 hcontains), hdefault]
  · next hdefault => rw [hdefault]

variable {l : Locations} {fs : Files} {effects : List Effect}

theorem load_of_success
    (h : inOrder (directory icons l.system fs [missing l] ++ directory icons l.user fs []) r = (none, r', effects)) :
    (load icons l fs r).1 = defaultName r' ∧ (load icons l fs r).2.1 = r' := by
  rw [load, h]
  dsimp only
  cases defaultName r' <;> exact ⟨rfl, rfl⟩

theorem load_of_failure {f : Failure}
    (h : inOrder (directory icons l.system fs [missing l] ++ directory icons l.user fs []) r = (some f, r', effects)) :
    (load icons l fs r).1 = .error f := by
  rw [load, h]

/-- Loading that comes to a name comes to a registered default. -/
theorem defaultName_of_load {name : String} (h : (load icons l fs r).1 = .ok name) :
    defaultName (load icons l fs r).2.1 = .ok name := by
  rcases hrun : inOrder (directory icons l.system fs [missing l] ++ directory icons l.user fs []) r with
    ⟨_ | f, r', effects⟩
  · obtain ⟨hresult, hregistry⟩ := load_of_success hrun
    rw [hregistry, ← hresult, h]
  · rw [load_of_failure hrun] at h
    cases h

theorem loaded_of_load {name : String} (h : (load icons l fs .empty).1 = .ok name) :
    Loaded icons (sources l fs) (load icons l fs .empty).2.1 := by
  have hadds : List.Forall₂ (Adds icons) (directory icons l.system fs [missing l] ++ directory icons l.user fs [])
      (sources l fs) :=
    List.rel_append (adds_directory icons l.system fs [missing l]) (adds_directory icons l.user fs [])
  rcases hrun : inOrder (directory icons l.system fs [missing l] ++ directory icons l.user fs []) .empty with
    ⟨_ | f, r, effects⟩
  · rw [(load_of_success hrun).2]
    exact loaded_inOrder hadds hrun (.empty icons)
  · rw [load_of_failure hrun] at h
    cases h

/-- **The last word counts.**  If loading into an empty registry comes to a name, then that is the default that the
sources chose last, and it is registered; the names are those of the blocks, in the order in which they came up first;
and the theme of a name is that of its last block, changed by the calls of scripts after that block and by nothing else.
If every stage succeeds and the default chosen last is no name of a block, then loading fails and names it. -/
theorem load_precedence (icons : Path) (l : Locations) (fs : Files) :
    let past := sources l fs
    let chosen := (past.flatMap Source.defaults).getLast?
    let loaded := load icons l fs .empty
    (∀ name, loaded.1 = .ok name →
      chosen = some name ∧ loaded.2.1.default? = some name ∧ name ∈ loaded.2.1.names ∧
      loaded.2.1.names = (past.flatMap Source.names).eraseDups ∧
      (∀ n, (loaded.2.1.theme? n).map Except.ok = (latest n past).map (finished icons n)) ∧
      ∀ n body, lastUnder n (Theme.File.blocks (linesAt (Locations.themesIn l.user) fs)) = some body →
        (loaded.2.1.theme? n).map Except.ok = some (finished icons n (body, callsAt (Locations.scriptIn l.user) fs))) ∧
    ((inOrder (directory icons l.system fs [missing l] ++ directory icons l.user fs []) .empty).1 = none →
      (∀ name, chosen = some name → name ∉ past.flatMap Source.names) →
      loaded.1 = .error (.noDefaultTheme chosen)) := by
  intro past chosen loaded
  have hadds : List.Forall₂ (Adds icons) (directory icons l.system fs [missing l] ++ directory icons l.user fs []) past :=
    List.rel_append (adds_directory icons l.system fs [missing l]) (adds_directory icons l.user fs [])
  rcases hrun : inOrder (directory icons l.system fs [missing l] ++ directory icons l.user fs []) .empty with
    ⟨_ | f, r, effects⟩
  · obtain ⟨hresult, hregistry⟩ := load_of_success hrun
    have hpast : Loaded icons past r := loaded_inOrder hadds hrun (.empty icons)
    have hchosen : r.default? = chosen := hpast.default?
    constructor
    · intro name hname
      obtain ⟨hdefault, hmem⟩ := defaultName_eq_ok (hresult.symm.trans hname)
      rw [hregistry]
      refine ⟨hchosen.symm.trans hdefault, hdefault, hmem, hpast.names, hpast.theme?, fun n body hbody => ?_⟩
      rw [hpast.theme? n, latest_of_user hbody]
      rfl
    · intro _ hunknown
      rw [← hchosen]
      refine hresult.trans (defaultName_eq_error fun name hname hmem => ?_)
      rw [hpast.names, List.mem_eraseDups] at hmem
      exact hunknown name (hchosen.symm.trans hname) hmem
  · refine ⟨fun name hname => ?_, fun h => by cases h⟩
    have hfailed : loaded.1 = .error f := load_of_failure hrun
    rw [hfailed] at hname
    cases hname

/-- A user who declares a theme of the system again and prefers another one. -/
def overridden : Files :=
  ⟨[(["system", "themes.conf"], .file (.text "[a]\n[b]\n".toUTF8)),
    (["system", "rc.py"], .file (.script [.setDirectory "a" (.ofString "old"), .setDirectory "b" (.ofString "new")])),
    (["user", "themes.conf"], .file (.text "[a]\n".toUTF8)),
    (["user", "rc.py"], .file (.script [.makeDefault "b"]))], []⟩

theorem load_precedence_overridden :
    let l : Locations := ⟨.ofString "system", .ofString "user"⟩
    let loaded := load (.ofString "icons") l overridden .empty
    loaded.1 = .ok "b" ∧ loaded.2.1.names = ["a", "b"] ∧ loaded.2.1.theme? "a" = some (.new (.ofString "icons")) ∧
      loaded.2.1.theme? "b" = some (.new (.ofString "new")) ∧
      (load (.ofString "icons") l ⟨[], []⟩ .empty).1 = .error (.noDefaultTheme none) := by
  dsimp only
  have htheme : ∀ {o : Option (Theme Step)} {x : Option (Except Failure (Theme Step))}, o.map Except.ok = x →
      o = x.bind Except.toOption := by
    intro o x h
    subst h
    cases o <;> rfl
  have hname : (load (.ofString "icons") ⟨.ofString "system", .ofString "user"⟩ overridden .empty).1 = .ok "b" :=
    Failure.eq_ok_of_toOption (by decide +kernel)
  have hspec := (load_precedence (.ofString "icons") ⟨.ofString "system", .ofString "user"⟩ overridden).1 "b" hname
  have hchosen : ((sources ⟨.ofString "system", .ofString "user"⟩ ⟨[], []⟩).flatMap Source.defaults).getLast? = none := by
    decide +kernel
  have hnone := (load_precedence (.ofString "icons") ⟨.ofString "system", .ofString "user"⟩ ⟨[], []⟩).2
    (Option.isNone_iff_eq_none.1 (by decide +kernel)) fun name h => by rw [hchosen] at h; cases h
  rw [hchosen] at hnone
  -- what is loaded is told by the law alone from here on, and not computed
  generalize load (.ofString "icons") ⟨.ofString "system", .ofString "user"⟩ overridden .empty = loaded at hname hspec ⊢
  obtain ⟨-, -, -, hnames, hthemes, hagain⟩ := hspec
  refine ⟨hname, hnames.trans (by decide +kernel), ?_, ?_, hnone⟩
  · exact (htheme (hagain "a" [] (by decide +kernel))).trans (by decide +kernel)
  · exact (htheme (hthemes "b")).trans (by decide +kernel)

end Loading
end BatteryIndicator
