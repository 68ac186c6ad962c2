import BatteryIndicator.CommandLine
import BatteryIndicator.Proofs.Theme.Refusal
import BatteryIndicator.Proofs.ValidatedLoading
import Mathlib.Data.List.Forall2
/-!
# StartUp — how starting up can fail

Starting up looks for a settings file, two theme files and two scripts, and most of what can be wrong with them is a
failure that is told.  Three things are not (`startUp_untold_iff`): a path that is too long to be followed, a theme file
that is no text although its lines so far are in order (`Unforeseen.malformed`), and a step set in a block that declares
more steps than a text can be cut into (`Unforeseen.tooMany`).  Scripts add none, since whatever goes wrong in them is a
failure of the script.
-/
namespace BatteryIndicator

open CommandLine (isTold)

/-! ## Files -/

namespace Files

variable {fs : Files} {path : Path} {f : Failure} {c : Content}

/-- What the operating system says of a path that is too long. -/
def tooLong (path : Path) : Failure := .system (Refusal.nameTooLong.error path.raw)

theorem ask_eq_error_iff {test : Entry → Bool} :
    fs.ask test path = .error f ↔ fs.find path.raw = .error .nameTooLong ∧ f = tooLong path := by
  unfold ask
  rcases fs.find path.raw with r | e
  · cases r <;> simp [tooLong, eq_comm]
  · simp

theorem content_of_fileExists (h : fs.fileExists path = .ok true) : ∃ c, fs.content path = .ok c := by
  unfold fileExists ask at h
  unfold content
  split at h
  · next e hfind =>
    rw [hfind]
    cases e with
    | file c => exact ⟨c, rfl⟩
    | directory => cases h
  · cases h
  · cases h

theorem fileExists_of_content (h : fs.content path = .ok c) : fs.fileExists path = .ok true := by
  unfold content at h
  unfold fileExists ask
  split at h
  · next hfind => rw [hfind]
  · cases h
  · cases h

end Files

/-! ## The settings -/

theorem Locations.isTold_of_userDirectory {env : Environment} {f : Failure} (h : userDirectory env = .error f) :
    isTold f = true := by
  unfold userDirectory at h
  split at h
  · cases h
  · cases h
  · cases h; rfl

theorem Locations.isTold_of_discover {system : Path} {env : Environment} {f : Failure}
    (h : discover system env = .error f) : isTold f = true := by
  unfold discover at h
  cases huser : userDirectory env with
  | error g => rw [huser] at h; cases h; exact isTold_of_userDirectory huser
  | ok user => rw [huser] at h; cases h

namespace Settings

variable {env : Environment} {path : Path} {asked : Option Path} {fs : Files} {f : Failure}

/-- The file that is asked for, or that the environment names. -/
def named? (env : Environment) (asked : Option Path) : Option Path :=
  asked.or ((env.nonempty? pathVariable).map .ofString)

/-- The settings file that is looked for: the one that is named, or else the one in the user's directory. -/
def sought? (env : Environment) (asked : Option Path) : Option Path :=
  (named? env asked).or ((Locations.userDirectory env).toOption.map Locations.settingsIn)

theorem isTold_of_ofFile (h : ofFile env path fs = .error f) : isTold f = true ∨
    fs.find path.raw = .error .nameTooLong ∧ f = Files.tooLong path := by
  unfold ofFile at h
  split at h
  · next hexists => cases h; exact .inr (Files.ask_eq_error_iff.1 hexists)
  · cases h; exact .inl rfl
  · split at h
    · cases h; exact .inl rfl
    · unfold ofDocument at h
      split at h
      · cases h
      · cases h; exact .inl rfl

theorem ofFile_of_tooLong (h : fs.find path.raw = .error .nameTooLong) :
    ofFile env path fs = .error (Files.tooLong path) := by
  have hexists : fs.pathExists path = .error (Files.tooLong path) := Files.ask_eq_error_iff.2 ⟨h, rfl⟩
  rw [ofFile, hexists]

theorem loadForUser_of_named (h : named? env asked = some path) : loadForUser env asked fs = ofFile env path fs := by
  have hgiven : (asked.isSome || (env.nonempty? pathVariable).isSome) = true := by
    cases asked with
    | some _ => rfl
    | none =>
      obtain ⟨value, hvalue, -⟩ := Option.map_eq_some_iff.1 h
      rw [hvalue]
      rfl
  rw [named?] at h
  rw [loadForUser, if_pos hgiven, load, h]

theorem loadForUser_of_none (h : named? env asked = none) : loadForUser env asked fs =
    (Locations.userDirectory env).bind fun dir => (fs.fileExists (Locations.settingsIn dir)).bind fun there =>
      if there then ofFile env (Locations.settingsIn dir) fs else .ok default := by
  obtain ⟨rfl, hv⟩ := Option.or_eq_none_iff.1 h
  rw [Option.map_eq_none_iff] at hv
  have hload : ∀ path : Option Path, load env path fs = path.elim (.ok default) fun p => ofFile env p fs := by
    intro path
    rw [load, hv]
    cases path <;> rfl
  have hgiven : ((none : Option Path).isSome || (env.nonempty? pathVariable).isSome) = false := by rw [hv]; rfl
  rw [loadForUser, hgiven, if_neg Bool.false_ne_true]
  refine bind_congr fun dir => bind_congr fun there => ?_
  rw [hload]
  cases there <;> rfl

/-- **What is wrong with the settings is told**, unless the path of their file is too long. -/
theorem loadForUser_untold_iff (hf : isTold f = false) : loadForUser env asked fs = .error f ↔
    ∃ path ∈ sought? env asked, fs.find path.raw = .error .nameTooLong ∧ f = Files.tooLong path := by
  have hfile : ∀ path, ofFile env path fs = .error f ↔ fs.find path.raw = .error .nameTooLong ∧ f = Files.tooLong path := by
    intro path
    constructor
    · intro h
      rcases isTold_of_ofFile h with htold | htooLong
      · cases hf.symm.trans htold
      · exact htooLong
    · rintro ⟨htooLong, rfl⟩
      exact ofFile_of_tooLong htooLong
  cases hnamed : named? env asked with
  | some p =>
    rw [loadForUser_of_named hnamed, hfile, sought?, hnamed]
    simp
  | none =>
    rw [loadForUser_of_none hnamed, sought?, hnamed]
    cases hdir : Locations.userDirectory env with
    | error g =>
      have hne : g ≠ f := by
        rintro rfl
        cases hf.symm.trans (Locations.isTold_of_userDirectory hdir)
      simp [Except.bind, Except.toOption, hne]
    | ok dir =>
      cases hthere : fs.fileExists (Locations.settingsIn dir) with
      | error g =>
        obtain ⟨htooLong, rfl⟩ := Files.ask_eq_error_iff.1 hthere
        simp [Except.bind, Except.toOption, hthere, htooLong, eq_comm]
      | ok there =>
        -- the path was followed to find out whether the file is there
        have hfollowed : fs.find (Locations.settingsIn dir).raw ≠ .error .nameTooLong := fun h => by
          cases hthere.symm.trans (Files.ask_eq_error_iff.2 ⟨h, rfl⟩)
        cases there <;> simp [Except.bind, Except.toOption, hthere, hfollowed, hfile]

end Settings

/-! ## The themes -/

namespace Loading

open Theme.File (read readUpTo)

variable {icons : Path} {l : Locations} {fs : Files} {r : Registry (Theme Step)} {f : Failure}

/-- The stages of a loading. -/
def stages (icons : Path) (l : Locations) (fs : Files) : List Stage :=
  directory icons l.system fs [missing l] ++ directory icons l.user fs []

/-- A file that a loading looks for. -/
inductive Sought where
  | themes (path : Path)
  | script (path : Path)

namespace Sought

def path : Sought → Path
  | themes path => path
  | script path => path

def stage (icons : Path) (fs : Files) : Sought → Stage
  | themes path => loadThemes icons path fs
  | script path => runScript path fs

end Sought

def soughtIn (dir : Path) : List Sought := [.themes (Locations.themesIn dir), .script (Locations.scriptIn dir)]

/-- The files that a loading looks for, in the order of its stages. -/
def sought (l : Locations) : List Sought := soughtIn l.system ++ soughtIn l.user

def LooksFor (icons : Path) (fs : Files) (stage : Stage) (file : Sought) : Prop :=
  ∃ otherwise, stage = ifThere file.path fs (file.stage icons fs) otherwise

theorem looksFor_directory (icons dir : Path) (fs : Files) (otherwise : List Effect) :
    List.Forall₂ (LooksFor icons fs) (directory icons dir fs otherwise) (soughtIn dir) :=
  .cons ⟨_, rfl⟩ (.cons ⟨_, rfl⟩ .nil)

theorem looksFor_stages (icons : Path) (l : Locations) (fs : Files) :
    List.Forall₂ (LooksFor icons fs) (stages icons l fs) (sought l) :=
  List.rel_append (looksFor_directory icons l.system fs [missing l]) (looksFor_directory icons l.user fs [])

/-- **What can be wrong with a file and is not told**: its path is too long to be followed; it is a theme file and no
text, and the lines that can be read of it are in order; or the reading of its lines fails for too many fields. -/
inductive Unforeseen (icons : Path) (fs : Files) : Sought → Failure → Prop
  | tooLong {file : Sought} (long : fs.find file.path.raw = .error .nameTooLong) :
    Unforeseen icons fs file (Files.tooLong file.path)
  | malformed {path : Path} {bytes : ByteArray} {last : Option String} (content : fs.content path = .ok (.text bytes))
    (noText : String.fromUTF8? bytes = none)
    (accepted : (read ⟨path.text, icons⟩ (Files.linesOf bytes).1).result = .ok last) :
    Unforeseen icons fs (.themes path) .undecodable
  | tooMany {path : Path} {bytes : ByteArray} (content : fs.content path = .ok (.text bytes))
    (refused : (read ⟨path.text, icons⟩ (Files.linesOf bytes).1).result = .error .tooManyFields) :
    Unforeseen icons fs (.themes path) .tooManyFields

theorem ending_of_text {path : Path} {bytes : ByteArray} (h : fs.content path = .ok (.text bytes)) (icons : Path) :
    ending icons path fs = match (read ⟨path.text, icons⟩ (Files.linesOf bytes).1).result with
      | .error f => .error f
      | .ok last => if (String.fromUTF8? bytes).isSome then .ok last else .error .undecodable := by
  have hlines : fs.readLines path = .ok (Files.linesOf bytes) := by rw [Files.readLines, h]
  have hfailure : (Files.linesOf bytes).2 = if (String.fromUTF8? bytes).isSome then none else some .undecodable := by
    unfold Files.linesOf Files.decode
    cases String.fromUTF8? bytes <;> rfl
  rw [ending, readThemes, hlines, Except.map, hfailure]
  by_cases htext : (String.fromUTF8? bytes).isSome
  · rw [if_pos htext]
    dsimp only [Except.bind]
    cases (read ⟨path.text, icons⟩ (Files.linesOf bytes).1).result <;> simp [htext]
  · rw [if_neg htext]
    dsimp only [Except.bind]
    cases hresult : (read ⟨path.text, icons⟩ (Files.linesOf bytes).1).result with
    | error f => rw [Theme.File.readUpTo_of_error hresult, hresult]
    | ok last =>
      rw [Theme.File.result_readUpTo_of_ok hresult]
      exact (if_neg htext).symm

theorem ending_of_script {path : Path} {calls : Script} (h : fs.content path = .ok (.script calls)) (icons : Path) :
    ending icons path fs = .ok none := by
  rw [ending, readThemes, Files.readLines, h]
  rfl

theorem ending_untold_iff {path : Path} {c : Content} (hcontent : fs.content path = .ok c) (hf : isTold f = false) :
    ending icons path fs = .error f ↔ Unforeseen icons fs (.themes path) f := by
  have hfollowed : fs.find path.raw ≠ .error .nameTooLong := fun h => by
    rw [Files.content, h] at hcontent
    cases hcontent
  constructor
  · intro h
    cases c with
    | script calls =>
      rw [ending_of_script hcontent] at h
      cases h
    | text bytes =>
      rw [ending_of_text hcontent] at h
      cases hresult : (read ⟨path.text, icons⟩ (Files.linesOf bytes).1).result with
      | error g =>
        rw [hresult] at h
        cases h
        rcases Theme.File.read_eq_error hresult with ⟨declared, actual, rfl⟩ | rfl
        · cases hf
        · exact .tooMany hcontent hresult
      | ok last =>
        rw [hresult] at h
        dsimp only at h
        split at h
        · cases h
        · next htext =>
          cases h
          exact .malformed hcontent (Option.not_isSome_iff_eq_none.1 htext) hresult
  · intro h
    cases h with
    | tooLong long => exact absurd long hfollowed
    | malformed content noText accepted => rw [ending_of_text content, accepted, noText]; rfl
    | tooMany content refused => rw [ending_of_text content, refused]

theorem isTold_of_runScript {path : Path} {c : Content} (hcontent : fs.content path = .ok c)
    (h : (runScript path fs r).1 = some f) : isTold f = true := by
  obtain ⟨calls, hcalls⟩ : ∃ calls, fs.readScript path = .ok calls := by
    rw [Files.readScript, hcontent]
    cases c <;> exact ⟨_, rfl⟩
  rw [runScript, hcalls] at h
  obtain ⟨cause, -, rfl⟩ := Option.map_eq_some_iff.1 h
  rfl

theorem Unforeseen.fileExists {file : Sought} (h : Unforeseen icons fs file f) :
    fs.fileExists file.path = .error f ∨ fs.fileExists file.path = .ok true ∧ ∃ path, file = .themes path := by
  cases h with
  | tooLong long => exact .inl (Files.ask_eq_error_iff.2 ⟨long, rfl⟩)
  | malformed content | tooMany content => exact .inr ⟨Files.fileExists_of_content content, _, rfl⟩

/-- **A stage fails with what is not told** as its file says, whatever was loaded before it. -/
theorem stage_untold_iff {stage : Stage} {file : Sought} (hstage : LooksFor icons fs stage file)
    (hf : isTold f = false) (r : Registry (Theme Step)) : (stage r).1 = some f ↔ Unforeseen icons fs file f := by
  obtain ⟨otherwise, rfl⟩ := hstage
  unfold ifThere
  cases hthere : fs.fileExists file.path with
  | error g =>
    obtain ⟨hlong, rfl⟩ := Files.ask_eq_error_iff.1 hthere
    constructor
    · intro h
      cases h
      exact .tooLong hlong
    · intro h
      rcases h.fileExists with herror | ⟨hok, -⟩
      · exact congrArg some (Except.error.inj (hthere.symm.trans herror))
      · cases hthere.symm.trans hok
  | ok there =>
    cases there with
    | false =>
      refine ⟨fun h => (by cases h), fun h => ?_⟩
      rcases h.fileExists with herror | ⟨hok, -⟩
      · cases hthere.symm.trans herror
      · cases hthere.symm.trans hok
    | true =>
      obtain ⟨c, hcontent⟩ := Files.content_of_fileExists hthere
      cases file with
      | themes path => exact (loadThemes_eq_some_iff icons path fs r).trans (ending_untold_iff hcontent hf)
      | script path =>
        refine ⟨fun h => ?_, fun h => ?_⟩
        · cases hf.symm.trans (isTold_of_runScript hcontent h)
        · rcases h.fileExists with herror | ⟨-, _, hthemes⟩
          · cases hthere.symm.trans herror
          · cases hthemes

/-- **Stages fail with what is not told** at a file that says so, if the files before it are loaded. -/
theorem inOrder_untold_iff (hf : isTold f = false) : ∀ {ss : List Stage} {files : List Sought},
    List.Forall₂ (LooksFor icons fs) ss files → ∀ r : Registry (Theme Step),
      ((inOrder ss r).1 = some f ↔ ∃ early file late, files = early ++ file :: late ∧
        (inOrder (ss.take early.length) r).1 = none ∧ Unforeseen icons fs file f)
  | [], _, .nil, r => by
    refine ⟨fun h => (by cases h), ?_⟩
    rintro ⟨early, file, late, h, -⟩
    cases early <;> cases h
  | stage :: ss, file :: files, .cons hstage hrest, r => by
    have hfirst := stage_untold_iff hstage hf r
    rcases hrun : stage r with ⟨_ | g, r', effects⟩
    -- what was loaded before a file decides whether it is reached, and not what is wrong with it
    · have hcons : ∀ ss : List Stage, (inOrder (stage :: ss) r).1 = (inOrder ss r').1 := fun ss => by
        rw [inOrder, hrun]
      rw [hcons, inOrder_untold_iff hf hrest r']
      constructor
      · rintro ⟨early, x, late, rfl, hearly, hx⟩
        exact ⟨file :: early, x, late, rfl, (hcons _).trans hearly, hx⟩
      · rintro ⟨early, x, late, hfiles, hearly, hx⟩
        cases early with
        | nil =>
          cases hfiles
          rw [hrun] at hfirst
          cases hfirst.2 hx
        | cons y early =>
          cases hfiles
          exact ⟨early, x, late, rfl, (hcons _).symm.trans hearly, hx⟩
    · have hcons : ∀ ss : List Stage, (inOrder (stage :: ss) r).1 = some g := fun ss => by
        rw [inOrder, hrun]
      rw [hcons]
      rw [hrun] at hfirst
      refine hfirst.trans ⟨fun h => ⟨[], file, files, rfl, rfl, h⟩, ?_⟩
      rintro ⟨early, x, late, hfiles, hearly, hx⟩
      cases early with
      | nil => cases hfiles; exact hx
      | cons y early => cases (hcons _).symm.trans hearly

theorem isTold_of_defaultName (h : defaultName r = .error f) : isTold f = true := by
  unfold defaultName at h
  split at h
  · split at h
    · cases h
    · cases h; rfl
  · cases h; rfl

/-- **Loading fails with what is not told** at a file only; that there is no default is told. -/
theorem load_untold_iff (hf : isTold f = false) (r : Registry (Theme Step)) :
    (load icons l fs r).1 = .error f ↔ (inOrder (stages icons l fs) r).1 = some f := by
  rcases hrun : inOrder (stages icons l fs) r with ⟨_ | g, r', effects⟩
  · rw [(load_of_success hrun).1]
    exact ⟨fun h => (by cases hf.symm.trans (isTold_of_defaultName h)), fun h => (by cases h)⟩
  · rw [load_of_failure hrun]
    simp

end Loading

/-! ## Starting up -/

namespace CommandLine

variable {env : Environment} {settings : Option String} {fs : Files} {started : Started} {f : Failure}

/-- What starting up succeeds with: settings, and what was loaded from where they lead to. -/
theorem startUp_eq_ok (h : (startUp env settings fs).1 = .ok started) :
    Settings.loadForUser env (settings.map .ofString) fs = .ok started.settings ∧
      ∃ l name, Locations.discover started.settings.systemDirectory env = .ok l ∧
        (Loading.load started.settings.iconDirectory l fs .empty).1 = .ok name ∧
        (Loading.load started.settings.iconDirectory l fs .empty).2.1 = started.registry := by
  unfold startUp at h
  split at h
  · cases h
  · next s hs =>
    split at h
    · cases h
    · next l hl =>
      dsimp only at h
      cases hload : (Loading.load s.iconDirectory l fs .empty).1 with
      | error f => rw [hload] at h; cases h
      | ok name => rw [hload] at h; cases h; exact ⟨hs, l, name, hl, hload, rfl⟩

/-- What an indicator that has started up has registered, and which of it is the default. -/
theorem registered_of_startUp (h : (startUp env settings fs).1 = .ok started) :
    ∃ l name, Locations.discover started.settings.systemDirectory env = .ok l ∧
      started.registry.names = ((Loading.sources l fs).flatMap Loading.Source.names).eraseDups ∧
      started.registry.default? = some name ∧ name ∈ started.registry.names ∧
      ((Loading.sources l fs).flatMap Loading.Source.defaults).getLast? = some name := by
  obtain ⟨-, l, name, hl, hload, hregistry⟩ := startUp_eq_ok h
  have hloaded := Loading.loaded_of_load hload
  obtain ⟨hdefault, hmem⟩ := Loading.defaultName_eq_ok (Loading.defaultName_of_load hload)
  rw [hregistry] at hloaded hdefault hmem
  exact ⟨l, name, hl, hloaded.names, hdefault, hmem, hloaded.default?.symm.trans hdefault⟩

/-- **A failure of start-up that nothing provides for**: the path of the settings file is too long, or something is wrong
with a theme file or a script that is not told, once the files before it are loaded. -/
def Escapes (env : Environment) (settings : Option String) (fs : Files) (f : Failure) : Prop :=
  (∃ path ∈ Settings.sought? env (settings.map .ofString),
    fs.find path.raw = .error .nameTooLong ∧ f = Files.tooLong path) ∨
  ∃ s l, Settings.loadForUser env (settings.map .ofString) fs = .ok s ∧
    Locations.discover s.systemDirectory env = .ok l ∧
    ∃ early file late, Loading.sought l = early ++ file :: late ∧
      (Loading.inOrder ((Loading.stages s.iconDirectory l fs).take early.length) .empty).1 = none ∧
      Loading.Unforeseen s.iconDirectory fs file f

theorem Escapes.untold (h : Escapes env settings fs f) : isTold f = false := by
  rcases h with ⟨path, -, -, rfl⟩ | ⟨s, l, -, -, early, file, late, -, -, hfile⟩
  · rfl
  · cases hfile <;> rfl

/-- **Whatever start-up fails with is told, or escapes as `Escapes` says.** -/
theorem startUp_untold_iff : (startUp env settings fs).1 = .error f ∧ isTold f = false ↔ Escapes env settings fs f := by
  constructor
  · rintro ⟨h, hf⟩
    unfold startUp at h
    split at h
    · next hs => cases h; exact .inl ((Settings.loadForUser_untold_iff hf).1 hs)
    · next s hs =>
      split at h
      · next hl =>
        cases h
        cases hf.symm.trans (Locations.isTold_of_discover hl)
      · next l hl =>
        dsimp only at h
        cases hload : (Loading.load s.iconDirectory l fs .empty).1 with
        | ok name => rw [hload] at h; cases h
        | error g =>
          rw [hload] at h
          cases h
          exact .inr ⟨s, l, hs, hl, (Loading.inOrder_untold_iff hf (Loading.looksFor_stages _ l fs) _).1
            ((Loading.load_untold_iff hf _).1 hload)⟩
  · intro h
    have hf := h.untold
    refine ⟨?_, hf⟩
    unfold startUp
    rcases h with hpath | ⟨s, l, hs, hl, hfile⟩
    · rw [(Settings.loadForUser_untold_iff hf).2 hpath]
    · rw [hs]
      dsimp only
      rw [hl]
      have hrun := (Loading.inOrder_untold_iff hf (Loading.looksFor_stages _ l fs) _).2 hfile
      dsimp only
      rw [(Loading.load_untold_iff hf _).2 hrun]
      rfl

end CommandLine
end BatteryIndicator
