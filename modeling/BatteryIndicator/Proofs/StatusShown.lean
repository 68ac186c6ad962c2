import BatteryIndicator.Monitor
import BatteryIndicator.Proofs.StartUp
/-!
# StatusShown — the status command shows what the tray would show

The status command reads a report, evaluates the active theme and prints what comes of it, all by itself; the first
cycle of a monitor does the same for its tray (`tray_cycle`).  Once the indicator has started up, both find an active
theme, and the two agree on whether there is a battery, on the icon and on the lines (`status_shows_tray`).  What is
printed loses the sequences that colour it; a text without an escape is printed as it is (`printed_of_plain`).  Only the
path of an icon may be a text that is not whole, and the command can print no such text: it ends there.
-/
namespace BatteryIndicator

/-! ## The tray -/

namespace Monitor

theorem tray_warn (r : Reading) (m : Monitor) : (m.warn r).2.1.tray = m.tray := by
  have hcheck : (m.check r.level r.charging?).2.1.tray = m.tray := rfl
  unfold warn
  rcases hm : m.check r.level r.charging? with ⟨_ | w, m', logged⟩
  · rw [hm] at hcheck; exact hcheck
  · rw [hm] at hcheck; exact hcheck

/-- **A cycle sets the tooltip and shows the icon of its evaluation**, whatever comes of the event and the warning. -/
theorem tray_cycle (t : Theme Step) (outcome : Command.Outcome) (r : Reading) (m : Monitor) :
    (m.cycle (.ok t) outcome r).2.1.tray =
      (m.tray.setTooltip r.tooltip).display (Evaluation.evaluate t r.direction r.level m.evaluation).1.icon :=
  tray_warn r _

end Monitor

/-! ## Files that were read -/

theorem Files.content_of_readText {fs : Files} {path : Path} {text : String} (h : fs.readText path = .ok text) :
    ∃ c, fs.content path = .ok c := by
  unfold readText at h
  cases hc : fs.content path with
  | error f => rw [hc] at h; cases h
  | ok c => exact ⟨c, rfl⟩

/-- Settings from a path are those of a file that could be read. -/
theorem Settings.readText_of_loadForUser {env : Environment} {path : Path} {fs : Files} {s : Settings}
    (h : loadForUser env (some path) fs = .ok s) : ∃ text, fs.readText path = .ok text := by
  have hfile : ofFile env path fs = .ok s := h
  unfold ofFile at hfile
  split at hfile
  · cases hfile
  · cases hfile
  · unfold document? at hfile
    cases hread : fs.readText path with
    | error f => rw [hread] at hfile; cases hfile
    | ok text => exact ⟨text, rfl⟩

namespace CommandLine

/-! ## Printing -/

theorem withoutColors_append : ∀ s t : List Char, '\x1b' ∉ s → withoutColors (s ++ t) = s ++ withoutColors t
  | [], _, _ => rfl
  | c :: s, t, h => by
    have hc : c ≠ '\x1b' := fun hc => h (hc ▸ List.mem_cons_self)
    rw [List.cons_append, withoutColors.eq_3 _ _ fun _ he => absurd he hc,
      withoutColors_append s t fun hmem => h (List.mem_cons_of_mem c hmem), List.cons_append]

theorem withoutColors_sequence {t rest : List Char} (h : colorEnd? t = some rest) :
    withoutColors ('\x1b' :: '[' :: t) = withoutColors rest := by
  rw [withoutColors.eq_2]
  split
  · next rest' h' => rw [h] at h'; cases h'; rfl
  · next h' => rw [h] at h'; cases h'

theorem withoutColors_of_plain (s : List Char) (h : '\x1b' ∉ s) : withoutColors s = s := by
  have happend := withoutColors_append s [] h
  rwa [List.append_nil, withoutColors.eq_1, List.append_nil] at happend

theorem printed_of_plain {lines : List String} (h : ∀ l ∈ lines, '\x1b' ∉ l.toList) :
    printed lines = String.join (lines.map (· ++ "\n")) := by
  unfold printed
  congr 1
  refine List.map_congr_left fun l hl => ?_
  rw [withoutColors_of_plain _ (h l hl), String.ofList_toList]

theorem printed_append (lines more : List String) : printed (lines ++ more) = printed lines ++ printed more := by
  rw [printed, List.map_append, String.join_append]
  rfl

theorem pieces_chars : ∀ s : List Char, pieces (s.map .char) = (s, [])
  | [] => rfl
  | c :: s => by rw [List.map_cons, pieces, pieces_chars s]

theorem withoutColorsRaw_ofString (s : String) :
    withoutColorsRaw (.ofString s) = .ofString (String.ofList (withoutColors s.toList)) := by
  rw [withoutColorsRaw, RawText.ofString, pieces_chars, RawText.ofString, String.toList_ofList, List.flatMap_nil,
    List.append_nil]

theorem printAll_cons_ofString (l : String) (ls : List RawText) :
    printAll (.ofString l :: ls) = (printed [l] ++ (printAll ls).1, (printAll ls).2) := by
  rw [printAll, withoutColorsRaw_ofString, RawText.whole?_ofString]
  simp [printed]

/-- **Whole lines are printed**, whatever comes after them. -/
theorem printAll_append : ∀ (lines : List String) (ls : List RawText),
    printAll (lines.map .ofString ++ ls) = (printed lines ++ (printAll ls).1, (printAll ls).2)
  | [], ls => Prod.ext String.empty_append.symm rfl
  | l :: lines, ls => by
    rw [List.map_cons, List.cons_append, printAll_cons_ofString, printAll_append lines ls, ← String.append_assoc,
      ← printed_append, List.singleton_append]

theorem printAll_ofString (lines : List String) : printAll (lines.map .ofString) = (printed lines, none) := by
  have happend := printAll_append lines []
  rwa [List.append_nil, printAll, String.append_empty] at happend

theorem mem_pieces {n : Fin 0x800} : ∀ {s : RawText}, CodePoint.half n ∈ s → ∃ t, (n, t) ∈ (pieces s).2
  | .char _ :: s, h => by
    have hrest : CodePoint.half n ∈ s := (List.mem_cons.1 h).resolve_left nofun
    obtain ⟨t, ht⟩ := mem_pieces hrest
    exact ⟨t, ht⟩
  | .half _ :: s, h => by
    rcases List.mem_cons.1 h with heq | hmem
    · cases heq
      exact ⟨_, List.mem_cons_self⟩
    · obtain ⟨t, ht⟩ := mem_pieces hmem
      exact ⟨t, List.mem_cons_of_mem _ ht⟩

theorem half_mem_withoutColorsRaw {n : Fin 0x800} {s : RawText} (h : CodePoint.half n ∈ s) :
    CodePoint.half n ∈ withoutColorsRaw s := by
  obtain ⟨t, ht⟩ := mem_pieces h
  exact List.mem_append_right _ (List.mem_flatMap.2 ⟨(n, t), ht, List.mem_cons_self⟩)

/-- **A half ends the printing**, with nothing of its line printed. -/
theorem printAll_cons_of_half {n : Fin 0x800} {l : RawText} (h : CodePoint.half n ∈ l) (ls : List RawText) :
    printAll (l :: ls) = ("", some (.unencodable (withoutColorsRaw l))) := by
  rw [printAll, RawText.whole?_of_half (half_mem_withoutColorsRaw h)]

/-! ## Starting up -/

variable {env : Environment} {settings : Option String} {fs : Files} {started : Started} {logged : List Effect}

/-- **An indicator that has started up has an active theme.** -/
theorem startUp_active (h : startUp env settings fs = (.ok started, logged)) :
    ∃ name t, started.registry.default? = some name ∧ started.registry.active = .ok t := by
  obtain ⟨l, name, -, -, hdefault, hmem, -⟩ := registered_of_startUp (congrArg Prod.fst h)
  obtain ⟨t, ht⟩ := Option.isSome_iff_exists.1 ((Registry.contains_iff name _).2 hmem)
  exact ⟨name, t, hdefault, by rw [Registry.active, hdefault, Option.bind_some, ht]⟩

theorem startUp_of_fst (h : (startUp env settings fs).1 = .ok started) :
    startUp env settings fs = (.ok started, (startUp env settings fs).2) :=
  Prod.ext h rfl

theorem isFile_of_readText {file text : String} (h : fs.readText (.ofString file) = .ok text) :
    isFile fs file = true := by
  obtain ⟨c, hc⟩ := Files.content_of_readText h
  unfold Files.content at hc
  unfold isFile
  split at hc
  · next hfind => rw [hfind]
  · cases hc
  · cases hc

theorem isFile_of_startUp (h : startUp env settings fs = (.ok started, logged)) : settings.all (isFile fs) = true := by
  cases settings with
  | none => rfl
  | some file =>
    obtain ⟨text, htext⟩ := Settings.readText_of_loadForUser (startUp_eq_ok (congrArg Prod.fst h)).1
    exact isFile_of_readText htext

/-! ## The status command -/

section

variable {file text : String} {reading : Option Reading}

/-- What the status command comes to on a report that was read. -/
def shownStatus (started : Started) (logged : List Effect) : Option Reading → Outcome
  | none => ⟨1, printed ["No battery found"], "", none, logged⟩
  | some r => showReading started r logged

theorem perform_status (outcome : Command.Outcome) (hstart : startUp env settings fs = (.ok started, logged))
    (htext : fs.readText (.ofString file) = .ok text) (hreading : Report.read text = .ok reading) :
    perform env outcome fs (.status settings (some file)) = .ended (shownStatus started logged reading) := by
  have hfiles : (settings.all (isFile fs) && (some file).all (isFile fs)) = true := by
    rw [isFile_of_startUp hstart, Option.all_some, isFile_of_readText htext, Bool.and_true]
  have hbattery : readBattery started (some file) outcome fs = (.ok reading, []) := by
    rw [readBattery, htext, Except.bind, hreading]
  have hstatus : status env settings (some file) outcome fs = shownStatus started (logged ++ []) reading := by
    unfold status
    rw [hstart]
    dsimp only
    rw [hbattery]
    cases reading <;> rfl
  rw [perform, if_pos hfiles, hstatus, List.append_nil]

theorem showReading_active {name : String} {t : Theme Step} (hdefault : started.registry.default? = some name)
    (hactive : started.registry.active = .ok t) (r : Reading) :
    showReading started r logged =
      let shown := printAll (statusLines name r (Evaluation.evaluate t r.direction r.level .start).1)
      ⟨if shown.2.isSome then 1 else 0, shown.1, "", shown.2, logged⟩ := by
  rw [showReading, hactive, hdefault]
  rfl

theorem statusLines_of_whole (name : String) (r : Reading) {e : Evaluation}
    (h : ∀ p ∈ e.icon, p.raw.isWhole = true) :
    statusLines name r e =
      (["Theme: " ++ name, "Level: " ++ Number.fixed 1 r.level ++ "% (" ++ r.direction.name ++ ")",
        "Icon: " ++ (e.icon.map Path.text).getD "hidden"] ++ r.lines.map ("  " ++ ·)).map .ofString := by
  have hicon : RawText.ofString ((e.icon.map Path.text).getD "hidden") = (e.icon.map Path.raw).getD "hidden" := by
    cases hp : e.icon with
    | none => rfl
    | some p => exact RawText.ofString_escaped (h p hp)
  rw [statusLines, List.map_append, List.map_map, ← hicon, ← RawText.ofString_append]
  rfl

theorem showReading_of_whole {name : String} {t : Theme Step} (hdefault : started.registry.default? = some name)
    (hactive : started.registry.active = .ok t) (r : Reading)
    (h : ∀ p ∈ (Evaluation.evaluate t r.direction r.level .start).1.icon, p.raw.isWhole = true) :
    showReading started r logged =
      succeed (["Theme: " ++ name, "Level: " ++ Number.fixed 1 r.level ++ "% (" ++ r.direction.name ++ ")",
        "Icon: " ++ ((Evaluation.evaluate t r.direction r.level .start).1.icon.map Path.text).getD "hidden"] ++
          r.lines.map ("  " ++ ·)) [] logged := by
  rw [showReading_active hdefault hactive, statusLines_of_whole name r h, printAll_ofString]
  rfl

theorem printAll_statusLines_of_half (name : String) (r : Reading) {e : Evaluation} {p : Path} (hicon : e.icon = some p)
    {n : Fin 0x800} (h : CodePoint.half n ∈ p.raw) :
    printAll (statusLines name r e) =
      (printed ["Theme: " ++ name, "Level: " ++ Number.fixed 1 r.level ++ "% (" ++ r.direction.name ++ ")"],
        some (.unencodable (withoutColorsRaw (.ofString "Icon: " ++ p.raw)))) := by
  have hline : CodePoint.half n ∈ RawText.ofString "Icon: " ++ p.raw := List.mem_append_right _ h
  have happend := printAll_append
    ["Theme: " ++ name, "Level: " ++ Number.fixed 1 r.level ++ "% (" ++ r.direction.name ++ ")"]
    ((RawText.ofString "Icon: " ++ p.raw) :: r.lines.map fun l => .ofString ("  " ++ l))
  rw [printAll_cons_of_half hline, String.append_empty] at happend
  rw [statusLines, hicon]
  exact happend

theorem printAll_statusLines_ne (name : String) (r : Reading) (e : Evaluation) :
    (printAll (statusLines name r e)).1 ≠ "No battery found\n" := by
  intro h
  -- whatever is printed after it, the first line begins with another letter
  have hfirst : withoutColors ("Theme: " ++ name).toList = 'T' :: withoutColors ("heme: " ++ name).toList := by
    rw [String.toList_append, String.toList_append]
    exact withoutColors_append ['T'] _ (by decide)
  have hhead := congrArg (·.toList.head?) h
  rw [statusLines, List.cons_append, printAll_cons_ofString, printed, List.map_singleton, hfirst] at hhead
  simp at hhead

end

/-- **The status command shows what the tray would show.**  Once the indicator has started up, and a report was read,
the command has the exit code one and says that there is no battery exactly if the first cycle of a new monitor leaves
its tray alone.  Otherwise, unless the path of the icon is no whole text, it has the exit code zero and tells the default
theme, the icon that the tray was told to show, if any, and the lines of the tooltip.  What is printed is that text, but
for the sequences that colour it. -/
theorem status_shows_tray (notifier : Notifier) (outcome eventOutcome : Command.Outcome)
    (hstart : startUp env settings fs = (.ok started, logged)) {file text : String}
    (htext : fs.readText (.ofString file) = .ok text) {reading : Option Reading}
    (hreading : Report.read text = .ok reading) :
    ∃ o, perform env outcome fs (.status settings (some file)) = .ended o ∧ o.errors = "" ∧
      let fresh := Monitor.new started.settings.thresholds notifier
      let tray := (fresh.poll started.registry.active eventOutcome reading).2.1.tray
      (tray = fresh.tray ↔ o.exitCode = 1 ∧ o.output = "No battery found\n") ∧
      (tray = fresh.tray → o.failure = none) ∧
      (tray ≠ fresh.tray → ∃ name r, reading = some r ∧ started.registry.default? = some name ∧
        tray.tooltip = some (String.intercalate "\n" r.lines) ∧ tray.history = [tray.icon] ∧
        tray.visible = tray.icon.isSome ∧
        ((∀ p ∈ tray.icon, p.raw.isWhole = true) → o.exitCode = 0 ∧ o.failure = none ∧
          let shown := ["Theme: " ++ name,
            "Level: " ++ Number.fixed 1 r.level ++ "% (" ++ r.direction.name ++ ")",
            "Icon: " ++ (tray.icon.map Path.text).getD "hidden"] ++ r.lines.map ("  " ++ ·)
          o.output = printed shown ∧
            ((∀ l ∈ shown, '\x1b' ∉ l.toList) → o.output = String.join (shown.map (· ++ "\n"))))) := by
  refine ⟨_, perform_status outcome hstart htext hreading, ?_⟩
  cases reading with
  | none =>
    have hprinted : printed ["No battery found"] = "No battery found\n" := printed_of_plain (by decide)
    exact ⟨rfl, ⟨fun _ => ⟨rfl, hprinted⟩, fun _ => rfl⟩, fun _ => rfl, fun h => absurd rfl h⟩
  | some r =>
    obtain ⟨name, t, hdefault, hactive⟩ := startUp_active hstart
    have hshown : showReading started r logged = _ := showReading_active hdefault hactive r
    rw [shownStatus, hactive]
    refine ⟨congrArg Outcome.errors hshown, ?_⟩
    intro fresh tray
    have htray : tray =
        (Tray.new.setTooltip r.tooltip).display (Evaluation.evaluate t r.direction r.level .start).1.icon :=
      Monitor.tray_cycle t eventOutcome r fresh
    clear_value tray
    subst htray
    have houtput : (showReading started r logged).output ≠ "No battery found\n" :=
      hshown ▸ printAll_statusLines_ne name r _
    -- a reading tells the tray what to show, if only to hide its icon
    have hdiffers : (Tray.new.setTooltip r.tooltip).display
        (Evaluation.evaluate t r.direction r.level .start).1.icon ≠ fresh.tray := fun h => by
      have hhistory := congrArg Tray.history h
      cases hhistory
    refine ⟨⟨fun h => absurd h hdiffers, fun h => absurd h.2 houtput⟩,
      fun h => absurd h hdiffers, fun _ => ⟨name, r, rfl, hdefault, rfl, rfl, rfl, fun hwhole => ?_⟩⟩
    rw [showReading_of_whole hdefault hactive r hwhole]
    exact ⟨rfl, rfl, rfl, printed_of_plain⟩

/-! ## A report with colours, and an icon that cannot be printed -/

def home : Environment := [("HOME", "/home")]

/-- One theme, two reports, one of which has a sequence that colours it, and settings with half of a surrogate pair as
the directory of icons. -/
def reports : Files :=
  ⟨[(["etc", "battray", "themes.conf"], .file (.text "[a]\nsteps = 1\ndischarging = 100:a.png\n".toUTF8)),
    (["plain"], .file (.text "Battery 0: Discharging, 50%\n".toUTF8)),
    (["colored"], .file (.text "Battery 0: Discharging, 50%, \x1b[5mfast\n".toUTF8)),
    (["halved.yaml"], .file (.text "icon_dir: \"\\uD800\"\n".toUTF8))], []⟩

/-- What the indicator has started up with when the icons are in a directory. -/
def startedIn (icons : Path) : Started :=
  ⟨{ Settings.default with iconDirectory := icons },
    ⟨[("a", ⟨some 1, icons, [], [⟨0, 100, "a.png", none, none⟩]⟩)], some "a"⟩⟩

def halved : Path := .ofRaw [.half 0]

theorem startUp_reports : startUp home none reports =
    (.ok (startedIn Settings.defaultIconDirectory), (startUp home none reports).2) :=
  startUp_of_fst (Failure.eq_ok_of_toOption (by decide +kernel))

theorem startUp_halved : startUp home (some "halved.yaml") reports =
    (.ok (startedIn halved), (startUp home (some "halved.yaml") reports).2) :=
  startUp_of_fst (Failure.eq_ok_of_toOption (by decide +kernel))

theorem readText_plain : reports.readText (.ofString "plain") = .ok "Battery 0: Discharging, 50%\n" :=
  Failure.eq_ok_of_toOption (by decide +kernel)

theorem read_plain : Report.read "Battery 0: Discharging, 50%\n" =
    .ok (some ⟨50, .discharging, ["Battery 0: Discharging, 50%"]⟩) :=
  Failure.eq_ok_of_toOption (by decide +kernel)

theorem status_shows_tray_plain :
    ∃ o, perform home (.finished "") reports (.status none (some "plain")) = .ended o ∧ o.exitCode = 0 ∧
      o.output = "Theme: a\nLevel: 50.0% (discharging)\nIcon: /usr/share/battray/icons/a.png\n" ++
        "  Battery 0: Discharging, 50%\n" := by
  obtain ⟨o, ho, -, -, -, hshown⟩ :=
    status_shows_tray (.new none (.new false)) (.finished "") (.finished "") startUp_reports readText_plain read_plain
  obtain ⟨name, r, hr, hname, -, -, -, hprinted⟩ := hshown (by decide +kernel)
  cases hr
  cases hname
  obtain ⟨hexit, -, -, hplain⟩ := hprinted (by decide +kernel)
  exact ⟨o, ho, hexit, (hplain (by decide +kernel)).trans (by decide +kernel)⟩

theorem printed_colored :
    printed ["  Battery 0: Discharging, 50%, \x1b[5mfast"] = "  Battery 0: Discharging, 50%, fast\n" := by
  have hline : "  Battery 0: Discharging, 50%, \x1b[5mfast".toList =
      "  Battery 0: Discharging, 50%, ".toList ++ '\x1b' :: '[' :: "5mfast".toList := by decide +kernel
  have hrest : colorEnd? "5mfast".toList = some "fast".toList := by decide +kernel
  rw [printed, List.map_singleton, hline, withoutColors_append _ _ (by decide), withoutColors_sequence hrest,
    withoutColors_of_plain _ (by decide)]
  decide +kernel

/-- A line that is coloured is not printed as it stands in the tooltip, and an icon whose path is not whole ends the
command. -/
theorem not_always_shown :
    (¬∀ (env : Environment) (settings : Option String) (fs : Files) (started : Started) (logged : List Effect)
      (file text : String) (r : Reading), startUp env settings fs = (.ok started, logged) →
      fs.readText (.ofString file) = .ok text → Report.read text = .ok (some r) →
      ∃ o head, perform env (.finished "") fs (.status settings (some file)) = .ended o ∧
        o.output = head ++ String.join (r.lines.map fun l => "  " ++ l ++ "\n")) ∧
    ¬∀ (env : Environment) (settings : Option String) (fs : Files) (started : Started) (logged : List Effect)
      (file text : String) (r : Reading), startUp env settings fs = (.ok started, logged) →
      fs.readText (.ofString file) = .ok text → Report.read text = .ok (some r) →
      (∀ l ∈ r.lines, '\x1b' ∉ l.toList) →
      ∃ o, perform env (.finished "") fs (.status settings (some file)) = .ended o ∧ o.exitCode = 0 := by
  constructor
  · intro h
    let r : Reading := ⟨50, .discharging, ["Battery 0: Discharging, 50%, \x1b[5mfast"]⟩
    have htext : reports.readText (.ofString "colored") = .ok "Battery 0: Discharging, 50%, \x1b[5mfast\n" :=
      Failure.eq_ok_of_toOption (by decide +kernel)
    have hreading : Report.read "Battery 0: Discharging, 50%, \x1b[5mfast\n" = .ok (some r) :=
      Failure.eq_ok_of_toOption (by decide +kernel)
    obtain ⟨o, head, ho, hlines⟩ := h home none reports _ _ "colored" _ r startUp_reports htext hreading
    rw [perform_status (.finished "") startUp_reports htext hreading] at ho
    cases ho
    have hprinted : (shownStatus (startedIn Settings.defaultIconDirectory) (startUp home none reports).2
        (some r)).output =
        printed ["Theme: a", "Level: 50.0% (discharging)", "Icon: /usr/share/battray/icons/a.png"] ++
          printed ["  Battery 0: Discharging, 50%, \x1b[5mfast"] := by
      rw [shownStatus, showReading_of_whole rfl rfl r (by decide +kernel), ← printed_append]
      exact congrArg printed (by decide +kernel)
    rw [hprinted, printed_colored, printed_of_plain (by decide)] at hlines
    have hmem : '\x1b' ∈ (head ++ String.join (r.lines.map fun l => "  " ++ l ++ "\n")).toList := by
      rw [String.toList_append]
      exact List.mem_append_right _ (by decide +kernel)
    rw [← hlines] at hmem
    exact absurd hmem (by decide +kernel)
  · intro h
    obtain ⟨o, ho, hexit⟩ :=
      h home (some "halved.yaml") reports _ _ "plain" _ _ startUp_halved readText_plain read_plain (by decide)
    rw [perform_status (.finished "") startUp_halved readText_plain read_plain] at ho
    cases ho
    have hicon : (Evaluation.evaluate (⟨some 1, halved, [], [⟨0, 100, "a.png", none, none⟩]⟩ : Theme Step) .discharging
        50 .start).1.icon = some (halved.child "a.png") := by decide +kernel
    have hhalf : CodePoint.half 0 ∈ (halved.child "a.png").raw := by decide +kernel
    rw [shownStatus, showReading_active rfl rfl, printAll_statusLines_of_half "a" _ hicon hhalf] at hexit
    cases hexit

end CommandLine
end BatteryIndicator
