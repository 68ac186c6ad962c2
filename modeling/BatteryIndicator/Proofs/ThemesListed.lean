import BatteryIndicator.Proofs.StartUp
import BatteryIndicator.Proofs.StatusShown
/-!
# ThemesListed — the command that lists the themes

Once the indicator has started up, the command prints a line for each registered theme, in the order in which they came
up first, and marks the default one.  If it cannot start up, the command tells why, unless the failure escapes
(`listThemes_ends`).  What is told is never empty (`message_of_isTold`).
-/
namespace BatteryIndicator

namespace CommandLine

variable {env : Environment} {settings : Option String} {fs : Files} {f : Failure}

/-- What is told begins with a character that is printed. -/
theorem message_of_isTold (h : isTold f = true) : ∃ c text, f.message.toList = c :: text ∧ c ≠ '\x1b' := by
  have happend : ∀ {s : String}, (∃ c text, s.toList = c :: text ∧ c ≠ '\x1b') → ∀ t : String,
      ∃ c text, (s ++ t).toList = c :: text ∧ c ≠ '\x1b' := by
    rintro s ⟨c, text, hs, hc⟩ t
    exact ⟨c, text ++ t.toList, by rw [String.toList_append, hs, List.cons_append], hc⟩
  cases f with
  | shapeMismatch declared actual =>
    cases declared with
    | none => exact happend (happend ⟨_, _, rfl, by decide⟩ _) _
    | some n => exact happend (happend (happend ⟨_, _, rfl, by decide⟩ _) _) _
  | invalidDirection token => exact happend (happend ⟨_, _, rfl, by decide⟩ _) _
  | noDefaultTheme name =>
    cases name with
    | none => exact ⟨_, _, rfl, by decide⟩
    | some name => exact happend (happend ⟨_, _, rfl, by decide⟩ _) _
  | settingsNotFound path => exact happend ⟨_, _, rfl, by decide⟩ _
  | settingsInvalid problems =>
    show ∃ c text, "Invalid settings:".toList = c :: text ∧ c ≠ '\x1b'
    exact ⟨_, _, rfl, by decide⟩
  | script path cause => exact happend (happend (happend ⟨_, _, rfl, by decide⟩ _) _) _
  | system e => exact happend (happend (happend (happend ⟨_, _, rfl, by decide⟩ _) _) _) _
  | missingHome | settingsUnreadable | notDelivered => exact ⟨_, _, rfl, by decide⟩
  | _ => cases h

theorem printed_message (h : isTold f = true) : ∃ c text, f.message.toList = c :: text ∧
    printed [f.message] = String.ofList (c :: withoutColors text) ++ "\n" := by
  obtain ⟨c, text, hmessage, hc⟩ := message_of_isTold h
  refine ⟨c, text, hmessage, ?_⟩
  have hcolors : withoutColors (c :: text) = c :: withoutColors text := withoutColors.eq_3 _ _ fun _ he => absurd he hc
  rw [printed, List.map_singleton, hmessage, hcolors]
  exact String.empty_append

/-! ## Listing -/

theorem listThemes_of_error (h : (startUp env settings fs).1 = .error f) :
    listThemes env settings fs = endWith isTold f (startUp env settings fs).2 := by
  have hstart : startUp env settings fs = (.error f, (startUp env settings fs).2) := Prod.ext h rfl
  rw [listThemes, hstart]

theorem listThemes_of_ok {started : Started} (h : (startUp env settings fs).1 = .ok started) :
    listThemes env settings fs =
      succeed (started.registry.names.map (themeLine started.registry.default?)) [] (startUp env settings fs).2 := by
  rw [listThemes, startUp_of_fst h]

theorem themeLine_some (name n : String) :
    themeLine (some name) n = (if n = name then "*" else " ") ++ " " ++ n := by
  simp only [themeLine, Option.some.injEq, eq_comm]

theorem plain_of_marked {names : List String} {name line : String} (h : ∀ n ∈ names, '\x1b' ∉ n.toList)
    (hline : line ∈ names.map fun n => (if n = name then "*" else " ") ++ " " ++ n) : '\x1b' ∉ line.toList := by
  obtain ⟨n, hn, rfl⟩ := List.mem_map.1 hline
  have hmark : '\x1b' ∉ ((if n = name then "*" else " ") ++ " ").toList := by split <;> decide
  rw [String.toList_append, List.mem_append]
  exact fun hmem => hmem.elim hmark (h n hn)

theorem failure_listThemes_iff : (listThemes env settings fs).failure = some f ↔ Escapes env settings fs f := by
  rw [← startUp_untold_iff]
  cases hstart : (startUp env settings fs).1 with
  | ok started =>
    rw [listThemes_of_ok hstart]
    simp [succeed]
  | error g =>
    rw [listThemes_of_error hstart, endWith]
    cases hg : isTold g with
    | true =>
      refine ⟨fun h => (by cases h), ?_⟩
      rintro ⟨h, hf⟩
      cases h
      cases hf.symm.trans hg
    | false =>
      constructor
      · intro h
        cases h
        exact ⟨rfl, hg⟩
      · rintro ⟨h, -⟩
        cases h
        rfl

/-- **The themes are listed, or it is told why they are not, or a failure escapes.**  A failure escapes exactly if nothing
provides for it, and then nothing is printed.  Otherwise the command has the exit code zero, and has printed a line for
each registered theme, once and in the order in which they came up first in the theme files; the one that was made the
default last is among them, and it alone is marked.  Or the command has the exit code one, and has told on the error
output what start-up failed with, which is not empty.  What is printed is the lines, but for the sequences that colour
them. -/
theorem listThemes_ends (env : Environment) (settings : Option String) (fs : Files) :
    let o := listThemes env settings fs
    (∀ f, o.failure = some f ↔ Escapes env settings fs f) ∧
    (o.failure ≠ none → o.exitCode = 1 ∧ o.output = "" ∧ o.errors = "") ∧
    (o.failure = none →
      (o.exitCode = 0 ∧ o.errors = "" ∧ ∃ started l name, (startUp env settings fs).1 = .ok started ∧
        Locations.discover started.settings.systemDirectory env = .ok l ∧
        ((Loading.sources l fs).flatMap Loading.Source.defaults).getLast? = some name ∧
        let names := ((Loading.sources l fs).flatMap Loading.Source.names).eraseDups
        started.registry.names = names ∧ names.Nodup ∧ name ∈ names ∧
        let shown := names.map fun n => (if n = name then "*" else " ") ++ " " ++ n
        o.output = printed shown ∧
          ((∀ n ∈ names, '\x1b' ∉ n.toList) → o.output = String.join (shown.map (· ++ "\n")))) ∨
      (o.exitCode = 1 ∧ o.output = "" ∧ ∃ f c text, (startUp env settings fs).1 = .error f ∧
        f.message.toList = c :: text ∧ o.errors = String.ofList (c :: withoutColors text) ++ "\n")) := by
  intro o
  refine ⟨fun f => failure_listThemes_iff, ?_⟩
  cases hstart : (startUp env settings fs).1 with
  | error f =>
    have ho : o = endWith isTold f (startUp env settings fs).2 := listThemes_of_error hstart
    rw [ho, endWith]
    cases hf : isTold f with
    | true =>
      obtain ⟨c, text, hmessage, hprinted⟩ := printed_message hf
      exact ⟨fun h => absurd rfl h, fun _ => .inr ⟨rfl, rfl, f, c, text, rfl, hmessage, hprinted⟩⟩
    | false => exact ⟨fun _ => ⟨rfl, rfl, rfl⟩, fun h => (by cases h)⟩
  | ok started =>
    have ho : o = succeed (started.registry.names.map (themeLine started.registry.default?)) [] (startUp env settings fs).2 :=
      listThemes_of_ok hstart
    obtain ⟨l, name, hl, hnames, hdefault, hmem, hchosen⟩ := registered_of_startUp hstart
    rw [ho, hnames, hdefault]
    refine ⟨fun h => absurd rfl h, fun _ => .inl ⟨rfl, rfl, started, l, name, rfl, hl, hchosen, hnames,
      Entries.nodup_eraseDups _, hnames ▸ hmem, ?_⟩⟩
    intro shown
    have hshown : ((Loading.sources l fs).flatMap Loading.Source.names).eraseDups.map (themeLine (some name)) = shown :=
      List.map_congr_left fun n _ => themeLine_some name n
    rw [hshown]
    exact ⟨rfl, fun hplain => printed_of_plain fun line hline => plain_of_marked hplain hline⟩

/-- A theme file of the user that is no text after its first line. -/
def malformedThemes : Files :=
  ⟨[(["home", ".config", "battray", "themes.conf"], .file (.text ⟨#[0x5b, 0x61, 0x5d, 0x0a, 0xff]⟩))], []⟩

/-- A theme file that is no text is not told of. -/
theorem not_every_failure_told : ¬ ∀ (env : Environment) (settings : Option String) (fs : Files),
    let o := listThemes env settings fs
    o.failure = none ∧ (o.exitCode = 0 ∨ o.exitCode = 1 ∧ o.errors ≠ "") := by
  intro h
  have hescapes : (listThemes home none malformedThemes).failure.isNone = false := by decide +kernel
  rw [(h home none malformedThemes).1] at hescapes
  cases hescapes

end CommandLine
end BatteryIndicator
