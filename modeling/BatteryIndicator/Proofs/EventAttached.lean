import BatteryIndicator.Proofs.Theme.Zero
import BatteryIndicator.Proofs.WorkbenchFilled
import BatteryIndicator.Session
/-!
# EventAttached — a request to attach an event changes one step or nothing

The step sets of themes that are read from text are never too long for an index, whatever scripts do to the themes
afterwards (`indexed_filled`), and the workbench of a session shows the registry that is filled like it.  So a request
comes to what it comes to on the registry (`attempt_setEvent`), and if it fails the session stays as it was.
-/
namespace BatteryIndicator

open Theme (Meant)

namespace Registry

variable {r r' : Registry (Theme Step)} {name : String} {t : Theme Step}

/-! ## Lengths -/

theorem Indexed.register (hr : r.Indexed) (name : String) (ht : ∀ d, (t.stepsFor d).length ≤ 2 ^ 63) :
    (r.register name t).Indexed := by
  intro other u hu d
  rw [theme?_register] at hu
  split at hu
  · cases hu; exact ht d
  · exact hr other u hu d

theorem Indexed.adoptAll (hr : r.Indexed) (s : Theme.File.Source) :
    ∀ ts, ts ⊆ s.reading.themes → (ThemeStore.adoptAll ts r).Indexed := by
  intro ts
  induction ts generalizing r with
  | nil => exact fun _ => hr
  | cons t ts ih =>
    intro hts
    obtain ⟨body, -, hbuild⟩ := s.block_of_theme (hts List.mem_cons_self)
    have ht : ∀ d, (t.2.stepsFor d).length ≤ 2 ^ 63 := fun d => (Theme.File.defined_of_build hbuild d).length_le
    exact ih (hr.register t.1 ht) (List.subset_of_cons_subset hts)

theorem Indexed.setEvent (hr : r.Indexed) {index : Int} {callback : Callback} {token : Direction.Token}
    (h : r.setEvent name index callback token = .ok r') : r'.Indexed := by
  unfold Registry.setEvent at h
  split at h
  · cases h
  · next t ht =>
    unfold Theme.setEvent at h
    cases hp : t.place index token with
    | error f =>
      rw [hp] at h
      cases h
    | ok p =>
      rw [hp] at h
      cases h
      refine hr.register name fun d => ?_
      rw [Theme.stepsFor_putSteps]
      split
      · rw [List.length_modify]
        exact hr name t ht p.1
      · exact hr name t ht d

theorem Indexed.setDirectory (hr : r.Indexed) {directory : Path} (h : r.setDirectory name directory = .ok r') :
    r'.Indexed := by
  unfold Registry.setDirectory at h
  split at h
  · cases h
  · next t ht =>
    cases h
    refine hr.register name fun d => ?_
    rw [Theme.stepsFor_congr rfl rfl]
    exact hr name t ht d

theorem Indexed.after (hr : r.Indexed) (deed : Deed) : (deed.after r).Indexed := by
  unfold Deed.after
  cases h : deed.perform r with
  | error f => exact hr
  | ok r' =>
    cases deed with
    | file s => cases h; exact hr.adoptAll s _ (List.Subset.refl _)
    | makeDefault name => cases h; exact hr
    | setEvent name index callback token => exact hr.setEvent h
    | setDirectory name directory => exact hr.setDirectory h

theorem Indexed.filled (hr : r.Indexed) (deeds : List Deed) : (filled deeds r).Indexed := by
  induction deeds generalizing r with
  | nil => exact hr
  | cons deed deeds ih => exact ih (hr.after deed)

theorem indexed_empty : Indexed empty := nofun

end Registry

namespace Session

open Registry (Attempt)

theorem perform_setEvent (name : String) (index : Int) {form : Callback.Form} {callback : Callback}
    (hform : form.callback = .ok callback) (token : Direction.Token) (s : Session) :
    s.perform (.setEvent name index form token) = s.change (s.workbench.setEventOf name index callback token) := by
  show s.change (s.attachTo name index form token) = _
  rw [attachTo, hform]
  rfl

/-- **Attaching an event changes one step or nothing.**  After any theme files and any requests of scripts, the workbench
of a session shows a registry.  An event can be attached exactly if the theme is registered, the token names the charging
or the discharging direction, and the index, counted back from the end if it is negative, is that of a step; then this
step has the event, and all else is as it was.  If not, the theme, the direction or the index is told, whichever is
missing first, and the session is as it was. -/
theorem perform_setEvent_atomic (deeds : List Deed) (name : String) (index : Int) (callback : Callback)
    (token : Direction.Token) :
    let r : Registry (Theme Step) := filled deeds .empty
    let w : Workbench := filled deeds .empty
    w.Shows r ∧
    ((∃ r', r.setEvent name index callback token = .ok r') ↔
      ∃ t d, r.theme? name = some t ∧ token.Names d ∧
        -((t.stepsFor d).length : Int) ≤ index ∧ index < (t.stepsFor d).length) ∧
    Attempt name index callback token r (r.setEvent name index callback token) ∧
    ∀ (s : Session) (form : Callback.Form), s.workbench = w → form.callback = .ok callback →
      (∀ r', r.setEvent name index callback token = .ok r' → ∃ w' : Workbench, w'.Shows r' ∧
        s.perform (.setEvent name index form token) = (.ok .nothing, { s with workbench := w' }, [])) ∧
      ∀ f, r.setEvent name index callback token = .error f →
        s.perform (.setEvent name index form token) = (.error f, s, []) := by
  intro r w
  obtain ⟨hapart, hshows⟩ := Workbench.shows_filled deeds
  have hindexed : r.Indexed := Registry.indexed_empty.filled deeds
  refine ⟨hshows, Registry.setEvent_eq_ok_iff hindexed, Registry.attempt_setEvent hindexed _ _ _ _, ?_⟩
  intro s form hs hform
  have hsame := Workbench.sameOutcome_setEvent hapart hshows name index callback token
  rw [perform_setEvent name index hform token s, hs]
  generalize Workbench.setEventOf name index callback token (filled deeds .empty) = a at hsame ⊢
  generalize r.setEvent name index callback token = b at hsame ⊢
  cases hsame with
  | ok _ hshows' => exact ⟨fun _ hr' => by cases hr'; exact ⟨_, hshows', rfl⟩, nofun⟩
  | error f => exact ⟨nofun, fun _ hf => by cases hf; rfl⟩

/-- A theme file, and a script that attached an event to the first theme. -/
def themed : List Deed :=
  [.file ⟨⟨"themes.conf", .ofString "icons"⟩,
      ["[a]", "steps = 1", "charging = 100:a.png", "discharging = 100:b.png", "[b]", "steps = 2",
        "charging = 40:c.png, 100:d.png", "discharging = 30:e.png, 100:f.png"], none⟩,
    .setEvent "a" 0 (.hook "start" none) (.direction .charging)]

/-- A new session with the themes of a workbench. -/
def withThemes (w : Workbench) : Session := { Session.new .default (.new none (.new false)) [] with workbench := w }

theorem workbench_withThemes (w : Workbench) : (withThemes w).workbench = w := rfl

theorem perform_setEvent_atomic_from_end :
    (∃ (r' : Registry (Theme Step)) (w' : Workbench),
      Registry.Attached "b" .discharging 1 (.hook "stop" none) (filled themed .empty) r' ∧ w'.Shows r' ∧
      (withThemes (filled themed .empty)).perform (.setEvent "b" (-1) (.hook "stop" none) (.text " DisCharging ")) =
        (.ok .nothing, { withThemes (filled themed .empty) with workbench := w' }, [])) ∧
    (withThemes (filled themed .empty)).perform (.setEvent "b" (-3) (.hook "stop" none) (.text " DisCharging ")) =
      (.error .noSuchItem, withThemes (filled themed .empty), []) := by
  have hlength : ((filled themed .empty : Registry (Theme Step)).theme? "b").map
      (fun t => (t.stepsFor .discharging).length) = some 2 := by decide +kernel
  obtain ⟨t, ht, htwo⟩ := Option.map_eq_some_iff.1 hlength
  have htoken : (Direction.Token.text " DisCharging ").Names .discharging :=
    Direction.Token.resolve?_eq_some_iff.1 (by decide +kernel)
  have hworkbench := workbench_withThemes (filled themed .empty)
  have hnone : Theme.indexFailure (-3) = .noSuchItem := if_pos (by decide)
  have hform : Callback.Form.callback (.hook "stop" none) = .ok (.hook "stop" none) := rfl
  constructor
  · obtain ⟨-, hiff, hattempt, hperform⟩ :=
      perform_setEvent_atomic themed "b" (-1) (.hook "stop" none) (.text " DisCharging ")
    obtain ⟨r', hr'⟩ := hiff.2 ⟨t, .discharging, ht, htoken, by omega, by omega⟩
    obtain ⟨w', hshows, hdone⟩ := (hperform _ _ hworkbench hform).1 r' hr'
    rw [hr'] at hattempt
    cases hattempt with
    | attached ht' hd hk h =>
      cases ht.symm.trans ht'
      cases htoken.unique hd
      rename_i k
      have hone : k = 1 := by unfold Meant at hk; omega
      exact ⟨r', w', hone ▸ h, hshows, hdone⟩
  · obtain ⟨-, -, hattempt, hperform⟩ :=
      perform_setEvent_atomic themed "b" (-3) (.hook "stop" none) (.text " DisCharging ")
    have hfails := (hperform _ _ hworkbench hform).2
    generalize Registry.setEvent "b" (-3) _ _ _ = result at hattempt hfails
    cases hattempt with
    | attached ht' hd hk h =>
      cases ht.symm.trans ht'
      cases htoken.unique hd
      unfold Meant at hk
      omega
    | unknownTheme ht' => cases ht.symm.trans ht'
    | invalidDirection _ hd => exact absurd htoken (hd _)
    | noSuchStep _ _ _ => exact hfails .noSuchItem (congrArg Except.error hnone)

end Session
end BatteryIndicator
