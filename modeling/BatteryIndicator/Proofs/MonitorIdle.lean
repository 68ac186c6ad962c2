import BatteryIndicator.Proofs.MonitorRun
/-!
# MonitorIdle — cycles that leave nothing behind

A cycle without a reading changes nothing.  One without an active theme notes its reading and sets the tooltip, and both
are overwritten by the next reading (`Monitor.Agree`).  So cycles of either kind can be left out of a run, and every other
cycle does what it did, to the same monitor (`idle_cycles_erased`).
-/
namespace BatteryIndicator

def Failure.isNoDefaultTheme : Failure → Bool
  | .noDefaultTheme _ => true
  | _ => false

/-- There was no reading, or the cycle failed for want of an active theme. -/
def Performed.idle (p : Performed) : Bool := p.cycle.reading.isNone || p.failure.any Failure.isNoDefaultTheme

/-! ## Failures of a cycle -/

theorem Notifier.failure_of_notify {n : Notifier} {m : Message} {f : Failure} (h : (n.notify m).1 = some f) :
    f = .notDelivered := by
  have hfallback : ∀ n : Notifier, (n.notifyFallback m).1 = some f → f = .notDelivered := by
    intro n h
    by_cases hfails : n.fallback.fails = true
    · simpa [notifyFallback, hfails, eq_comm] using h
    · simp [notifyFallback, hfails] at h
  unfold notify at h
  split at h
  · dsimp only at h
    split at h
    · exact hfallback _ h
    · cases h
  · exact hfallback _ h

theorem Cycle.active_of_not_hasDefault {c : Cycle} (h : ¬ c.HasDefault) :
    c.registry.active = .error (.noDefaultTheme c.registry.default?) := by
  unfold Registry.active
  split
  · next t ht =>
    obtain ⟨name, hdefault, htheme⟩ := Option.bind_eq_some_iff.1 ht
    have hcontains : c.registry.contains name = true := by simp [Registry.contains, htheme]
    exact absurd ⟨name, hdefault, hcontains⟩ h
  · rfl

namespace Monitor

variable {m m' : Monitor} {c : Cycle} {r : Reading} {f : Failure}

theorem failure_of_warn (h : (m.warn r).1 = some f) : f = .notDelivered := by
  unfold warn at h
  split at h
  · cases h
  · exact Notifier.failure_of_notify h

/-- **A cycle that fails for want of an active theme** has noted its reading, set the tooltip, and done nothing else. -/
theorem perform_of_noDefaultTheme {name : Option String} (h : (m.perform c).1 = some (.noDefaultTheme name)) :
    ∃ r, c.reading = some r ∧ ¬ c.HasDefault ∧ m.perform c = (some (.noDefaultTheme name), m.observe r, []) := by
  cases hr : c.reading with
  | none =>
    rw [perform_idle hr] at h
    cases h
  | some r =>
    rw [perform_of_reading hr] at h ⊢
    by_cases hdefault : c.HasDefault
    · obtain ⟨t, ht⟩ := hdefault.active
      rw [ht] at h
      cases failure_of_warn h
    · rw [Cycle.active_of_not_hasDefault hdefault] at h ⊢
      cases h
      exact ⟨r, rfl, hdefault, rfl⟩

theorem perform_of_not_hasDefault (hr : c.reading = some r) (h : ¬ c.HasDefault) (m : Monitor) :
    (m.perform c).1 = some (.noDefaultTheme c.registry.default?) := by
  rw [perform_of_reading hr, Cycle.active_of_not_hasDefault h]
  rfl

/-! ## Monitors that the next reading makes one -/

/-- The monitors differ at most in what the next reading overwrites. -/
def Agree (m m' : Monitor) : Prop := ∀ r, m.observe r = m'.observe r

theorem agree_observe (r : Reading) (m : Monitor) : Agree (m.observe r) m := fun _ => rfl

theorem Agree.perform_eq (h : Agree m m') (hr : c.reading = some r) : m.perform c = m'.perform c := by
  rw [perform_of_reading hr, perform_of_reading hr]
  unfold cycle
  rw [h r]

/-- **An idle cycle leaves a monitor that agrees with the one before it.** -/
theorem agree_of_idle (h : (m.performed c).idle = true) : Agree (m.performed c).after m := by
  show Agree (m.perform c).2.1 m
  rcases Bool.or_eq_true_iff.1 h with hreading | hfailure
  · have hr : c.reading = none := Option.isNone_iff_eq_none.1 hreading
    rw [perform_idle hr]
    exact fun _ => rfl
  · obtain ⟨f, hf, htheme⟩ := (Option.any_eq_true _ _).1 hfailure
    cases f with
    | noDefaultTheme name =>
      obtain ⟨r, -, -, hperform⟩ := perform_of_noDefaultTheme hf
      rw [hperform]
      exact agree_observe r m
    | _ => cases htheme

theorem Agree.performed_eq (h : Agree m m') (hidle : (m.performed c).idle = false) :
    m.performed c = m'.performed c := by
  have hreading : c.reading.isNone = false := (Bool.or_eq_false_iff.1 hidle).1
  obtain ⟨r, hr⟩ := Option.isSome_iff_exists.1 (Option.isNone_eq_false_iff.1 hreading)
  unfold performed
  rw [h.perform_eq hr]

/-! ## Leaving idle cycles out -/

/-- From a monitor that agrees with the one at the start, the cycles that are not idle do what they did. -/
theorem history_of_agree : ∀ (cycles : List Cycle) (m m' : Monitor), Agree m m' →
    m'.history (((m.history cycles).filter fun p => !p.idle).map Performed.cycle) =
      (m.history cycles).filter fun p => !p.idle
  | [], _, _, _ => rfl
  | c :: cs, m, m', h => by
    rw [history]
    by_cases hidle : (m.performed c).idle = true
    · -- the cycle is left out, and the monitor after it still agrees with the other one
      rw [List.filter_cons_of_neg (by simp [hidle])]
      exact history_of_agree cs _ m' fun r => (agree_of_idle hidle r).trans (h r)
    · have hperformed := h.performed_eq (Bool.eq_false_iff.2 hidle)
      have hrest := history_of_agree cs (m.performed c).after (m'.performed c).after fun r => by rw [hperformed]
      rw [List.filter_cons_of_pos (by simp [hidle])]
      exact congrArg₂ List.cons hperformed.symm hrest

/-- **Idle cycles can be left out.**  Take from a run the cycles that had no reading and those that failed for want of an
active theme.  The others, made alone from the same monitor, end in the same way, do the same and leave the same monitor
each: the tray with its tooltip and all icons shown so far, the state of the evaluation, the level of the last warning,
the notifier with its messages.  Themes and default may be others at every cycle.  A cycle without a reading changes
nothing, and one that fails for want of an active theme, which it does when it has a reading and no default theme,
changes the tooltip and the last reading alone. -/
theorem idle_cycles_erased (m : Monitor) (cycles : List Cycle) :
    let kept := (m.history cycles).filter fun p => !p.idle
    m.history (kept.map Performed.cycle) = kept ∧
    (∀ (n : Monitor) (c : Cycle), c.reading = none → n.perform c = (none, n, [])) ∧
    (∀ (n : Monitor) (c : Cycle) (name : Option String), (n.perform c).1 = some (.noDefaultTheme name) →
      ∃ r, c.reading = some r ∧ n.perform c = (some (.noDefaultTheme name),
        { n with lastReading := some r, tray := { n.tray with tooltip := some r.tooltip } }, [])) ∧
    ∀ (n : Monitor) (c : Cycle), (∃ name, (n.perform c).1 = some (.noDefaultTheme name)) ↔
      c.reading ≠ none ∧ ¬ c.HasDefault := by
  refine ⟨history_of_agree cycles m m fun _ => rfl, fun n c h => perform_idle h n, fun n c name h => ?_, fun n c => ?_⟩
  · obtain ⟨r, hr, -, hperform⟩ := perform_of_noDefaultTheme h
    exact ⟨r, hr, hperform⟩
  · constructor
    · rintro ⟨name, h⟩
      obtain ⟨r, hr, hdefault, -⟩ := perform_of_noDefaultTheme h
      simp [hr, hdefault]
    · rintro ⟨hreading, hdefault⟩
      obtain ⟨r, hr⟩ := Option.ne_none_iff_exists'.1 hreading
      exact ⟨_, perform_of_not_hasDefault hr hdefault n⟩

/-- A discharging battery at a level, or one that cannot be read, while some theme is the default. -/
def discharging (default : String) (level : Option Binary64) : Cycle :=
  let flash : Step := ⟨0, 100, "low.png", some "empty.png", none⟩
  ⟨⟨[("plain", ⟨some 1, .ofString "icons", [], [flash]⟩)], some default⟩, .finished "",
    level.map fun level => ⟨level, .discharging, []⟩⟩

theorem idle_cycles_erased_lost :
    let m := Monitor.new [10, 5] (.new (some (.new true)) (.new false))
    let blank := discharging "plain" none
    let lost := discharging "gone" (some 8)
    let kept := (m.history [discharging "plain" (some 9), blank, lost, discharging "plain" (some 4)]).filter
      fun p => !p.idle
    kept.map (fun p => p.cycle.reading.map Reading.level) = [some 9, some 4] ∧
      m.history (kept.map Performed.cycle) = kept ∧
      blank.reading = none ∧ m.perform blank = (none, m, []) ∧
      (m.perform lost).1 = some (.noDefaultTheme (some "gone")) ∧
      ∃ r, lost.reading = some r ∧ m.perform lost = (some (.noDefaultTheme (some "gone")),
        { m with lastReading := some r, tray := { m.tray with tooltip := some r.tooltip } }, []) := by
  intro m blank lost kept
  obtain ⟨herased, hblank, hlost, -⟩ :=
    idle_cycles_erased m [discharging "plain" (some 9), blank, lost, discharging "plain" (some 4)]
  have hlevels : kept.map (fun p => p.cycle.reading.map Reading.level) = [some 9, some 4] := by decide +kernel
  have hfailure : (m.perform lost).1 = some (.noDefaultTheme (some "gone")) := rfl
  exact ⟨hlevels, herased, rfl, hblank m blank rfl, hfailure, hlost m lost (some "gone") hfailure⟩

end Monitor
end BatteryIndicator
