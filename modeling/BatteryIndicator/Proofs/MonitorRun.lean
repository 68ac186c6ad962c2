import BatteryIndicator.Monitor
import BatteryIndicator.Proofs.WarningRun
import BatteryIndicator.Theme.Registry
/-!
# MonitorRun — cycles of a monitor one after the other

A cycle reads the battery, or fails to, while some registry of themes is there.  As long as the default theme of the
registry is registered, a cycle warns as a poll of the warnings alone does, and the monitor notifies what is raised
(`Monitor.perform_reading`).
-/
namespace BatteryIndicator

/-- What a cycle finds: the themes, what comes of the program that an event starts, and the reading, if there is one. -/
structure Cycle where
  registry : Registry (Theme Step)
  outcome : Command.Outcome
  reading : Option Reading

namespace Cycle

/-- The default of the registry is one of its themes. -/
def HasDefault (c : Cycle) : Prop := ∃ name, c.registry.default? = some name ∧ c.registry.contains name = true

/-- The level and the charge state of the reading. -/
def polled? (c : Cycle) : Option (Binary64 × Option Bool) := c.reading.map fun r => (r.level, r.charging?)

theorem HasDefault.active {c : Cycle} (h : c.HasDefault) : ∃ t, c.registry.active = .ok t := by
  obtain ⟨name, hdefault, hcontains⟩ := h
  obtain ⟨t, ht⟩ := Option.isSome_iff_exists.1 hcontains
  exact ⟨t, by rw [Registry.active, hdefault, Option.bind_some, ht]⟩

end Cycle

/-- A cycle that was performed: what it found, the failure that ended it, the monitor after it, and what it did. -/
structure Performed where
  cycle : Cycle
  failure : Option Failure
  after : Monitor
  effects : List Effect

namespace Monitor

def perform (c : Cycle) (m : Monitor) : Option Failure × Monitor × List Effect :=
  m.poll c.registry.active c.outcome c.reading

/-- The monitor after cycles. -/
def run (cycles : List Cycle) (m : Monitor) : Monitor := cycles.foldl (fun m c => (m.perform c).2.1) m

/-- One cycle with what came of it. -/
def performed (c : Cycle) (m : Monitor) : Performed := ⟨c, (m.perform c).1, (m.perform c).2.1, (m.perform c).2.2⟩

/-- Cycles one after the other, each with what came of it. -/
def history : Monitor → List Cycle → List Performed
  | _, [] => []
  | m, c :: cs => m.performed c :: history (m.performed c).after cs

@[simp] theorem run_nil (m : Monitor) : m.run [] = m := rfl

theorem run_cons (c : Cycle) (cycles : List Cycle) (m : Monitor) :
    m.run (c :: cycles) = (m.perform c).2.1.run cycles := rfl

theorem run_append (early late : List Cycle) (m : Monitor) : m.run (early ++ late) = (m.run early).run late :=
  List.foldl_append

theorem perform_idle {c : Cycle} (h : c.reading = none) (m : Monitor) : m.perform c = (none, m, []) := by
  rw [perform, h]
  rfl

theorem perform_of_reading {c : Cycle} {r : Reading} (h : c.reading = some r) (m : Monitor) :
    m.perform c = m.cycle c.registry.active c.outcome r := by
  rw [perform, h]
  rfl

/-- The failure and the notifier after a warning, if there is one, was raised. -/
def raise (w : Option Warning) (n : Notifier) : Option Failure × Notifier :=
  match w with
  | none => (none, n)
  | some w => ((n.notify ⟨Warning.title, w.body⟩).1, (n.notify ⟨Warning.title, w.body⟩).2.1)

/-- **A cycle with a reading warns as a poll of the warnings alone does**, and fails only if its warning cannot be
delivered. -/
theorem perform_reading {c : Cycle} (hc : c.HasDefault) {r : Reading} (hr : c.reading = some r) (m : Monitor) :
    let q := Warning.poll m.thresholds m.lastWarning (r.level, r.charging?)
    (m.perform c).1 = (raise q.warning m.notifier).1 ∧ (m.perform c).2.1.notifier = (raise q.warning m.notifier).2 ∧
      (m.perform c).2.1.lastWarning = q.last ∧ (m.perform c).2.1.thresholds = m.thresholds := by
  intro q
  obtain ⟨t, ht⟩ := hc.active
  have hcycle : m.perform c = m.cycle (.ok t) c.outcome r := by rw [perform, ht, hr]; rfl
  have hq : Warning.check m.thresholds m.lastWarning r.level r.charging? = (q.last, q.warning) := rfl
  rw [hcycle]
  simp only [cycle, warn, check, display, evaluate, observe, hq]
  cases q.warning <;> exact ⟨rfl, rfl, rfl, rfl⟩

end Monitor
end BatteryIndicator
