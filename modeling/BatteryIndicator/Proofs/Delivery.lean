import BatteryIndicator.Proofs.MonitorRun
/-!
# Delivery — every warning reaches the user once

A notifier whose fallback works is determined by its messages (`Notifier.told`): a primary channel that works has all of
them, one that fails has the first and the fallback has all.  A monitor raises what the warnings alone would raise on the
readings, so that is what is delivered (`warnings_delivered_once`).
-/
namespace BatteryIndicator

namespace Notifier

/-- The notifier after messages, when the fallback works.  The primary channel may be missing, or it fails or works. -/
def told (primary : Option Bool) (messages : List Message) : Notifier :=
  match primary with
  | none => ⟨none, ⟨false, messages⟩, true⟩
  | some false => ⟨some ⟨false, messages⟩, ⟨false, []⟩, false⟩
  | some true => ⟨some ⟨true, messages.take 1⟩, ⟨false, messages⟩, !messages.isEmpty⟩

/-- The messages that channels which work were given. -/
def delivered (n : Notifier) : List Message :=
  (n.primary.toList ++ [n.fallback]).flatMap fun c => if c.fails then [] else c.messages

theorem new_eq_told (primary : Option Bool) : new (primary.map Channel.new) (.new false) = told primary [] := by
  rcases primary with - | fails
  · rfl
  · cases fails <;> rfl

/-- **A message more is one message more for each channel in use**, and it arrives. -/
theorem notify_told (primary : Option Bool) (messages : List Message) (m : Message) :
    ((told primary messages).notify m).1 = none ∧
      ((told primary messages).notify m).2.1 = told primary (messages ++ [m]) := by
  rcases primary with - | fails
  · exact ⟨rfl, rfl⟩
  cases fails with
  | false => exact ⟨rfl, rfl⟩
  | true => cases messages <;> exact ⟨rfl, rfl⟩

theorem delivered_told (primary : Option Bool) (messages : List Message) :
    (told primary messages).delivered = messages := by
  rcases primary with - | fails
  · simp [delivered, told]
  · cases fails <;> simp [delivered, told]

/-- A primary channel that fails was tried for the first message alone. -/
theorem tried_told {primary : Option Bool} {messages : List Message} {c : Channel}
    (hc : (told primary messages).primary = some c) (hfails : c.fails = true) : c.messages = messages.take 1 := by
  rcases primary with - | fails
  · cases hc
  cases fails with
  | false => cases hc; cases hfails
  | true => cases hc; rfl

theorem usingFallback_told_append {primary : Option Bool} {messages : List Message} (more : List Message)
    (h : (told primary messages).usingFallback = true) : (told primary (messages ++ more)).usingFallback = true := by
  rcases primary with - | fails
  · rfl
  cases fails with
  | false => cases h
  | true =>
    cases messages with
    | nil => cases h
    | cons => rfl

end Notifier

/-! ## What a run raises -/

/-- The message of a warning. -/
def Warning.message (w : Warning) : Message := ⟨Warning.title, w.body⟩

/-- The messages of the warnings that polls raise from a remembered level on. -/
def Warning.messages (thresholds : List Binary64) (last : Binary64) (polls : List (Binary64 × Option Bool)) :
    List Message :=
  (Warning.history thresholds last polls).filterMap fun q => q.warning.map Warning.message

theorem Warning.messages_cons (thresholds : List Binary64) (last : Binary64) (p : Binary64 × Option Bool)
    (ps : List (Binary64 × Option Bool)) :
    Warning.messages thresholds last (p :: ps) =
      ((Warning.poll thresholds last p).warning.map Warning.message).toList ++
        Warning.messages thresholds (Warning.poll thresholds last p).last ps := by
  rw [messages, history, List.filterMap_cons]
  cases (Warning.poll thresholds last p).warning <;> rfl

namespace Monitor

theorem raise_told (primary : Option Bool) (messages : List Message) (w : Option Warning) :
    raise w (.told primary messages) = (none, .told primary (messages ++ (w.map Warning.message).toList)) := by
  cases w with
  | none => rw [Option.map_none, Option.toList_none, List.append_nil]; rfl
  | some w =>
    obtain ⟨hfailure, hnotifier⟩ := Notifier.notify_told primary messages w.message
    exact Prod.ext hfailure hnotifier

/-- **A run notifies what the warnings alone raise on its readings.** -/
theorem notifier_run {primary : Option Bool} : ∀ (cycles : List Cycle) (m : Monitor) (messages : List Message),
    (∀ c ∈ cycles, c.HasDefault) → m.notifier = .told primary messages →
      (m.run cycles).notifier = .told primary (messages ++
        Warning.messages m.thresholds m.lastWarning (cycles.filterMap Cycle.polled?))
  | [], m, messages, _, hm => by
    rw [run_nil, hm]
    simp [Warning.messages, Warning.history]
  | c :: cycles, m, messages, hdefault, hm => by
    -- a cycle without a reading is no poll; one with a reading is the next poll of the warnings
    have hcycles : ∀ c ∈ cycles, c.HasDefault := fun c hc => hdefault c (List.mem_cons_of_mem _ hc)
    cases hr : c.reading with
    | none =>
      have hpolled : c.polled? = none := by rw [Cycle.polled?, hr]; rfl
      rw [run_cons, perform_idle hr, List.filterMap_cons_none hpolled]
      exact notifier_run cycles m messages hcycles hm
    | some r =>
      have hpolled : c.polled? = some (r.level, r.charging?) := by rw [Cycle.polled?, hr]; rfl
      obtain ⟨-, hnotifier, hlast, hthresholds⟩ := perform_reading (hdefault c List.mem_cons_self) hr m
      rw [hm, raise_told] at hnotifier
      rw [run_cons, List.filterMap_cons_some hpolled, Warning.messages_cons, ← List.append_assoc,
        notifier_run cycles _ _ hcycles hnotifier, hlast, hthresholds]

theorem perform_told {primary : Option Bool} {messages : List Message} {c : Cycle} (hc : c.HasDefault) {m : Monitor}
    (hm : m.notifier = .told primary messages) : (m.perform c).1 = none := by
  cases hr : c.reading with
  | none => rw [perform_idle hr]
  | some r => rw [(perform_reading hc hr m).1, hm, raise_told]

end Monitor

/-- **Every warning is delivered exactly once.**  While the default theme stays registered, the channels that work are
given, in order, the messages of the warnings that the readings raise by themselves, and no cycle fails, whatever comes
of the events.  A primary channel that fails is tried for the first of them alone, and once the fallback is in use it
stays so. -/
theorem warnings_delivered_once (thresholds : List Binary64) (primary : Option Bool) (cycles : List Cycle)
    (hdefault : ∀ c ∈ cycles, c.HasDefault) :
    let start := Monitor.new thresholds (.new (primary.map Channel.new) (.new false))
    let raised := (Warning.history thresholds Warning.fullLevel (cycles.filterMap Cycle.polled?)).filterMap
      Warning.Polled.warning
    (start.run cycles).notifier.delivered = raised.map Warning.message ∧
    (∀ c, (start.run cycles).notifier.primary = some c → c.fails = true →
      c.messages = (raised.map Warning.message).take 1) ∧
    (∀ early late, cycles = early ++ late → (start.run early).notifier.usingFallback = true →
      (start.run cycles).notifier.usingFallback = true) ∧
    ∀ early c late, cycles = early ++ c :: late → ((start.run early).perform c).1 = none := by
  intro start raised
  have htold : ∀ done : List Cycle, (∀ c ∈ done, c.HasDefault) → (start.run done).notifier = .told primary
      (Warning.messages thresholds Warning.fullLevel (done.filterMap Cycle.polled?)) := fun done h =>
    Monitor.notifier_run done start [] h (Notifier.new_eq_told primary)
  have hraised : raised.map Warning.message =
      Warning.messages thresholds Warning.fullLevel (cycles.filterMap Cycle.polled?) := List.map_filterMap
  refine ⟨?_, ?_, ?_, ?_⟩
  · rw [hraised, htold cycles hdefault, Notifier.delivered_told]
  · rw [hraised, htold cycles hdefault]
    exact fun c hc hfails => Notifier.tried_told hc hfails
  · rintro early late rfl hearly
    have hstart := htold early fun c hc => hdefault c (List.mem_append_left _ hc)
    rw [hstart] at hearly
    rw [Monitor.run_append, Monitor.notifier_run late _ _ (fun c hc => hdefault c (List.mem_append_right _ hc)) hstart]
    exact Notifier.usingFallback_told_append _ hearly
  · rintro early c late rfl
    exact Monitor.perform_told (hdefault c (by simp)) (htold early fun c hc => hdefault c (by simp [hc]))

/-- A battery that falls while its readings fail at times, and an event of the theme whenever it fires. -/
def Cycle.falling : List Cycle :=
  let alarm : Callback := .hook "alarm" (some "silent")
  let themes : Registry (Theme Step) :=
    ⟨[("plain", ⟨some 1, .ofString "icons", [], [⟨0, 100, "low.png", none, some alarm⟩]⟩)], some "plain"⟩
  [some 9, none, some 8, some 4].map fun level =>
    ⟨themes, .finished "", level.map fun level => ⟨level, .discharging, []⟩⟩

theorem warnings_delivered_once_falling :
    (∀ c ∈ Cycle.falling, c.HasDefault) ∧
      ((Monitor.new [10, 5] (.new (some (.new true)) (.new false))).run Cycle.falling).notifier.delivered =
        [Warning.message ⟨10, 9⟩, Warning.message ⟨5, 4⟩] := by
  have hdefault : ∀ c ∈ Cycle.falling, c.HasDefault := by
    intro c hc
    obtain ⟨level, -, rfl⟩ := List.mem_map.1 hc
    exact ⟨"plain", rfl, rfl⟩
  have hraised : (Warning.history [10, 5] Warning.fullLevel (Cycle.falling.filterMap Cycle.polled?)).filterMap
      Warning.Polled.warning = [⟨10, 9⟩, ⟨5, 4⟩] := by decide +kernel
  have hdelivered := (warnings_delivered_once [10, 5] (some true) Cycle.falling hdefault).1
  rw [hraised] at hdelivered
  exact ⟨hdefault, hdelivered⟩

end BatteryIndicator
