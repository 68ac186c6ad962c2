import BatteryIndicator.Session
import Mathlib.Data.List.Forall2
/-!
# CommandFailure — polls whose command fails

A poll whose command fails, or finishes without a reading, uses up one outcome and changes nothing else about a session.
It is answered like any other poll, and what failed is one warning.  Only a command that is there and cannot be started
ends the poll with a failure, and so does one without words, which has no name to speak of.  Any number of such polls in
a row leave the session as it was (`unread_polls`).
-/
namespace BatteryIndicator

namespace Command
namespace Outcome

/-- The command gave no reading: it failed, or there is none in what it wrote. -/
def Unread : Outcome → Prop
  | .finished output => Report.read output = .ok none
  | .exited _ | .notStarted _ => True

def failed : Outcome → Bool
  | .finished _ => false
  | .exited _ | .notStarted _ => true

/-- What ends a poll: a command that could not be started although it is there, or one without words, unless that ran
and failed. -/
def escape? (argv : List RawText) : Outcome → Option Failure
  | .exited _ => none
  | .finished _ => if argv = [] then some .noSuchItem else none
  | .notStarted e =>
    if e.code ≠ SystemError.absent then some (.system e) else if argv = [] then some .noSuchItem else none

end Outcome
end Command

open Command (Outcome)

namespace Session

/-- What is expected of a poll without a reading: it goes on, the command was run once, and a failure is exactly one
warning. -/
structure Survived (argv : List RawText) (o : Outcome) (poll : Except Failure Answer × List Effect) : Prop where
  answer : poll.1 = .ok (.truth true)
  effects : ∃ texts : List String,
    texts.length = o.failed.toNat ∧ poll.2 = .ran ⟨argv, none, none⟩ :: texts.map .warning

/-- A poll without a reading survives, or ends with what escapes and without a warning. -/
def Answered (argv : List RawText) (o : Outcome) (poll : Except Failure Answer × List Effect) : Prop :=
  match o.escape? argv with
  | none => Survived argv o poll
  | some f => poll = (.error f, [.ran ⟨argv, none, none⟩])

/-- Polls through the battery command one after the other, each with its answer and what it did. -/
def pollTimes : Nat → Session → List (Except Failure Answer × List Effect) × Session
  | 0, s => ([], s)
  | n + 1, s =>
    let poll := s.perform .pollCommand
    let later := pollTimes n poll.2.1
    ((poll.1, poll.2.2) :: later.1, later.2)

/-! ## One poll -/

variable {s : Session} {o : Outcome} {rest : List Outcome}

theorem ofCommand_unread (argv : List RawText) (h : o.Unread) :
    ∃ answer texts, Report.ofCommand argv o = (answer, .ran ⟨argv, none, none⟩ :: texts.map .warning) ∧
      match o.escape? argv with
      | none => answer = .ok none ∧ texts.length = o.failed.toNat
      | some f => answer = .error f ∧ texts = [] := by
  cases o with
  | exited status => exact ⟨_, [_], rfl, rfl, rfl⟩
  | finished output =>
    have hread : Report.read output = .ok none := h
    refine ⟨(Report.programName argv).map fun _ => none, [], by simp only [Report.ofCommand, hread, List.map_nil], ?_⟩
    cases argv with
    | nil => exact ⟨rfl, rfl⟩
    | cons program words => exact ⟨rfl, rfl⟩
  | notStarted e =>
    by_cases habsent : e.code = SystemError.absent
    · rw [Outcome.escape?, if_neg (not_not_intro habsent)]
      cases argv with
      | nil => exact ⟨.error .noSuchItem, [], if_pos habsent, rfl, rfl⟩
      | cons program words => exact ⟨.ok none, [_], if_pos habsent, rfl, rfl⟩
    · rw [Outcome.escape?, if_pos habsent]
      exact ⟨.error (.system e), [], if_neg habsent, rfl, rfl⟩

theorem cycleCommand_of_none {effects : List Effect}
    (h : Report.ofCommand s.batteryCommand s.outcome = (.ok none, effects)) :
    s.cycleCommand = (.ok (.truth true), s.spend effects, effects) := by
  unfold cycleCommand
  rw [h]
  exact congrArg (fun logged => (_, _, logged)) (List.append_nil effects)

theorem cycleCommand_of_error {f : Failure} {effects : List Effect}
    (h : Report.ofCommand s.batteryCommand s.outcome = (.error f, effects)) :
    s.cycleCommand = (.error f, s.spend effects, effects) := by
  unfold cycleCommand
  rw [h]

/-- **A poll without a reading uses up one outcome and changes nothing else.** -/
theorem perform_unread (h : o.Unread) (hs : s.outcomes = o :: rest) :
    (s.perform .pollCommand).2.1 = { s with outcomes := rest } ∧
      Answered s.batteryCommand o ((s.perform .pollCommand).1, (s.perform .pollCommand).2.2) := by
  obtain ⟨answer, texts, hcommand, hanswer⟩ := ofCommand_unread s.batteryCommand h
  have houtcome : s.outcome = o := by rw [outcome, hs, List.headD_cons]
  have hspent : s.spend (.ran ⟨s.batteryCommand, none, none⟩ :: texts.map .warning) = { s with outcomes := rest } := by
    have hruns : (texts.map Effect.warning).filterMap Effect.run? = [] := by simp [Effect.run?, Effect.warning]
    simp [spend, Effect.run?, hruns, hs]
  rw [← houtcome] at hcommand
  show s.cycleCommand.2.1 = _ ∧ Answered _ _ (s.cycleCommand.1, s.cycleCommand.2.2)
  unfold Answered
  cases hescape : o.escape? s.batteryCommand with
  | none =>
    rw [hescape] at hanswer
    obtain ⟨rfl, hcount⟩ := hanswer
    rw [cycleCommand_of_none hcommand]
    exact ⟨hspent, rfl, texts, hcount, rfl⟩
  | some f =>
    rw [hescape] at hanswer
    obtain ⟨rfl, rfl⟩ := hanswer
    rw [cycleCommand_of_error hcommand]
    exact ⟨hspent, rfl⟩

/-! ## Polls in a row -/

/-- **Any number of polls without a reading leave a session as it was**, and each goes on with one warning for a
failure unless the command could not be started for another reason than that it does not exist. -/
theorem unread_polls (s : Session) (outcomes rest : List Outcome) (hs : s.outcomes = outcomes ++ rest)
    (hunread : ∀ o ∈ outcomes, o.Unread) :
    (s.pollTimes outcomes.length).2 = { s with outcomes := rest } ∧
      List.Forall₂ (Answered s.batteryCommand) outcomes (s.pollTimes outcomes.length).1 := by
  induction outcomes generalizing s with
  | nil =>
    subst hs
    exact ⟨rfl, .nil⟩
  | cons o outcomes ih =>
    obtain ⟨hsession, hanswered⟩ := perform_unread (hunread o List.mem_cons_self) hs
    obtain ⟨hlast, hlater⟩ := ih (s.perform .pollCommand).2.1 (by rw [hsession]; rfl)
      fun o ho => hunread o (List.mem_cons_of_mem _ ho)
    rw [hsession] at hlater hlast
    refine ⟨?_, .cons hanswered ?_⟩
    · show (pollTimes outcomes.length (s.perform .pollCommand).2.1).2 = _
      rw [hsession, hlast]
    · rw [hsession]
      exact hlater

/-- A session with a default theme whose command cannot be started, then fails, then has nothing to say. -/
def troubled : Session :=
  let outcomes := [.notStarted ⟨13, "Permission denied", some "acpi"⟩, .exited (-9), .finished "No support\n"]
  let s := Session.new .default (.new none (.new false)) outcomes
  ((s.perform (.readLines ["[a]", "steps = 1", "charging = 100:a.png"])).2.1.perform (.makeDefault "a")).2.1

theorem unread_troubled : ∀ o ∈ troubled.outcomes, o.Unread := by
  have houtcomes : troubled.outcomes =
      [.notStarted ⟨13, "Permission denied", some "acpi"⟩, .exited (-9), .finished "No support\n"] := rfl
  have hread : Report.read "No support\n" = .ok none := by rfl
  simp [houtcomes, Outcome.Unread, hread]

theorem unread_polls_troubled :
    (∀ o ∈ troubled.outcomes, o.Unread) ∧ (troubled.pollTimes 3).2 = { troubled with outcomes := [] } ∧
      List.Forall₂ (Answered troubled.batteryCommand) troubled.outcomes (troubled.pollTimes 3).1 :=
  ⟨unread_troubled, unread_polls troubled troubled.outcomes [] (List.append_nil _).symm unread_troubled⟩

/-- A default theme and a fallback that works do not help against a command that cannot be started. -/
theorem not_every_failure_survived :
    ¬∀ s : Session, (∃ t, s.active = .ok t) → s.monitor.notifier.fallback.fails = false →
      (∀ o ∈ s.outcomes, o.Unread) → (s.perform .pollCommand).1 = .ok (.truth true) := by
  intro h
  have hactive : troubled.active.toOption.isSome = true := by decide +kernel
  have htheme : ∃ t, troubled.active = .ok t := by
    cases hactive' : troubled.active with
    | error f => rw [hactive'] at hactive; cases hactive
    | ok t => exact ⟨t, rfl⟩
  have hfails : (troubled.perform .pollCommand).1 = .error (.system ⟨13, "Permission denied", some "acpi"⟩) := rfl
  rw [h troubled htheme rfl unread_troubled] at hfails
  cases hfails

end Session
end BatteryIndicator
