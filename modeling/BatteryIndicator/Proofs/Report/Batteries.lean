import BatteryIndicator.Report.Reading
import Mathlib.Data.List.Induction
/-!
# Batteries — what the lines of a report say about each battery

The lines of a report are told apart first, and this is where a report can be refused for a number with too many digits
(`lines_eq_error_iff`).  The lines that are left are gathered: after any number of them the batteries with a status are
those of the status lines, in the order in which they came up first, and each has its last status line and its last
capacity (`gathered_gather`).
-/
namespace BatteryIndicator
namespace Report

open Numeral (digitLimit)

/-! ## Telling lines apart -/

def lines (text : String) : Except Failure (List Line) :=
  (Text.outputLines text.toList).mapM fun l => Line.classify (String.ofList l)

/-- The digits of the whole numbers of a line without blanks at its ends, in the order in which they are read. -/
def Line.numerals (s : List Char) : List (List Nat) :=
  match statusShape? s, capacityShape? s with
  | some t, _ => [t.index]
  | none, some (index, design, lastFull) => [index, design, lastFull]
  | none, none => []

/-- The digits of the whole numbers of a report. -/
def numerals (text : String) : List (List Nat) :=
  (Text.outputLines text.toList).flatMap fun l => Line.numerals (Text.trim l)

/-- The failure that the first number with too many digits is. -/
def refusal? (numbers : List (List Nat)) : Option Failure :=
  (numbers.find? fun ds => decide (digitLimit < ds.length)).map fun ds => .numeralTooLong ds.length

theorem refusal?_append (m n : List (List Nat)) : refusal? (m ++ n) = (refusal? m).or (refusal? n) := by
  rw [refusal?, List.find?_append, Option.map_or]
  rfl

theorem wholeNumber_cases (ds : List Nat) :
    (∃ f, refusal? [ds] = some f ∧ Line.wholeNumber ds = .error f) ∨
      refusal? [ds] = none ∧ Line.wholeNumber ds = .ok (Text.ofDigits ds) := by
  by_cases h : digitLimit < ds.length
  · exact .inl ⟨.numeralTooLong ds.length, by simp [refusal?, h], if_pos h⟩
  · exact .inr ⟨by simp [refusal?, h], if_neg h⟩

theorem ofTrimmed_eq_error_iff (s : List Char) (f : Failure) :
    Line.ofTrimmed s = .error f ↔ refusal? (Line.numerals s) = some f := by
  unfold Line.ofTrimmed Line.numerals
  cases Line.statusShape? s with
  | some t =>
    rcases wholeNumber_cases t.index with ⟨g, hg, h⟩ | ⟨hg, h⟩ <;> simp [h, hg, bind, Except.bind]
  | none =>
    rcases Line.capacityShape? s with _ | ⟨index, design, lastFull⟩
    · exact ⟨nofun, nofun⟩
    · show _ ↔ refusal? ([index] ++ ([design] ++ [lastFull])) = some f
      rw [refusal?_append, refusal?_append]
      rcases wholeNumber_cases index with ⟨g, hg, h⟩ | ⟨hg, h⟩
      · simp [h, hg, bind, Except.bind]
      rcases wholeNumber_cases design with ⟨g', hg', h'⟩ | ⟨hg', h'⟩
      · simp [h, hg, h', hg', bind, Except.bind]
      rcases wholeNumber_cases lastFull with ⟨g'', hg'', h''⟩ | ⟨hg'', h''⟩ <;>
        simp [h, hg, h', hg', h'', hg'', bind, Except.bind]

theorem lines_eq (text : String) :
    lines text = (Text.outputLines text.toList).mapM fun l => Line.ofTrimmed (Text.trim l) := by
  simp only [lines, Line.classify, String.toList_ofList]

/-- **The lines of a report cannot be told apart exactly if a number has too many digits.** -/
theorem lines_eq_error_iff (text : String) (f : Failure) : lines text = .error f ↔ refusal? (numerals text) = some f := by
  rw [lines_eq, numerals]
  induction Text.outputLines text.toList with
  | nil => exact ⟨nofun, nofun⟩
  | cons l ls ih =>
    rw [List.mapM_cons, List.flatMap_cons, refusal?_append]
    cases h : Line.ofTrimmed (Text.trim l) with
    | error g => simp [(ofTrimmed_eq_error_iff _ g).1 h, bind, Except.bind]
    | ok line =>
      have hnone : refusal? (Line.numerals (Text.trim l)) = none :=
        Option.eq_none_iff_forall_ne_some.2 fun g hg => by rw [(ofTrimmed_eq_error_iff _ g).2 hg] at h; cases h
      rw [hnone, Option.none_or, ← ih]
      cases ls.mapM fun l => Line.ofTrimmed (Text.trim l) with
      | error g => exact Iff.rfl
      | ok rest => exact ⟨nofun, nofun⟩

/-! ## Gathering -/

def gather (ls : List Line) : Batteries := ls.foldl Batteries.add ⟨[], []⟩

theorem batteries_eq (text : String) : batteries text = (lines text).map gather := by
  unfold batteries lines gather
  generalize (⟨[], []⟩ : Batteries) = b
  induction Text.outputLines text.toList generalizing b with
  | nil => rfl
  | cons l ls ih =>
    rw [List.foldlM_cons, List.mapM_cons]
    cases Line.classify (String.ofList l) with
    | error f => rfl
    | ok line =>
      refine (ih (b.add line)).trans ?_
      cases ls.mapM fun l => Line.classify (String.ofList l) with
      | error f => rfl
      | ok rest => rfl

def Line.status? : Line → Option Status
  | .status s => some s
  | _ => none

def Line.capacity? : Line → Option Capacity
  | .capacity c => some c
  | _ => none

variable (ls : List Line)

/-- The batteries of the status lines. -/
def statusIndexes : List Int := ls.filterMap fun l => l.status?.map fun s => (s.index : Int)

/-- The batteries with a status, in the order in which they came up first. -/
def indexes : List Int := (statusIndexes ls).eraseDups

/-- The last status line of a battery. -/
def lastStatus? (index : Int) : Option Status :=
  ls.reverse.findSome? fun l => l.status?.filter fun s => decide ((s.index : Int) = index)

/-- The last capacity of a battery. -/
def lastCapacity? (index : Int) : Option Capacity :=
  ls.reverse.findSome? fun l => l.capacity?.filter fun c => decide ((c.index : Int) = index)

structure Gathered (b : Batteries) : Prop where
  keys : b.statuses.keys = indexes ls
  status (index : Int) : b.statuses.find? index = lastStatus? ls index
  capacity (index : Int) : b.capacities.find? index = (lastCapacity? ls index).map fun c => (c.lastFull : Int)

theorem statusIndexes_concat (l : Line) :
    statusIndexes (ls ++ [l]) = statusIndexes ls ++ (l.status?.map fun s => (s.index : Int)).toList := by
  rw [statusIndexes, List.filterMap_append]
  cases l <;> rfl

theorem lastStatus?_concat (l : Line) (index : Int) :
    lastStatus? (ls ++ [l]) index =
      (l.status?.filter fun s => decide ((s.index : Int) = index)).or (lastStatus? ls index) := by
  rw [lastStatus?, List.reverse_concat, List.findSome?_cons]
  cases l.status?.filter _ <;> rfl

theorem lastCapacity?_concat (l : Line) (index : Int) :
    lastCapacity? (ls ++ [l]) index =
      (l.capacity?.filter fun c => decide ((c.index : Int) = index)).or (lastCapacity? ls index) := by
  rw [lastCapacity?, List.reverse_concat, List.findSome?_cons]
  cases l.capacity?.filter _ <;> rfl

variable {ls}

/-- One more line changes what its own battery has. -/
theorem Gathered.add {b : Batteries} (h : Gathered ls b) (l : Line) : Gathered (ls ++ [l]) (b.add l) := by
  constructor
  case keys =>
    rw [indexes, statusIndexes_concat]
    cases l with
    | status s => exact Entries.keys_put_eraseDups _ _ h.keys
    | capacity _ | other _ => exact h.keys.trans (congrArg List.eraseDups (List.append_nil _).symm)
  case status =>
    intro index
    rw [lastStatus?_concat, ← h.status]
    cases l with
    | status s =>
      refine (Entries.find?_put _ _ _ _).trans ?_
      by_cases hs : (s.index : Int) = index <;> simp [Line.status?, Option.filter_some, hs]
    | capacity _ | other _ => rfl
  case capacity =>
    intro index
    rw [lastCapacity?_concat, Option.map_or, ← h.capacity]
    cases l with
    | capacity c =>
      refine (Entries.find?_put _ _ _ _).trans ?_
      by_cases hc : (c.index : Int) = index <;> simp [Line.capacity?, Option.filter_some, hc]
    | status _ | other _ => rfl

/-- **The batteries of a report are those of its status lines, each with its last status and its last capacity.** -/
theorem gathered_gather (ls : List Line) : Gathered ls (gather ls) := by
  induction ls using List.reverseRecOn with
  | nil => exact ⟨rfl, fun _ => rfl, fun _ => rfl⟩
  | append_singleton ls l ih =>
    rw [gather, List.foldl_append]
    exact ih.add l

end Report
end BatteryIndicator
