import BatteryIndicator.Proofs.Report.Answer
import Mathlib.Data.List.Sort
/-!
# LastLines — what a reading depends on

A reading is told by the last status line and the last capacity of each battery (`direction_eq`, `lines_map_some`): its
lines are the texts of the last status lines, in ascending order of the batteries, and its direction is that of the
batteries together.  So earlier lines of a battery, other lines, and the order of the lines leave no trace in a reading,
but that the level is summed up in the order in which the batteries came up first (`read_last_lines`).
-/
namespace BatteryIndicator
namespace Report

/-- Some battery has this direction, by its last status line. -/
def shows (ls : List Line) (d : Direction) : Prop := ∃ index s, lastStatus? ls index = some s ∧ s.state = d

/-- Every battery is full, by its last status line. -/
def allFull (ls : List Line) : Prop := ∀ index s, lastStatus? ls index = some s → s.state = .full

variable {ls ls' : List Line} {b b' : Batteries} {r : Reading}

/-! ## The batteries of the lines -/

theorem nodup_statuses (h : Gathered ls b) : b.statuses.keys.Nodup := h.keys ▸ Entries.nodup_eraseDups _

theorem mem_statuses_iff (h : Gathered ls b) (index : Int) (s : Status) :
    (index, s) ∈ b.statuses ↔ lastStatus? ls index = some s := by
  rw [Entries.mem_iff_find?_eq index s (nodup_statuses h), h.status]

theorem mem_values_iff (h : Gathered ls b) (s : Status) :
    s ∈ b.statuses.values ↔ ∃ index, lastStatus? ls index = some s := by
  rw [Entries.values, List.mem_map]
  constructor
  · rintro ⟨⟨index, s⟩, hmem, rfl⟩
    exact ⟨index, (mem_statuses_iff h index s).1 hmem⟩
  · rintro ⟨index, hlast⟩
    exact ⟨(index, s), (mem_statuses_iff h index s).2 hlast, rfl⟩

/-- A reading is made of the mean level, the joint direction and the sorted lines. -/
theorem reading?_eq_some (h : b.reading? = .ok (some r)) : b.statuses ≠ [] ∧
    meanLevel (b.statuses.map fun s => (s.1, s.2.level)) b.capacities = .ok r.level ∧
      r.direction = jointDirection (b.statuses.values.map Status.state) ∧
      r.lines = (b.statuses.mergeSort fun s t => s.1 ≤ t.1).map fun s => s.2.text := by
  rw [Batteries.reading?] at h
  split at h
  · cases h
  · next hempty =>
    cases hlevel : meanLevel (b.statuses.map fun s => (s.1, s.2.level)) b.capacities with
    | error f => rw [hlevel] at h; cases h
    | ok level =>
      rw [hlevel] at h
      cases h
      exact ⟨fun hnil => hempty (List.isEmpty_iff.2 hnil), rfl, rfl, rfl⟩

theorem reading?_eq_none_iff (h : Gathered ls b) : b.reading? = .ok none ↔ indexes ls = [] := by
  rw [← h.keys, Entries.keys, List.map_eq_nil_iff]
  constructor
  · intro hnone
    by_contra hne
    rw [Batteries.reading?, if_neg (by simpa using hne)] at hnone
    cases hlevel : meanLevel (b.statuses.map fun s => (s.1, s.2.level)) b.capacities with
    | error f => rw [hlevel] at hnone; cases hnone
    | ok level => rw [hlevel] at hnone; cases hnone
  · intro hnil
    rw [Batteries.reading?, hnil]
    rfl

theorem mem_indexes_iff (index : Int) : index ∈ indexes ls ↔ ∃ s, Line.status s ∈ ls ∧ s.index = index := by
  rw [indexes, List.mem_eraseDups, statusIndexes, List.mem_filterMap]
  constructor
  · rintro ⟨l, hl, hindex⟩
    cases l with
    | status s => exact ⟨s, hl, Option.some.inj hindex⟩
    | capacity _ | other _ => cases hindex
  · rintro ⟨s, hs, hindex⟩
    exact ⟨_, hs, congrArg some hindex⟩

/-! ## Direction -/

/-- **Any discharging battery makes the system discharge, then any charging one makes it charge, then it is full if all
are.** -/
theorem direction_eq (h : Gathered ls b) (hr : b.reading? = .ok (some r)) :
    (shows ls .discharging → r.direction = .discharging) ∧
    (¬shows ls .discharging → shows ls .charging → r.direction = .charging) ∧
    (¬shows ls .discharging → ¬shows ls .charging → allFull ls → r.direction = .full) ∧
    (¬shows ls .discharging → ¬shows ls .charging → ¬allFull ls → r.direction = .unknown) := by
  obtain ⟨hnonempty, -, hdirection, -⟩ := reading?_eq_some hr
  have hshows (d : Direction) : d ∈ b.statuses.values.map Status.state ↔ shows ls d := by
    rw [List.mem_map, shows]
    constructor
    · rintro ⟨s, hs, hd⟩
      obtain ⟨index, hlast⟩ := (mem_values_iff h s).1 hs
      exact ⟨index, s, hlast, hd⟩
    · rintro ⟨index, s, hlast, hd⟩
      exact ⟨s, (mem_values_iff h s).2 ⟨index, hlast⟩, hd⟩
  have hfull : (b.statuses.values.map Status.state ≠ [] ∧ ∀ d ∈ b.statuses.values.map Status.state, d = .full) ↔
      allFull ls := by
    have hne : b.statuses.values.map Status.state ≠ [] := fun hnil =>
      hnonempty (List.map_eq_nil_iff.1 (List.map_eq_nil_iff.1 hnil))
    rw [and_iff_right hne, allFull, List.forall_mem_map]
    constructor
    · exact fun hall index s hlast => hall s ((mem_values_iff h s).2 ⟨index, hlast⟩)
    · rintro hall s hs
      obtain ⟨index, hlast⟩ := (mem_values_iff h s).1 hs
      exact hall index s hlast
  simp only [← hshows, ← hfull]
  rw [hdirection, jointDirection]
  refine ⟨fun hd => if_pos hd, fun hd hc => ?_, fun hd hc ha => ?_, fun hd hc ha => ?_⟩
  · rw [if_neg hd, if_pos hc]
  · rw [if_neg hd, if_neg hc, if_pos ha]
  · rw [if_neg hd, if_neg hc, if_neg ha]

/-! ## Lines -/

/-- The batteries of a reading in ascending order, and the last status line of each. -/
theorem lines_map_some (h : Gathered ls b) (hr : b.reading? = .ok (some r)) : ∃ order : List Int,
    order.Pairwise (· < ·) ∧ (∀ index, index ∈ order ↔ index ∈ indexes ls) ∧
      r.lines.map some = order.map fun index => (lastStatus? ls index).map Status.text := by
  obtain ⟨-, -, -, hlines⟩ := reading?_eq_some hr
  have hperm : (b.statuses.mergeSort fun s t => s.1 ≤ t.1).Perm b.statuses := List.mergeSort_perm _ _
  have hascending : (b.statuses.mergeSort fun s t => s.1 ≤ t.1).Pairwise fun s t => decide (s.1 ≤ t.1) = true := by
    refine List.pairwise_mergeSort (fun s t u hst htu => ?_) (fun s t => ?_) b.statuses
    · exact decide_eq_true (Int.le_trans (of_decide_eq_true hst) (of_decide_eq_true htu))
    · simpa using Int.le_total s.1 t.1
  have hdistinct : ((b.statuses.mergeSort fun s t => s.1 ≤ t.1).map Prod.fst).Nodup :=
    (hperm.map Prod.fst).nodup_iff.2 (nodup_statuses h)
  generalize (b.statuses.mergeSort fun s t => s.1 ≤ t.1) = sorted at *
  refine ⟨sorted.map Prod.fst, ?_, fun index => ?_, ?_⟩
  · rw [List.pairwise_map]
    rw [List.Nodup, List.pairwise_map] at hdistinct
    exact (hascending.and hdistinct).imp fun ⟨hle, hne⟩ => lt_of_le_of_ne (of_decide_eq_true hle) hne
  · rw [(hperm.map Prod.fst).mem_iff, ← h.keys]
    rfl
  · rw [hlines, List.map_map, List.map_map]
    refine List.map_congr_left fun s hs => ?_
    have hlast := (mem_statuses_iff h s.1 s.2).1 (hperm.mem_iff.1 hs)
    exact (congrArg (Option.map Status.text) hlast).symm

/-! ## Two reports -/

/-- Of the capacities, a mean level depends on those of its own batteries alone. -/
theorem meanLevel_congr {levels : Entries Int Binary64} {capacities capacities' : Entries Int Int}
    (h : ∀ index ∈ levels.keys, weight capacities index = weight capacities' index) :
    meanLevel levels capacities = meanLevel levels capacities' := by
  have hterms : levels.mapM (fun l => weighted l.2 (weight capacities l.1)) =
      levels.mapM fun l => weighted l.2 (weight capacities' l.1) :=
    mapM_congr_left fun l hl => by rw [h l.1 (List.mem_map_of_mem hl)]
  rw [meanLevel, meanLevel, List.map_congr_left h, hterms]

/-- The last status line and the last capacity of every battery are the same. -/
structure SameLast (ls ls' : List Line) : Prop where
  batteries (index : Int) : index ∈ indexes ls ↔ index ∈ indexes ls'
  status : ∀ index ∈ indexes ls, lastStatus? ls index = lastStatus? ls' index
  capacity : ∀ index ∈ indexes ls, lastCapacity? ls index = lastCapacity? ls' index

theorem lastStatus?_isSome_iff (ls : List Line) (index : Int) :
    (lastStatus? ls index).isSome = true ↔ index ∈ indexes ls := by
  rw [← (gathered_gather ls).status, Entries.isSome_find?_iff, (gathered_gather ls).keys]

theorem SameLast.lastStatus?_eq (h : SameLast ls ls') (index : Int) : lastStatus? ls index = lastStatus? ls' index := by
  by_cases hindex : index ∈ indexes ls
  · exact h.status index hindex
  · have hnone : lastStatus? ls index = none := by simpa [← lastStatus?_isSome_iff] using hindex
    rw [h.batteries] at hindex
    have hnone' : lastStatus? ls' index = none := by simpa [← lastStatus?_isSome_iff] using hindex
    rw [hnone, hnone']

theorem SameLast.shows_iff (h : SameLast ls ls') (d : Direction) : shows ls d ↔ shows ls' d := by
  simp only [shows, h.lastStatus?_eq]

theorem SameLast.allFull_iff (h : SameLast ls ls') : allFull ls ↔ allFull ls' := by
  simp only [allFull, h.lastStatus?_eq]

theorem SameLast.direction_eq {r' : Reading} (h : SameLast ls ls') (hb : Gathered ls b) (hb' : Gathered ls' b')
    (hr : b.reading? = .ok (some r)) (hr' : b'.reading? = .ok (some r')) : r.direction = r'.direction := by
  obtain ⟨hd, hc, hf, hu⟩ := Report.direction_eq hb hr
  obtain ⟨hd', hc', hf', hu'⟩ := Report.direction_eq hb' hr'
  rw [h.shows_iff, h.shows_iff, h.allFull_iff] at *
  by_cases h₁ : shows ls' .discharging
  · rw [hd h₁, hd' h₁]
  by_cases h₂ : shows ls' .charging
  · rw [hc h₁ h₂, hc' h₁ h₂]
  by_cases h₃ : allFull ls'
  · rw [hf h₁ h₂ h₃, hf' h₁ h₂ h₃]
  · rw [hu h₁ h₂ h₃, hu' h₁ h₂ h₃]

theorem SameLast.lines_eq {r' : Reading} (h : SameLast ls ls') (hb : Gathered ls b) (hb' : Gathered ls' b')
    (hr : b.reading? = .ok (some r)) (hr' : b'.reading? = .ok (some r')) : r.lines = r'.lines := by
  obtain ⟨order, hascending, hmem, hlines⟩ := lines_map_some hb hr
  obtain ⟨order', hascending', hmem', hlines'⟩ := lines_map_some hb' hr'
  obtain rfl : order = order' := hascending.eq_of_mem_iff hascending' fun index => by
    rw [hmem, hmem', h.batteries]
  refine List.map_injective_iff.2 (Option.some_injective String) ?_
  simp only [hlines, hlines', h.lastStatus?_eq]

theorem SameLast.level_eq {r' : Reading} (h : SameLast ls ls') (horder : indexes ls = indexes ls') (hb : Gathered ls b)
    (hb' : Gathered ls' b') (hr : b.reading? = .ok (some r)) (hr' : b'.reading? = .ok (some r')) :
    r.level = r'.level := by
  obtain ⟨-, hlevel, -⟩ := reading?_eq_some hr
  obtain ⟨-, hlevel', -⟩ := reading?_eq_some hr'
  have hkeys : b.statuses.keys = b'.statuses.keys := by rw [hb.keys, hb'.keys, horder]
  have hstatuses : b.statuses = b'.statuses := Entries.eq_of_find?_eq hkeys (nodup_statuses hb) fun index _ => by
    rw [hb.status, hb'.status, h.lastStatus?_eq]
  have hweight : ∀ index ∈ Entries.keys (b.statuses.map fun s => (s.1, s.2.level)),
      weight b.capacities index = weight b'.capacities index := by
    have hlevels : Entries.keys (b.statuses.map fun s => (s.1, s.2.level)) = b.statuses.keys := List.map_map
    intro index hindex
    rw [hlevels, hb.keys] at hindex
    rw [weight_gathered hb, weight_gathered hb', lastFull, lastFull, h.capacity index hindex]
  rw [meanLevel_congr hweight, hstatuses, hlevel'] at hlevel
  exact Except.ok.inj hlevel.symm

/-- **A reading depends on the last lines of each battery alone.**  Two reports that can be read, and have the same
batteries with a status, each with the same last status line and the same last capacity line or none, both have no
reading or have readings of the same direction with the same lines; and if the batteries come up first in the same order,
they have the same reading.  The lines of a reading are the texts of the last status lines, one for each battery with a
status, in ascending order of these, and its direction is the first that applies: discharging if some battery is, charging
if some battery is, full if all are, and unknown. -/
theorem read_last_lines :
    (∀ text text' ls ls' answer answer', lines text = .ok ls → lines text' = .ok ls' →
      read text = .ok answer → read text' = .ok answer' → SameLast ls ls' →
        answer.map Reading.direction = answer'.map Reading.direction ∧
        answer.map Reading.lines = answer'.map Reading.lines ∧
        (indexes ls = indexes ls' → answer.map Reading.level = answer'.map Reading.level)) ∧
    ∀ text ls r, lines text = .ok ls → read text = .ok (some r) →
      (∃ order : List Int, order.Pairwise (· < ·) ∧ (∀ index, index ∈ order ↔ ∃ s, .status s ∈ ls ∧ s.index = index) ∧
        r.lines.map some = order.map fun index => (lastStatus? ls index).map Status.text) ∧
      (shows ls .discharging → r.direction = .discharging) ∧
      (¬shows ls .discharging → shows ls .charging → r.direction = .charging) ∧
      (¬shows ls .discharging → ¬shows ls .charging → allFull ls → r.direction = .full) ∧
      (¬shows ls .discharging → ¬shows ls .charging → ¬allFull ls → r.direction = .unknown) := by
  constructor
  · rintro text text' ls ls' answer answer' hls hls' hr hr' h
    have hb := gathered_gather ls
    have hb' := gathered_gather ls'
    rw [read_eq, hls] at hr
    rw [read_eq, hls'] at hr'
    change (gather ls).reading? = .ok answer at hr
    change (gather ls').reading? = .ok answer' at hr'
    have hnil : indexes ls = [] ↔ indexes ls' = [] := by
      simp only [List.eq_nil_iff_forall_not_mem, h.batteries]
    cases answer with
    | none =>
      rw [reading?_eq_none_iff hb, hnil, ← reading?_eq_none_iff hb', hr'] at hr
      cases hr
      exact ⟨rfl, rfl, fun _ => rfl⟩
    | some r =>
      cases answer' with
      | none =>
        rw [reading?_eq_none_iff hb', ← hnil, ← reading?_eq_none_iff hb, hr] at hr'
        cases hr'
      | some r' =>
        exact ⟨congrArg some (h.direction_eq hb hb' hr hr'), congrArg some (h.lines_eq hb hb' hr hr'),
          fun horder => congrArg some (h.level_eq horder hb hb' hr hr')⟩
  · rintro text ls r hls hr
    have hb := gathered_gather ls
    rw [read_eq, hls] at hr
    change (gather ls).reading? = .ok (some r) at hr
    obtain ⟨order, hascending, hmem, hlines⟩ := lines_map_some hb hr
    exact ⟨⟨order, hascending, fun index => (hmem index).trans (mem_indexes_iff index), hlines⟩, direction_eq hb hr⟩

/-- Two reports whose lines have little in common: the one has an earlier status of a battery, the other a capacity of a
battery without status, and both have lines that say nothing. -/
theorem read_last_lines_interleaved :
    let full : Status := ⟨1, .full, 100, "Battery 1: Full, 100%", none⟩
    let early : Status := ⟨0, .charging, 5, "Battery 0: Charging, 5%", none⟩
    let late : Status := ⟨0, .discharging, 50, "Battery 0: Discharging, 50%", none⟩
    let text := "Battery 1: Full, 100%\nBattery 0: Charging, 5%\nBattery 0: Discharging, 50%\nstray"
    let text' := "Battery 7: design capacity 9 mAh, last full capacity 8 mAh\n\n" ++
      "Battery 1: Full, 100%\nBattery 0: Discharging, 50%"
    let ls := [Line.status full, .status early, .status late, .other "stray"]
    let ls' := [Line.capacity ⟨7, 9, 8⟩, .other "", .status full, .status late]
    ∃ r r', lines text = .ok ls ∧ lines text' = .ok ls' ∧ read text = .ok (some r) ∧ read text' = .ok (some r') ∧
      SameLast ls ls' ∧ indexes ls = indexes ls' ∧ r.direction = r'.direction ∧ r.lines = r'.lines ∧
      r.level = r'.level ∧ shows ls .discharging ∧ r.direction = .discharging ∧ r.lines = [late.text, full.text] := by
  intro full early late text text' ls ls'
  have hls : lines text = .ok ls := by
    rw [lines_eq]
    simp only [text, String.reduceToList]
    exact Failure.eq_ok_of_toOption (by decide +kernel)
  have hls' : lines text' = .ok ls' := by
    rw [lines_eq]
    simp only [text', String.toList_append, String.reduceToList]
    exact Failure.eq_ok_of_toOption (by decide +kernel)
  obtain ⟨r, hr⟩ := (read_answers text).2.2.2 ⟨ls, hls, ⟨full, by decide +kernel⟩, by decide +kernel⟩
  obtain ⟨r', hr'⟩ := (read_answers text').2.2.2 ⟨ls', hls', ⟨full, by decide +kernel⟩, by decide +kernel⟩
  have hindexes : indexes ls = indexes ls' := by decide +kernel
  have hlast : SameLast ls ls' := ⟨fun index => by rw [hindexes], by decide +kernel, by decide +kernel⟩
  have hshows : shows ls .discharging := ⟨0, late, by decide +kernel, rfl⟩
  obtain ⟨htwo, hone⟩ := read_last_lines
  obtain ⟨hd, hl, hv⟩ := htwo text text' ls ls' (some r) (some r') hls hls' hr hr' hlast
  obtain ⟨⟨order, hascending, hmem, hlines⟩, hdirection, -⟩ := hone text ls r hls hr
  obtain rfl : order = [0, 1] := hascending.eq_of_mem_iff (by decide) fun index => by
    rw [hmem, ← mem_indexes_iff, show indexes ls = [1, 0] by decide +kernel]
    simp [or_comm]
  have htexts : r.lines.map some = [late.text, full.text].map some := hlines.trans (by decide +kernel)
  exact ⟨r, r', hls, hls', hr, hr', hlast, hindexes, Option.some.inj hd, Option.some.inj hl,
    Option.some.inj (hv hindexes), hshows, hdirection hshows, List.map_injective_iff.2 (Option.some_injective _) htexts⟩

end Report
end BatteryIndicator
