import BatteryIndicator.Proofs.Number.Nearest
import BatteryIndicator.Proofs.Report.Batteries
import Mathlib.Algebra.Order.BigOperators.Group.List
/-!
# Answer — when a report has a reading

A report has a reading if a line of it is a status line, and none otherwise (`read_answers`).  There are two ways for it
to fail instead: a number of a line has too many digits, or the last full capacities of the batteries with a status add
up to more than a double precision number can be.  The mean itself is never one of nothing.
-/
namespace BatteryIndicator
namespace Report

open Binary64 (beyondFinite ofInt? ofInt?_eq_none_iff)

/-! ## The mean -/

variable {levels : Entries Int Binary64} {capacities : Entries Int Int} {f : Failure}

theorem mapM_congr_left {α β ε : Type} {f g : α → Except ε β} {l : List α} (h : ∀ a ∈ l, f a = g a) :
    l.mapM f = l.mapM g := by
  induction l with
  | nil => rw [List.mapM_nil, List.mapM_nil]
  | cons a l ih =>
    rw [List.mapM_cons, List.mapM_cons, h a List.mem_cons_self, ih fun b hb => h b (List.mem_cons_of_mem a hb)]

theorem sum_weights {load : Int → Nat} (h : ∀ index, weight capacities index = load index) (indexes : List Int) :
    (indexes.map (weight capacities)).sum = ((indexes.map load).sum : Nat) := by
  induction indexes with
  | nil => rfl
  | cons index rest ih => rw [List.map_cons, List.sum_cons, h, ih, List.map_cons, List.sum_cons, Int.natCast_add]

theorem weighted_eq_error_iff {level : Binary64} {weight : Int} :
    weighted level weight = .error f ↔ ofInt? weight = none ∧ f = .numberTooLarge := by
  unfold weighted
  cases ofInt? weight <;> simp [eq_comm]

theorem mapM_weighted_eq_error : ∀ {levels : Entries Int Binary64},
    levels.mapM (fun l => weighted l.2 (weight capacities l.1)) = .error f →
      (∃ index ∈ levels.keys, ofInt? (weight capacities index) = none) ∧ f = .numberTooLarge
  | [], h => by cases h
  | l :: levels, h => by
    rw [List.mapM_cons] at h
    cases hl : weighted l.2 (weight capacities l.1) with
    | error g =>
      rw [hl] at h
      cases h
      exact (weighted_eq_error_iff.1 hl).imp_left fun hnone => ⟨l.1, List.mem_cons_self, hnone⟩
    | ok term =>
      cases hls : levels.mapM fun l => weighted l.2 (weight capacities l.1) with
      | error g =>
        rw [hl, hls] at h
        cases h
        exact (mapM_weighted_eq_error hls).imp_left fun ⟨index, hmem, hnone⟩ =>
          ⟨index, List.mem_cons_of_mem _ hmem, hnone⟩
      | ok terms =>
        rw [hl, hls] at h
        cases h

/-- **A mean of levels fails exactly if the capacities add up to too large a number.** -/
theorem meanLevel_eq_error_iff {total : Nat} (hlevels : levels ≠ []) (hweight : ∀ index, 0 ≤ weight capacities index)
    (htotal : (levels.keys.map (weight capacities)).sum = total) :
    meanLevel levels capacities = .error f ↔ beyondFinite ≤ total ∧ f = .numberTooLarge := by
  have hpos : 0 < beyondFinite := by decide +kernel
  unfold meanLevel
  rw [← List.sum_eq_foldl, htotal]
  by_cases hnothing : total = 0
  · simp [hnothing, hlevels, Nat.ne_of_gt hpos]
  · simp only [Int.natCast_nonpos_iff, hnothing, if_false]
    cases hterms : levels.mapM fun l => weighted l.2 (weight capacities l.1) with
    | error g =>
      obtain ⟨⟨index, hmem, hnone⟩, rfl⟩ := mapM_weighted_eq_error hterms
      obtain ⟨w, hw⟩ := Int.eq_ofNat_of_zero_le (hweight index)
      have hle : w ≤ total := by
        have := List.single_le_sum (l := levels.keys.map (weight capacities)) (by simp [hweight]) _
          (List.mem_map_of_mem hmem)
        omega
      rw [hw, ofInt?_eq_none_iff] at hnone
      have hbeyond : beyondFinite ≤ total := Nat.le_trans hnone hle
      simp [bind, Except.bind, hbeyond, eq_comm]
    | ok terms =>
      simp only [bind, Except.bind]
      cases hn : ofInt? (total : Int) with
      | none =>
        have hbeyond := (ofInt?_eq_none_iff total).1 hn
        simp [hbeyond, eq_comm]
      | some n =>
        have hfits : ¬beyondFinite ≤ total := fun h => by rw [(ofInt?_eq_none_iff total).2 h] at hn; cases hn
        simp [hfits]

/-! ## The report -/

/-- The last full capacity of a battery, `0` if it is not known. -/
def lastFull (ls : List Line) (index : Int) : Nat := ((lastCapacity? ls index).map Capacity.lastFull).getD 0

/-- The last full capacities of the batteries with a status, added up. -/
def fullCapacity (ls : List Line) : Nat := ((indexes ls).map (lastFull ls)).sum

section

variable {ls : List Line} {b : Batteries}

theorem weight_gathered (h : Gathered ls b) (index : Int) : weight b.capacities index = lastFull ls index := by
  rw [weight, h.capacity, lastFull]
  cases lastCapacity? ls index <;> rfl

theorem statuses_eq_nil_iff (h : Gathered ls b) : b.statuses = [] ↔ ∀ s, Line.status s ∉ ls := by
  have hkeys : b.statuses = [] ↔ statusIndexes ls = [] := by
    rw [← List.map_eq_nil_iff (f := Prod.fst), show b.statuses.map Prod.fst = indexes ls from h.keys, indexes]
    cases statusIndexes ls with
    | nil => simp
    | cons => simp [List.eraseDups_cons]
  rw [hkeys, statusIndexes, List.filterMap_eq_nil_iff]
  constructor
  · intro hnone s hs
    cases hnone _ hs
  · intro hnone l hl
    cases l with
    | status s => exact absurd hl (hnone s)
    | capacity _ | other _ => rfl

theorem sum_weights_gathered (h : Gathered ls b) :
    (b.statuses.keys.map (weight b.capacities)).sum = fullCapacity ls := by
  rw [h.keys, fullCapacity, sum_weights (weight_gathered h)]

/-- The three answers that batteries can give. -/
theorem reading?_cases (h : Gathered ls b) :
    (b.reading? = .ok none ∧ ∀ s, Line.status s ∉ ls) ∨
      (∃ s, Line.status s ∈ ls) ∧
        (b.reading? = .error .numberTooLarge ∧ beyondFinite ≤ fullCapacity ls ∨
          (∃ r, b.reading? = .ok (some r)) ∧ fullCapacity ls < beyondFinite) := by
  by_cases hnil : b.statuses = []
  · refine .inl ⟨?_, (statuses_eq_nil_iff h).1 hnil⟩
    rw [Batteries.reading?, hnil]
    rfl
  · have hstatus : ∃ s, Line.status s ∈ ls := by
      by_contra hnone
      exact hnil ((statuses_eq_nil_iff h).2 (not_exists.1 hnone))
    refine .inr ⟨hstatus, ?_⟩
    have hlevels : b.statuses.map (fun s => (s.1, s.2.level)) ≠ [] := fun hmap => hnil (List.map_eq_nil_iff.1 hmap)
    have hkeys : Entries.keys (b.statuses.map fun s => (s.1, s.2.level)) = b.statuses.keys := List.map_map
    have hmean (f : Failure) := meanLevel_eq_error_iff (f := f) hlevels
      (fun index => weight_gathered h index ▸ Int.natCast_nonneg _) (hkeys ▸ sum_weights_gathered h)
    rw [Batteries.reading?, if_neg (by simpa using hnil)]
    cases hlevel : meanLevel (b.statuses.map fun s => (s.1, s.2.level)) b.capacities with
    | error f =>
      obtain ⟨hbeyond, rfl⟩ := (hmean f).1 hlevel
      exact .inl ⟨rfl, hbeyond⟩
    | ok level =>
      refine .inr ⟨⟨_, rfl⟩, Nat.lt_of_not_le fun hbeyond => ?_⟩
      have := (hmean _).2 ⟨hbeyond, rfl⟩
      rw [hlevel] at this
      cases this

end

theorem read_eq (text : String) : read text = lines text >>= fun ls => (gather ls).reading? := by
  rw [read, batteries_eq]
  cases lines text <;> rfl

/-- **A report has a reading or, without a status line, none, unless its numbers are too large.**  It fails exactly if a
number has too many digits, or the batteries with a status add up to a capacity that no double precision number is near
to. -/
theorem read_answers (text : String) :
    (∀ f, read text = .error f ↔ refusal? (numerals text) = some f ∨
      ∃ ls, lines text = .ok ls ∧ (∃ s, Line.status s ∈ ls) ∧ beyondFinite ≤ fullCapacity ls ∧ f = .numberTooLarge) ∧
    (read text = .ok none ↔ ∃ ls, lines text = .ok ls ∧ ∀ s, Line.status s ∉ ls) ∧
    ((∃ r, read text = .ok (some r)) ↔
      ∃ ls, lines text = .ok ls ∧ (∃ s, Line.status s ∈ ls) ∧ fullCapacity ls < beyondFinite) := by
  have hrefused (f : Failure) := lines_eq_error_iff text f
  rw [read_eq]
  cases hlines : lines text with
  | error g =>
    rw [hlines] at hrefused
    simp [bind, Except.bind, ← hrefused]
  | ok ls =>
    rw [hlines] at hrefused
    simp only [bind, Except.bind, ← hrefused]
    rcases reading?_cases (gathered_gather ls) with ⟨hr, hnone⟩ | ⟨hstatus, ⟨hr, hbeyond⟩ | ⟨⟨r, hr⟩, hfits⟩⟩
    · simp [hr, hnone]
    · simp [hr, hstatus, hbeyond, eq_comm]
    · simp [hr, hstatus, hfits]

/-- A status line and a capacity line, each of sound shape, that have no answer together. -/
theorem not_every_report_answered : ¬∀ text, ∃ answer, read text = .ok answer := by
  intro h
  have hfails : (read (String.ofList ("Battery 0: Discharging, 50%\n".toList ++
      "Battery 0: design capacity 1 mAh, last full capacity 1".toList ++ List.replicate 309 '0' ++
        " mAh".toList))).toOption = none := by
    rw [read_eq, lines_eq, String.toList_ofList]
    decide +kernel
  obtain ⟨answer, hanswer⟩ := h _
  rw [hanswer] at hfails
  cases hfails

end Report
end BatteryIndicator
