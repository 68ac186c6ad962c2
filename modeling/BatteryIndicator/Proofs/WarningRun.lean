import BatteryIndicator.Proofs.Number.Order
import BatteryIndicator.Warning
import Mathlib.Data.List.DropRight
import Mathlib.Data.List.Find
/-!
# WarningRun — the warnings of a row of polls

The polls since the last one that charged are a segment.  The one level that is remembered between polls tells, for
every threshold, whether the segment has reached it (`Remembers`): below the remembered level lie the thresholds that no
poll of the segment has fallen to.  So a poll warns of the first threshold that it is the first to reach, and every
threshold is warned about once in a segment (`warned_once_per_segment`).
-/
namespace BatteryIndicator
namespace Warning

/-- A poll that was made: the level and charge state, the level of the last warning after it, and its warning. -/
structure Polled where
  level : Binary64
  charging : Option Bool
  last : Binary64
  warning : Option Warning
deriving DecidableEq, Inhabited

/-- The poll of a level and a charge state, when there is a last warning to remember. -/
def poll (thresholds : List Binary64) (last : Binary64) (p : Binary64 × Option Bool) : Polled :=
  let r := check thresholds last p.1 p.2
  ⟨p.1, p.2, r.1, r.2⟩

/-- Polls one after the other. -/
def history (thresholds : List Binary64) : Binary64 → List (Binary64 × Option Bool) → List Polled
  | _, [] => []
  | last, p :: ps => poll thresholds last p :: history thresholds (poll thresholds last p).last ps

/-- The level of the last warning after polls. -/
def lastOf (last : Binary64) (made : List Polled) : Binary64 := (made.getLast?.map Polled.last).getD last

/-- The polls since the last one that charged. -/
def segment (made : List Polled) : List Polled := made.rtakeWhile fun q => q.charging != some true

/-- A level is the first, after the earlier polls of its segment, to have fallen to a threshold below full. -/
def FirstReached (earlier : List Polled) (level t : Binary64) : Prop :=
  t < fullLevel ∧ level ≤ t ∧ ∀ q ∈ earlier, ¬ q.level ≤ t

instance (earlier : List Polled) (level t : Binary64) : Decidable (FirstReached earlier level t) :=
  inferInstanceAs (Decidable (_ ∧ _ ∧ _))

/-! ## Segments -/

variable (thresholds : List Binary64) {made earlier : List Polled} {r : Polled} {last level : Binary64}

theorem segment_concat_of_charging (h : r.charging = some true) : segment (made ++ [r]) = [] :=
  List.rtakeWhile_concat_neg _ _ _ (by simp [h])

theorem segment_concat (h : r.charging ≠ some true) : segment (made ++ [r]) = segment made ++ [r] :=
  List.rtakeWhile_concat_pos _ _ _ (by simp [h])

theorem mem_of_mem_segment (h : r ∈ segment made) : r ∈ made := (List.rtakeWhile_suffix _ _).mem h

/-! ## Histories -/

theorem lastOf_concat : lastOf last (made ++ [r]) = r.last := by simp [lastOf]

theorem lastOf_cons : lastOf last (r :: made) = lastOf r.last made := by
  cases made with
  | nil => rfl
  | cons q made => simp [lastOf, List.getLast?_cons]

theorem map_history : ∀ (polls : List (Binary64 × Option Bool)) (last : Binary64),
    (history thresholds last polls).map (fun q => (q.level, q.charging)) = polls
  | [], _ => rfl
  | p :: ps, last => by
    rw [history, List.map_cons, map_history ps]
    rfl

theorem history_concat (p : Binary64 × Option Bool) : ∀ (ps : List (Binary64 × Option Bool)) (last : Binary64),
    history thresholds last (ps ++ [p]) =
      history thresholds last ps ++ [poll thresholds (lastOf last (history thresholds last ps)) p]
  | [], _ => rfl
  | q :: ps, last => by
    rw [List.cons_append, history, history, history_concat p ps, lastOf_cons, List.cons_append]

/-- **Every poll of a history was made after a history.** -/
theorem history_eq_append : ∀ (polls : List (Binary64 × Option Bool)) (last : Binary64) (before : List Polled)
    (r : Polled) (after : List Polled), history thresholds last polls = before ++ r :: after →
      ∃ ps p, before = history thresholds last ps ∧ r = poll thresholds (lastOf last before) p
  | [], _, before, _, _, h => by cases before <;> cases h
  | p :: ps, last, [], r, after, h => by
    rw [history, List.nil_append, List.cons.injEq] at h
    exact ⟨[], p, rfl, h.1.symm⟩
  | p :: ps, last, b :: before, r, after, h => by
    rw [history, List.cons_append, List.cons.injEq] at h
    obtain ⟨rfl, h⟩ := h
    obtain ⟨qs, q, hbefore, hr⟩ := history_eq_append ps _ before r after h
    refine ⟨p :: qs, q, ?_, ?_⟩
    · rw [history, ← hbefore]
    · rw [lastOf_cons]; exact hr

/-! ## What is remembered -/

/-- **The remembered level stands for the segment**: the thresholds below it are those below full that no poll of the
segment has fallen to. -/
structure Remembers (earlier : List Polled) (last : Binary64) : Prop where
  number : last.isNaN = false
  lt_iff : ∀ t ∈ thresholds, t < last ↔ t < fullLevel ∧ ∀ q ∈ earlier, ¬ q.level ≤ t

variable {thresholds}

theorem remembers_nil : Remembers thresholds [] fullLevel :=
  ⟨by decide +kernel, fun t _ => by simp⟩

theorem due_iff (h : last.isNaN = false) (t : Binary64) : due last level t = true ↔ level ≤ t ∧ t < last := by
  have hdue : due last level t = true ↔ ¬ last ≤ t ∧ level ≤ t := by
    show (!last.le t && level.le t) = true ↔ ¬ last.le t = true ∧ level.le t = true
    simp
  rw [hdue]
  constructor
  · rintro ⟨hlast, hlevel⟩
    exact ⟨hlevel, Binary64.lt_of_not_le h (Binary64.isNaN_right_of_le hlevel) hlast⟩
  · rintro ⟨hlevel, hlast⟩
    exact ⟨Binary64.not_le_of_lt hlast, hlevel⟩

/-- A threshold is due exactly when the level is the first of its segment to reach it. -/
theorem Remembers.due_eq (h : Remembers thresholds earlier last) {t : Binary64} (ht : t ∈ thresholds) :
    due last level t = decide (FirstReached earlier level t) := by
  rw [Bool.eq_iff_iff, due_iff h.number, decide_eq_true_iff, h.lt_iff t ht]
  unfold FirstReached
  tauto

theorem Remembers.find?_eq (h : Remembers thresholds earlier last) :
    thresholds.find? (due last level) = thresholds.find? fun t => decide (FirstReached earlier level t) :=
  List.find?_congr fun _ ht => h.due_eq ht

/-- **A poll that does not charge warns of the first threshold that it is the first to reach.** -/
theorem Remembers.check_eq (h : Remembers thresholds earlier last) {charging : Option Bool}
    (hc : charging ≠ some true) :
    check thresholds last level charging =
      match thresholds.find? fun t => decide (FirstReached earlier level t) with
      | some t => (level, some ⟨t, level⟩)
      | none => (last, none) := by
  unfold check
  rw [h.find?_eq]
  exact if_neg hc

/-- **A poll keeps what is remembered true of its segment.** -/
theorem Remembers.after_poll (h : Remembers thresholds (segment made) last) (p : Binary64 × Option Bool) :
    Remembers thresholds (segment (made ++ [poll thresholds last p])) (poll thresholds last p).last := by
  obtain ⟨level, charging⟩ := p
  by_cases hc : charging = some true
  · subst hc
    rw [segment_concat_of_charging rfl]
    exact remembers_nil
  rw [segment_concat hc]
  have hcheck : check thresholds last level charging = _ := h.check_eq hc
  cases hfind : thresholds.find? fun t => decide (FirstReached (segment made) level t) with
  | none =>
    -- the poll reaches no threshold that the segment has not reached before it
    rw [hfind] at hcheck
    have hlast : (poll thresholds last (level, charging)).last = last := congrArg Prod.fst hcheck
    rw [hlast]
    refine ⟨h.number, fun t ht => ?_⟩
    have hnot : ¬ FirstReached (segment made) level t := by simpa using List.find?_eq_none.1 hfind t ht
    rw [h.lt_iff t ht]
    constructor
    · rintro ⟨hfull, hnone⟩
      refine ⟨hfull, fun q hq => ?_⟩
      rcases List.mem_append.1 hq with hq | hq
      · exact hnone q hq
      · rw [List.mem_singleton.1 hq]
        exact fun hle => hnot ⟨hfull, hle, hnone⟩
    · rintro ⟨hfull, hnone⟩
      exact ⟨hfull, fun q hq => hnone q (List.mem_append_left _ hq)⟩
  | some t₀ =>
    -- the level lies below what was remembered, so the thresholds below it are those that it has not fallen to
    rw [hfind] at hcheck
    have hlast : (poll thresholds last (level, charging)).last = level := congrArg Prod.fst hcheck
    obtain ⟨hfull₀, hle₀, hnone₀⟩ : FirstReached (segment made) level t₀ := by simpa using List.find?_some hfind
    have hlt₀ : t₀ < last := (h.lt_iff t₀ (List.mem_of_find?_eq_some hfind)).2 ⟨hfull₀, hnone₀⟩
    rw [hlast]
    refine ⟨Binary64.isNaN_left_of_le hle₀, fun t ht => ?_⟩
    constructor
    · intro hlt
      have hbelow := (h.lt_iff t ht).1 (Binary64.lt_of_lt_of_le hlt (Binary64.le_of_lt (Binary64.lt_of_le_of_lt hle₀ hlt₀)))
      refine ⟨hbelow.1, fun q hq => ?_⟩
      rcases List.mem_append.1 hq with hq | hq
      · exact hbelow.2 q hq
      · rw [List.mem_singleton.1 hq]
        exact Binary64.not_le_of_lt hlt
    · rintro ⟨hfull, hnone⟩
      have hnot : ¬ level ≤ t := hnone (poll thresholds last (level, charging)) (by simp)
      exact Binary64.lt_of_not_le (Binary64.isNaN_left_of_le hle₀) (Binary64.isNaN_left_of_le (Binary64.le_of_lt hfull)) hnot

/-- **Every history remembers its last segment.** -/
theorem remembers_history (polls : List (Binary64 × Option Bool)) :
    Remembers thresholds (segment (history thresholds fullLevel polls))
      (lastOf fullLevel (history thresholds fullLevel polls)) := by
  induction polls using List.reverseRecOn with
  | nil => exact remembers_nil
  | append_singleton ps p ih =>
    rw [history_concat, lastOf_concat]
    exact ih.after_poll p

/-! ## What a poll raises -/

theorem Remembers.warning_eq (h : Remembers thresholds earlier last) (p : Binary64 × Option Bool) :
    (poll thresholds last p).warning =
      if p.2 = some true then none
      else (thresholds.find? fun t => decide (FirstReached earlier p.1 t)).map fun t => ⟨t, p.1⟩ := by
  show (check thresholds last p.1 p.2).2 = _
  split
  · next hc => rw [check, if_pos hc]
  · next hc =>
    rw [h.check_eq hc]
    cases thresholds.find? fun t => decide (FirstReached earlier p.1 t) <;> rfl

/-- A warning names a threshold of the list that the level has just reached, and carries the level. -/
theorem Remembers.of_warning (h : Remembers thresholds earlier last) {p : Binary64 × Option Bool} {w : Warning}
    (hw : (poll thresholds last p).warning = some w) :
    w.level = p.1 ∧ (thresholds.find? fun t => decide (FirstReached earlier p.1 t)) = some w.threshold := by
  rw [h.warning_eq] at hw
  split at hw
  · cases hw
  · obtain ⟨t, ht, rfl⟩ := Option.map_eq_some_iff.1 hw
    exact ⟨rfl, ht⟩

theorem FirstReached.of_find? {t : Binary64}
    (h : (thresholds.find? fun t => decide (FirstReached earlier level t)) = some t) : FirstReached earlier level t := by
  simpa using List.find?_some h

/-- A warning lowers what is remembered. -/
theorem Remembers.level_lt (h : Remembers thresholds earlier last) {p : Binary64 × Option Bool} {w : Warning}
    (hw : (poll thresholds last p).warning = some w) : w.level < last := by
  obtain ⟨hlevel, hfind⟩ := h.of_warning hw
  obtain ⟨hfull, hle, hnone⟩ := FirstReached.of_find? hfind
  have hlt : w.threshold < last := (h.lt_iff w.threshold (List.mem_of_find?_eq_some hfind)).2 ⟨hfull, hnone⟩
  rw [hlevel]
  exact Binary64.lt_of_le_of_lt hle hlt

/-- The level of the last warning is forgotten by a charge, and moves to the level of a poll that warns. -/
theorem poll_last (p : Binary64 × Option Bool) :
    (poll thresholds last p).last =
      if p.2 = some true then fullLevel else ((poll thresholds last p).warning.map Warning.level).getD last := by
  show (check thresholds last p.1 p.2).1 = if p.2 = some true then fullLevel else
    ((check thresholds last p.1 p.2).2.map Warning.level).getD last
  unfold check
  split
  · rfl
  · split <;> rfl

/-- The last warning of the segment. -/
def latest (made : List Polled) : Option Warning := ((segment made).filterMap Polled.warning).getLast?

theorem latest_concat_of_charging (h : r.charging = some true) : latest (made ++ [r]) = none := by
  rw [latest, segment_concat_of_charging h]
  rfl

theorem latest_concat (h : r.charging ≠ some true) : latest (made ++ [r]) = r.warning.or (latest made) := by
  rw [latest, segment_concat h, List.filterMap_append, List.getLast?_append]
  cases hw : r.warning with
  | none => simp [hw, latest]
  | some w => simp [hw]

/-- **What is remembered is the level of the last warning of the segment**, or full if there is none. -/
theorem lastOf_history (polls : List (Binary64 × Option Bool)) :
    lastOf fullLevel (history thresholds fullLevel polls) =
      ((latest (history thresholds fullLevel polls)).map Warning.level).getD fullLevel := by
  induction polls using List.reverseRecOn with
  | nil => rfl
  | append_singleton ps p ih =>
    rw [history_concat, lastOf_concat, poll_last]
    split
    · next hc => rw [latest_concat_of_charging hc]; rfl
    · next hc =>
      rw [latest_concat hc, ih]
      cases (poll thresholds _ p).warning <;> rfl

/-- Whoever warned had fallen to the threshold. -/
theorem level_le_of_mem_history {polls : List (Binary64 × Option Bool)} {q : Polled} {w : Warning}
    (hq : q ∈ history thresholds fullLevel polls) (hw : q.warning = some w) :
    q.level ≤ w.threshold := by
  obtain ⟨before, after, hsplit⟩ := List.append_of_mem hq
  obtain ⟨ps, p, rfl, rfl⟩ := history_eq_append thresholds polls fullLevel before q after hsplit
  exact (FirstReached.of_find? ((remembers_history ps).of_warning hw).2).2.1

/-- **Whoever reaches a threshold below full has been warned at or below it** by the end of the segment. -/
theorem warned_of_reached (polls : List (Binary64 × Option Bool)) {q : Polled} {t : Binary64}
    (hq : q ∈ segment (history thresholds fullLevel polls)) (ht : t ∈ thresholds) (hfull : t < fullLevel)
    (hle : q.level ≤ t) :
    ∃ r ∈ segment (history thresholds fullLevel polls), ∃ w, r.warning = some w ∧ w.level ≤ t := by
  have hremembers : Remembers thresholds _ _ := remembers_history polls
  have hlow : lastOf fullLevel (history thresholds fullLevel polls) ≤ t := by
    by_contra hlow
    have hlt := Binary64.lt_of_not_le hremembers.number (Binary64.isNaN_right_of_le hle) hlow
    exact ((hremembers.lt_iff t ht).1 hlt).2 q hq hle
  rw [lastOf_history] at hlow
  cases hlatest : latest (history thresholds fullLevel polls) with
  | none =>
    rw [hlatest] at hlow
    exact absurd hlow (Binary64.not_le_of_lt hfull)
  | some w =>
    obtain ⟨r, hr, hw⟩ := List.mem_filterMap.1 (List.mem_of_getLast? hlatest)
    rw [hlatest] at hlow
    exact ⟨r, hr, w, hw, hlow⟩

/-! ## The law of a run -/

/-- **Every threshold is warned about once in a segment.**  A poll `r` of a history warns exactly when it does not charge
and is the first of its segment to reach some threshold below full; it names the first such threshold in the order given
and carries its level.  What is remembered after it is the level of the last warning of the segment, or full, and a
warning lowers it.  So no two warnings of a segment name one threshold, and whoever reaches a threshold below full has
been warned at or below it. -/
theorem warned_once_per_segment (thresholds : List Binary64) (polls : List (Binary64 × Option Bool)) :
    let made := history thresholds fullLevel polls
    made.map (fun q => (q.level, q.charging)) = polls ∧
    ∀ before r after, made = before ++ r :: after →
      (r.warning.isSome = true ↔
        r.charging ≠ some true ∧ ∃ t ∈ thresholds, FirstReached (segment before) r.level t) ∧
      (∀ w, r.warning = some w → w.level = r.level ∧ ∃ passed rest, thresholds = passed ++ w.threshold :: rest ∧
        FirstReached (segment before) r.level w.threshold ∧ ∀ t ∈ passed, ¬ FirstReached (segment before) r.level t) ∧
      r.last = ((latest (before ++ [r])).map Warning.level).getD fullLevel ∧
      (∀ w, r.warning = some w → r.last = w.level ∧ r.last < lastOf fullLevel before) ∧
      (∀ q ∈ segment before, ∀ v w, q.warning = some v → r.warning = some w →
        v.threshold.equal w.threshold = false) ∧
      (r.charging ≠ some true → ∀ t ∈ thresholds, t < fullLevel → r.level ≤ t →
        ∃ q ∈ segment (before ++ [r]), ∃ w, q.warning = some w ∧ w.level ≤ t) := by
  intro made
  refine ⟨map_history thresholds polls fullLevel, fun before r after hsplit => ?_⟩
  obtain ⟨ps, p, hbefore, hr⟩ := history_eq_append thresholds polls fullLevel before r after hsplit
  have hconcat : before ++ [r] = history thresholds fullLevel (ps ++ [p]) := by
    rw [history_concat, ← hbefore, ← hr]
  have hremembers : Remembers thresholds (segment before) (lastOf fullLevel before) := by
    rw [hbefore]; exact remembers_history ps
  have hlast : r.last = ((latest (before ++ [r])).map Warning.level).getD fullLevel := by
    have hlastOf : lastOf fullLevel (before ++ [r]) = r.last := lastOf_concat
    rw [← hlastOf, hconcat]
    exact lastOf_history _
  have hlevel : r.level = p.1 := by rw [hr]; rfl
  have hcharging : r.charging = p.2 := by rw [hr]; rfl
  have hwarning := hremembers.warning_eq p
  rw [← hr, ← hlevel, ← hcharging] at hwarning
  have hof : ∀ w, r.warning = some w → w.level = r.level ∧
      (thresholds.find? fun t => decide (FirstReached (segment before) r.level t)) = some w.threshold := by
    intro w hw
    rw [hlevel]
    exact hremembers.of_warning (by rw [← hr]; exact hw)
  refine ⟨?_, ?_, hlast, ?_, ?_, ?_⟩
  · rw [hwarning]
    split
    · next hc => simp [hc]
    · next hc => simp [hc, List.find?_isSome]
  · intro w hw
    obtain ⟨hl, hfind⟩ := hof w hw
    obtain ⟨_, passed, rest, hthresholds, hpassed⟩ := List.find?_eq_some_iff_append.1 hfind
    exact ⟨hl, passed, rest, hthresholds, FirstReached.of_find? hfind, fun t ht => by simpa using hpassed t ht⟩
  · intro w hw
    have hc : r.charging ≠ some true := by
      intro hc
      rw [hwarning, if_pos hc] at hw
      cases hw
    have hnow : r.last = w.level := by rw [hlast, latest_concat hc, hw]; rfl
    refine ⟨hnow, ?_⟩
    rw [hnow]
    exact hremembers.level_lt (by rw [← hr]; exact hw)
  · intro q hq v w hv hw
    have hnone := (FirstReached.of_find? (hof w hw).2).2.2 q hq
    have hle : q.level ≤ v.threshold := level_le_of_mem_history (hbefore ▸ mem_of_mem_segment hq) hv
    by_contra hequal
    exact hnone (Binary64.le_trans hle (Binary64.le_of_equal (by simpa using hequal)))
  · intro hc t ht hfull hle
    have hmem : r ∈ segment (before ++ [r]) := by rw [segment_concat hc]; simp
    rw [hconcat] at hmem ⊢
    exact warned_of_reached _ hmem ht hfull hle

/-- A battery that falls past one threshold and then past a lower one. -/
theorem warned_once_per_segment_falling :
    ∃ before r, history [10, 5] fullLevel [(12, none), (9, some false), (4, some false)] = before ++ [r] ∧
      r.warning = some ⟨5, 4⟩ ∧ r.last < lastOf fullLevel before ∧
      ∃ q ∈ segment (before ++ [r]), ∃ w, q.warning = some w ∧ w.level ≤ 5 := by
  have hmade : history [10, 5] fullLevel [(12, none), (9, some false), (4, some false)] =
      [⟨12, none, 100, none⟩, ⟨9, some false, 9, some ⟨10, 9⟩⟩] ++ [⟨4, some false, 4, some ⟨5, 4⟩⟩] := by decide +kernel
  obtain ⟨-, -, -, hlast, -, hwarned⟩ := (warned_once_per_segment [10, 5] _).2 _ _ [] hmade
  refine ⟨_, _, hmade, rfl, (hlast _ rfl).2, hwarned (by decide) 5 (by simp) ?_ ?_⟩
  · decide +kernel
  · decide +kernel

end Warning
end BatteryIndicator
