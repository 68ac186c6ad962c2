import BatteryIndicator.Text.Blank
import BatteryIndicator.Text.Fields
import Mathlib.Data.List.DropRight
/-!
# Cut — texts put together and taken apart

Blanks at the ends of a text come off in any order (`trimStart_trimEnd`), and a character that is no blank keeps what
stands on its two sides apart (`trim_append_cons`).  Pieces that were joined with a separator are what a cut at the
first separators gives back, if only the last piece may have separators of its own (`fields_intercalate`).
-/
namespace BatteryIndicator
namespace Text

variable {a b s x y : List Char} {c : Char}

/-! ## Blanks -/

theorem trimStart_append_of_blank (h : a.all isBlank = true) (s : List Char) : trimStart (a ++ s) = trimStart s :=
  List.dropWhile_append_of_pos (List.all_eq_true.1 h)

theorem trimEnd_append_of_blank (s : List Char) (h : b.all isBlank = true) : trimEnd (s ++ b) = trimEnd s := by
  have hreverse : ∀ c ∈ b.reverse, isBlank c = true := fun c hc => List.all_eq_true.1 h c (List.mem_reverse.1 hc)
  rw [trimEnd, List.reverse_append, List.dropWhile_append_of_pos hreverse, trimEnd]

theorem trimStart_append_cons (x : List Char) (h : isBlank c = false) (y : List Char) :
    trimStart (x ++ c :: y) = trimStart x ++ c :: y := by
  have hc : (c :: y).dropWhile isBlank = c :: y := List.dropWhile_cons_of_neg (by simp [h])
  rw [trimStart, List.dropWhile_append, hc, trimStart]
  split
  · next hempty => rw [List.isEmpty_iff.1 hempty, List.nil_append]
  · rfl

theorem trimEnd_append_cons (x : List Char) (h : isBlank c = false) (y : List Char) :
    trimEnd (x ++ c :: y) = x ++ c :: trimEnd y := by
  have hreverse : (x ++ c :: y).reverse = y.reverse ++ c :: x.reverse := by simp
  show (trimStart (x ++ c :: y).reverse).reverse = x ++ c :: (trimStart y.reverse).reverse
  rw [hreverse, trimStart_append_cons _ h]
  simp

/-- A character that is no blank keeps the two sides of a text apart. -/
theorem trim_append_cons (x : List Char) (h : isBlank c = false) (y : List Char) :
    trim (x ++ c :: y) = trimStart x ++ c :: trimEnd y := by
  rw [trim, trimStart_append_cons x h, trimEnd_append_cons _ h]

theorem trimStart_of_blank (h : s.all isBlank = true) : trimStart s = [] := by
  rw [← List.append_nil s, trimStart_append_of_blank h]
  rfl

theorem trimEnd_of_blank (h : s.all isBlank = true) : trimEnd s = [] := by
  rw [← List.nil_append s, trimEnd_append_of_blank [] h]
  rfl

/-- It does not matter which end is trimmed first. -/
theorem trimStart_trimEnd (s : List Char) : trimStart (trimEnd s) = trimEnd (trimStart s) := by
  by_cases h : s.all isBlank = true
  · rw [trimEnd_of_blank h, trimStart_of_blank h]
    rfl
  · -- around some character that is no blank the two ends do not meet
    obtain ⟨c, hc, hblank⟩ : ∃ c ∈ s, isBlank c = false := by simpa using h
    obtain ⟨x, y, rfl⟩ := List.append_of_mem hc
    rw [trimEnd_append_cons x hblank, trimStart_append_cons x hblank, trimStart_append_cons x hblank,
      trimEnd_append_cons _ hblank]

@[simp] theorem trim_trimStart (s : List Char) : trim (trimStart s) = trim s :=
  congrArg trimEnd (List.dropWhile_idempotent isBlank s)

@[simp] theorem trim_trimEnd (s : List Char) : trim (trimEnd s) = trim s := by
  rw [trim, trimStart_trimEnd]
  exact List.rdropWhile_idempotent isBlank (trimStart s)

@[simp] theorem trim_trim (s : List Char) : trim (trim s) = trim s := (trim_trimEnd _).trans (trim_trimStart s)

/-- Blanks around a text do not count. -/
theorem trim_padded (ha : a.all isBlank = true) (s : List Char) (hb : b.all isBlank = true) :
    trim (a ++ s ++ b) = trim s := by
  rw [← trim_trimEnd, trimEnd_append_of_blank _ hb, trim_trimEnd, ← trim_trimStart, trimStart_append_of_blank ha,
    trim_trimStart]

theorem trimStart_of_head? (h : s.head? = some c) (hc : isBlank c = false) : trimStart s = s := by
  obtain ⟨t, rfl⟩ := List.head?_eq_some_iff.1 h
  exact List.dropWhile_cons_of_neg (Bool.eq_false_iff.1 hc)

theorem trimEnd_of_getLast? (h : s.getLast? = some c) (hc : isBlank c = false) : trimEnd s = s := by
  obtain ⟨t, rfl⟩ := List.getLast?_eq_some_iff.1 h
  exact trimEnd_append_cons t hc []

theorem trim_of_no_blank (h : ∀ c ∈ s, isBlank c = false) : trim s = s := by
  cases s with
  | nil => rfl
  | cons c y =>
    have hstart : trimStart (c :: y) = c :: y := List.dropWhile_cons_of_neg (by simp [h c List.mem_cons_self])
    rw [trim, hstart]
    exact List.rdropWhile_eq_self_iff.2 fun hne => by simp [h _ (List.getLast_mem hne)]

theorem trim_subset (s : List Char) : trim s ⊆ s := fun _ hc =>
  (List.dropWhile_sublist isBlank).subset ((List.rdropWhile_prefix isBlank (trimStart s)).subset hc)

theorem mem_trim_of_mem (hc : isBlank c = false) (h : c ∈ s) : c ∈ trim s := by
  obtain ⟨x, y, rfl⟩ := List.append_of_mem h
  rw [trim_append_cons x hc]
  simp

/-- Margins are blanks, so a text without blanks between its margins is what trimming leaves. -/
theorem trim_of_trimMargins (h : ∀ c ∈ trimMargins s, isBlank c = false) : trim s = trimMargins s := by
  have hmargin : ∀ c, isMargin c = true → isBlank c = true := fun c hc => (Bool.and_eq_true _ _ ▸ hc).1
  have hbefore : (s.takeWhile isMargin).all isBlank = true :=
    List.all_eq_true.2 fun c hc => hmargin c (List.mem_takeWhile_imp hc)
  have hafter : ((s.dropWhile isMargin).rtakeWhile isMargin).all isBlank = true :=
    List.all_eq_true.2 fun c hc => hmargin c (List.mem_rtakeWhile_imp hc)
  have hinner : trimMargins s ++ (s.dropWhile isMargin).rtakeWhile isMargin = s.dropWhile isMargin :=
    List.rdropWhile_append_rtakeWhile
  calc trim s
    _ = trim (s.takeWhile isMargin ++ trimMargins s ++ (s.dropWhile isMargin).rtakeWhile isMargin) := by
      rw [List.append_assoc, hinner, List.takeWhile_append_dropWhile]
    _ = trim (trimMargins s) := trim_padded hbefore _ hafter
    _ = trimMargins s := trim_of_no_blank h

/-! ## Separators -/

variable {separator : Char}

@[simp] theorem fields_zero (separator : Char) (s : List Char) : fields separator 0 s = [s] := by
  cases s <;> rfl

theorem fields_of_not_mem : ∀ {s : List Char} (cuts : Nat), separator ∉ s → fields separator cuts s = [s]
  | [], _, _ => by simp [fields]
  | c :: s, 0, _ => rfl
  | c :: s, cuts + 1, h => by
    have hc : c ≠ separator := fun he => h (he ▸ List.mem_cons_self)
    have hs : separator ∉ s := fun hs => h (List.mem_cons_of_mem _ hs)
    rw [fields, if_neg hc, fields_of_not_mem (cuts + 1) hs]

/-- The first cut is at the first separator. -/
theorem fields_append : ∀ {x : List Char} (cuts : Nat) (s : List Char), separator ∉ x →
    fields separator (cuts + 1) (x ++ separator :: s) = x :: fields separator cuts s
  | [], cuts, s, _ => by rw [List.nil_append, fields, if_pos rfl]
  | c :: x, cuts, s, h => by
    have hc : c ≠ separator := fun he => h (he ▸ List.mem_cons_self)
    have hx : separator ∉ x := fun hx => h (List.mem_cons_of_mem _ hx)
    rw [List.cons_append, fields, if_neg hc, fields_append cuts s hx]

/-- There is a piece for every cut, and one more. -/
theorem length_fields (separator : Char) : ∀ (cuts : Nat) (s : List Char),
    (fields separator cuts s).length = min cuts (s.count separator) + 1
  | cuts, [] => by simp [fields]
  | 0, s => by simp
  | cuts + 1, c :: s => by
    rw [fields]
    split
    · next hc =>
      rw [List.length_cons, length_fields separator cuts s, hc, List.count_cons_self]
      omega
    · next hc =>
      have hs := length_fields separator (cuts + 1) s
      rw [List.count_cons_of_ne hc, ← hs]
      cases hfields : fields separator (cuts + 1) s with
      | nil => rw [hfields, List.length_nil] at hs; omega
      | cons f fs => rfl

/-- **Joined pieces are cut apart again**: with one cut for every piece but the last, which may have separators. -/
theorem fields_intercalate : ∀ (early : List (List Char)) (last : List Char), (∀ f ∈ early, separator ∉ f) →
    fields separator early.length ([separator].intercalate (early ++ [last])) = early ++ [last]
  | [], last, _ => by simp
  | f :: early, last, h => by
    have hearly : ∀ g ∈ early, separator ∉ g := fun g hg => h g (List.mem_cons_of_mem _ hg)
    have hjoin : [separator].intercalate (f :: (early ++ [last])) =
        f ++ separator :: [separator].intercalate (early ++ [last]) := by
      obtain ⟨g, rest, hrest⟩ := List.exists_cons_of_ne_nil (List.append_ne_nil_of_right_ne_nil early
        (List.cons_ne_nil last []))
      rw [hrest, List.intercalate_cons_cons, List.append_assoc, List.singleton_append]
    rw [List.cons_append, hjoin, List.length_cons, fields_append _ _ (h f List.mem_cons_self),
      fields_intercalate early last hearly]

end Text
end BatteryIndicator
