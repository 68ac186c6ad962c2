import BatteryIndicator.Proofs.Step.Written
/-!
# Malformed — the fields of a definition, and the entries that are dropped

A field of a definition is malformed if it has no colon, if what stands before its first colon is no number, or if
nothing but blanks stands between that colon and the next one or the end.  Any other field writes a step (`Writes`).  So
the entries that are dropped are the malformed fields in order (`dropped_ofEntries`), and the steps are those that the
other fields write (`writes_ofEntries`).
-/
namespace BatteryIndicator
namespace Step

open Text

/-! ## The parts of a field -/

def beforeColon (s : List Char) : List Char := s.takeWhile (· != ':')

def afterColon (s : List Char) : List Char := (s.dropWhile (· != ':')).tail

def maximumText (field : List Char) : List Char := trim (beforeColon field)

def iconText (field : List Char) : List Char := trim (beforeColon (afterColon field))

def alternateText (field : List Char) : List Char := trim (afterColon (afterColon field))

def Malformed (field : List Char) : Prop :=
  ':' ∉ field ∨ Numeral.written.real? (maximumText field) = none ∨ iconText field = []

instance : DecidablePred Malformed := fun _ => inferInstanceAs (Decidable (_ ∨ _ ∨ _))

/-- What is wrong with a malformed field: the first of its parts that cannot be read. -/
def faultOf (field : List Char) : EntryFault :=
  if ':' ∉ field then .missingColon
  else
    match Numeral.written.real? (maximumText field) with
    | none => .invalidMaximum (String.ofList (maximumText field))
    | some _ => .missingIcon

/-- The entry that is dropped for a malformed field. -/
def entryOf (field : List Char) : DroppedEntry := ⟨String.ofList (trim field), faultOf field⟩

/-- The field writes the step, wherever the step starts. -/
structure Writes (field : List Char) (s : Step) : Prop where
  maximum : Numeral.written.real? (maximumText field) = some s.maximum
  icon : s.icon = String.ofList (iconText field)
  alternate : s.alternate = if alternateText field = [] then none else some (String.ofList (alternateText field))
  event : s.event = none

variable {x y field : List Char} {start : Binary64}

theorem parts_append (hx : ':' ∉ x) (y : List Char) :
    beforeColon (x ++ ':' :: y) = x ∧ afterColon (x ++ ':' :: y) = y := by
  have hbefore : ∀ c ∈ x, (c != ':') = true := fun c hc => bne_iff_ne.2 fun h => hx (h ▸ hc)
  constructor
  · rw [beforeColon, List.takeWhile_append_of_pos hbefore]
    exact List.append_nil x
  · rw [afterColon, List.dropWhile_append_of_pos hbefore]
    rfl

theorem parts_of_not_mem (hx : ':' ∉ x) : beforeColon x = x ∧ afterColon x = [] := by
  have hbefore : ∀ c ∈ x, (c != ':') = true := fun c hc => bne_iff_ne.2 fun h => hx (h ▸ hc)
  constructor
  · exact List.takeWhile_eq_self_iff.2 hbefore
  · rw [afterColon, List.dropWhile_eq_nil_iff.2 hbefore]
    rfl

/-- A field with a colon is cut into its maximum, its icon and its alternate icon, if it has one. -/
theorem fields_of_mem (h : ':' ∈ field) :
    ∃ rest, fields ':' 2 field = beforeColon field :: beforeColon (afterColon field) :: rest ∧
      rest.flatten = afterColon (afterColon field) := by
  obtain ⟨x, y, rfl, hx⟩ := List.eq_append_cons_of_mem h
  obtain ⟨hbefore, hafter⟩ := parts_append hx y
  rw [fields_append 1 y hx, hbefore, hafter]
  by_cases hy : ':' ∈ y
  · obtain ⟨z, w, rfl, hz⟩ := List.eq_append_cons_of_mem hy
    obtain ⟨hbefore, hafter⟩ := parts_append hz w
    rw [fields_append 0 w hz, fields_zero, hbefore, hafter]
    exact ⟨[w], rfl, List.flatten_singleton⟩
  · obtain ⟨hbefore, hafter⟩ := parts_of_not_mem hy
    rw [fields_of_not_mem 1 hy, hbefore, hafter]
    exact ⟨[], rfl, rfl⟩

/-- **A field is malformed, and dropped for what is wrong with it, or it writes a step.** -/
theorem ofEntry_cases (start : Binary64) (field : List Char) :
    (Malformed field ∧ ofEntry start field = .error (faultOf field)) ∨
      (¬Malformed field ∧ ∃ s, ofEntry start field = .ok s ∧ Writes field s) := by
  unfold Malformed faultOf
  by_cases hcolon : ':' ∈ field
  · obtain ⟨rest, hfields, hrest⟩ := fields_of_mem hcolon
    have hentry : ofEntry start field = ofFields start (beforeColon field :: beforeColon (afterColon field) :: rest) := by
      rw [ofEntry, hfields]
    rw [if_neg (not_not_intro hcolon), hentry]
    cases hmaximum : Numeral.written.real? (maximumText field) with
    | none =>
      refine .inl ⟨.inr (.inl rfl), ?_⟩
      have hreal : Numeral.written.real? (trim (beforeColon field)) = none := hmaximum
      simp only [ofFields, hreal]
      rfl
    | some m =>
      by_cases hicon : iconText field = []
      · refine .inl ⟨.inr (.inr hicon), ?_⟩
        have hreal : Numeral.written.real? (trim (beforeColon field)) = some m := hmaximum
        have hempty : (trim (beforeColon (afterColon field))).isEmpty = true := List.isEmpty_iff.2 hicon
        simp only [ofFields, hreal, hempty, if_true]
      · refine .inr ⟨?_, _, ofFields_of_real? hmaximum hicon, hmaximum, rfl, ?_, rfl⟩
        · rintro (h | h | h)
          · exact h hcolon
          · cases h
          · exact hicon h
        · simp only [hrest, List.isEmpty_iff]
          rfl
  · have hentry : ofEntry start field = .error .missingColon := by
      rw [ofEntry, fields_of_not_mem 2 hcolon]
      rfl
    rw [if_pos hcolon]
    exact .inl ⟨.inl hcolon, hentry⟩

/-! ## The fields of a definition -/

namespace Definition

/-- **The entries that are dropped are the malformed fields**, in order and once each. -/
theorem dropped_ofEntries : ∀ (fs : List (List Char)) (start : Binary64),
    (ofEntries start (fs.map trim)).dropped = (fs.filter fun f => decide (Malformed f)).map entryOf
  | [], _ => rfl
  | f :: fs, start => by
    rw [List.map_cons, ofEntries, ofEntry_trim]
    rcases ofEntry_cases start f with ⟨hmalformed, hentry⟩ | ⟨hsound, s, hentry, -⟩
    · rw [hentry, List.filter_cons_of_pos (by simpa using hmalformed), List.map_cons, ← dropped_ofEntries fs start]
      rfl
    · rw [hentry, List.filter_cons_of_neg (by simpa using hsound), ← dropped_ofEntries fs s.maximum]

/-- **The steps are those that the other fields write**, in order. -/
theorem writes_ofEntries : ∀ (fs : List (List Char)) (start : Binary64),
    List.Forall₂ Writes (fs.filter fun f => !decide (Malformed f)) (ofEntries start (fs.map trim)).steps
  | [], _ => .nil
  | f :: fs, start => by
    rw [List.map_cons, ofEntries, ofEntry_trim]
    rcases ofEntry_cases start f with ⟨hmalformed, hentry⟩ | ⟨hsound, s, hentry, hwrites⟩
    · rw [hentry, List.filter_cons_of_neg (by simpa using hmalformed)]
      exact writes_ofEntries fs start
    · rw [hentry, List.filter_cons_of_pos (by simpa using hsound)]
      exact .cons hwrites (writes_ofEntries fs s.maximum)

theorem length_steps_eq_iff (fs : List (List Char)) (start : Binary64) :
    (ofEntries start (fs.map trim)).steps.length = fs.length ↔ ∀ f ∈ fs, ¬Malformed f := by
  rw [← (writes_ofEntries fs start).length_eq, List.length_filter_eq_length_iff]
  simp

theorem length_steps_le (fs : List (List Char)) (start : Binary64) :
    (ofEntries start (fs.map trim)).steps.length ≤ fs.length := by
  rw [← (writes_ofEntries fs start).length_eq]
  exact List.length_filter_le _ _

end Definition
end Step
end BatteryIndicator
