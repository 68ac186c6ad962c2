import BatteryIndicator.Proofs.Number.Digits
import BatteryIndicator.Proofs.Text.Cut
import BatteryIndicator.Proofs.Text.Letter
import BatteryIndicator.Report.Line
/-!
# Written — the lines of a report as they are written

A status line and a capacity line are put together from parts (`StatusParts`, `CapacityParts`).  The reader of each kind
of line finds the parts of every text that is put together so, and of no other (`statusShape?_eq_some_iff`,
`capacityShape?_eq_some_iff`), and nothing is both: after the letters of a state there is a comma, after the words of a
capacity line a digit (`text_apart`).
-/
namespace BatteryIndicator
namespace Report
namespace Line

open Text (IsRow isRow_takeWhile values isDigit isWord isBlank lower trim trimEnd)

variable {c : Char} {r s t : List Char}

/-! ## Readers

What a reader takes off the front of a text, and that it takes off nothing else. -/

theorem after?_eq_some_iff : ∀ {l s : List Char}, after? l s = some r ↔ l ++ r = s
  | [], s => by simp [after?, eq_comm]
  | c :: l, [] => by simp [after?]
  | c :: l, d :: s => by
    rw [after?]
    split
    · next h => rw [h, after?_eq_some_iff]; simp
    · next h => simp [h]

@[simp] theorem after?_append (l r : List Char) : after? l (l ++ r) = some r := after?_eq_some_iff.2 rfl

theorem number?_append (ht : IsRow isDigit t) (hr : r.head? = some c) (hc : isDigit c = false) :
    number? (t ++ r) = some (values t, r) := by
  unfold number?
  rw [Text.digits_eq, ht.takeWhile_append hr hc, ht.dropWhile_append hr hc]
  cases hvalues : values t with
  | nil => exact absurd hvalues ht.values_ne_nil
  | cons d ds => rfl

theorem exists_of_number? {n : List Nat} (h : number? s = some (n, r)) :
    ∃ t, IsRow isDigit t ∧ values t = n ∧ t ++ r = s := by
  unfold number? at h
  rw [Text.digits_eq] at h
  split at h
  · cases h
  · next hne =>
    cases h
    exact ⟨_, isRow_takeWhile fun hnil => hne _ (by rw [hnil]; rfl), rfl, List.takeWhile_append_dropWhile⟩

theorem numberAfter_append (l : List Char) (ht : IsRow isDigit t) (hr : r.head? = some c) (hc : isDigit c = false) :
    after? l (l ++ (t ++ r)) >>= number? = some (values t, r) :=
  Option.bind_eq_some_iff.2 ⟨_, after?_append l _, number?_append ht hr hc⟩

theorem exists_of_numberAfter {l : List Char} {n : List Nat} (h : after? l s >>= number? = some (n, r)) :
    ∃ t, IsRow isDigit t ∧ values t = n ∧ l ++ (t ++ r) = s := by
  obtain ⟨u, hu, hn⟩ := Option.bind_eq_some_iff.1 h
  obtain ⟨t, ht, hvalues, rfl⟩ := exists_of_number? hn
  exact ⟨t, ht, hvalues, after?_eq_some_iff.1 hu⟩

theorem level_append {whole : List Char} {f : Option (List Char)} (hwhole : IsRow isDigit whole)
    (hf : ∀ t ∈ f, IsRow isDigit t) (r : List Char) :
    ∃ s, number? (Numeral.decimal whole f ++ (['%'] ++ r)) = some (values whole, s) ∧
      fraction s = (values (f.getD []), ['%'] ++ r) := by
  cases f with
  | none => exact ⟨_, number?_append hwhole rfl (by decide), rfl⟩
  | some t =>
    have hfraction : number? (t ++ (['%'] ++ r)) = some (values t, ['%'] ++ r) :=
      number?_append (hf t rfl) rfl (by decide)
    rw [Numeral.decimal, List.append_assoc]
    refine ⟨_, number?_append hwhole rfl (by decide), ?_⟩
    rw [List.cons_append, fraction, hfraction]
    rfl

theorem exists_of_fraction {n : List Nat} (whole : List Char) (h : fraction s = (n, r)) :
    ∃ f : Option (List Char), (∀ t ∈ f, IsRow isDigit t) ∧ values (f.getD []) = n ∧
      Numeral.decimal whole f ++ r = whole ++ s := by
  unfold fraction at h
  split at h
  · split at h
    · next hn =>
      obtain ⟨t, ht, hvalues, rfl⟩ := exists_of_number? (h ▸ hn)
      exact ⟨some t, by rintro _ ⟨⟩; exact ht, hvalues, by simp [Numeral.decimal]⟩
    · cases h
      exact ⟨none, by rintro _ ⟨⟩, rfl, rfl⟩
  · cases h
    exact ⟨none, by rintro _ ⟨⟩, rfl, rfl⟩

def detailText : Option (List Char) → List Char
  | none => []
  | some d => ", ".toList ++ d

theorem detail?_eq_some_iff {o : Option (List Char)} : detail? s = some o ↔ detailText o = s ∧ ∀ d ∈ o, '\n' ∉ d := by
  cases s with
  | nil => cases o <;> simp [detail?, detailText]
  | cons c s =>
    have hdetail : detail? (c :: s) = some o ↔ ∃ d, ", ".toList ++ d = c :: s ∧ '\n' ∉ d ∧ some d = o := by
      simp only [detail?, Option.bind_eq_bind, Option.bind_eq_some_iff, after?_eq_some_iff]
      simp
    rw [hdetail]
    cases o <;> simp [detailText]

theorem unit?_append (t : List Char) :
    unit? ([' '] ++ t) = if (t.takeWhile isWord).isEmpty then none else some (t.dropWhile isWord) := by
  rw [unit?, after?_append]
  rfl

theorem unit?_row (ht : IsRow isWord t) (hr : r.head? = some c) (hc : isWord c = false) :
    unit? ([' '] ++ (t ++ r)) = some r := by
  rw [unit?_append, ht.takeWhile_append hr hc, ht.dropWhile_append hr hc, if_neg (by simpa using ht.nonempty)]

theorem exists_of_unit? (h : unit? s = some r) : ∃ t, IsRow isWord t ∧ [' '] ++ (t ++ r) = s := by
  rw [unit?, Option.bind_eq_bind, Option.bind_eq_some_iff] at h
  obtain ⟨u, hu, h⟩ := h
  split at h
  · cases h
  · next hne =>
    cases h
    refine ⟨u.takeWhile isWord, isRow_takeWhile (by simpa using hne), ?_⟩
    rw [List.takeWhile_append_dropWhile]
    exact after?_eq_some_iff.1 hu

/-! ## Status lines -/

structure StatusParts where
  index : List Char
  state : List Char
  whole : List Char
  fraction : Option (List Char)
  detail : Option (List Char)
  index_row : IsRow isDigit index
  state_row : IsRow inState state
  whole_row : IsRow isDigit whole
  fraction_row : ∀ f ∈ fraction, IsRow isDigit f
  detail_line : ∀ d ∈ detail, '\n' ∉ d

namespace StatusParts

variable (p : StatusParts)

def level : List Char := Numeral.decimal p.whole p.fraction

def text : List Char :=
  "Battery ".toList ++ p.index ++ ": ".toList ++ p.state ++ ", ".toList ++ p.level ++ ['%'] ++ detailText p.detail

def shape : StatusShape := ⟨values p.index, p.state, values p.whole, values (p.fraction.getD []), p.detail⟩

end StatusParts

theorem StatusParts.text_append (p : StatusParts) (rest : List Char) : p.text ++ rest =
    "Battery ".toList ++ (p.index ++ (": ".toList ++ (p.state ++ (", ".toList ++
      (p.level ++ (['%'] ++ (detailText p.detail ++ rest))))))) := by
  unfold StatusParts.text
  -- with the literals put aside, only the grouping differs
  generalize "Battery ".toList = battery
  generalize ": ".toList = colon
  generalize ", ".toList = comma
  simp only [List.append_assoc]

theorem StatusParts.text_eq (p : StatusParts) : p.text =
    "Battery ".toList ++ (p.index ++ (": ".toList ++ (p.state ++ (", ".toList ++
      (p.level ++ (['%'] ++ detailText p.detail)))))) := by
  have happend := p.text_append []
  rewrite [List.append_nil, List.append_nil] at happend
  exact happend

theorem statusShape?_text (p : StatusParts) : statusShape? p.text = some p.shape := by
  obtain ⟨s, hlevel, hfraction⟩ := level_append p.whole_row p.fraction_row (detailText p.detail)
  have hdetail : detail? (detailText p.detail) = some p.detail := detail?_eq_some_iff.2 ⟨rfl, p.detail_line⟩
  have hstate {r} : (p.state ++ (", ".toList ++ r)).takeWhile inState = p.state :=
    p.state_row.takeWhile_append rfl (by decide)
  have hrest {r} : (p.state ++ (", ".toList ++ r)).dropWhile inState = ", ".toList ++ r :=
    p.state_row.dropWhile_append rfl (by decide)
  rewrite [p.text_eq]
  -- one reader after the other takes off its part
  refine Option.bind_eq_some_iff.2 ⟨_, numberAfter_append _ p.index_row rfl (by decide), ?_⟩
  refine Option.bind_eq_some_iff.2 ⟨_, after?_append _ _, ?_⟩
  dsimp only
  rewrite [hstate, hrest, if_neg (by simpa using p.state_row.nonempty)]
  refine Option.bind_eq_some_iff.2 ⟨_, Option.bind_eq_some_iff.2 ⟨_, after?_append _ _, hlevel⟩, ?_⟩
  dsimp only
  rewrite [hfraction]
  exact Option.bind_eq_some_iff.2 ⟨_, Option.bind_eq_some_iff.2 ⟨_, after?_append _ _, hdetail⟩, rfl⟩

theorem exists_of_statusShape? {shape : StatusShape} (h : statusShape? s = some shape) :
    ∃ p : StatusParts, p.text = s ∧ p.shape = shape := by
  obtain ⟨⟨index, s₁⟩, hindex, hafterIndex⟩ := Option.bind_eq_some_iff.1 h
  obtain ⟨s₂, hcolon, hstate⟩ := Option.bind_eq_some_iff.1 hafterIndex
  dsimp only at hstate
  split at hstate
  · cases hstate
  · next hnonempty =>
    -- each reader that succeeds tells the part it took off
    obtain ⟨⟨whole, s₃⟩, hwhole, hafterWhole⟩ := Option.bind_eq_some_iff.1 hstate
    obtain ⟨d, hafterLevel, hshape⟩ := Option.bind_eq_some_iff.1 hafterWhole
    obtain ⟨s₄, hpercent, hdetail⟩ := Option.bind_eq_some_iff.1 hafterLevel
    obtain ⟨i, hi, rfl, hbattery⟩ := exists_of_numberAfter hindex
    obtain ⟨w, hw, rfl, hcomma⟩ := exists_of_numberAfter hwhole
    obtain ⟨f, hf, hvalues, hlevel⟩ := exists_of_fraction w (Prod.eta (fraction s₃)).symm
    obtain ⟨rfl, hline⟩ := detail?_eq_some_iff.1 hdetail
    rw [after?_eq_some_iff] at hcolon hpercent
    cases hshape
    refine ⟨⟨i, s₂.takeWhile inState, w, f, d, hi, isRow_takeWhile (by simpa using hnonempty), hw, hf, hline⟩, ?_, ?_⟩
    · rewrite [StatusParts.text_eq]
      dsimp only [StatusParts.level]
      rw [hpercent, hlevel, hcomma, List.takeWhile_append_dropWhile, hcolon, hbattery]
    · rw [StatusParts.shape, hvalues]

/-- **The status lines are the texts that are put together from the parts of one.** -/
theorem statusShape?_eq_some_iff {shape : StatusShape} :
    statusShape? s = some shape ↔ ∃ p : StatusParts, p.text = s ∧ p.shape = shape := by
  refine ⟨exists_of_statusShape?, ?_⟩
  rintro ⟨p, rfl, rfl⟩
  exact statusShape?_text p

/-! ## Capacity lines -/

structure CapacityParts where
  index : List Char
  design : List Char
  unit : List Char
  lastFull : List Char
  lastUnit : List Char
  index_row : IsRow isDigit index
  design_row : IsRow isDigit design
  unit_row : IsRow isWord unit
  lastFull_row : IsRow isDigit lastFull
  lastUnit_row : IsRow isWord lastUnit

namespace CapacityParts

variable (q : CapacityParts)

/-- The line up to its last unit. -/
def front : List Char :=
  "Battery ".toList ++ q.index ++ ": design capacity ".toList ++ q.design ++ [' '] ++ q.unit ++
    ", last full capacity ".toList ++ q.lastFull ++ [' ']

def text : List Char := q.front ++ q.lastUnit

def shape : List Nat × List Nat × List Nat := (values q.index, values q.design, values q.lastFull)

end CapacityParts

theorem CapacityParts.text_append (q : CapacityParts) (rest : List Char) : q.text ++ rest =
    "Battery ".toList ++ (q.index ++ (": design capacity ".toList ++ (q.design ++ ([' '] ++ (q.unit ++
      (", last full capacity ".toList ++ (q.lastFull ++ ([' '] ++ (q.lastUnit ++ rest))))))))) := by
  unfold CapacityParts.text CapacityParts.front
  generalize "Battery ".toList = battery
  generalize ": design capacity ".toList = designCapacity
  generalize ", last full capacity ".toList = lastFullCapacity
  simp only [List.append_assoc]

theorem capacityShape?_text (q : CapacityParts) (rest : List Char) :
    capacityShape? (q.text ++ rest) = some q.shape := by
  have hlastUnit : unit? ([' '] ++ (q.lastUnit ++ rest)) = some ((q.lastUnit ++ rest).dropWhile isWord) := by
    obtain ⟨c, t, hc⟩ := List.exists_cons_of_ne_nil q.lastUnit_row.nonempty
    have hword : isWord c = true := q.lastUnit_row.all c (hc ▸ List.mem_cons_self)
    rw [unit?_append, hc, List.cons_append, List.takeWhile_cons_of_pos hword]
    rfl
  rewrite [q.text_append]
  refine Option.bind_eq_some_iff.2 ⟨_, numberAfter_append _ q.index_row rfl (by decide), ?_⟩
  refine Option.bind_eq_some_iff.2 ⟨_, numberAfter_append _ q.design_row rfl (by decide), ?_⟩
  refine Option.bind_eq_some_iff.2 ⟨_, Option.bind_eq_some_iff.2 ⟨_,
    Option.bind_eq_some_iff.2 ⟨_, unit?_row q.unit_row rfl (by decide), after?_append _ _⟩,
    number?_append q.lastFull_row rfl (by decide)⟩, ?_⟩
  exact Option.bind_eq_some_iff.2 ⟨_, hlastUnit, rfl⟩

theorem exists_of_capacityShape? {shape : List Nat × List Nat × List Nat} (h : capacityShape? s = some shape) :
    ∃ (q : CapacityParts) (rest : List Char), q.text ++ rest = s ∧ q.shape = shape := by
  obtain ⟨⟨index, s₁⟩, hindex, hafterIndex⟩ := Option.bind_eq_some_iff.1 h
  obtain ⟨⟨design, s₂⟩, hdesign, hafterDesign⟩ := Option.bind_eq_some_iff.1 hafterIndex
  obtain ⟨⟨lastFull, s₃⟩, hlastFull, hafterLastFull⟩ := Option.bind_eq_some_iff.1 hafterDesign
  obtain ⟨rest, hlastUnit, hshape⟩ := Option.bind_eq_some_iff.1 hafterLastFull
  obtain ⟨s₄, hunit, hlastFull⟩ := Option.bind_eq_some_iff.1 ((Option.bind_assoc ..).symm.trans hlastFull)
  obtain ⟨i, hi, rfl, hbattery⟩ := exists_of_numberAfter hindex
  obtain ⟨d, hd, rfl, hcolon⟩ := exists_of_numberAfter hdesign
  obtain ⟨u, hu, hblank⟩ := exists_of_unit? hunit
  obtain ⟨f, hf, rfl, hcomma⟩ := exists_of_numberAfter hlastFull
  obtain ⟨v, hv, hlast⟩ := exists_of_unit? hlastUnit
  cases hshape
  refine ⟨⟨i, d, u, f, v, hi, hd, hu, hf, hv⟩, rest, ?_, rfl⟩
  rewrite [CapacityParts.text_append]
  dsimp only
  rw [hlast, hcomma, hblank, hcolon, hbattery]

/-- **The capacity lines are the texts that begin with one that is put together from its parts.** -/
theorem capacityShape?_eq_some_iff {shape : List Nat × List Nat × List Nat} :
    capacityShape? s = some shape ↔ ∃ (q : CapacityParts) (rest : List Char), q.text ++ rest = s ∧ q.shape = shape := by
  refine ⟨exists_of_capacityShape?, ?_⟩
  rintro ⟨q, rest, rfl, rfl⟩
  exact capacityShape?_text q rest

/-! ## Apart -/

theorem not_inState_of_isDigit (h : isDigit c = true) : inState c = false := by
  have hspace : c ≠ ' ' := by
    rintro rfl
    revert h
    decide
  rw [inState, Text.isAlpha_of_isDigit h]
  simpa using hspace

/-- **What begins with a status line does not begin with a capacity line.** -/
theorem text_apart (p : StatusParts) (q : CapacityParts) (a b : List Char) : p.text ++ a ≠ q.text ++ b := by
  intro h
  rewrite [p.text_append, q.text_append] at h
  have hrest := congrArg (fun s => after? "Battery ".toList s >>= number?) h
  rewrite [numberAfter_append _ p.index_row rfl (by decide), numberAfter_append _ q.index_row rfl (by decide)] at hrest
  have hafterIndex := (Prod.mk.inj (Option.some.inj hrest)).2
  -- behind the index, the letters of the state are followed by a comma, and the same letters by a digit
  obtain ⟨c, design, hdesign⟩ := List.exists_cons_of_ne_nil q.design_row.nonempty
  have hc : isDigit c = true := q.design_row.all c (hdesign ▸ List.mem_cons_self)
  have hwords : IsRow inState "design capacity ".toList := by decide
  have hsplit : ": design capacity ".toList = ": ".toList ++ "design capacity ".toList := rfl
  rewrite [hsplit, hdesign, List.append_assoc] at hafterIndex
  have hstate := congrArg (List.dropWhile inState) (List.append_cancel_left hafterIndex)
  rewrite [p.state_row.dropWhile_append rfl (by decide),
    hwords.dropWhile_append rfl (not_inState_of_isDigit hc)] at hstate
  have hcomma : ',' = c := (List.cons.inj hstate).1
  rw [← hcomma] at hc
  exact absurd hc (by decide)

theorem statusShape?_capacity (q : CapacityParts) (rest : List Char) : statusShape? (q.text ++ rest) = none := by
  rw [Option.eq_none_iff_forall_ne_some]
  intro shape hshape
  obtain ⟨p, hp, -⟩ := statusShape?_eq_some_iff.1 hshape
  exact text_apart p q [] rest (by rw [List.append_nil, hp])

/-! ## Meanings -/

theorem wholeNumber_values (ht : IsRow isDigit t) (hlength : t.length ≤ Numeral.digitLimit) :
    wholeNumber (values t) = .ok (Text.ofDigits (values t)) := by
  rw [wholeNumber, ht.length_values, if_neg (Nat.not_lt.2 hlength)]

/-- The directions that states name. -/
def stateNames : List (String × Direction) :=
  [("charging", .charging), ("discharging", .discharging), ("full", .full), ("not charging", .unknown),
    ("unknown", .unknown)]

theorem direction_eq_lookup (state : List Char) :
    direction state = (stateNames.lookup (String.ofList (lower (trim state)))).getD .unknown := by
  have hname : ∀ (word : List Char) (name : String), word = name.toList ↔ String.ofList word = name := by
    intro word name
    rw [← String.toList_inj, String.toList_ofList]
  unfold direction
  simp only [hname]
  generalize String.ofList (lower (trim state)) = word
  split_ifs with hcharging hdischarging hfull
  · rw [hcharging]
    rfl
  · rw [hdischarging]
    rfl
  · rw [hfull]
    rfl
  · simp only [stateNames, List.lookup_cons, beq_eq_false_iff_ne.2 hcharging, beq_eq_false_iff_ne.2 hdischarging,
      beq_eq_false_iff_ne.2 hfull]
    split
    · rfl
    · split <;> rfl

def StatusParts.meaning (p : StatusParts) : Status where
  index := Text.ofDigits (values p.index)
  state := direction p.state
  level := .ofDecimal false (Text.ofDigits (values p.whole ++ values (p.fraction.getD [])))
    (-((p.fraction.getD []).length : Int))
  text := String.ofList p.text
  detail := p.detail.map String.ofList

theorem ofTrimmed_status (p : StatusParts) (hindex : p.index.length ≤ Numeral.digitLimit) :
    ofTrimmed p.text = .ok (.status p.meaning) := by
  have hfraction : (values (p.fraction.getD [])).length = (p.fraction.getD []).length := by
    cases hf : p.fraction with
    | none => rfl
    | some f => exact (p.fraction_row f hf).length_values
  unfold ofTrimmed
  rw [statusShape?_text]
  dsimp only [StatusParts.shape]
  rw [wholeNumber_values p.index_row hindex, hfraction]
  rfl

theorem trim_status (p : StatusParts) (h : ∀ d ∈ p.detail, d ≠ [] ∧ ∀ c ∈ d.getLast?, isBlank c = false) :
    trim p.text = p.text := by
  obtain ⟨x, hx⟩ : ∃ x, p.text = x ++ ['%'] ++ detailText p.detail := ⟨_, rfl⟩
  obtain ⟨c, hc, hblank⟩ : ∃ c, p.text.getLast? = some c ∧ isBlank c = false := by
    rw [hx, List.getLast?_append]
    cases hd : p.detail with
    | none => exact ⟨'%', by simp [detailText], by decide⟩
    | some d =>
      obtain ⟨hnonempty, hlast⟩ := h d hd
      have hsome := List.getLast?_eq_some_getLast hnonempty
      refine ⟨d.getLast hnonempty, ?_, hlast _ hsome⟩
      rw [detailText, List.getLast?_append, hsome]
      rfl
  have hstart : Text.trimStart p.text = p.text := Text.trimStart_of_head? rfl (by decide)
  rw [trim, hstart, Text.trimEnd_of_getLast? hc hblank]

def CapacityParts.meaning (q : CapacityParts) : Capacity where
  index := Text.ofDigits (values q.index)
  design := Text.ofDigits (values q.design)
  lastFull := Text.ofDigits (values q.lastFull)

theorem ofTrimmed_capacity (q : CapacityParts) (rest : List Char) (hindex : q.index.length ≤ Numeral.digitLimit)
    (hdesign : q.design.length ≤ Numeral.digitLimit) (hlastFull : q.lastFull.length ≤ Numeral.digitLimit) :
    ofTrimmed (q.text ++ rest) = .ok (.capacity q.meaning) := by
  unfold ofTrimmed
  rw [statusShape?_capacity, capacityShape?_text]
  dsimp only [CapacityParts.shape]
  rw [wholeNumber_values q.index_row hindex, wholeNumber_values q.design_row hdesign,
    wholeNumber_values q.lastFull_row hlastFull]
  rfl

theorem trim_capacity (q : CapacityParts) (rest : List Char) :
    ∃ (q' : CapacityParts) (rest' : List Char), trim (q.text ++ rest) = q'.text ++ rest' ∧ q'.index = q.index ∧
      q'.design = q.design ∧ q'.lastFull = q.lastFull := by
  -- the first character of the last unit is no blank, and what stands behind it may be any text
  obtain ⟨c, unit, hunit⟩ := List.exists_cons_of_ne_nil q.lastUnit_row.nonempty
  have hword : isWord c = true := q.lastUnit_row.all c (hunit ▸ List.mem_cons_self)
  have hrow : IsRow isWord [c] := ⟨List.cons_ne_nil c [], by simpa using hword⟩
  refine ⟨{ q with lastUnit := [c], lastUnit_row := hrow }, trimEnd (unit ++ rest), ?_, rfl, rfl, rfl⟩
  have htext : q.text ++ rest = q.front ++ c :: (unit ++ rest) := by
    rw [CapacityParts.text, hunit, List.append_assoc, List.cons_append]
  have hfront : Text.trimStart q.front = q.front := Text.trimStart_of_head? rfl (by decide)
  rw [htext, Text.trim_append_cons _ (Text.not_isBlank_of_isWord hword), hfront, CapacityParts.text, List.append_assoc]
  rfl

/-- **The lines of a report round trip.**  A status line that is put together from its parts, with blanks around it, is
read back: the index and the level as the numbers that are written, the state as the direction it names, the detail, and
the line without the blanks as text; so is a capacity line, whatever follows it.  The index and the capacities must have
at most 4300 digits, and a detail is not empty and does not end in a blank.  No text is both a status line and a capacity
line, nor does any text begin with both. -/
theorem classify_parts :
    (∀ (p : StatusParts) (before after : List Char), before.all isBlank = true → after.all isBlank = true →
      p.index.length ≤ 4300 → (∀ d ∈ p.detail, d ≠ [] ∧ ∀ c ∈ d.getLast?, isBlank c = false) →
        ∃ b : Status, classify (String.ofList (before ++ p.text ++ after)) = .ok (.status b) ∧
          Numeral.int? p.index = some (b.index : Int) ∧
          b.state = (stateNames.lookup (String.ofList (lower (trim p.state)))).getD .unknown ∧
          Numeral.written.real? p.level = some b.level ∧
          b.text = String.ofList p.text ∧ b.detail = p.detail.map String.ofList) ∧
    (∀ (q : CapacityParts) (before rest : List Char), before.all isBlank = true →
      q.index.length ≤ 4300 → q.design.length ≤ 4300 → q.lastFull.length ≤ 4300 →
        ∃ c : Capacity, classify (String.ofList (before ++ (q.text ++ rest))) = .ok (.capacity c) ∧
          Numeral.int? q.index = some (c.index : Int) ∧ Numeral.int? q.design = some (c.design : Int) ∧
          Numeral.int? q.lastFull = some (c.lastFull : Int)) ∧
    (∀ s, statusShape? s = none ∨ capacityShape? s = none) ∧
    ∀ (p : StatusParts) (q : CapacityParts) (a b : List Char), p.text ++ a ≠ q.text ++ b := by
  refine ⟨fun p before after hbefore hafter hindex hdetail => ?_, fun q before rest hbefore hi hd hf => ?_, fun s => ?_,
    text_apart⟩
  · refine ⟨p.meaning, ?_, Numeral.int?_of_row p.index_row hindex, direction_eq_lookup p.state,
      Numeral.real?_decimal p.whole_row p.fraction_row, rfl, rfl⟩
    rw [classify, String.toList_ofList, Text.trim_padded hbefore _ hafter, trim_status p hdetail,
      ofTrimmed_status p hindex]
  · obtain ⟨q', rest', htrim, hindex, hdesign, hlastFull⟩ := trim_capacity q rest
    have hpadded : trim (before ++ (q.text ++ rest)) = trim (q.text ++ rest) := by
      rw [← Text.trim_padded hbefore (q.text ++ rest) (b := []) rfl, List.append_nil]
    refine ⟨q.meaning, ?_, Numeral.int?_of_row q.index_row hi, Numeral.int?_of_row q.design_row hd,
      Numeral.int?_of_row q.lastFull_row hf⟩
    rw [classify, String.toList_ofList, hpadded, htrim, ofTrimmed_capacity q' rest' (by rwa [hindex]) (by rwa [hdesign])
      (by rwa [hlastFull]), CapacityParts.meaning, hindex, hdesign, hlastFull]
    rfl
  · cases hcapacity : capacityShape? s with
    | none => exact .inr rfl
    | some shape =>
      obtain ⟨q, rest, rfl, -⟩ := capacityShape?_eq_some_iff.1 hcapacity
      exact .inl (statusShape?_capacity q rest)

/-- A status line in digits of two scripts with blanks around it, whose detail looks like the end of a status line, and
a capacity line with more text behind it. -/
theorem classify_parts_scripts :
    let p : StatusParts := ⟨['٣'], " DisCharging ".toList, ['٨', '5'], some ['٠'], some "5%, Full".toList,
      by decide, by decide, by decide, by decide, by decide⟩
    let q : CapacityParts := ⟨['7'], ['9', '०'], ['Ω', 'h'], ['8'], ['µ', 'W', 'h'],
      by decide, by decide, by decide, by decide, by decide⟩
    (∃ b : Status, classify (String.ofList ("\t ".toList ++ p.text ++ "\n".toList)) = .ok (.status b) ∧
      b.index = 3 ∧ b.state = .discharging ∧ b.detail = some (String.ofList "5%, Full".toList)) ∧
    ∃ c : Capacity, classify (String.ofList ("".toList ++ (q.text ++ " = 88%\n".toList))) = .ok (.capacity c) ∧
      c.index = 7 ∧ c.design = 90 ∧ c.lastFull = 8 := by
  intro p q
  obtain ⟨hstatus, hcapacity, -, -⟩ := classify_parts
  constructor
  · have hlast : ∀ d ∈ p.detail, d ≠ [] ∧ ∀ c ∈ d.getLast?, isBlank c = false := by
      rintro _ ⟨⟩
      refine ⟨by decide, ?_⟩
      rintro _ ⟨⟩
      decide
    obtain ⟨b, hb, hindex, hstate, -, -, hdetail⟩ := hstatus p "\t ".toList "\n".toList (by decide +kernel)
      (by decide +kernel) (by decide +kernel) hlast
    have hthree : Numeral.int? p.index = some 3 := by decide +kernel
    rw [hthree] at hindex
    refine ⟨b, hb, ?_, hstate.trans (by decide +kernel), hdetail⟩
    have := Option.some.inj hindex
    omega
  · obtain ⟨c, hc, hindex, hdesign, hlastFull⟩ := hcapacity q "".toList " = 88%\n".toList (by decide +kernel)
      (by decide +kernel) (by decide +kernel) (by decide +kernel)
    have hseven : Numeral.int? q.index = some 7 := by decide +kernel
    have hninety : Numeral.int? q.design = some 90 := by decide +kernel
    have height : Numeral.int? q.lastFull = some 8 := by decide +kernel
    rw [hseven] at hindex
    rw [hninety] at hdesign
    rw [height] at hlastFull
    have h₁ := Option.some.inj hindex
    have h₂ := Option.some.inj hdesign
    have h₃ := Option.some.inj hlastFull
    exact ⟨c, hc, by omega, by omega, by omega⟩

end Line
end Report
end BatteryIndicator
