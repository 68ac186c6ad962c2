import BatteryIndicator.Proofs.Theme.Append
/-!
# Deletion — the lines that a theme file can do without

Blank lines and comments do nothing, and a line without sense is reported and does nothing else (`step_senseless`); any
other line reports no line.  What a line does depends on the open block alone, so the lines that were reported can be
deleted, together with blank lines and comments: the others are read as before, under new numbers
(`readLines_kept`).
-/
namespace BatteryIndicator

/-- The number of the line that a problem reports. -/
def Problem.number? : Problem → Option Nat
  | .entry _ => none
  | .line l => some l.number

namespace Theme
namespace File

/-! ## Lines without effect -/

def isSilent (text : String) : Bool :=
  match Line.classify text with
  | .blank | .comment _ => true
  | _ => false

/-- The keys that mean something in a block. -/
def knownKeys : List String := ["steps", "dir", "charging", "discharging"]

/-- A line without sense; `opened` says whether it stands in a block or before the first header. -/
inductive Senseless (opened : Bool) (text : String) : Prop where
  | unrecognized {trimmed : String} (h : Line.classify text = .unrecognized trimmed)
  | outside {key value : String} (h : Line.classify text = .pair key value) (hopened : opened = false)
  | unknownKey {key value : String} (h : Line.classify text = .pair key value) (hkey : key ∉ knownKeys)
  | count {value : String} (h : Line.classify text = .pair "steps" value)
      (hvalue : ∀ n, Numeral.int? value.toList = some n → n ≤ 0)

variable (origin : Origin) {text : String} (complete : List (String × Theme Step)) {open? : Option (String × Theme Step)}
  {t : Theme Step} {key value : String}

theorem isSilent_iff : isSilent text = true ↔ Line.classify text = .blank ∨ ∃ c, Line.classify text = .comment c := by
  unfold isSilent
  cases Line.classify text <;> simp

theorem step_silent (h : isSilent text = true) (n : Nat) (p : Progress) : step origin n text p = .ok p := by
  unfold step
  rcases isSilent_iff.1 h with hblank | ⟨c, hcomment⟩
  · rw [hblank]
  · rw [hcomment]

/-- A key and a value are ignored in a block if the key is unknown, or if it is a count that is no positive number. -/
theorem apply_ignored_iff : (∃ fault, t.apply key value = .ignored fault) ↔
    key ∉ knownKeys ∨ key = "steps" ∧ ∀ n, Numeral.int? value.toList = some n → n ≤ 0 := by
  have hdefine : ∀ d, ¬∃ fault, t.defineSteps d value = .ignored fault := by
    rintro d ⟨fault, h⟩
    unfold defineSteps at h
    split at h
    · cases h
    · split at h <;> cases h
  unfold apply
  by_cases hsteps : key = "steps"
  · subst hsteps
    unfold declareCount setStepCount
    cases Numeral.int? value.toList with
    | none => simp [knownKeys]
    | some n => by_cases hn : n ≤ 0 <;> simp [knownKeys, hn]
  by_cases hdir : key = "dir"
  · simp [hdir, knownKeys]
  by_cases hcharging : key = "charging"
  · simp [hcharging, knownKeys, hdefine]
  by_cases hdischarging : key = "discharging"
  · simp [hdischarging, knownKeys, hdefine]
  · simp [hsteps, hdir, hcharging, hdischarging, knownKeys]

/-- **A line without sense is reported, and does nothing else.** -/
theorem step_senseless (h : Senseless open?.isSome text) : ∃ trimmed fault, ∀ n ps,
    step origin n text ⟨complete, open?, ps⟩ =
      .ok ⟨complete, open?, ps ++ [.line ⟨n, trimmed, fault, origin.source⟩]⟩ := by
  have hinside : ∀ {key value}, Line.classify text = .pair key value →
      (∀ t : Theme Step, ∃ fault, t.apply key value = .ignored fault) → ∃ trimmed fault, ∀ n ps,
        step origin n text ⟨complete, open?, ps⟩ =
          .ok ⟨complete, open?, ps ++ [.line ⟨n, trimmed, fault, origin.source⟩]⟩ := by
    intro key value hline hignored
    refine ⟨String.ofList (Text.trim text.toList), ?_⟩
    cases open? with
    | none => exact ⟨.outsideBlock, fun n ps => by simp only [step, hline]; rfl⟩
    | some b =>
      obtain ⟨fault, hfault⟩ := hignored b.2
      exact ⟨fault, fun n ps => by simp only [step, hline, hfault]; rfl⟩
  cases h with
  | unrecognized hline => exact ⟨_, .unrecognized, fun n ps => by simp only [step, hline]; rfl⟩
  | outside hline hopened =>
    obtain rfl : open? = none := Option.isSome_eq_false_iff.1 hopened |> Option.isNone_iff_eq_none.1
    exact ⟨_, .outsideBlock, fun n ps => by simp only [step, hline]; rfl⟩
  | unknownKey hline hkey => exact hinside hline fun t => apply_ignored_iff.2 (.inl hkey)
  | count hline hvalue => exact hinside hline fun t => apply_ignored_iff.2 (.inr ⟨rfl, hvalue⟩)

/-- **Any other line reports no line**, and what it does has nothing to do with its number and the problems before it. -/
theorem step_sensible (h : ¬Senseless open?.isSome text) : ∃ dropped : List DroppedEntry,
    (∃ complete' open?', (open?'.isSome = (open?.isSome || (header? text).isSome)) ∧ ∀ n ps,
      step origin n text ⟨complete, open?, ps⟩ = .ok ⟨complete', open?', ps ++ dropped.map .entry⟩) ∨
    ∃ f, ∀ n ps, step origin n text ⟨complete, open?, ps⟩ = .error (f, ⟨complete, open?, ps ++ dropped.map .entry⟩) := by
  cases hline : Line.classify text with
  | blank => exact ⟨[], .inl ⟨complete, open?, by simp [header?, hline], by simp [step, hline]⟩⟩
  | comment c => exact ⟨[], .inl ⟨complete, open?, by simp [header?, hline], by simp [step, hline]⟩⟩
  | header name =>
    exact ⟨[], .inl ⟨complete ++ open?.toList, some (name, .new origin.directory), by simp [header?, hline],
      by simp [step, hline, Progress.enter, Progress.close]⟩⟩
  | unrecognized trimmed => exact absurd (.unrecognized hline) h
  | pair key value =>
    cases open? with
    | none => exact absurd (.outside hline rfl) h
    | some b =>
      obtain ⟨name, t⟩ := b
      cases happly : t.apply key value with
      | made t' dropped =>
        exact ⟨dropped, .inl ⟨complete, some (name, t'), by simp,
          fun n ps => by simp only [step, hline, happly]; rfl⟩⟩
      | refused f dropped =>
        exact ⟨dropped, .inr ⟨f, fun n ps => by simp only [step, hline, happly]; rfl⟩⟩
      | ignored fault =>
        rcases apply_ignored_iff.1 ⟨fault, happly⟩ with hkey | ⟨rfl, hvalue⟩
        · exact absurd (.unknownKey hline hkey) h
        · exact absurd (.count hline hvalue) h

/-! ## Lines that are gone over -/

/-- The lines that a reading goes over: all of them, or those up to the one that ends it. -/
def reached : Nat → List String → Progress → List String
  | _, [], _ => []
  | n, l :: ls, p =>
    l :: match step origin n l p with
      | .ok p => reached (n + 1) ls p
      | .error _ => []

theorem reached_initial : ∀ (lines : List String) (n : Nat) (p : Progress), reached origin n lines p <+: lines
  | [], _, _ => List.nil_prefix
  | l :: ls, n, p => by
    rw [reached]
    cases step origin n l p with
    | ok q => exact List.prefix_cons_inj l |>.2 (reached_initial ls (n + 1) q)
    | error e => exact List.prefix_cons_inj l |>.2 List.nil_prefix

theorem reached_of_ok {last : Option String} : ∀ {lines : List String} {n : Nat} {p : Progress},
    (readFrom origin finish n lines p).result = .ok last → reached origin n lines p = lines
  | [], _, _, _ => rfl
  | l :: ls, n, p, h => by
    rw [readFrom] at h
    rw [reached]
    cases hl : step origin n l p with
    | ok q => rw [hl] at h; exact congrArg (l :: ·) (reached_of_ok h)
    | error e => rw [hl] at h; cases h

/-- The line that ends a reading is the last one that it goes over. -/
theorem reached_of_error {f : Failure} : ∀ {lines : List String} {n : Nat} {p : Progress},
    (readFrom origin finish n lines p).result = .error f →
      ∃ early line, reached origin n lines p = early ++ [line] ∧
        (∃ last, (readFrom origin finish n early p).result = .ok last) ∧
        (readFrom origin finish n (early ++ [line]) p).result = .error f
  | [], _, _, h => by cases h
  | l :: ls, n, p, h => by
    rw [readFrom] at h
    rw [reached]
    cases hl : step origin n l p with
    | ok q =>
      rw [hl] at h
      obtain ⟨early, line, hreached, ⟨last, hearly⟩, hline⟩ := reached_of_error h
      refine ⟨l :: early, line, congrArg (l :: ·) hreached, ⟨last, ?_⟩, ?_⟩
      · rw [readFrom, hl]; exact hearly
      · rw [List.cons_append, readFrom, hl]; exact hline
    | error e =>
      rw [hl] at h
      exact ⟨[], l, rfl, ⟨_, rfl⟩, by rw [List.nil_append, readFrom, hl]; exact h⟩

/-! ## Lines that are reported -/

def opens (lines : List String) : Bool := lines.any fun l => (header? l).isSome

theorem opens_cons (l : String) (ls : List String) : opens (l :: ls) = ((header? l).isSome || opens ls) := List.any_cons

def reported (problems : List Problem) : List Nat := problems.filterMap Problem.number?

theorem reported_dropped (dropped : List DroppedEntry) : reported (dropped.map .entry) = [] := by
  simp [reported, List.filterMap_eq_nil_iff, Problem.number?]

theorem reported_append (early late : List Problem) : reported (early ++ late) = reported early ++ reported late :=
  List.filterMap_append

theorem header?_of_senseless {opened : Bool} (h : Senseless opened text) : header? text = none := by
  unfold header?
  cases h with
  | unrecognized h | outside h _ | unknownKey h _ | count h _ => rw [h]

theorem exists_split_cons {l : String} {ls : List String} {P : List String → String → Prop} :
    (∃ before text after, l :: ls = before ++ text :: after ∧ P before text) ↔
      P [] l ∨ ∃ before text after, ls = before ++ text :: after ∧ P (l :: before) text := by
  constructor
  · rintro ⟨before, text, after, h, hP⟩
    cases before with
    | nil => cases h; exact .inl hP
    | cons x before => cases h; exact .inr ⟨before, text, after, rfl, hP⟩
  · rintro (hP | ⟨before, text, after, rfl, hP⟩)
    · exact ⟨[], l, ls, rfl, hP⟩
    · exact ⟨l :: before, text, after, rfl, hP⟩

/-- The numbers, from `n` on, of the lines without sense among lines; `opened` says whether they start in a block. -/
structure Reports (opened : Bool) (n : Nat) (lines : List String) (numbers : List Nat) : Prop where
  increasing : numbers.Pairwise (· < ·)
  mem_iff (k : Nat) : k ∈ numbers ↔ ∃ before text after, lines = before ++ text :: after ∧
    k = n + before.length ∧ Senseless (opened || opens before) text

theorem Reports.nil (opened : Bool) (n : Nat) : Reports opened n [] [] := ⟨.nil, by simp⟩

theorem Reports.cons {opened : Bool} {n : Nat} {l : String} {ls : List String} {numbers : List Nat}
    (h : Reports (opened || (header? l).isSome) (n + 1) ls numbers) {own : List Nat}
    (hown : own = [n] ∧ Senseless opened l ∨ own = [] ∧ ¬Senseless opened l) :
    Reports opened n (l :: ls) (own ++ numbers) := by
  have hlater : ∀ k ∈ numbers, n < k := by
    intro k hk
    obtain ⟨before, _, _, _, rfl, _⟩ := (h.mem_iff k).1 hk
    omega
  constructor
  case increasing =>
    rcases hown with ⟨rfl, -⟩ | ⟨rfl, -⟩
    · exact List.pairwise_cons.2 ⟨hlater, h.increasing⟩
    · exact h.increasing
  case mem_iff =>
    intro k
    have hfirst : k ∈ own ↔ k = n + ([] : List String).length ∧ Senseless (opened || opens []) l := by
      have hopened : (opened || opens []) = opened := Bool.or_false opened
      rw [hopened, List.length_nil, Nat.add_zero]
      rcases hown with ⟨rfl, hl⟩ | ⟨rfl, hl⟩ <;> simp [hl]
    rw [exists_split_cons (P := fun before text => k = n + before.length ∧ Senseless (opened || opens before) text),
      List.mem_append, hfirst, h.mem_iff]
    refine or_congr_right (exists_congr fun before => exists_congr fun text => exists_congr fun after => ?_)
    have hlength : n + (l :: before).length = n + 1 + before.length := by
      rw [List.length_cons]
      omega
    rw [hlength, opens_cons, Bool.or_assoc]

/-- **The lines that are reported are the lines without sense** among those that are gone over, in their order. -/
theorem readFrom_reported : ∀ (lines : List String) (n : Nat) (complete : List (String × Theme Step))
    (open? : Option (String × Theme Step)) (ps : List Problem),
    ∃ noted, (readFrom origin finish n lines ⟨complete, open?, ps⟩).problems = ps ++ noted ∧
      Reports open?.isSome n (reached origin n lines ⟨complete, open?, ps⟩) (reported noted)
  | [], n, complete, open?, ps => ⟨[], (List.append_nil ps).symm, .nil _ _⟩
  | l :: ls, n, complete, open?, ps => by
    rw [readFrom, reached]
    by_cases hl : Senseless open?.isSome l
    · obtain ⟨trimmed, fault, hstep⟩ := step_senseless origin complete hl
      rw [hstep]
      obtain ⟨noted, hnoted, hreports⟩ := readFrom_reported ls (n + 1) complete open?
        (ps ++ [.line ⟨n, trimmed, fault, origin.source⟩])
      refine ⟨[.line ⟨n, trimmed, fault, origin.source⟩] ++ noted, by rw [← List.append_assoc]; exact hnoted, ?_⟩
      rw [reported_append]
      exact Reports.cons (by rw [header?_of_senseless hl]; simpa using hreports) (.inl ⟨rfl, hl⟩)
    · obtain ⟨dropped, ⟨complete', open?', hopen, hstep⟩ | ⟨f, hstep⟩⟩ :=
        step_sensible origin complete hl
      · rw [hstep]
        obtain ⟨noted, hnoted, hreports⟩ := readFrom_reported ls (n + 1) complete' open?' (ps ++ dropped.map .entry)
        refine ⟨dropped.map .entry ++ noted, by rw [← List.append_assoc]; exact hnoted, ?_⟩
        rw [reported_append]
        exact Reports.cons (hopen ▸ hreports) (.inr ⟨reported_dropped dropped, hl⟩)
      · rw [hstep]
        refine ⟨dropped.map .entry ++ [], by rw [List.append_nil]; rfl, ?_⟩
        rw [reported_append]
        exact Reports.cons (.nil _ _) (.inr ⟨reported_dropped dropped, hl⟩)

/-! ## Lines that are deleted -/

variable (keep : Nat → Bool)

/-- The lines that stay of lines that are numbered from `n` on: those whose number is kept. -/
def kept (n : Nat) (lines : List String) : List String := ((lines.zipIdx n).filter fun l => keep l.2).map Prod.fst

/-- How many of the first `n` lines stay: the new number of a line that stays. -/
def place (n : Nat) : Nat := (List.range' 1 n).countP keep

/-- A problem after the deletion: that with a line that stays has the line's new number. -/
def renumber? : Problem → Option Problem
  | .entry e => some (.entry e)
  | .line l => if keep l.number then some (.line { l with number := place keep l.number }) else none

theorem place_succ (n : Nat) : place keep (n + 1) = place keep n + if keep (n + 1) then 1 else 0 := by
  rw [place, List.range'_1_concat, List.countP_append, List.countP_singleton, Nat.add_comm 1 n]
  rfl

theorem kept_cons (n : Nat) (l : String) (ls : List String) :
    kept keep n (l :: ls) = if keep n then l :: kept keep (n + 1) ls else kept keep (n + 1) ls := by
  rw [kept, List.zipIdx_cons, List.filter_cons]
  split <;> rfl

theorem renumber?_dropped (dropped : List DroppedEntry) :
    (dropped.map Problem.entry).filterMap (renumber? keep) = dropped.map .entry := by
  induction dropped with
  | nil => rfl
  | cons e es ih => exact congrArg (.entry e :: ·) ih

/-- A reading without the deleted lines, beside that of the whole: after problems `ps` and `qs` that were noted before,
both come to the same themes and the same result, and the problems that are added differ as the deletion says. -/
structure Shortened (ps qs : List Problem) (whole rest : Reading) : Prop where
  themes : rest.themes = whole.themes
  result : rest.result = whole.result
  problems : ∃ noted, whole.problems = ps ++ noted ∧ rest.problems = qs ++ noted.filterMap (renumber? keep)

theorem Shortened.more {ps qs own own' : List Problem} {whole rest : Reading}
    (h : Shortened keep (ps ++ own) (qs ++ own') whole rest) (hown : own.filterMap (renumber? keep) = own') :
    Shortened keep ps qs whole rest := by
  obtain ⟨noted, hwhole, hrest⟩ := h.problems
  refine ⟨h.themes, h.result, own ++ noted, by rw [hwhole, List.append_assoc], ?_⟩
  rw [hrest, List.filterMap_append, hown, List.append_assoc]

/-- **Lines without effect can be deleted**: the others come to the same, and so do their problems. -/
theorem readFrom_kept : ∀ (lines : List String) (n : Nat) (complete : List (String × Theme Step))
    (open? : Option (String × Theme Step)) (ps qs : List Problem),
    (∀ before text after, lines = before ++ text :: after → keep (n + 1 + before.length) = false →
      isSilent text = true ∨ Senseless (open?.isSome || opens before) text) →
    Shortened keep ps qs (readFrom origin finish (n + 1) lines ⟨complete, open?, ps⟩)
      (readFrom origin finish (place keep n + 1) (kept keep (n + 1) lines) ⟨complete, open?, qs⟩)
  | [], n, complete, open?, ps, qs, _ =>
    ⟨rfl, rfl, [], (List.append_nil ps).symm, (List.append_nil qs).symm⟩
  | l :: ls, n, complete, open?, ps, qs, h => by
    have hlater : ∀ opened, opened = (open?.isSome || (header? l).isSome) → ∀ before text after,
        ls = before ++ text :: after → keep (n + 1 + 1 + before.length) = false →
          isSilent text = true ∨ Senseless (opened || opens before) text := by
      rintro opened rfl before text after rfl hdeleted
      rw [Bool.or_assoc, ← opens_cons]
      exact h (l :: before) text after rfl (by rw [List.length_cons, ← hdeleted]; congr 1; omega)
    rw [kept_cons, readFrom]
    by_cases hkeep : keep (n + 1) = true
    · -- the line stays, and is read under its new number
      have hplace : place keep (n + 1) = place keep n + 1 := by rw [place_succ, if_pos hkeep]
      rw [if_pos hkeep, readFrom]
      by_cases hl : Senseless open?.isSome l
      · -- it is reported both times, under its number and under the new one
        obtain ⟨trimmed, fault, hstep⟩ := step_senseless origin complete hl
        rw [hstep, hstep, ← hplace]
        exact (readFrom_kept ls (n + 1) complete open? _ _ (hlater _ (by simp [header?_of_senseless hl]))).more keep
          (by simp [renumber?, hkeep])
      · obtain ⟨dropped, ⟨complete', open?', hopen, hstep⟩ | ⟨f, hstep⟩⟩ :=
          step_sensible origin complete hl
        · rw [hstep, hstep, ← hplace]
          exact (readFrom_kept ls (n + 1) complete' open?' _ _ (hlater _ hopen)).more keep (renumber?_dropped keep dropped)
        · rw [hstep, hstep]
          exact ⟨rfl, rfl, dropped.map .entry, rfl, congrArg (qs ++ ·) (renumber?_dropped keep dropped).symm⟩
    · -- the line is deleted, and what it did is at most a report
      have hplace : place keep (n + 1) = place keep n := by simp [place_succ, hkeep]
      rw [if_neg hkeep]
      rcases h [] l ls rfl (by simpa using hkeep) with hsilent | hl
      · have hheader : header? l = none := by
          rcases isSilent_iff.1 hsilent with hline | ⟨c, hline⟩ <;> rw [header?, hline]
        rw [step_silent origin hsilent, ← hplace]
        exact readFrom_kept ls (n + 1) complete open? ps qs (hlater _ (by simp [hheader]))
      · have hopened : (open?.isSome || opens []) = open?.isSome := Bool.or_false _
        rw [hopened] at hl
        obtain ⟨trimmed, fault, hstep⟩ := step_senseless origin complete hl
        have hrest := readFrom_kept ls (n + 1) complete open? (ps ++ [.line ⟨n + 1, trimmed, fault, origin.source⟩])
          qs (hlater _ (by simp [header?_of_senseless hl]))
        rw [hplace, ← List.append_nil qs] at hrest
        rw [hstep]
        simpa using hrest.more keep (by simp [renumber?, hkeep])

/-! ## A reader of theme files -/

namespace Reader

variable {ρ : Type} [ThemeStore ρ]

/-- **Lines that are reported or ignored have no effect.**  Reading goes over all lines, or, if it fails, over those up
to the one at which it fails.  Among these it reports the lines without sense, each once and in their order: those that
are unrecognized, those that set something before the first header, those with an unknown key, and counts that are no
positive number.  If blank lines, comments and reported lines are deleted, any of them, then reading gives the same name
or the same failure, leaves the same store and notes the same problems with the lines that stay, which have new
numbers. -/
theorem readLines_kept (r : Reader ρ) (source : String) (lines : List String) :
    let whole := r.readLines source lines
    ∃ noted, whole.2.problems = r.problems ++ noted ∧
      (∃ processed unread, lines = processed ++ unread ∧
        (∀ last, whole.1 = .ok last → unread = []) ∧
        (∀ f, whole.1 = .error f → ∃ early line, processed = early ++ [line] ∧
          (∃ last, (r.readLines source early).1 = .ok last) ∧ (r.readLines source processed).1 = .error f) ∧
        (reported noted).Pairwise (· < ·) ∧
        ∀ number, number ∈ reported noted ↔ ∃ before text after, processed = before ++ text :: after ∧
          number = before.length + 1 ∧ Senseless (opens before) text) ∧
      ∀ keep : Nat → Bool,
        (∀ l ∈ lines.zipIdx 1, keep l.2 = false → isSilent l.1 = true ∨ l.2 ∈ reported noted) →
        let rest := r.readLines source (kept keep 1 lines)
        rest.1 = whole.1 ∧ rest.2.store = whole.2.store ∧
          rest.2.problems = r.problems ++ noted.filterMap (renumber? keep) := by
  intro whole
  obtain ⟨noted, hnoted, hreports⟩ := readFrom_reported ⟨source, r.directory⟩ lines 1 [] none []
  obtain ⟨unread, hunread⟩ := reached_initial ⟨source, r.directory⟩ lines 1 ⟨[], none, []⟩
  refine ⟨noted, congrArg (r.problems ++ ·) hnoted, ?_, ?_⟩
  · refine ⟨_, unread, hunread.symm, fun last hlast => ?_, fun f hf => ?_, hreports.increasing, fun number => ?_⟩
    · have hall := reached_of_ok _ (p := ⟨[], none, []⟩) hlast
      rw [hall] at hunread
      simpa using hunread
    · obtain ⟨early, line, hreached, hearly, hline⟩ := reached_of_error _ (p := ⟨[], none, []⟩) hf
      exact ⟨early, line, hreached, hearly, hreached ▸ hline⟩
    · rw [hreports.mem_iff]
      simp only [Nat.add_comm 1, Option.isSome_none, Bool.false_or]
  · intro keep hkeep rest
    have hdeleted : ∀ before text after, lines = before ++ text :: after → keep (0 + 1 + before.length) = false →
        isSilent text = true ∨ Senseless ((none : Option (String × Theme Step)).isSome || opens before) text := by
      rintro before text after hlines hdeleted
      have hmem : (text, 1 + before.length) ∈ lines.zipIdx 1 := by
        rw [hlines, List.zipIdx_append]
        simp
      refine (hkeep _ hmem (by simpa using hdeleted)).imp_right fun hreported => ?_
      obtain ⟨before', text', after', hprocessed, hnumber, hsenseless⟩ := (hreports.mem_iff _).1 hreported
      have hboth : before' ++ text' :: (after' ++ unread) = before ++ text :: after := by
        rw [← hlines, ← hunread, hprocessed, List.append_assoc, List.cons_append]
      obtain ⟨rfl, htext⟩ := List.append_inj hboth (by omega)
      cases htext
      exact hsenseless
    obtain ⟨hthemes, hresult, noted', hwhole, hrest⟩ :=
      readFrom_kept ⟨source, r.directory⟩ keep lines 0 [] none [] [] hdeleted
    obtain rfl : noted' = noted := hwhole.symm.trans hnoted
    refine ⟨hresult, ?_, congrArg (r.problems ++ ·) hrest⟩
    show ThemeStore.adoptAll _ r.store = ThemeStore.adoptAll _ r.store
    exact congrArg (ThemeStore.adoptAll · r.store) hthemes

/-- A file with every kind of line without sense, which fails at a step set with a bad entry; some of the lines that do
nothing are deleted, before the first header, within a block and behind the failure. -/
theorem readLines_kept_spoilt :
    let r : Reader (Registry (Theme Step)) := ⟨.ofString "icons", .empty, []⟩
    let lines := ["stray", "dir = x", "[a]", "# note", "steps = 0", "colour = red", "steps = 1", "charging = 100:x.png",
      "[b]", "charging = none", "", "stray"]
    let keep : Nat → Bool := fun n => decide (n ∉ [1, 4, 5, 11])
    let whole := r.readLines "themes" lines
    let rest := r.readLines "themes" (kept keep 1 lines)
    reported whole.2.problems = [1, 2, 5, 6] ∧ (∃ f, whole.1 = .error f) ∧
      (∃ early line unread, lines = early ++ [line] ++ unread ∧ ∃ last, (r.readLines "themes" early).1 = .ok last) ∧
      (∀ l ∈ lines.zipIdx 1, keep l.2 = false → isSilent l.1 = true ∨ l.2 ∈ reported whole.2.problems) ∧
      rest.1 = whole.1 ∧ rest.2.store = whole.2.store ∧
      rest.2.problems = whole.2.problems.filterMap (renumber? keep) ∧ reported rest.2.problems = [1, 3] := by
  intro r lines keep whole rest
  have hreported : reported whole.2.problems = [1, 2, 5, 6] := by decide +kernel
  have hkeep : ∀ l ∈ lines.zipIdx 1, keep l.2 = false → isSilent l.1 = true ∨ l.2 ∈ reported whole.2.problems := by
    rw [hreported]
    decide +kernel
  obtain ⟨f, hf⟩ : ∃ f, whole.1 = .error f := by
    have herror : ∀ {x : Except Failure (Option String)}, x.toOption = none → ∃ f, x = .error f := by
      intro x h
      cases x with
      | error f => exact ⟨f, rfl⟩
      | ok name => cases h
    exact herror (by decide +kernel)
  obtain ⟨noted, hnoted, ⟨processed, unread, hlines, -, hfails, -, -⟩, hkept⟩ := readLines_kept r "themes" lines
  obtain rfl : whole.2.problems = noted := hnoted
  obtain ⟨early, line, rfl, hearly, -⟩ := hfails f hf
  obtain ⟨hresult, hstore, hproblems⟩ := hkept keep hkeep
  exact ⟨hreported, ⟨f, hf⟩, ⟨early, line, unread, hlines, hearly⟩, hkeep, hresult, hstore,
    hproblems.trans (List.nil_append _), by decide +kernel⟩

end Reader

end File
end Theme
end BatteryIndicator
