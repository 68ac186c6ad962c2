import BatteryIndicator.Proofs.Theme.Blocks
import BatteryIndicator.Theme.Store
/-!
# Append — theme files read one after the other

A line is read in view of the open block alone: themes that are complete and problems that are noted are carried along,
and the number of a line goes into its problem and nowhere else (`step_carry`).  So from a header on, lines come to the
same whatever was read before it (`readFrom_carry`), and it makes no difference whether a row of lines is read at once or
in two parts, if the second part sets nothing before its first header (`readLines_append`).
-/
namespace BatteryIndicator

/-- The problem as it is noted a number of lines later. -/
def Problem.later (k : Nat) : Problem → Problem
  | .entry e => .entry e
  | .line l => .line { l with number := k + l.number }

namespace Theme
namespace File

/-- A line that sets something in the block it stands in. -/
def setsKey (text : String) : Bool :=
  match Line.classify text with
  | .pair _ _ => true
  | _ => false

variable (origin : Origin) (complete : List (String × Theme Step)) (noted : List Problem) (k : Nat)

/-! ## What is carried along -/

/-- The progress a number of lines later, after themes that are complete and problems that are noted. -/
def Progress.carry (p : Progress) : Progress :=
  ⟨complete ++ p.complete, p.open?, noted ++ p.problems.map (Problem.later k)⟩

def Reading.carry (r : Reading) : Reading := ⟨complete ++ r.themes, noted ++ r.problems.map (Problem.later k), r.result⟩

theorem carry_note (ps : List Problem) (p : Progress) :
    (p.note ps).carry complete noted k = (p.carry complete noted k).note (ps.map (Problem.later k)) := by
  simp [Progress.carry, Progress.note]

theorem carry_enter (name : String) (directory : Path) (p : Progress) :
    (p.enter name directory).carry complete noted k = (p.carry complete noted k).enter name directory := by
  simp [Progress.carry, Progress.enter, Progress.close]

/-- **A line sees the open block and nothing else** of what was read before it. -/
theorem step_carry (n : Nat) (text : String) (p : Progress) :
    step origin (k + n) text (p.carry complete noted k) =
      match step origin n text p with
      | .ok q => .ok (q.carry complete noted k)
      | .error (f, q) => .error (f, q.carry complete noted k) := by
  have hopen : (p.carry complete noted k).open? = p.open? := rfl
  have hentries : ∀ dropped : List DroppedEntry,
      (dropped.map Problem.entry).map (Problem.later k) = dropped.map Problem.entry := by
    intro dropped
    simp [Problem.later]
  unfold step
  rw [hopen]
  cases Line.classify text with
  | blank => rfl
  | comment => rfl
  | header name => simp only [carry_enter]
  | unrecognized => simp [carry_note, Problem.later]
  | pair key value =>
    cases p.open? with
    | none => simp [carry_note, Problem.later]
    | some b =>
      obtain ⟨name, t⟩ := b
      dsimp only
      cases t.apply key value with
      | made t dropped =>
        have hnote := carry_note complete noted k (dropped.map .entry) p
        rw [hentries] at hnote
        simp only [← hnote]
        rfl
      | ignored fault => simp [carry_note, Problem.later]
      | refused f dropped =>
        have hnote := carry_note complete noted k (dropped.map .entry) p
        rw [hentries] at hnote
        simp only [← hnote]

theorem readFrom_carry : ∀ (lines : List String) (n : Nat) (p : Progress),
    readFrom origin finish (k + n) lines (p.carry complete noted k) =
      (readFrom origin finish n lines p).carry complete noted k
  | [], n, p => by simp [readFrom, finish, Progress.close, Progress.carry, Reading.carry]
  | l :: ls, n, p => by
    rw [readFrom, readFrom, step_carry]
    cases step origin n l p with
    | ok q => exact readFrom_carry ls (n + 1) q
    | error e => rfl

/-! ## Lines before the first header -/

/-- What comes to be read a number of lines after a progress, which may have left a block open. -/
def Reading.after (p : Progress) (r : Reading) : Reading :=
  { r.carry p.close.complete p.problems k with result := r.result.map fun last => last.or (p.open?.map Prod.fst) }

theorem note_note (ps qs : List Problem) (p : Progress) : (p.note ps).note qs = p.note (ps ++ qs) := by
  simp [Progress.note]

/-- A line that opens no block and sets nothing is at most a problem, whatever was read before it. -/
theorem step_unset {text : String} (hheader : header? text = none) (hsets : setsKey text = false) (n : Nat) :
    ∃ ps, (∀ p, step origin n text p = .ok (p.note ps)) ∧
      ∀ p, step origin (k + n) text p = .ok (p.note (ps.map (Problem.later k))) := by
  unfold header? at hheader
  unfold setsKey at hsets
  unfold step
  cases hline : Line.classify text with
  | blank => exact ⟨[], by simp [Progress.note], by simp [Progress.note]⟩
  | comment => exact ⟨[], by simp [Progress.note], by simp [Progress.note]⟩
  | header name => rw [hline] at hheader; cases hheader
  | pair key value => rw [hline] at hsets; cases hsets
  | unrecognized t => exact ⟨[.line ⟨n, t, .unrecognized, origin.source⟩], fun _ => rfl, fun _ => rfl⟩

theorem Built.result_or {bs : Built} (h : bs ≠ []) (name : Option String) :
    bs.result.map (fun last => last.or name) = bs.result := by
  have hlast := List.getLast?_eq_some_getLast h
  unfold result
  rw [hlast]
  cases bs.failure? <;> rfl

/-- **Lines that set nothing before their first header** come to the same after any progress: the block that is open
before them is completed, and they have no part in it. -/
theorem readFrom_after : ∀ (lines : List String) (n : Nat) (ps : List Problem) (p : Progress),
    (∀ l ∈ untilHeader lines, setsKey l = false) →
      readFrom origin finish (k + n) lines (p.note (ps.map (Problem.later k))) =
        (readFrom origin finish n lines (Progress.start.note ps)).after k p
  | [], n, ps, p, _ => by
    simp [readFrom, finish, Progress.note, Progress.close, Progress.start, Reading.after, Reading.carry, Except.map]
  | l :: ls, n, ps, p, h => by
    rw [readFrom, readFrom]
    cases hl : header? l with
    | some name =>
      -- the header completes the block that is open, and from here on nothing before it is seen
      have hopen : (p.note (ps.map (Problem.later k))).enter name origin.directory =
          ((Progress.start.note ps).enter name origin.directory).carry p.close.complete p.problems k := by
        simp [Progress.note, Progress.enter, Progress.close, Progress.start, Progress.carry]
      have hnamed : ((Progress.start.note ps).enter name origin.directory).open? ≠ none := by simp [Progress.enter]
      rw [step_header origin hl, step_header origin hl, hopen]
      dsimp only
      rw [Nat.add_assoc, readFrom_carry]
      unfold Reading.after
      rw [(readFrom_eq origin ls (n + 1) _).2, Built.result_or (ahead_ne_nil origin.directory hnamed ls),
        ← (readFrom_eq origin ls (n + 1) _).2]
      rfl
    | none =>
      have huntil : untilHeader (l :: ls) = l :: untilHeader ls := by simp [untilHeader, hl]
      rw [huntil] at h
      obtain ⟨qs, hfirst, hlater⟩ := step_unset origin k hl (h l List.mem_cons_self) n
      rw [hfirst, hlater, note_note, note_note, ← List.map_append]
      exact readFrom_after ls (n + 1) (ps ++ qs) p fun l' hl' => h l' (List.mem_cons_of_mem _ hl')

/-! ## Two rows of lines -/

/-- The progress after lines, or the failure of one of them with the progress up to it. -/
def advance : Nat → List String → Progress → Except (Failure × Progress) Progress
  | _, [], p => .ok p
  | n, l :: ls, p =>
    match step origin n l p with
    | .ok q => advance (n + 1) ls q
    | .error e => .error e

theorem readFrom_append (after : Progress → Reading) (b : List String) : ∀ (a : List String) (n : Nat) (p : Progress),
    readFrom origin after n (a ++ b) p =
      match advance origin n a p with
      | .ok q => readFrom origin after (a.length + n) b q
      | .error (f, q) => breakOff f q
  | [], n, p => by simp [advance]
  | l :: ls, n, p => by
    have hnumber : (l :: ls).length + n = ls.length + (n + 1) := by
      rw [List.length_cons]
      omega
    rw [List.cons_append, readFrom, advance, hnumber]
    cases step origin n l p with
    | ok q => exact readFrom_append after b ls (n + 1) q
    | error e => rfl

/-- **The reading of two rows of lines** is that of the first, if it fails, and else that of the first and then the
second, which counts its lines on. -/
theorem read_append (a b : List String) (hb : ∀ l ∈ untilHeader b, setsKey l = false) :
    (∀ f, (read origin a).result = .error f → read origin (a ++ b) = read origin a) ∧
    ∀ last, (read origin a).result = .ok last → read origin (a ++ b) =
      ⟨(read origin a).themes ++ (read origin b).themes,
        (read origin a).problems ++ (read origin b).problems.map (Problem.later a.length),
        (read origin b).result.map fun name => name.or last⟩ := by
  have hwhole := readFrom_append origin finish b a 1 .start
  have hfirst := readFrom_append origin finish [] a 1 .start
  rw [List.append_nil] at hfirst
  unfold read
  rw [hwhole, hfirst]
  cases advance origin 1 a .start with
  | error e => exact ⟨fun _ _ => rfl, fun last h => by cases h⟩
  | ok q =>
    refine ⟨fun f h => (by cases h), fun last h => ?_⟩
    have hlast : q.open?.map Prod.fst = last := Except.ok.inj h
    have hafter := readFrom_after origin a.length b 1 [] q hb
    have hnote : ∀ p : Progress, p.note [] = p := by simp [Progress.note]
    rw [List.map_nil, hnote, hnote] at hafter
    dsimp only
    rw [hafter, ← hlast]
    rfl

theorem blocks_eq_nil_iff : ∀ (lines : List String), blocks lines = [] ↔ ∀ l ∈ lines, header? l = none
  | [] => by simp [blocks]
  | l :: ls => by
    have ih := blocks_eq_nil_iff ls
    unfold blocks
    cases hl : header? l <;> simp [hl, ih]

/-- A file that is read to its end gives a name exactly when it has a header. -/
theorem or_eq_of_read {lines : List String} {name : Option String} (h : (read origin lines).result = .ok name)
    (last : Option String) : name.or last = if lines.any fun l => (header? l).isSome then name else last := by
  obtain ⟨-, rfl⟩ := read_eq_ok origin h
  by_cases hheader : lines.any (fun l => (header? l).isSome) = true
  · have hblocks : blocks lines ≠ [] := by
      intro hnil
      obtain ⟨l, hl, hsome⟩ := List.any_eq_true.1 hheader
      simp [(blocks_eq_nil_iff lines).1 hnil l hl] at hsome
    rw [if_pos hheader, List.getLast?_eq_some_getLast hblocks]
    rfl
  · have hblocks : blocks lines = [] := (blocks_eq_nil_iff lines).2 fun l hl =>
      Option.not_isSome_iff_eq_none.1 fun hsome => hheader (List.any_eq_true.2 ⟨l, hl, hsome⟩)
    rw [if_neg hheader, hblocks]
    rfl

/-! ## A reader of theme files -/

/-- What theme files are read into, one after the other: a store of themes, such as a registry, and the problems noted so
far.  New themes start with the directory. -/
structure Reader (ρ : Type) where
  directory : Path
  store : ρ
  problems : List Problem

namespace Reader

variable {ρ : Type} [ThemeStore ρ]

/-- Reads lines: the name of their last theme or the failure that ended them, and the reader after them. -/
def readLines (source : String) (lines : List String) (r : Reader ρ) : Except Failure (Option String) × Reader ρ :=
  let reading := read ⟨source, r.directory⟩ lines
  (reading.result, { r with
    store := ThemeStore.adoptAll reading.themes r.store
    problems := r.problems ++ reading.problems })

/-- **Theme files compose.**  Let no line of `b` set anything before the first header of `b`.  If reading `a` fails, then
reading `a` and `b` at once fails in the same way and leaves the same reader.  If not, then it leaves the same store as
reading `a` and then `b`, which for a registry is the same names in the same order, the same themes and the same default,
and it ends with the same failure or with a name: that of `b`, or of `a` when `b` has no header.  The problems are the
same, but that those with lines of `b` count the lines of `a` too. -/
theorem readLines_append (r : Reader ρ) (source : String) (a b : List String)
    (hb : ∀ l ∈ untilHeader b, setsKey l = false) :
    let first := r.readLines source a
    let whole := r.readLines source (a ++ b)
    (∀ f, first.1 = .error f → whole = first) ∧
    ∀ last, first.1 = .ok last →
      let second := first.2.readLines source b
      whole.2.store = second.2.store ∧
      whole.1 = second.1.map (fun name => if b.any fun l => (header? l).isSome then name else last) ∧
      ∃ noted, second.2.problems = first.2.problems ++ noted ∧
        whole.2.problems = first.2.problems ++ noted.map (Problem.later a.length) := by
  obtain ⟨hfails, hreads⟩ := read_append ⟨source, r.directory⟩ a b hb
  intro first whole
  refine ⟨fun f hf => ?_, fun last hlast => ?_⟩
  · show r.readLines source (a ++ b) = r.readLines source a
    unfold readLines
    rw [hfails f hf]
  · intro second
    have hwhole := hreads last hlast
    refine ⟨?_, ?_, (read ⟨source, r.directory⟩ b).problems, rfl, ?_⟩
    · show ThemeStore.adoptAll (read _ (a ++ b)).themes r.store = _
      rw [hwhole]
      exact List.foldl_append
    · show (read ⟨source, r.directory⟩ (a ++ b)).result = (read ⟨source, r.directory⟩ b).result.map _
      rw [hwhole]
      dsimp only
      cases hresult : (read ⟨source, r.directory⟩ b).result with
      | error f => rfl
      | ok name => exact congrArg Except.ok (or_eq_of_read _ hresult last)
    · show r.problems ++ (read _ (a ++ b)).problems = _
      rw [hwhole, ← List.append_assoc]
      rfl

/-- A first part that leaves a block open or fails in one, and a second part that begins with a line without sense. -/
theorem readLines_append_stray :
    let r : Reader (Registry (Theme Step)) := ⟨.ofString "icons", .empty, []⟩
    let a := ["[a]", "steps = 1", "charging = 100:full.png"]
    let short := ["[a]", "charging = 100:full.png"]
    let b := ["stray", "# no header yet", "[b]", "colour = red"]
    let both := (r.readLines "themes" a).2.readLines "themes" b
    let whole := r.readLines "themes" (a ++ b)
    (∀ l ∈ untilHeader b, setsKey l = false) ∧ (r.readLines "themes" a).1 = .ok (some "a") ∧
      whole.2.store = both.2.store ∧ both.2.store.names = ["a", "b"] ∧ whole.1 = .ok (some "b") ∧
      (∃ noted, both.2.problems = (r.readLines "themes" a).2.problems ++ noted ∧
        whole.2.problems = (r.readLines "themes" a).2.problems ++ noted.map (Problem.later 3)) ∧
      (∃ f, (r.readLines "themes" short).1 = .error f) ∧ r.readLines "themes" (short ++ b) = r.readLines "themes" short := by
  intro r a short b both whole
  have hok : ∀ {x : Except Failure (Option String)} {name : Option String}, x.toOption = some name → x = .ok name := by
    intro x name h
    cases x <;> cases h
    rfl
  have herror : ∀ {x : Except Failure (Option String)}, x.toOption = none → ∃ f, x = .error f := by
    intro x h
    cases x with
    | error f => exact ⟨f, rfl⟩
    | ok name => cases h
  have hb : ∀ l ∈ untilHeader b, setsKey l = false := by decide +kernel
  have hfirst : (r.readLines "themes" a).1 = .ok (some "a") := hok (by decide +kernel)
  have hsecond : both.1 = .ok (some "b") := hok (by decide +kernel)
  have hnames : both.2.store.names = ["a", "b"] := by decide +kernel
  obtain ⟨f, hshort⟩ := herror (x := (r.readLines "themes" short).1) (by decide +kernel)
  obtain ⟨hstore, hname, hproblems⟩ := (readLines_append r "themes" a b hb).2 (some "a") hfirst
  rw [hsecond] at hname
  exact ⟨hb, hfirst, hstore, hnames, hname, hproblems, ⟨f, hshort⟩,
    (readLines_append r "themes" short b hb).1 f hshort⟩

end Reader
end File
end Theme
end BatteryIndicator
