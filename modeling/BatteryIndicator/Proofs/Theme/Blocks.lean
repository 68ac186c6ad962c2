import BatteryIndicator.Theme.File
/-!
# Blocks — a theme file cut at its headers

A block is a header and the lines up to the next header.  What a block comes to depends on its own lines alone
(`build`): a theme, or the failure that ends the reading.  The reading of a file is the reading of its blocks one after
the other (`read_eq`): the themes of the blocks before the first failure, and that failure or the name of the last block.
-/
namespace BatteryIndicator
namespace Theme
namespace File

/-- The name that a line opens a block with, if it is a header. -/
def header? (text : String) : Option String :=
  match Line.classify text with
  | .header name => some name
  | _ => none

/-- The lines before the first header. -/
def untilHeader (lines : List String) : List String := lines.takeWhile fun l => (header? l).isNone

/-- The blocks of a file: their names, and their lines after the header. -/
def blocks : List String → List (String × List String)
  | [] => []
  | l :: ls =>
    match header? l with
    | some name => (name, untilHeader ls) :: blocks ls
    | none => blocks ls

/-- The theme of a block after one of its lines, or the failure with which the line ends the reading. -/
def applyLine (t : Theme Step) (text : String) : Except Failure (Theme Step) :=
  match Line.classify text with
  | .pair key value =>
    match t.apply key value with
    | .made t _ => .ok t
    | .ignored _ => .ok t
    | .refused f _ => .error f
  | _ => .ok t

/-- The theme of the lines of a block. -/
def build (directory : Path) (body : List String) : Except Failure (Theme Step) :=
  body.foldlM applyLine (.new directory)

/-- What holds at the header and is kept by every line that is accepted holds of the theme. -/
theorem build_induction {P : Theme Step → Prop} {directory : Path} (hnew : P (.new directory))
    (hline : ∀ t text t', applyLine t text = .ok t' → P t → P t') {body : List String} {t : Theme Step}
    (h : build directory body = .ok t) : P t := by
  have hlines : ∀ (body : List String) (t₀ : Theme Step), P t₀ → body.foldlM applyLine t₀ = .ok t → P t := by
    intro body
    induction body with
    | nil => intro t₀ h₀ h; cases h; exact h₀
    | cons l ls ih =>
      intro t₀ h₀ h
      rw [List.foldlM_cons] at h
      cases hl : applyLine t₀ l with
      | error f => rw [hl] at h; cases h
      | ok t₁ => rw [hl] at h; exact ih t₁ (hline t₀ l t₁ hl h₀) h
  exact hlines body _ hnew h

/-- The last line of a block works on the theme of the lines before it. -/
theorem build_concat_eq_ok {directory : Path} {body : List String} {text : String} {t : Theme Step}
    (h : build directory (body ++ [text]) = .ok t) : ∃ t₀, build directory body = .ok t₀ ∧ applyLine t₀ text = .ok t := by
  rw [build, List.foldlM_append] at h
  change build directory body >>= (fun t₀ => List.foldlM applyLine t₀ [text]) = .ok t at h
  cases hbody : build directory body with
  | error f => rw [hbody] at h; cases h
  | ok t₀ =>
    rw [hbody] at h
    have hline : applyLine t₀ text >>= pure = .ok t := h
    rw [bind_pure] at hline
    exact ⟨t₀, rfl, hline⟩

/-- Names with what their blocks come to. -/
abbrev Built := List (String × Except Failure (Theme Step))

def builds (directory : Path) (bs : List (String × List String)) : Built := bs.map fun b => (b.1, build directory b.2)

namespace Built

/-- The themes before the first failure. -/
def themes : Built → List (String × Theme Step)
  | (name, .ok t) :: bs => (name, t) :: themes bs
  | _ => []

def failure? : Built → Option Failure
  | (_, .ok _) :: bs => failure? bs
  | (_, .error f) :: _ => some f
  | [] => none

/-- The first failure, or the name of the last block. -/
def result (bs : Built) : Except Failure (Option String) :=
  match bs.failure? with
  | some f => .error f
  | none => .ok (bs.getLast?.map Prod.fst)

/-- A theme that is complete, before others. -/
def ofOpen (b : String × Theme Step) : String × Except Failure (Theme Step) := (b.1, .ok b.2)

theorem themes_ofOpen (done : Option (String × Theme Step)) (bs : Built) :
    themes (done.toList.map ofOpen ++ bs) = done.toList ++ themes bs := by
  cases done <;> rfl

theorem result_ofOpen (done : Option (String × Theme Step)) {bs : Built} (h : bs ≠ []) :
    result (done.toList.map ofOpen ++ bs) = result bs := by
  cases done with
  | none => rfl
  | some b =>
    have hlast : (ofOpen b :: bs).getLast? = bs.getLast? := by
      obtain ⟨c, bs, rfl⟩ := List.exists_cons_of_ne_nil h
      rw [List.getLast?_cons_cons]
    show (match failure? bs with
      | some f => .error f
      | none => .ok ((ofOpen b :: bs).getLast?.map Prod.fst)) = result bs
    rw [hlast]
    rfl

theorem mem_of_mem_themes : ∀ (bs : Built) (name : String) (t : Theme Step), (name, t) ∈ themes bs →
    (name, Except.ok t) ∈ bs
  | (n, .ok s) :: bs, name, t, h => by
    rcases List.mem_cons.1 h with h | h
    · cases h; exact List.mem_cons_self
    · exact List.mem_cons_of_mem _ (mem_of_mem_themes bs name t h)
  | (_, .error _) :: _, _, _, h => by cases h
  | [], _, _, h => by cases h

/-- Without a failure all blocks come to themes. -/
theorem map_ofOpen_themes : ∀ {bs : Built}, failure? bs = none → (themes bs).map ofOpen = bs
  | (name, .ok t) :: bs, h => by
    have hrest : (themes bs).map ofOpen = bs := map_ofOpen_themes h
    rw [themes, List.map_cons, hrest]
    rfl
  | (_, .error _) :: _, h => by cases h
  | [], _ => rfl

theorem result_eq_ok {bs : Built} {last : Option String} (h : bs.result = .ok last) :
    failure? bs = none ∧ last = bs.getLast?.map Prod.fst := by
  unfold result at h
  split at h
  · cases h
  · next hnone => cases h; exact ⟨hnone, rfl⟩

end Built

/-! ## One line -/

variable (origin : Origin) {number : Nat} {text name : String} {p : Progress} {t t' : Theme Step} {f : Failure}

theorem step_header (h : header? text = some name) (p : Progress) :
    step origin number text p = .ok (p.enter name origin.directory) := by
  unfold header? at h
  unfold step
  split at h
  · next heq => cases h; rw [heq]
  · cases h

/-- A line before the first header is at most a problem. -/
theorem step_outside (h : header? text = none) (hp : p.open? = none) :
    ∃ problems, step origin number text p = .ok (p.note problems) := by
  cases hline : Line.classify text with
  | blank => exact ⟨[], by simp [step, hline, Progress.note]⟩
  | comment => exact ⟨[], by simp [step, hline, Progress.note]⟩
  | header name => rw [header?, hline] at h; cases h
  | pair key value => exact ⟨_, by simp only [step, hline, hp]; rfl⟩
  | unrecognized => exact ⟨_, by simp only [step, hline]; rfl⟩

/-- A line of a block changes the theme as `applyLine` says, besides problems. -/
theorem step_inside (h : header? text = none) (hp : p.open? = some (name, t)) (ht : applyLine t text = .ok t') :
    ∃ problems, step origin number text p = .ok { p.note problems with open? := some (name, t') } := by
  cases hline : Line.classify text with
  | blank => rw [applyLine, hline] at ht; cases ht; exact ⟨[], by simp [step, hline, Progress.note, ← hp]⟩
  | comment => rw [applyLine, hline] at ht; cases ht; exact ⟨[], by simp [step, hline, Progress.note, ← hp]⟩
  | header name => rw [header?, hline] at h; cases h
  | unrecognized =>
    rw [applyLine, hline] at ht
    cases ht
    exact ⟨_, by simp only [step, hline, ← hp]; rfl⟩
  | pair key value =>
    rw [applyLine, hline] at ht
    dsimp only at ht
    cases happly : t.apply key value with
    | made t dropped => rw [happly] at ht; cases ht; exact ⟨_, by simp only [step, hline, hp, happly]; rfl⟩
    | ignored fault =>
      rw [happly] at ht
      cases ht
      refine ⟨[.line ⟨number, String.ofList (Text.trim text.toList), fault, origin.source⟩], ?_⟩
      simp only [step, hline, hp, happly]
      rw [← hp]
      rfl
    | refused f dropped => rw [happly] at ht; cases ht

theorem step_refused (hp : p.open? = some (name, t)) (hf : applyLine t text = .error f) :
    ∃ problems, step origin number text p = .error (f, p.note problems) := by
  unfold applyLine at hf
  split at hf
  · next key value hline =>
    cases happly : t.apply key value with
    | made t dropped => rw [happly] at hf; cases hf
    | ignored fault => rw [happly] at hf; cases hf
    | refused g dropped =>
      rw [happly] at hf
      cases hf
      exact ⟨dropped.map .entry, by simp only [step, hline, hp, happly]⟩
  · cases hf

/-! ## All lines -/

/-- What the blocks of the lines to come are built to, the open one first. -/
def ahead (directory : Path) (p : Progress) (lines : List String) : Built :=
  (p.open?.toList.map fun b => (b.1, (untilHeader lines).foldlM applyLine b.2)) ++ builds directory (blocks lines)

theorem ahead_note (directory : Path) (problems : List Problem) (p : Progress) (lines : List String) :
    ahead directory (p.note problems) lines = ahead directory p lines := rfl

theorem ahead_nil (directory : Path) (p : Progress) :
    ahead directory p [] = p.open?.toList.map Built.ofOpen ++ [] := rfl

/-- A header completes the open block. -/
theorem ahead_header (directory : Path) {l : String} (h : header? l = some name) (p : Progress) (ls : List String) :
    ahead directory p (l :: ls) = p.open?.toList.map Built.ofOpen ++ ahead directory (p.enter name directory) ls := by
  have hbody : untilHeader (l :: ls) = [] := by rw [untilHeader, List.takeWhile_cons, h]; rfl
  have hblocks : blocks (l :: ls) = (name, untilHeader ls) :: blocks ls := by rw [blocks, h]
  rw [ahead, hbody, hblocks]
  rfl

/-- Any other line belongs to the open block. -/
theorem ahead_line (directory : Path) {l : String} (h : header? l = none) (p : Progress) (ls : List String) :
    ahead directory p (l :: ls) =
      (p.open?.toList.map fun b => (b.1, applyLine b.2 l >>= fun t => (untilHeader ls).foldlM applyLine t)) ++
        builds directory (blocks ls) := by
  have hbody : untilHeader (l :: ls) = l :: untilHeader ls := by rw [untilHeader, List.takeWhile_cons, h]; rfl
  have hblocks : blocks (l :: ls) = blocks ls := by rw [blocks, h]
  rw [ahead, hbody, hblocks]
  rfl

theorem ahead_ne_nil (directory : Path) {p : Progress} (h : p.open? ≠ none) (lines : List String) :
    ahead directory p lines ≠ [] := by
  obtain ⟨b, hb⟩ := Option.ne_none_iff_exists'.1 h
  rw [ahead, hb]
  exact List.cons_ne_nil _ _

/-- **The reading of lines is the reading of the blocks that they make up**, the open one included. -/
theorem readFrom_eq : ∀ (lines : List String) (number : Nat) (p : Progress),
    (readFrom origin finish number lines p).themes =
      p.complete ++ (ahead origin.directory p lines).themes ∧
    (readFrom origin finish number lines p).result = (ahead origin.directory p lines).result
  | [], number, p => by
    rw [ahead_nil, Built.themes_ofOpen]
    refine ⟨by simp [readFrom, finish, Progress.close, Built.themes], ?_⟩
    show Except.ok (p.open?.map Prod.fst) = _
    cases p.open? <;> rfl
  | l :: ls, number, p => by
    rw [readFrom]
    cases hl : header? l with
    | some name =>
      rw [step_header origin hl, ahead_header origin.directory hl, Built.themes_ofOpen,
        Built.result_ofOpen _ (ahead_ne_nil origin.directory (by simp [Progress.enter]) ls)]
      obtain ⟨hthemes, hresult⟩ := readFrom_eq ls (number + 1) (p.enter name origin.directory)
      refine ⟨?_, hresult⟩
      rw [hthemes, ← List.append_assoc]
      rfl
    | none =>
      rw [ahead_line origin.directory hl]
      cases hp : p.open? with
      | none =>
        obtain ⟨problems, hstep⟩ := step_outside origin hl hp
        rw [hstep]
        obtain ⟨hthemes, hresult⟩ := readFrom_eq ls (number + 1) (p.note problems)
        rw [ahead_note, ahead, hp] at hthemes hresult
        exact ⟨hthemes, hresult⟩
      | some b =>
        obtain ⟨name, t⟩ := b
        cases ht : applyLine t l with
        | ok t' =>
          obtain ⟨problems, hstep⟩ := step_inside origin hl hp ht
          have hopen : ((some (name, t)).toList.map fun b => (b.1, applyLine b.2 l >>= fun t =>
              (untilHeader ls).foldlM applyLine t)) = [(name, (untilHeader ls).foldlM applyLine t')] := by
            show [(name, applyLine t l >>= _)] = _
            rw [ht]
            rfl
          rw [hstep, hopen]
          exact readFrom_eq ls (number + 1) { p.note problems with open? := some (name, t') }
        | error f =>
          obtain ⟨problems, hstep⟩ := step_refused origin hp ht
          rw [hstep]
          exact ⟨by simp [breakOff, Progress.note, Built.themes, ht, bind, Except.bind],
            by simp [breakOff, Built.result, Built.failure?, ht, bind, Except.bind]⟩

/-- **The reading of a file is the reading of its blocks.** -/
theorem read_eq (lines : List String) :
    (read origin lines).themes = (builds origin.directory (blocks lines)).themes ∧
      (read origin lines).result = (builds origin.directory (blocks lines)).result :=
  readFrom_eq origin lines 1 .start

/-- **A file that is read to its end gives a theme for each of its blocks**, and the name of the last one. -/
theorem read_eq_ok {lines : List String} {last : Option String} (h : (read origin lines).result = .ok last) :
    (read origin lines).themes.map Built.ofOpen = builds origin.directory (blocks lines) ∧
      last = (blocks lines).getLast?.map Prod.fst := by
  obtain ⟨hthemes, hresult⟩ := read_eq origin lines
  obtain ⟨hsuccess, hlast⟩ := Built.result_eq_ok (hresult.symm.trans h)
  rw [hthemes, hlast, builds, List.getLast?_map, Option.map_map]
  exact ⟨Built.map_ofOpen_themes hsuccess, rfl⟩

end File
end Theme
end BatteryIndicator
