import BatteryIndicator.Proofs.Theme.Append
import Mathlib.Data.List.TakeWhile
/-!
# BreakOff — where the reading of a theme file ends before its last line

A reading that fails breaks off at one line of one block (`BreaksOff`): the blocks before it are complete, the lines of
the block before that line are accepted, and the line is not (`read_eq_error_iff`).  What is left of the reading is that
of the lines before the header of the block (`themes_eq_of_breaksOff`), and what comes after the line is not looked at.
-/
namespace BatteryIndicator
namespace Theme
namespace File

variable {origin : Origin} {lines before inside body rest : List String} {header line name : String} {f : Failure}
  {t : Theme Step}

/-! ## Headers and blocks -/

theorem untilHeader_append (h : ∀ l ∈ inside, header? l = none) (ls : List String) :
    untilHeader (inside ++ ls) = inside ++ untilHeader ls :=
  List.takeWhile_append_of_pos fun l hl => by simp [h l hl]

theorem header?_of_mem_untilHeader {l : String} (h : l ∈ untilHeader lines) : header? l = none := by
  have hnone := List.mem_takeWhile_imp (p := fun l => (header? l).isNone) h
  exact Option.isNone_iff_eq_none.1 hnone

theorem untilHeader_append_header (h : header? header = some name) (ls : List String) : ∀ before : List String,
    untilHeader (before ++ header :: ls) = untilHeader before
  | [] => by simp [untilHeader, h]
  | l :: before => by
    have hrest := untilHeader_append_header h ls before
    unfold untilHeader at hrest ⊢
    rw [List.cons_append, List.takeWhile_cons, List.takeWhile_cons, hrest]

/-- A header ends the block before it and starts one of its own. -/
theorem blocks_append_header (h : header? header = some name) (ls : List String) : ∀ before : List String,
    blocks (before ++ header :: ls) = blocks before ++ (name, untilHeader ls) :: blocks ls
  | [] => by simp [blocks, h]
  | l :: before => by
    rw [List.cons_append, blocks, blocks, blocks_append_header h ls before, untilHeader_append_header h]
    cases header? l <;> rfl

/-- Every block has a header, before which stand the blocks before it. -/
theorem exists_header_of_blocks : ∀ {lines : List String} {early late : List (String × List String)},
    blocks lines = early ++ (name, body) :: late →
      ∃ before header ls, lines = before ++ header :: ls ∧ header? header = some name ∧ blocks before = early ∧
        untilHeader ls = body
  | [], early, _, h => by cases early <;> cases h
  | l :: ls, early, late, h => by
    rw [blocks] at h
    cases hl : header? l with
    | none =>
      rw [hl] at h
      obtain ⟨before, header, after, rfl, hheader, hbefore, hbody⟩ := exists_header_of_blocks h
      exact ⟨l :: before, header, after, rfl, hheader, by rw [blocks, hl]; exact hbefore, hbody⟩
    | some n =>
      rw [hl] at h
      cases early with
      | nil =>
        obtain ⟨hblock, -⟩ := List.cons.inj h
        cases hblock
        exact ⟨[], l, ls, rfl, hl, rfl, rfl⟩
      | cons b early =>
        obtain ⟨rfl, hearly⟩ := List.cons.inj h
        obtain ⟨before, header, after, rfl, hheader, rfl, hbody⟩ := exists_header_of_blocks hearly
        refine ⟨l :: before, header, after, rfl, hheader, ?_, hbody⟩
        rw [blocks, hl, untilHeader_append_header hheader]

/-! ## The first failure -/

theorem foldlM_applyLine_eq_error_iff : ∀ {body : List String} {t : Theme Step},
    body.foldlM applyLine t = .error f ↔ ∃ inside line rest t', body = inside ++ line :: rest ∧
      inside.foldlM applyLine t = .ok t' ∧ applyLine t' line = .error f
  | [], t => by
    refine ⟨fun h => (by cases h), ?_⟩
    rintro ⟨inside, line, rest, t', h, -⟩
    cases inside <;> cases h
  | l :: ls, t => by
    have hcons : ∀ ls' : List String, (l :: ls').foldlM applyLine t =
        applyLine t l >>= fun t₁ => ls'.foldlM applyLine t₁ := fun _ => List.foldlM_cons
    rw [hcons]
    cases hl : applyLine t l with
    | error g =>
      constructor
      · intro h
        cases h
        exact ⟨[], l, ls, t, rfl, rfl, hl⟩
      · rintro ⟨inside, line, rest, t', h, hinside, hline⟩
        cases inside with
        | nil =>
          cases h
          cases hinside
          exact hl.symm.trans hline
        | cons x inside =>
          cases h
          rw [hcons, hl] at hinside
          cases hinside
    | ok t₁ =>
      refine foldlM_applyLine_eq_error_iff.trans ⟨?_, ?_⟩
      · rintro ⟨inside, line, rest, t', rfl, hinside, hline⟩
        exact ⟨l :: inside, line, rest, t', rfl, by rw [hcons, hl]; exact hinside, hline⟩
      · rintro ⟨inside, line, rest, t', h, hinside, hline⟩
        cases inside with
        | nil =>
          cases h
          cases hinside
          rw [hl] at hline
          cases hline
        | cons x inside =>
          cases h
          rw [hcons, hl] at hinside
          exact ⟨inside, line, rest, t', rfl, hinside, hline⟩

namespace Built

theorem failure?_append : ∀ early late : Built, failure? (early ++ late) = early.failure?.or late.failure?
  | [], _ => rfl
  | (_, .ok _) :: early, late => failure?_append early late
  | (_, .error _) :: _, _ => rfl

theorem themes_append : ∀ {early : Built}, early.failure? = none → ∀ late : Built,
    themes (early ++ late) = themes early ++ themes late
  | [], _, _ => rfl
  | (name, .ok t) :: early, h, late =>
    congrArg ((name, t) :: ·) (themes_append (show failure? early = none from h) late)
  | (_, .error _) :: _, h, _ => by cases h

theorem exists_error_of_failure? : ∀ {bs : Built}, failure? bs = some f →
    ∃ early name late, bs = early ++ (name, .error f) :: late ∧ failure? early = none
  | (name, .ok t) :: bs, h => by
    obtain ⟨early, n, late, rfl, hearly⟩ := exists_error_of_failure? (show failure? bs = some f from h)
    exact ⟨(name, .ok t) :: early, n, late, rfl, hearly⟩
  | (name, .error g) :: bs, h => by
    cases h
    exact ⟨[], name, bs, rfl, rfl⟩

theorem result_eq_error_iff {bs : Built} : bs.result = .error f ↔ bs.failure? = some f := by
  unfold result
  cases bs.failure? <;> simp

theorem result_eq_ok_iff {bs : Built} : (∃ last, bs.result = .ok last) ↔ bs.failure? = none := by
  unfold result
  cases bs.failure? <;> simp

end Built

/-! ## The line where a reading breaks off -/

/-- **A reading breaks off** at a line of the block that a header opens: the lines before the header are read to their
end, and the block accepts the lines between the header and that line, but not that line. -/
structure BreaksOff (origin : Origin) (f : Failure) (before : List String) (header : String) (inside : List String)
    (line : String) : Prop where
  complete : ∃ last, (read origin before).result = .ok last
  headed : ∃ name, header? header = some name
  within : ∀ l ∈ inside, header? l = none
  refused : ∃ t, build origin.directory inside = .ok t ∧ applyLine t line = .error f

theorem header?_of_applyLine_eq_error (h : applyLine t line = .error f) : header? line = none := by
  unfold applyLine at h
  unfold header?
  split at h
  · next hline => rw [hline]
  · cases h

theorem BreaksOff.builds (h : BreaksOff origin f before header inside line) (rest : List String) :
    ∃ name late, builds origin.directory (blocks (before ++ header :: (inside ++ line :: rest))) =
      builds origin.directory (blocks before) ++ (name, .error f) :: late := by
  obtain ⟨name, hname⟩ := h.headed
  obtain ⟨t, hinside, hline⟩ := h.refused
  have hother : ∀ l ∈ inside ++ [line], header? l = none := fun l hl =>
    (List.mem_append.1 hl).elim (h.within l) fun hl =>
      List.mem_singleton.1 hl ▸ header?_of_applyLine_eq_error hline
  have hbody : untilHeader (inside ++ line :: rest) = inside ++ line :: untilHeader rest := by
    have happend := untilHeader_append hother rest
    rwa [List.append_assoc, List.append_assoc] at happend
  have hbuild : build origin.directory (inside ++ line :: untilHeader rest) = .error f :=
    foldlM_applyLine_eq_error_iff.2 ⟨inside, line, _, t, rfl, hinside, hline⟩
  refine ⟨name, File.builds origin.directory (blocks (inside ++ line :: rest)), ?_⟩
  rw [blocks_append_header hname, hbody, File.builds, List.map_append, List.map_cons, hbuild]
  rfl

theorem BreaksOff.failure?_before (h : BreaksOff origin f before header inside line) :
    (File.builds origin.directory (blocks before)).failure? = none := by
  obtain ⟨last, hlast⟩ := h.complete
  rw [(read_eq origin before).2] at hlast
  exact Built.result_eq_ok_iff.1 ⟨last, hlast⟩

/-- **A reading fails exactly if it breaks off at a line.** -/
theorem read_eq_error_iff : (read origin lines).result = .error f ↔
    ∃ before header inside line rest, lines = before ++ header :: (inside ++ line :: rest) ∧
      BreaksOff origin f before header inside line := by
  rw [(read_eq origin lines).2, Built.result_eq_error_iff]
  constructor
  · intro h
    obtain ⟨early, name, late, hbuilds, hearly⟩ := Built.exists_error_of_failure? h
    obtain ⟨bs, cs, hblocks, rfl, hcs⟩ := List.map_eq_append_iff.1 hbuilds
    obtain ⟨⟨n, body⟩, ds, rfl, hbody, -⟩ := List.map_eq_cons_iff.1 hcs
    obtain ⟨rfl, hbuild⟩ := Prod.mk.inj hbody
    obtain ⟨before, header, ls, rfl, hheader, rfl, hls⟩ := exists_header_of_blocks hblocks
    obtain ⟨inside, line, rest, t, rfl, hinside, hline⟩ := foldlM_applyLine_eq_error_iff.1 hbuild
    obtain ⟨last, hlast⟩ := Built.result_eq_ok_iff.2 hearly
    have hwithin : ∀ l ∈ inside, header? l = none := fun l hl =>
      header?_of_mem_untilHeader (hls ▸ List.mem_append_left _ hl)
    -- the block ends at the next header, and the lines from there on stay out of it
    obtain ⟨more, hmore⟩ : ∃ more, ls = untilHeader ls ++ more := ⟨_, List.takeWhile_append_dropWhile.symm⟩
    refine ⟨before, header, inside, line, rest ++ more, ?_,
      ⟨last, (read_eq origin before).2.trans hlast⟩, ⟨_, hheader⟩, hwithin, t, hinside, hline⟩
    rw [hmore, hls, List.append_assoc]
    rfl
  · rintro ⟨before, header, inside, line, rest, rfl, h⟩
    obtain ⟨name, late, hbuilds⟩ := h.builds rest
    rw [hbuilds, Built.failure?_append, h.failure?_before]
    rfl

/-- **What is left of a reading that breaks off** is the reading of the lines before the header. -/
theorem themes_eq_of_breaksOff (h : BreaksOff origin f before header inside line) (rest : List String) :
    (read origin (before ++ header :: (inside ++ line :: rest))).themes = (read origin before).themes := by
  obtain ⟨name, late, hbuilds⟩ := h.builds rest
  rw [(read_eq origin _).1, hbuilds, Built.themes_append h.failure?_before, (read_eq origin before).1]
  exact List.append_nil _

/-! ## The lines before it -/

theorem map_fst_blocks : ∀ lines : List String, (blocks lines).map Prod.fst = lines.filterMap header?
  | [] => rfl
  | l :: ls => by
    rw [blocks, List.filterMap_cons, ← map_fst_blocks ls]
    cases header? l <;> rfl

theorem builds_append_block (directory : Path) (hname : header? header = some name)
    (hwithin : ∀ l ∈ inside, header? l = none) (before : List String) :
    builds directory (blocks (before ++ header :: inside)) =
      builds directory (blocks before) ++ [(name, build directory inside)] := by
  have hbody : untilHeader inside = inside := by
    have happend := untilHeader_append hwithin []
    rw [List.append_nil] at happend
    exact happend.trans (List.append_nil _)
  rw [blocks_append_header hname, hbody, (blocks_eq_nil_iff inside).2 hwithin, builds, List.map_append]
  rfl

/-- **Lines that end within a block are read to their end** if the lines before its header are, and its own lines are
accepted. -/
theorem read_block_eq_ok_iff (hname : header? header = some name) (hwithin : ∀ l ∈ inside, header? l = none)
    (last : Option String) : (read origin (before ++ header :: inside)).result = .ok last ↔
      last = some name ∧ (∃ last, (read origin before).result = .ok last) ∧
        ∃ t, build origin.directory inside = .ok t := by
  have hfailure : ∀ bs : Built, ∀ b : Except Failure (Theme Step),
      Built.failure? (bs ++ [(name, b)]) = none ↔ bs.failure? = none ∧ ∃ t, b = .ok t := by
    intro bs b
    rw [Built.failure?_append, Option.or_eq_none_iff]
    cases b <;> simp [Built.failure?]
  rw [(read_eq origin _).2, (read_eq origin before).2, builds_append_block _ hname hwithin, Built.result_eq_ok_iff,
    ← hfailure, Built.result]
  cases Built.failure? (builds origin.directory (blocks before) ++ [(name, build origin.directory inside)]) with
  | some f => simp
  | none =>
    rw [List.getLast?_concat]
    simp [eq_comm]

theorem readFrom_of_error (after : Progress → Reading) : ∀ {lines : List String} {n : Nat} {p : Progress},
    (readFrom origin finish n lines p).result = .error f →
      readFrom origin after n lines p = readFrom origin finish n lines p
  | [], _, _, h => by cases h
  | l :: ls, n, p, h => by
    rw [readFrom] at h ⊢
    rw [readFrom]
    cases hl : step origin n l p with
    | ok q =>
      rw [hl] at h
      exact readFrom_of_error after h
    | error e => rfl

theorem readUpTo_of_error (h : (read origin lines).result = .error f) (g : Failure) :
    readUpTo origin g lines = read origin lines :=
  readFrom_of_error (breakOff g) h

theorem result_readUpTo_of_ok {last : Option String} (h : (read origin lines).result = .ok last) (g : Failure) :
    (readUpTo origin g lines).result = .error g := by
  have hafter : ∀ (lines : List String) (n : Nat) (p : Progress), (readFrom origin finish n lines p).result = .ok last →
      (readFrom origin (breakOff g) n lines p).result = .error g := by
    intro lines
    induction lines with
    | nil => exact fun _ _ _ => rfl
    | cons l ls ih =>
      intro n p h
      rw [readFrom] at h ⊢
      cases hl : step origin n l p with
      | ok q =>
        rw [hl] at h
        exact ih (n + 1) q h
      | error e =>
        rw [hl] at h
        cases h
  exact hafter lines 1 .start h

end File
end Theme
end BatteryIndicator
