import BatteryIndicator.Proofs.Theme.Blocks
import BatteryIndicator.Theme.Store
/-!
# Registered — what theme files leave in a registry

A theme that is registered under a name that is taken replaces the one before it and keeps its place.  So after any
number of theme files a name has the theme that was completed last under it, and the names stand in the order in which
they came up first.
-/
namespace BatteryIndicator

section

variable {α β : Type} {name : String}

/-- The last value under a name. -/
def lastUnder (name : String) (ps : List (String × α)) : Option α := ps.reverse.lookup name

theorem lastUnder_cons (name : String) (p : String × α) (ps : List (String × α)) :
    lastUnder name (p :: ps) = (lastUnder name ps).or (if p.1 = name then some p.2 else none) := by
  obtain ⟨key, value⟩ := p
  rw [lastUnder, List.reverse_cons, List.lookup_append, lastUnder, List.lookup_cons, List.lookup_nil]
  by_cases h : key = name
  · rw [if_pos h, h, beq_self_eq_true]
  · rw [if_neg h, beq_eq_false_iff_ne.2 fun he => h he.symm]

theorem lastUnder_map (f : α → β) (name : String) :
    ∀ ps : List (String × α), lastUnder name (ps.map fun p => (p.1, f p.2)) = (lastUnder name ps).map f
  | [] => rfl
  | p :: ps => by
    rw [List.map_cons, lastUnder_cons, lastUnder_map f name ps, lastUnder_cons, Option.map_or]
    split <;> rfl

theorem mem_of_lastUnder {value : α} : ∀ {ps : List (String × α)}, lastUnder name ps = some value → (name, value) ∈ ps
  | p :: ps, h => by
    rw [lastUnder_cons, Option.or_eq_some_iff] at h
    rcases h with h | ⟨-, h⟩
    · exact List.mem_cons_of_mem _ (mem_of_lastUnder h)
    · split at h
      · next hname => cases h; rw [← hname]; exact List.mem_cons_self
      · cases h

end

namespace Registry

variable {θ : Type} (name : String)

theorem theme?_register (key : String) (t : θ) (r : Registry θ) :
    (r.register key t).theme? name = if key = name then some t else r.theme? name := Entries.find?_put key name t r.themes

theorem names_register (key : String) (t : θ) (r : Registry θ) :
    (r.register key t).names = if key ∈ r.names then r.names else r.names ++ [key] := Entries.keys_put key t r.themes

theorem contains_iff (r : Registry θ) : r.contains name = true ↔ name ∈ r.names := Entries.isSome_find?_iff name r.themes

theorem theme?_registerAll : ∀ (ts : List (String × θ)) (r : Registry θ),
    (r.registerAll ts).theme? name = (lastUnder name ts).or (r.theme? name)
  | [], _ => rfl
  | t :: ts, r => by
    show ((r.register t.1 t.2).registerAll ts).theme? name = _
    rw [theme?_registerAll ts, theme?_register, lastUnder_cons]
    cases lastUnder name ts with
    | some _ => rfl
    | none => split <;> rfl

theorem default?_registerAll : ∀ (ts : List (String × θ)) (r : Registry θ), (r.registerAll ts).default? = r.default?
  | [], _ => rfl
  | t :: ts, r => default?_registerAll ts (r.register t.1 t.2)

/-- A name that is new goes to the end, and one that is there stays where it is. -/
theorem names_registerAll : ∀ (ts : List (String × θ)) {r : Registry θ} {earlier : List String},
    r.names = earlier.eraseDups → (r.registerAll ts).names = (earlier ++ ts.map Prod.fst).eraseDups
  | [], _, _, h => by rw [List.map_nil, List.append_nil]; exact h
  | t :: ts, r, earlier, h => by
    have hnames : (r.register t.1 t.2).names = (earlier ++ [t.1]).eraseDups := Entries.keys_put_eraseDups t.1 t.2 h
    have hrest := names_registerAll ts hnames
    rw [List.append_assoc] at hrest
    exact hrest

end Registry

namespace Theme
namespace File

/-- A theme file: the lines that can be read of it, and the failure that comes after them, if there is one. -/
structure Source where
  origin : Origin
  lines : List String
  failure? : Option Failure

def Source.reading (s : Source) : Reading :=
  match s.failure? with
  | none => read s.origin s.lines
  | some f => readUpTo s.origin f s.lines

/-- The registry after theme files, each read as far as it can be. -/
def registered (files : List Source) : Registry (Theme Step) :=
  files.foldl (fun r s => ThemeStore.adoptAll s.reading.themes r) .empty

/-- A failure after the last line loses the open block and nothing else. -/
theorem readFrom_breakOff (origin : Origin) (f : Failure) : ∀ (lines : List String) (number : Nat) (p : Progress),
    (readFrom origin (breakOff f) number lines p).themes <+: (readFrom origin finish number lines p).themes
  | [], _, p => List.prefix_append p.complete p.open?.toList
  | l :: ls, number, p => by
    rw [readFrom, readFrom]
    split
    · next p' _ => exact readFrom_breakOff origin f ls (number + 1) p'
    · exact List.prefix_refl _

theorem readUpTo_result (origin : Origin) (f : Failure) (lines : List String) :
    ∃ g, (readUpTo origin f lines).result = .error g := by
  have hfails : ∀ (lines : List String) (number : Nat) (p : Progress),
      ∃ g, (readFrom origin (breakOff f) number lines p).result = .error g := by
    intro lines
    induction lines with
    | nil => exact fun _ _ => ⟨f, rfl⟩
    | cons l ls ih =>
      intro number p
      rw [readFrom]
      split
      · next p' _ => exact ih (number + 1) p'
      · next g _ _ => exact ⟨g, rfl⟩
  exact hfails lines 1 .start

/-- **A theme of a file is the theme of one of its blocks.** -/
theorem Source.block_of_theme {s : Source} {name : String} {t : Theme Step} (h : (name, t) ∈ s.reading.themes) :
    ∃ body, (name, body) ∈ blocks s.lines ∧ build s.origin.directory body = .ok t := by
  have hread : (name, t) ∈ (read s.origin s.lines).themes := by
    unfold Source.reading at h
    split at h
    · exact h
    · exact (readFrom_breakOff s.origin _ s.lines 1 .start).subset h
  rw [(read_eq s.origin s.lines).1] at hread
  obtain ⟨⟨key, body⟩, hmem, heq⟩ := List.mem_map.1 (Built.mem_of_mem_themes _ name t hread)
  obtain ⟨rfl, hbuild⟩ := Prod.mk.inj heq
  exact ⟨body, hmem, hbuild⟩

theorem registered_eq (files : List Source) :
    registered files = Registry.registerAll (files.flatMap fun s => s.reading.themes) .empty := by
  rw [Registry.registerAll, List.foldl_flatMap]
  rfl

theorem block_of_registered {files : List Source} {name : String} {t : Theme Step}
    (h : (registered files).theme? name = some t) :
    ∃ s ∈ files, ∃ body, (name, body) ∈ blocks s.lines ∧ build s.origin.directory body = .ok t := by
  rw [registered_eq, Registry.theme?_registerAll, Option.or_eq_some_iff] at h
  rcases h with h | ⟨-, h⟩
  · obtain ⟨s, hs, hmem⟩ := List.mem_flatMap.1 (mem_of_lastUnder h)
    exact ⟨s, hs, s.block_of_theme hmem⟩
  · cases h

end File
end Theme
end BatteryIndicator
