/-!
# Entries — keyed values in the order of their keys' first arrival

A list of keys and values in which a key that arrives again keeps its place and takes the new value.
-/
namespace BatteryIndicator

abbrev Entries (κ α : Type) := List (κ × α)

namespace Entries

variable {κ α β : Type} [DecidableEq κ]

/-- The value of a key. -/
def find? (k : κ) : Entries κ α → Option α
  | [] => none
  | e :: es => if e.1 = k then some e.2 else find? k es

/-- Gives a key a value: in its place if it has one, at the end if not. -/
def put (k : κ) (v : α) : Entries κ α → Entries κ α
  | [] => [(k, v)]
  | e :: es => if e.1 = k then (k, v) :: es else e :: put k v es

def keys (es : Entries κ α) : List κ := es.map Prod.fst

def values (es : Entries κ α) : List α := es.map Prod.snd

/-- The entries of a list of pairs, put one after the other. -/
def ofList (ps : List (κ × α)) : Entries κ α := ps.foldl (fun es p => put p.1 p.2 es) []

@[simp] theorem find?_nil (k : κ) : find? k ([] : Entries κ α) = none := rfl

theorem find?_cons (k : κ) (e : κ × α) (es : Entries κ α) :
    find? k (e :: es) = if e.1 = k then some e.2 else find? k es := rfl

/-- **Putting a value changes what its key has and nothing else.** -/
theorem find?_put (k j : κ) (v : α) :
    ∀ es : Entries κ α, find? j (put k v es) = if k = j then some v else find? j es
  | [] => by simp [put, find?_cons]
  | e :: es => by
    simp only [put]
    split
    · next h => subst h; simp only [find?_cons]; split <;> rfl
    · next h =>
      rw [find?_cons, find?_put k j v es, find?_cons]
      by_cases hj : e.1 = j
      · have : k ≠ j := fun hk => h (hj.trans hk.symm)
        simp [hj, this]
      · simp [hj]

/-- A key that is there keeps its place; a new one goes to the end. -/
theorem keys_put (k : κ) (v : α) :
    ∀ es : Entries κ α, keys (put k v es) = if k ∈ keys es then keys es else keys es ++ [k]
  | [] => by simp [put, keys]
  | e :: es => by
    have ih := keys_put k v es
    simp only [keys] at ih ⊢
    simp only [put]
    split
    · next h => simp [h]
    · next h =>
      have : k ≠ e.1 := fun hk => h hk.symm
      simp only [List.map_cons, ih, List.mem_cons, this, false_or]
      split <;> simp_all

/-- So the keys stand in the order in which they came up first. -/
theorem keys_put_eraseDups (k : κ) (v : α) {es : Entries κ α} {earlier : List κ} (h : keys es = earlier.eraseDups) :
    keys (put k v es) = (earlier ++ [k]).eraseDups := by
  rw [keys_put, h, List.eraseDups_append]
  by_cases hmem : k ∈ earlier
  · rw [if_pos (List.mem_eraseDups.2 hmem)]
    simp [List.removeAll, hmem]
  · rw [if_neg fun hd => hmem (List.mem_eraseDups.1 hd)]
    simp [List.removeAll, hmem, List.eraseDups_cons]

theorem nodup_eraseDups {μ : Type} [BEq μ] [LawfulBEq μ] : ∀ ks : List μ, ks.eraseDups.Nodup
  | [] => List.nodup_nil
  | k :: ks => by
    rw [List.eraseDups_cons, List.nodup_cons]
    exact ⟨by simp [List.mem_eraseDups], nodup_eraseDups (ks.filter fun j => !j == k)⟩
  termination_by ks => ks.length
  decreasing_by exact Nat.lt_succ_of_le (List.length_filter_le _ _)

theorem mem_values_of_find? {k : κ} {v : α} : ∀ {es : Entries κ α}, find? k es = some v → v ∈ values es
  | e :: es, h => by
    rw [find?_cons] at h
    split at h
    · cases h
      exact List.mem_cons_self
    · exact List.mem_cons_of_mem _ (mem_values_of_find? h)

/-- If no key comes up twice, the entries tell what their keys have. -/
theorem mem_iff_find?_eq (k : κ) (v : α) :
    ∀ {es : Entries κ α}, (keys es).Nodup → ((k, v) ∈ es ↔ find? k es = some v)
  | [], _ => by simp
  | e :: es, h => by
    obtain ⟨hfresh, hrest⟩ := List.nodup_cons.1 h
    rw [find?_cons, List.mem_cons]
    split
    · next hk =>
      subst hk
      have hnot : (e.1, v) ∉ es := fun hmem => hfresh (List.mem_map.2 ⟨_, hmem, rfl⟩)
      simp [hnot, Prod.ext_iff, eq_comm]
    · next hk =>
      have hne : (k, v) ≠ e := fun he => hk (congrArg Prod.fst he).symm
      rw [mem_iff_find?_eq k v hrest]
      simp [hne]

/-- Entries with the same keys in the same order, each once, are told apart by what a key has. -/
theorem eq_of_find?_eq : ∀ {es fs : Entries κ α}, keys es = keys fs → (keys es).Nodup →
    (∀ k ∈ keys es, find? k es = find? k fs) → es = fs
  | [], [], _, _, _ => rfl
  | e :: es, f :: fs, hkeys, hnodup, h => by
    obtain ⟨hkey, hrest⟩ : e.1 = f.1 ∧ keys es = keys fs := List.cons.inj hkeys
    obtain ⟨hfresh, hnodup⟩ := List.nodup_cons.1 hnodup
    have hvalue : e.2 = f.2 := by
      have hfirst := h e.1 List.mem_cons_self
      rw [find?_cons, if_pos rfl, find?_cons, if_pos hkey.symm] at hfirst
      exact Option.some.inj hfirst
    refine List.cons_eq_cons.2 ⟨Prod.ext hkey hvalue, eq_of_find?_eq hrest hnodup fun k hk => ?_⟩
    have hne : e.1 ≠ k := fun he => hfresh (he ▸ hk)
    have hlater := h k (List.mem_cons_of_mem _ hk)
    rwa [find?_cons, if_neg hne, find?_cons, if_neg (hkey ▸ hne)] at hlater

theorem isSome_find?_iff (k : κ) : ∀ es : Entries κ α, (find? k es).isSome = true ↔ k ∈ keys es
  | [] => by simp [keys]
  | e :: es => by
    have ih := isSome_find?_iff k es
    simp only [keys] at ih ⊢
    rw [find?_cons, List.map_cons, List.mem_cons, ← ih]
    split
    · next h => simp [h]
    · next h => simp [Ne.symm h]

end Entries
end BatteryIndicator
