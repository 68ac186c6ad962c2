import BatteryIndicator.Proofs.Number.Within
import BatteryIndicator.Settings.Validation
import Mathlib.Data.List.Forall2
/-!
# SettingsValidated — settings are read as a whole or not at all

Every reader of settings, from that of one value to that of a whole document, has the same kind of result (`Verdict`):
either there is no fault, and then what is read is determined, or there is nothing that could be read, and then all
faults are told, in their order.  So a verdict on a document is put together from those on its settings, and a setting
that does not do is never replaced by its default.
-/
namespace BatteryIndicator
namespace Settings

variable {α β π : Type}

/-! ## Verdicts -/

/-- What a reader makes of something: the one thing that it reads as, or else all of its faults, in order. -/
inductive Verdict (before : π → π → Prop) (Reads : α → Prop) (Fault : π → Prop) : Except (List π) α → Prop
  | ok {x} (hreads : ∀ y, Reads y ↔ y = x) (hnone : ∀ p, ¬Fault p) : Verdict before Reads Fault (.ok x)
  | error {ps} (hreads : ∀ y, ¬Reads y) (hsome : ps ≠ []) (hsorted : ps.Pairwise before)
    (hmem : ∀ p, p ∈ ps ↔ Fault p) : Verdict before Reads Fault (.error ps)

/-- Two readings side by side: the faults of the first come before those of the second. -/
def both : Except (List π) α → Except (List π) β → Except (List π) (α × β)
  | .ok x, .ok y => .ok (x, y)
  | .ok _, .error ps => .error ps
  | .error ps, .ok _ => .error ps
  | .error ps, .error qs => .error (ps ++ qs)

/-- A reading whose result is refused if there is something wrong with it. -/
def checked (wrong : α → Option π) : Except (List π) α → Except (List π) α
  | .ok x =>
    match wrong x with
    | none => .ok x
    | some p => .error [p]
  | .error ps => .error ps

namespace Verdict

variable {before : π → π → Prop} {Reads : α → Prop} {Fault : π → Prop} {r : Except (List π) α}

theorem reads_iff (h : Verdict before Reads Fault r) {x : α} : r = .ok x ↔ Reads x := by
  cases h with
  | ok hreads _ => rw [hreads, Except.ok.injEq, eq_comm]
  | error hreads _ _ _ => exact ⟨nofun, fun hx => absurd hx (hreads x)⟩

/-- **Reading fails exactly if there is a fault.** -/
theorem fails_iff (h : Verdict before Reads Fault r) : (∃ ps, r = .error ps) ↔ ∃ p, Fault p := by
  cases h with
  | ok _ hnone => exact ⟨nofun, fun ⟨p, hp⟩ => absurd hp (hnone p)⟩
  | @error ps _ hsome _ hmem =>
    obtain ⟨p, hp⟩ := List.exists_mem_of_ne_nil ps hsome
    exact ⟨fun _ => ⟨p, (hmem p).1 hp⟩, fun _ => ⟨ps, rfl⟩⟩

theorem failed (h : Verdict before Reads Fault r) {ps : List π} (hr : r = .error ps) :
    ps ≠ [] ∧ ps.Pairwise before ∧ ∀ p, p ∈ ps ↔ Fault p := by
  cases h with
  | ok _ _ => cases hr
  | error _ hsome hsorted hmem => cases hr; exact ⟨hsome, hsorted, hmem⟩

/-- The same verdict in other words. -/
theorem congr {Reads' : α → Prop} {Fault' : π → Prop} (h : Verdict before Reads Fault r)
    (hreads : ∀ y, Reads' y ↔ Reads y) (hfault : ∀ p, Fault' p ↔ Fault p) : Verdict before Reads' Fault' r := by
  have hReads : Reads' = Reads := funext fun y => propext (hreads y)
  have hFault : Fault' = Fault := funext fun p => propext (hfault p)
  rwa [hReads, hFault]

theorem map (h : Verdict before Reads Fault r) (f : α → β) :
    Verdict before (fun y => ∃ x, Reads x ∧ y = f x) Fault (r.map f) := by
  cases h with
  | ok hreads hnone => exact .ok (fun y => by simp [hreads]) hnone
  | error hreads hsome hsorted hmem => exact .error (fun y => by simp [hreads]) hsome hsorted hmem

/-- The same verdict with the faults told in another way, which keeps their order. -/
theorem told {ω : Type} {before' : ω → ω → Prop} (h : Verdict before Reads Fault r) (tell : π → ω)
    (hbefore : ∀ p q, before p q → before' (tell p) (tell q)) :
    Verdict before' Reads (fun p => ∃ q, Fault q ∧ p = tell q) (r.mapError (List.map tell)) := by
  cases h with
  | ok hreads hnone => exact .ok hreads (by simp [hnone])
  | error hreads hsome hsorted hmem =>
    refine .error hreads (by simpa using hsome) (hsorted.map _ hbefore) fun p => ?_
    simp [hmem, eq_comm]

/-- The verdict on two readings, if all faults of the first belong before those of the second. -/
theorem both {Reads' : β → Prop} {Fault' : π → Prop} {r' : Except (List π) β} (h : Verdict before Reads Fault r)
    (h' : Verdict before Reads' Fault' r') (hcross : ∀ p q, Fault p → Fault' q → before p q) :
    Verdict before (fun z : α × β => Reads z.1 ∧ Reads' z.2) (fun p => Fault p ∨ Fault' p) (both r r') := by
  cases h with
  | ok hreads hnone =>
    cases h' with
    | ok hreads' hnone' => exact .ok (fun z => by rw [hreads, hreads', Prod.ext_iff]) (by simp [hnone, hnone'])
    | error hreads' hsome' hsorted' hmem' =>
      exact .error (by simp [hreads']) hsome' hsorted' fun p => by simp [hnone, hmem']
  | error hreads hsome hsorted hmem =>
    cases h' with
    | ok _ hnone' => exact .error (by simp [hreads]) hsome hsorted fun p => by simp [hnone', hmem]
    | error _ _ hsorted' hmem' =>
      refine .error (by simp [hreads]) (by simp [hsome]) ?_ fun p => by rw [List.mem_append, hmem, hmem']
      exact List.pairwise_append.2 ⟨hsorted, hsorted', fun p hp q hq => hcross p q ((hmem p).1 hp) ((hmem' q).1 hq)⟩

theorem checked (h : Verdict before Reads Fault r) (wrong : α → Option π) :
    Verdict before (fun x => Reads x ∧ wrong x = none) (fun p => Fault p ∨ ∃ x, Reads x ∧ wrong x = some p)
      (checked wrong r) := by
  cases h with
  | @ok x hreads hnone =>
    rw [Settings.checked]
    cases hx : wrong x with
    | none => exact .ok (fun y => by rw [hreads]; grind) (by grind)
    | some p =>
      exact .error (fun y => by grind) (List.cons_ne_nil _ _) (List.pairwise_singleton _ _) (by grind)
  | error hreads hsome hsorted hmem => exact .error (by simp [hreads]) hsome hsorted (by simp [hreads, hmem])

end Verdict

/-! ## Lists -/

/-- The position of an item is before that of another one. -/
def Earlier (p q : Option Nat × SettingFault) : Prop := ∃ m n, p.1 = some m ∧ q.1 = some n ∧ m < n

/-- The values of a list, or of a set, each of which is read. -/
def ReadsEach (read : Value → Except SettingFault α) (v : Value) (xs : List α) : Prop :=
  ∃ vs, (v = .list vs ∨ v = .set vs) ∧ List.Forall₂ (fun w x => read w = .ok x) vs xs

/-- What is wrong with a value that should be a list: an item of it, or that it is none. -/
inductive ListFault (read : Value → Except SettingFault α) (v : Value) : Option Nat × SettingFault → Prop
  | item {vs n w f} (hv : v = .list vs ∨ v = .set vs) (hw : vs[n]? = some w) (hf : read w = .error f) :
    ListFault read v (some n, f)
  | notAList (hv : ∀ vs, v ≠ .list vs ∧ v ≠ .set vs) : ListFault read v (none, .notAList)

section

variable (read : Value → Except SettingFault α)

/-- A value with its fault at a position. -/
theorem verdict_at (i : Option Nat) (v : Value) :
    Verdict Earlier (fun x => read v = .ok x) (fun p => p.1 = i ∧ read v = .error p.2)
      ((read v).mapError fun f => [(i, f)]) := by
  cases h : read v with
  | ok x => exact .ok (by simp [eq_comm]) (by simp)
  | error f => exact .error (by simp) (List.cons_ne_nil _ _) (List.pairwise_singleton _ _) (by simp [Prod.ext_iff, eq_comm])

theorem verdict_single (v : Value) :
    Verdict Earlier (fun x => read v = .ok x) (fun p => p.1 = none ∧ read v = .error p.2) (single read v) := by
  have hsingle : single read v = (read v).mapError fun f => [(none, f)] := by
    unfold single
    cases read v <;> rfl
  rw [hsingle]
  exact verdict_at read none v

theorem items_cons (n : Nat) (v : Value) (vs : List Value) :
    items read n (v :: vs) =
      (both ((read v).mapError fun f => [(some n, f)]) (items read (n + 1) vs)).map fun z => z.1 :: z.2 := by
  rw [items]
  cases read v <;> cases items read (n + 1) vs <;> rfl

theorem verdict_items : ∀ (vs : List Value) (n : Nat),
    Verdict Earlier (List.Forall₂ (fun w x => read w = .ok x) vs)
      (fun p => ∃ k w, vs[k]? = some w ∧ read w = .error p.2 ∧ p.1 = some (n + k)) (items read n vs)
  | [], n => .ok (fun y => List.forall₂_nil_left_iff) (by simp)
  | v :: vs, n => by
    rw [items_cons]
    refine (((verdict_at read (some n) v).both (verdict_items vs (n + 1)) ?_).map _).congr (fun ys => ?_) fun p => ?_
    · rintro p q ⟨hp, -⟩ ⟨k, w, -, -, hq⟩
      exact ⟨n, n + 1 + k, hp, hq, by omega⟩
    · rw [List.forall₂_cons_left_iff]
      simp [and_assoc]
    · constructor
      · rintro ⟨k, w, hw, hf, hp⟩
        cases k with
        | zero => cases hw; exact .inl ⟨hp, hf⟩
        | succ k => exact .inr ⟨k, w, hw, hf, by rw [hp]; congr 1; omega⟩
      · rintro (⟨hp, hf⟩ | ⟨k, w, hw, hf, hp⟩)
        · exact ⟨0, v, rfl, hf, hp⟩
        · exact ⟨k + 1, w, hw, hf, by rw [hp]; congr 1; omega⟩

/-- The items of a list or of a set. -/
theorem verdict_listed {v : Value} {vs : List Value} (hv : v = .list vs ∨ v = .set vs) :
    Verdict Earlier (ReadsEach read v) (ListFault read v) (items read 0 vs) := by
  have hunique : ∀ {ws}, v = .list ws ∨ v = .set ws → ws = vs := by
    rintro ws (rfl | rfl) <;> rcases hv with hv | hv <;> cases hv <;> rfl
  refine (verdict_items read vs 0).congr (fun ys => ⟨?_, fun h => ⟨vs, hv, h⟩⟩) fun p => ⟨?_, ?_⟩
  · rintro ⟨ws, hws, h⟩
    exact hunique hws ▸ h
  · intro h
    cases h with
    | item hws hw hf => exact ⟨_, _, hunique hws ▸ hw, hf, by rw [Nat.zero_add]⟩
    | notAList hnone =>
      rcases hv with hv | hv
      · exact absurd hv (hnone vs).1
      · exact absurd hv (hnone vs).2
  · obtain ⟨i, f⟩ := p
    rintro ⟨n, w, hw, hf, hi⟩
    rw [Nat.zero_add] at hi
    cases hi
    exact .item hv hw hf

theorem verdict_list (v : Value) : Verdict Earlier (ReadsEach read v) (ListFault read v) (list read v) := by
  unfold list
  split
  · exact verdict_listed read (.inl rfl)
  · exact verdict_listed read (.inr rfl)
  · next hlist hset =>
    have hnone : ∀ vs, v ≠ .list vs ∧ v ≠ .set vs := fun vs => ⟨hlist vs, hset vs⟩
    refine .error ?_ (List.cons_ne_nil _ _) (List.pairwise_singleton _ _) fun p => ?_
    · rintro xs ⟨vs, hv | hv, -⟩
      · exact hlist vs hv
      · exact hset vs hv
    · rw [List.mem_singleton]
      constructor
      · rintro rfl
        exact .notAList hnone
      · intro h
        cases h with
        | item hv _ _ =>
          rcases hv with hv | hv
          · exact absurd hv (hlist _)
          · exact absurd hv (hset _)
        | notAList _ => rfl

end

/-! ## Thresholds and commands -/

/-- A percentage, which is neither infinite nor undefined. -/
def IsPercentage (x : Binary64) : Prop := 0 ≤ x ∧ x ≤ 100

theorem isPercentage_iff {x : Binary64} : isPercentage x = true ↔ IsPercentage x := by
  rw [isPercentage, Bool.and_eq_true]
  rfl

theorem IsPercentage.isFinite {x : Binary64} (h : IsPercentage x) : x.isFinite = true := by
  obtain ⟨negative, k, rfl, -, hunits⟩ := (Binary64.within_iff (m := 100) (by omega)).2 h
  exact decide_eq_true (Binary64.lt_top_of_units_le (m := 100) (by omega) hunits)

/-- What is wrong with thresholds: an item or the list, or, if all are numbers, the first that is no percentage. -/
inductive ThresholdFault (v : Value) : Option Nat × SettingFault → Prop
  | list {p} (h : ListFault number v p) : ThresholdFault v p
  | outside {before x after} (hv : ReadsEach number v (before ++ x :: after)) (hbefore : ∀ y ∈ before, IsPercentage y)
    (hx : ¬IsPercentage x) : ThresholdFault v (none, .outOfRange x)

theorem verdict_percentages (v : Value) :
    Verdict Earlier (fun xs => ReadsEach number v xs ∧ ∀ x ∈ xs, IsPercentage x) (ThresholdFault v) (percentages v) := by
  have hchecked : percentages v =
      checked (fun xs => (xs.find? fun x => !isPercentage x).map fun x => (none, .outOfRange x)) (list number v) := by
    unfold percentages
    cases list number v with
    | error fs => rfl
    | ok xs =>
      dsimp only [checked]
      cases xs.find? fun x => !isPercentage x <;> rfl
  rw [hchecked]
  refine ((verdict_list number v).checked _).congr (fun xs => ?_) fun p => ?_
  · simp [isPercentage_iff]
  · constructor
    · intro h
      cases h with
      | list h => exact .inl h
      | @outside before x after hv hbefore hx =>
        refine .inr ⟨_, hv, Option.map_eq_some_iff.2 ⟨x, List.find?_eq_some_iff_append.2 ⟨?_, before, after, rfl, ?_⟩, rfl⟩⟩
        · simpa [← isPercentage_iff] using hx
        · simpa [isPercentage_iff] using hbefore
    · rintro (h | ⟨xs, hxs, hwrong⟩)
      · exact .list h
      · obtain ⟨x, hfind, rfl⟩ := Option.map_eq_some_iff.1 hwrong
        obtain ⟨hx, before, after, rfl, hbefore⟩ := List.find?_eq_some_iff_append.1 hfind
        exact .outside hxs (by simpa [isPercentage_iff] using hbefore) (by simpa [← isPercentage_iff] using hx)

/-- What is wrong with a command: a word or the list, or that there are no words. -/
inductive CommandFault (v : Value) : Option Nat × SettingFault → Prop
  | list {p} (h : ListFault string v p) : CommandFault v p
  | empty (hv : ReadsEach string v []) : CommandFault v (none, .emptyList)

theorem verdict_commandWords (v : Value) :
    Verdict Earlier (fun ws => ReadsEach string v ws ∧ ws ≠ []) (CommandFault v) (commandWords v) := by
  have hchecked : commandWords v =
      checked (fun ws => if ws = [] then some (none, .emptyList) else none) (list string v) := by
    unfold commandWords
    rcases list string v with fs | _ | ⟨w, ws⟩ <;> rfl
  rw [hchecked]
  refine ((verdict_list string v).checked _).congr (fun ws => by simp) fun p => ?_
  constructor
  · intro h
    cases h with
    | list h => exact .inl h
    | empty hv => exact .inr ⟨[], hv, rfl⟩
  · rintro (h | ⟨ws, hws, hwrong⟩)
    · exact .list h
    · split at hwrong
      · next hnil =>
        cases hwrong
        exact .empty (hnil ▸ hws)
      · cases hwrong

/-! ## Settings -/

/-- The value that entries give a key: no entry after it has the key. -/
def Gives (entries : List (Value × Value)) (key : String) (v : Value) : Prop :=
  ∃ before after, entries = before ++ (.text key, v) :: after ∧ ∀ e ∈ after, e.1 ≠ .text key

variable {entries : List (Value × Value)} {key : String}

theorem isKey_iff {w : Value} : isKey key w = true ↔ w = .text key := by
  unfold isKey
  split
  · rw [beq_iff_eq, Value.text.injEq]
  · next h => exact ⟨nofun, fun hw => absurd hw (h key)⟩

theorem given?_eq_some_iff {v : Value} : given? key entries = some v ↔ Gives entries key v := by
  unfold given?
  rw [Option.map_eq_some_iff]
  constructor
  · rintro ⟨⟨w, v⟩, hfind, rfl⟩
    obtain ⟨hw, after, before, hentries, hafter⟩ := List.find?_eq_some_iff_append.1 hfind
    cases isKey_iff.1 hw
    refine ⟨before.reverse, after.reverse, ?_, fun e he => ?_⟩
    · rw [← List.reverse_reverse entries, hentries]
      simp
    · intro hkey
      have hnot := hafter e (List.mem_reverse.1 he)
      rw [isKey_iff.2 hkey] at hnot
      cases hnot
  · rintro ⟨before, after, rfl, hafter⟩
    refine ⟨(.text key, v), List.find?_eq_some_iff_append.2 ⟨isKey_iff.2 rfl, after.reverse, before.reverse, ?_, ?_⟩, rfl⟩
    · simp
    · intro e he
      rw [Bool.not_eq_true', Bool.eq_false_iff]
      exact fun hkey => hafter e (List.mem_reverse.1 he) (isKey_iff.1 hkey)

/-- What a setting is: what the value that is given reads as, or the default if none is given. -/
def Taken (entries : List (Value × Value)) (key : String) (otherwise : α) (Reads : Value → α → Prop) (x : α) : Prop :=
  (∃ v, Gives entries key v ∧ Reads v x) ∨ (¬∃ v, Gives entries key v) ∧ x = otherwise

/-- A fault of the value that is given. -/
def FieldFault (entries : List (Value × Value)) (key : String) (Fault : Value → Option Nat × SettingFault → Prop)
    (p : SettingProblem) : Prop :=
  ∃ v, Gives entries key v ∧ ∃ q, Fault v q ∧ p = ⟨some key, q.1, q.2⟩

/-- The settings in their order. -/
def keys : List String := ["warning_thresholds", "battery_command", "icon_dir", "system_config_dir", "use_notifications"]

/-- The order of problems: by settings, and then by items. -/
def Before (p q : SettingProblem) : Prop :=
  ∃ k l, p.field = some k ∧ q.field = some l ∧
    (keys.idxOf k < keys.idxOf l ∨ k = l ∧ Earlier (p.item, p.fault) (q.item, q.fault))

theorem verdict_field (key : String) (otherwise : α) {read : Value → Except Faults α} {Reads : Value → α → Prop}
    {Fault : Value → Option Nat × SettingFault → Prop} (h : ∀ v, Verdict Earlier (Reads v) (Fault v) (read v))
    (entries : List (Value × Value)) :
    Verdict Before (Taken entries key otherwise Reads) (FieldFault entries key Fault)
      (field key otherwise read entries) := by
  cases hgiven : given? key entries with
  | none =>
    have hnone : ¬∃ v, Gives entries key v := by
      rintro ⟨v, hv⟩
      cases (given?_eq_some_iff.2 hv).symm.trans hgiven
    rw [field, hgiven]
    refine .ok (fun y => ?_) fun p ⟨v, hv, _⟩ => hnone ⟨v, hv⟩
    constructor
    · rintro (⟨v, hv, -⟩ | ⟨-, hy⟩)
      · exact absurd ⟨v, hv⟩ hnone
      · exact hy
    · exact fun hy => .inr ⟨hnone, hy⟩
  | some v =>
    have hgives : ∀ w, Gives entries key w ↔ w = v := fun w => by
      rw [← given?_eq_some_iff, hgiven, Option.some.injEq, eq_comm]
    have htold : field key otherwise read entries =
        (read v).mapError (List.map fun q => ⟨some key, q.1, q.2⟩) := by
      rw [field, hgiven]
      dsimp only
      cases read v <;> rfl
    rw [htold]
    refine ((h v).told _ fun p q hpq => ⟨key, key, rfl, rfl, .inr ⟨rfl, hpq⟩⟩).congr (fun y => ?_) fun p => ?_
    · simp [Taken, hgives]
    · simp [FieldFault, hgives]

theorem before_of_fields {k l : String} (h : keys.idxOf k < keys.idxOf l)
    {Fault Fault' : Value → Option Nat × SettingFault → Prop} {p q : SettingProblem}
    (hp : FieldFault entries k Fault p) (hq : FieldFault entries l Fault' q) : Before p q := by
  obtain ⟨v, -, a, -, rfl⟩ := hp
  obtain ⟨w, -, b, -, rfl⟩ := hq
  exact ⟨k, l, rfl, rfl, .inl h⟩

/-- The faults of a value that is read as one. -/
def SingleFault (read : Value → Except SettingFault α) (v : Value) (p : Option Nat × SettingFault) : Prop :=
  p.1 = none ∧ read v = .error p.2

/-- What a mapping makes of the settings: each is what its value reads as, or its default. -/
structure Settled (entries : List (Value × Value)) (s : Settings) : Prop where
  thresholds : Taken entries "warning_thresholds" default.thresholds
    (fun v xs => ReadsEach number v xs ∧ ∀ x ∈ xs, IsPercentage x) s.thresholds
  batteryCommand : Taken entries "battery_command" default.batteryCommand
    (fun v ws => ReadsEach string v ws ∧ ws ≠ []) s.batteryCommand
  iconDirectory : Taken entries "icon_dir" default.iconDirectory (fun v p => path v = .ok p) s.iconDirectory
  systemDirectory : Taken entries "system_config_dir" default.systemDirectory (fun v p => path v = .ok p)
    s.systemDirectory
  notifications : Taken entries "use_notifications" default.notifications (fun v b => flag v = .ok b) s.notifications

/-- What is wrong with a mapping: some value that is given does not do. -/
inductive Faulty (entries : List (Value × Value)) (p : SettingProblem) : Prop
  | thresholds (h : FieldFault entries "warning_thresholds" ThresholdFault p)
  | batteryCommand (h : FieldFault entries "battery_command" CommandFault p)
  | iconDirectory (h : FieldFault entries "icon_dir" (SingleFault path) p)
  | systemDirectory (h : FieldFault entries "system_config_dir" (SingleFault path) p)
  | notifications (h : FieldFault entries "use_notifications" (SingleFault flag) p)

theorem ofEntries_eq (entries : List (Value × Value)) :
    ofEntries entries =
      (both (both (both (both (field "warning_thresholds" default.thresholds percentages entries)
        (field "battery_command" default.batteryCommand commandWords entries))
        (field "icon_dir" default.iconDirectory (single path) entries))
        (field "system_config_dir" default.systemDirectory (single path) entries))
        (field "use_notifications" default.notifications (single flag) entries)).map
          fun z => ⟨z.1.1.1.1, z.1.1.1.2, z.1.1.2, z.1.2, z.2⟩ := by
  unfold ofEntries
  cases field "warning_thresholds" default.thresholds percentages entries <;>
    cases field "battery_command" default.batteryCommand commandWords entries <;>
      cases field "icon_dir" default.iconDirectory (single path) entries <;>
        cases field "system_config_dir" default.systemDirectory (single path) entries <;>
          cases field "use_notifications" default.notifications (single flag) entries <;>
            simp [both, problems, Except.map]

/-- **The verdict on a mapping is that on its settings, taken together.** -/
theorem verdict_ofEntries (entries : List (Value × Value)) :
    Verdict Before (Settled entries) (Faulty entries) (ofEntries entries) := by
  rw [ofEntries_eq]
  have hthresholds := verdict_field "warning_thresholds" default.thresholds verdict_percentages entries
  have hcommand := verdict_field "battery_command" default.batteryCommand verdict_commandWords entries
  have hicons := verdict_field "icon_dir" default.iconDirectory (verdict_single path) entries
  have hsystem := verdict_field "system_config_dir" default.systemDirectory (verdict_single path) entries
  have hflag := verdict_field "use_notifications" default.notifications (verdict_single flag) entries
  refine (((((hthresholds.both hcommand ?_).both hicons ?_).both hsystem ?_).both hflag ?_).map _).congr
    (fun s => ?_) fun p => ?_
  · exact fun p q hp hq => before_of_fields (by decide) hp hq
  · rintro p q (hp | hp) hq <;> exact before_of_fields (by decide) hp hq
  · rintro p q ((hp | hp) | hp) hq <;> exact before_of_fields (by decide) hp hq
  · rintro p q (((hp | hp) | hp) | hp) hq <;> exact before_of_fields (by decide) hp hq
  · constructor
    · exact fun ⟨t, c, i, d, n⟩ => ⟨((((_, _), _), _), _), ⟨⟨⟨⟨t, c⟩, i⟩, d⟩, n⟩, rfl⟩
    · rintro ⟨z, ⟨⟨⟨⟨t, c⟩, i⟩, d⟩, n⟩, rfl⟩
      exact ⟨t, c, i, d, n⟩
  · constructor
    · rintro (h | h | h | h | h)
      · exact .inl (.inl (.inl (.inl h)))
      · exact .inl (.inl (.inl (.inr h)))
      · exact .inl (.inl (.inr h))
      · exact .inl (.inr h)
      · exact .inr h
    · rintro ((((h | h) | h) | h) | h)
      · exact .thresholds h
      · exact .batteryCommand h
      · exact .iconDirectory h
      · exact .systemDirectory h
      · exact .notifications h

/-! ## Keys of no setting -/

/-- Whether an entry is for a setting. -/
def isKnown (e : Value × Value) : Bool := keys.any fun key => isKey key e.1

theorem given?_filter_isKnown (hkey : key ∈ keys) (entries : List (Value × Value)) :
    given? key (entries.filter isKnown) = given? key entries := by
  have hknown : ∀ e : Value × Value, isKnown e = true ∧ isKey key e.1 = true ↔ isKey key e.1 = true := fun e =>
    and_iff_right_of_imp fun he => List.any_eq_true.2 ⟨key, hkey, he⟩
  rw [given?, given?, ← List.filter_reverse, List.find?_filter]
  simp only [hknown, Bool.decide_eq_true]

theorem field_filter_isKnown (hkey : key ∈ keys) (otherwise : α) (read : Value → Except Faults α)
    (entries : List (Value × Value)) :
    field key otherwise read (entries.filter isKnown) = field key otherwise read entries := by
  rw [field, field, given?_filter_isKnown hkey]

theorem ofEntries_filter_isKnown (entries : List (Value × Value)) :
    ofEntries (entries.filter isKnown) = ofEntries entries := by
  unfold ofEntries
  rw [field_filter_isKnown (by decide), field_filter_isKnown (by decide), field_filter_isKnown (by decide),
    field_filter_isKnown (by decide), field_filter_isKnown (by decide)]

/-! ## Documents -/

theorem isPercentage_thresholds {s : Settings} (h : Settled entries s) : ∀ x ∈ s.thresholds, IsPercentage x := by
  rcases h.thresholds with ⟨v, -, -, hx⟩ | ⟨-, hdefault⟩
  · exact hx
  · rw [hdefault]
    unfold IsPercentage
    decide +kernel

theorem batteryCommand_ne_nil {s : Settings} (h : Settled entries s) : s.batteryCommand ≠ [] := by
  rcases h.batteryCommand with ⟨v, -, -, hne⟩ | ⟨-, hdefault⟩
  · exact hne
  · rw [hdefault]
    decide

/-- **Settings are read as a whole or not at all.**  A document gives settings exactly if it is a mapping of which each
setting takes what its value reads as, or its default if it has no value.  All thresholds are then finite percentages, as
many as there are items and in their order, and the command has a word.  A mapping fails exactly if it has a fault; all
its faults are then told, each once and in the order of the settings.  Keys of no setting do not count.  What is no
mapping fails as such. -/
theorem validate_all_or_nothing (v : Value) :
    (∀ s, validate v = .ok s ↔ ∃ entries, v = .mapping entries ∧ Settled entries s) ∧
    (∀ s, validate v = .ok s →
      (∀ x ∈ s.thresholds, 0 ≤ x ∧ x ≤ 100 ∧ x.isFinite = true) ∧ s.batteryCommand ≠ [] ∧
      ∀ entries w, v = .mapping entries → Gives entries "warning_thresholds" w →
        ∃ ws, (w = .list ws ∨ w = .set ws) ∧ s.thresholds.length = ws.length ∧
          List.Forall₂ (fun w x => number w = .ok x) ws s.thresholds) ∧
    (∀ entries, v = .mapping entries →
      validate v = validate (.mapping (entries.filter isKnown)) ∧
      ((∃ ps, validate v = .error ps) ↔ ∃ p, Faulty entries p) ∧
      ∀ ps, validate v = .error ps → ps ≠ [] ∧ ps.Pairwise Before ∧ ∀ p, p ∈ ps ↔ Faulty entries p) ∧
    ((∀ entries, v ≠ .mapping entries) → validate v = .error [⟨none, none, .notAMapping⟩]) := by
  have hreads : ∀ s, validate v = .ok s ↔ ∃ entries, v = .mapping entries ∧ Settled entries s := by
    intro s
    unfold validate
    split
    · next entries => simp [(verdict_ofEntries entries).reads_iff]
    · next hnot => exact ⟨nofun, fun ⟨entries, hv, _⟩ => absurd hv (hnot entries)⟩
  refine ⟨hreads, fun s hs => ?_, ?_, fun hnot => ?_⟩
  · obtain ⟨entries, rfl, hsettled⟩ := (hreads s).1 hs
    refine ⟨fun x hx => ?_, batteryCommand_ne_nil hsettled, ?_⟩
    · have hpercentage := isPercentage_thresholds hsettled x hx
      exact ⟨hpercentage.1, hpercentage.2, hpercentage.isFinite⟩
    · intro entries' w hv hw
      cases hv
      rcases hsettled.thresholds with ⟨w', hw', ⟨ws, hws, heach⟩, -⟩ | ⟨hnone, -⟩
      · cases (given?_eq_some_iff.2 hw).symm.trans (given?_eq_some_iff.2 hw')
        exact ⟨ws, hws, heach.length_eq.symm, heach⟩
      · exact absurd ⟨w, hw⟩ hnone
  · rintro entries rfl
    exact ⟨(ofEntries_filter_isKnown entries).symm, (verdict_ofEntries entries).fails_iff,
      fun ps => (verdict_ofEntries entries).failed⟩
  · unfold validate
    split
    · next entries => exact absurd rfl (hnot entries)
    · rfl

/-- A mapping that spells its values in unusual ways and has a key of no setting. -/
def spelled : List (Value × Value) :=
  [(.text "warning_thresholds", .list [.text " 3 ", .flag true, .integer 10]), (.text "colour", .null),
    (.text "use_notifications", .text "Off")]

/-- A mapping with a threshold that is not a number and a word that is no truth value. -/
def misspelled : List (Value × Value) :=
  [(.text "use_notifications", .text "maybe"), (.text "warning_thresholds", .list [.integer 120, .real .notANumber])]

theorem validate_all_or_nothing_spelled :
    (∃ s, validate (.mapping spelled) = .ok s ∧ Settled spelled s ∧ s.thresholds.length = 3 ∧ s.batteryCommand ≠ []) ∧
    (∃ ps, validate (.mapping misspelled) = .error ps ∧ ps.Pairwise Before ∧
      ⟨some "use_notifications", none, .notABooleanWord⟩ ∈ ps) ∧
    validate .null = .error [⟨none, none, .notAMapping⟩] := by
  refine ⟨?_, ?_, ?_⟩
  · have hresult : (validate (.mapping spelled)).toOption =
        some { default with thresholds := [3, 1, 10], notifications := false } := by decide +kernel
    obtain ⟨hreads, hvalues, -⟩ := validate_all_or_nothing (.mapping spelled)
    cases hs : validate (.mapping spelled) with
    | error ps =>
      rw [hs] at hresult
      cases hresult
    | ok s =>
      rw [hs] at hresult
      cases hresult
      obtain ⟨entries, hentries, hsettled⟩ := (hreads _).1 hs
      cases hentries
      exact ⟨_, rfl, hsettled, rfl, (hvalues _ hs).2.1⟩
  · obtain ⟨-, hfails, htold⟩ := (validate_all_or_nothing (.mapping misspelled)).2.2.1 misspelled rfl
    have hfault : Faulty misspelled ⟨some "use_notifications", none, .notABooleanWord⟩ :=
      .notifications ⟨_, ⟨[], _, rfl, by simp⟩, (none, .notABooleanWord), ⟨rfl, rfl⟩, rfl⟩
    obtain ⟨ps, hps⟩ := hfails.2 ⟨_, hfault⟩
    obtain ⟨-, hsorted, hmem⟩ := htold ps hps
    exact ⟨ps, hps, hsorted, (hmem _).2 hfault⟩
  · exact (validate_all_or_nothing .null).2.2.2 nofun

end Settings
end BatteryIndicator
