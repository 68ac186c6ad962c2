import BatteryIndicator.Proofs.Theme.Event
import BatteryIndicator.Workbench
import Mathlib.Data.List.GetD
/-!
# WorkbenchFilled — a workbench that is filled from files and scripts is a registry

A workbench keeps steps and themes under numbers, so what is changed in one place may show in another.  Theme files and
scripts never bring two places together: every theme that is adopted has new steps, and every name a theme of its own
(`Apart`).  While this holds, what a workbench shows is a registry whose themes have their own steps (`Shows`), and each
deed comes to the same on both, failures included (`sameOutcome_perform`).
-/
namespace BatteryIndicator

open Theme (SameSet)

/-! ## Deeds -/

/-- What theme files and scripts do to a store of themes. -/
inductive Deed where
  /-- a theme file is read as far as it can be -/
  | file (s : Theme.File.Source)
  | makeDefault (name : String)
  | setEvent (name : String) (index : Int) (callback : Callback) (token : Direction.Token)
  | setDirectory (name : String) (directory : Path)

namespace Deed

variable {ρ : Type} [ThemeStore ρ]

def perform (r : ρ) : Deed → Except Failure ρ
  | .file s => .ok (ThemeStore.adoptAll s.reading.themes r)
  | .makeDefault name => .ok (ThemeStore.makeDefault name r)
  | .setEvent name index callback token => ThemeStore.setEvent name index callback token r
  | .setDirectory name directory => ThemeStore.setDirectory name directory r

/-- The store after a deed, which stays as it was if the deed fails. -/
def after (r : ρ) (d : Deed) : ρ :=
  match d.perform r with
  | .ok r => r
  | .error _ => r

end Deed

/-- The store after deeds. -/
def filled {ρ : Type} [ThemeStore ρ] (deeds : List Deed) (r : ρ) : ρ := deeds.foldl Deed.after r

/-! ## Numbers and views -/

namespace Theme

variable {σ τ : Type}

theorem eq_of_stepsFor {t t' : Theme σ} (hcount : t.stepCount = t'.stepCount) (hdirectory : t.directory = t'.directory)
    (hsteps : ∀ d (k : Nat), (t.stepsFor d)[k]? = (t'.stepsFor d)[k]?) : t = t' := by
  obtain ⟨count, directory, charging, discharging⟩ := t
  obtain ⟨count', directory', charging', discharging'⟩ := t'
  have hcharging : charging = charging' := List.ext_getElem? (hsteps .charging)
  have hdischarging : discharging = discharging' := List.ext_getElem? (hsteps .discharging)
  simp_all

theorem stepsFor_eq (d : Direction) (t : Theme σ) :
    t.stepsFor d = if d = .discharging then t.discharging else t.charging := by
  cases d <;> rfl

theorem place_map (f : σ → τ) (index : Int) (token : Direction.Token) (t : Theme σ) :
    (t.map f).place index token = t.place index token := by
  have hlength : ∀ d, ((t.map f).stepsFor d).length = (t.stepsFor d).length := fun d => by
    cases d <;> exact List.length_map f
  unfold place
  simp only [hlength]

end Theme

namespace Workbench

variable {w w' : Workbench} {name : String} {n : Nat}

/-- The number of the step at a place of a theme. -/
def numberAt (n : Nat) (d : Direction) (k : Nat) (w : Workbench) : Option Nat := ((w.theme n).stepsFor d)[k]?

theorem numberAt_eq_of_sameSet {d e : Direction} (h : SameSet d e) (n k : Nat) (w : Workbench) :
    w.numberAt n d k = w.numberAt n e k := by
  rw [numberAt, numberAt, Theme.stepsFor_eq_of_sameSet h]

theorem getElem?_stepsFor_view (n : Nat) (d : Direction) (k : Nat) (w : Workbench) :
    ((w.view n).stepsFor d)[k]? = (w.numberAt n d k).map fun m => w.step m := by
  cases d <;> exact List.getElem?_map

theorem view_congr (htheme : w'.theme n = w.theme n)
    (hsteps : ∀ d k m, w.numberAt n d k = some m → w'.step m = w.step m) : w'.view n = w.view n := by
  have hcount : (w'.theme n).stepCount = (w.theme n).stepCount := congrArg Theme.stepCount htheme
  have hdirectory : (w'.theme n).directory = (w.theme n).directory := congrArg Theme.directory htheme
  refine Theme.eq_of_stepsFor hcount hdirectory fun d k => ?_
  rw [getElem?_stepsFor_view, getElem?_stepsFor_view, numberAt, htheme]
  exact Option.map_congr fun m hm => hsteps d k m hm

theorem find?_register (key : String) (n : Nat) (w : Workbench) (name : String) :
    (w.register key (some n)).find? name = if key = name then some n else w.find? name := by
  show Option.join ((w.registry.register key (some n)).theme? name) = _
  rw [Registry.theme?_register]
  split <;> rfl

/-- **No two places of the workbench share**: a name has a theme of its own, and a step stands in one place. -/
structure Apart (w : Workbench) : Prop where
  theme_lt : ∀ name n, w.find? name = some n → n < w.themes.length
  one_name : ∀ a b n, w.find? a = some n → w.find? b = some n → a = b
  step_lt : ∀ n d k m, w.numberAt n d k = some m → m < w.steps.length
  one_place : ∀ n n' d d' k k' m, w.numberAt n d k = some m → w.numberAt n' d' k' = some m →
    n = n' ∧ SameSet d d' ∧ k = k'

/-- What the workbench shows is the registry. -/
structure Shows (w : Workbench) (r : Registry (Theme Step)) : Prop where
  names : w.registry.names = r.names
  default? : w.registry.default? = r.default?
  theme? : ∀ name, (w.find? name).map (fun n => w.view n) = r.theme? name

/-- A deed comes to the same in both: the same failure, or workbench and registry that belong together again. -/
inductive SameOutcome : Except Failure Workbench → Except Failure (Registry (Theme Step)) → Prop
  | ok {w r} (hapart : Apart w) (hshows : Shows w r) : SameOutcome (.ok w) (.ok r)
  | error (f : Failure) : SameOutcome (.error f) (.error f)

/-- Changes that leave the names and the numbers alone bring nothing together. -/
theorem Apart.congr (h : Apart w) (hfind : ∀ name, w'.find? name = w.find? name)
    (hthemes : w'.themes.length = w.themes.length) (hnumber : ∀ n d k, w'.numberAt n d k = w.numberAt n d k)
    (hsteps : w'.steps.length = w.steps.length) : Apart w' := by
  refine ⟨fun name n hn => ?_, fun a b n ha hb => ?_, fun n d k m hm => ?_, fun n n' d d' k k' m hm hm' => ?_⟩
  · rw [hthemes]
    exact h.theme_lt name n (hfind name ▸ hn)
  · exact h.one_name a b n (hfind a ▸ ha) (hfind b ▸ hb)
  · rw [hsteps]
    exact h.step_lt n d k m (hnumber n d k ▸ hm)
  · exact h.one_place n n' d d' k k' m (hnumber n d k ▸ hm) (hnumber n' d' k' ▸ hm')

theorem apart_empty : Apart .empty := by
  have hnumber : ∀ n d k, numberAt n d k .empty = none := fun n d k => by cases d <;> rfl
  refine ⟨nofun, nofun, fun n d k m hm => ?_, fun n n' d d' k k' m hm _ => ?_⟩
  · rw [hnumber] at hm; cases hm
  · rw [hnumber] at hm; cases hm

theorem shows_empty : Shows .empty .empty := ⟨rfl, rfl, fun _ => rfl⟩

/-! ## Adopting a theme -/

variable (t : Theme Step)

/-- The number of the first step of a theme that is adopted: its charging steps come first. -/
def firstNumber (d : Direction) (w : Workbench) : Nat :=
  if d = .discharging then w.steps.length + t.charging.length else w.steps.length

/-- The numbers of its steps are new, and each is that of one of them. -/
theorem firstNumber_bounds {d : Direction} {k : Nat} (hk : k < (t.stepsFor d).length) (w : Workbench) :
    w.steps.length ≤ firstNumber t d w + k ∧
      firstNumber t d w + k < w.steps.length + t.charging.length + t.discharging.length := by
  rw [Theme.stepsFor_eq] at hk
  unfold firstNumber
  split at hk <;> simp_all <;> omega

theorem firstNumber_inj {d d' : Direction} {k k' : Nat} (hk : k < (t.stepsFor d).length)
    (hk' : k' < (t.stepsFor d').length) (h : firstNumber t d w + k = firstNumber t d' w + k') :
    SameSet d d' ∧ k = k' := by
  rw [Theme.stepsFor_eq] at hk hk'
  unfold firstNumber at h
  by_cases hd : d = .discharging <;> by_cases hd' : d' = .discharging <;> simp only [hd, hd', if_true, if_false] at hk hk' h
  · exact ⟨by simp [SameSet, hd, hd'], by omega⟩
  · omega
  · omega
  · exact ⟨by simp [SameSet, hd, hd'], by omega⟩

theorem theme_adopt_old (name : String) (hn : n < w.themes.length) : (w.adopt name t).theme n = w.theme n :=
  List.getD_append _ _ _ _ hn

theorem theme_adopt_new (name : String) (w : Workbench) : (w.adopt name t).theme w.themes.length =
    ⟨t.stepCount, t.directory, List.range' w.steps.length t.charging.length,
      List.range' (w.steps ++ t.charging).length t.discharging.length⟩ := by
  show (w.themes ++ [_]).getD w.themes.length _ = _
  rw [List.getD_append_right _ _ _ _ (Nat.le_refl _), Nat.sub_self]
  rfl

theorem numberAt_adopt_new (name : String) (w : Workbench) (d : Direction) (k : Nat) :
    (w.adopt name t).numberAt w.themes.length d k =
      if k < (t.stepsFor d).length then some (firstNumber t d w + k) else none := by
  rw [numberAt, theme_adopt_new, Theme.stepsFor_eq, Theme.stepsFor_eq, firstNumber, List.length_append]
  split <;> split
  · next hk => rw [List.getElem?_range' hk, Nat.one_mul]
  · next hk => exact List.getElem?_eq_none (by simpa using hk)
  · next hk => rw [List.getElem?_range' hk, Nat.one_mul]
  · next hk => exact List.getElem?_eq_none (by simpa using hk)

/-- A place of the workbench is one that was there before or one of the new theme. -/
theorem numberAt_adopt {name : String} {d : Direction} {k m : Nat} (h : (w.adopt name t).numberAt n d k = some m) :
    n < w.themes.length ∧ w.numberAt n d k = some m ∨
      n = w.themes.length ∧ k < (t.stepsFor d).length ∧ m = firstNumber t d w + k := by
  rcases Nat.lt_trichotomy n w.themes.length with hn | rfl | hn
  · rw [numberAt, theme_adopt_old t name hn] at h
    exact .inl ⟨hn, h⟩
  · rw [numberAt_adopt_new] at h
    split at h
    · next hk => cases h; exact .inr ⟨rfl, hk, rfl⟩
    · cases h
  · have hnone : (w.adopt name t).theme n = default := by
      show (w.themes ++ [_]).getD n _ = _
      exact List.getD_eq_default _ _ (by simpa using Nat.succ_le_of_lt hn)
    rw [numberAt, hnone] at h
    cases d <;> cases h

theorem step_adopt_old (name : String) {m : Nat} (hm : m < w.steps.length) : (w.adopt name t).step m = w.step m := by
  show (w.steps ++ t.charging ++ t.discharging).getD m _ = _
  rw [List.append_assoc, List.getD_append _ _ _ _ hm]
  rfl

theorem step_adopt_new (name : String) (w : Workbench) {d : Direction} {k : Nat} (hk : k < (t.stepsFor d).length) :
    some ((w.adopt name t).step (firstNumber t d w + k)) = (t.stepsFor d)[k]? := by
  have hplace : (w.steps ++ t.charging ++ t.discharging)[firstNumber t d w + k]? = (t.stepsFor d)[k]? := by
    rw [Theme.stepsFor_eq] at hk ⊢
    unfold firstNumber
    split at hk
    · next hd =>
      rw [if_pos hd, if_pos hd, ← List.length_append, List.getElem?_append_right (by omega), Nat.add_sub_cancel_left]
    · next hd =>
      rw [if_neg hd, if_neg hd, List.append_assoc, List.getElem?_append_right (by omega), Nat.add_sub_cancel_left,
        List.getElem?_append_left hk]
  show some ((w.steps ++ t.charging ++ t.discharging).getD _ _) = _
  rw [List.getD_eq_getElem?_getD, hplace, List.getElem?_eq_getElem hk]
  rfl

theorem view_adopt_new (name : String) (w : Workbench) : (w.adopt name t).view w.themes.length = t := by
  refine Theme.eq_of_stepsFor ?_ ?_ fun d k => ?_
  · show ((w.adopt name t).theme w.themes.length).stepCount = _
    rw [theme_adopt_new]
  · show ((w.adopt name t).theme w.themes.length).directory = _
    rw [theme_adopt_new]
  · rw [getElem?_stepsFor_view, numberAt_adopt_new]
    split
    · next hk => rw [Option.map_some, step_adopt_new t name w hk]
    · next hk => rw [Option.map_none, List.getElem?_eq_none (by omega)]

theorem view_adopt_old (h : Apart w) (name : String) (hn : n < w.themes.length) :
    (w.adopt name t).view n = w.view n :=
  view_congr (theme_adopt_old t name hn) fun d k m hm => step_adopt_old t name (h.step_lt n d k m hm)

theorem find?_adopt (name : String) (w : Workbench) (other : String) :
    (w.adopt name t).find? other = if name = other then some w.themes.length else w.find? other :=
  find?_register name w.themes.length _ other

theorem apart_adopt (h : Apart w) (name : String) : Apart (w.adopt name t) := by
  have hthemes : (w.adopt name t).themes.length = w.themes.length + 1 := List.length_append
  have hsteps : (w.adopt name t).steps.length = w.steps.length + t.charging.length + t.discharging.length := by
    show (w.steps ++ t.charging ++ t.discharging).length = _
    rw [List.length_append, List.length_append]
  refine ⟨fun other n hn => ?_, fun a b n ha hb => ?_, fun n d k m hm => ?_, fun n n' d d' k k' m hm hm' => ?_⟩
  · rw [find?_adopt] at hn
    split at hn
    · cases hn; omega
    · have := h.theme_lt other n hn; omega
  · rw [find?_adopt] at ha hb
    split at ha <;> split at hb
    · next hname hname' => exact hname.symm.trans hname'
    · cases ha; exact absurd (h.theme_lt b _ hb) (Nat.lt_irrefl _)
    · cases hb; exact absurd (h.theme_lt a _ ha) (Nat.lt_irrefl _)
    · exact h.one_name a b n ha hb
  · rw [hsteps]
    rcases numberAt_adopt t hm with ⟨-, hold⟩ | ⟨-, hk, rfl⟩
    · have := h.step_lt n d k m hold
      omega
    · exact (firstNumber_bounds t hk w).2
  · -- what is old lies below what is new
    rcases numberAt_adopt t hm with ⟨-, hold⟩ | ⟨rfl, hk, rfl⟩
    · rcases numberAt_adopt t hm' with ⟨-, hold'⟩ | ⟨-, hk', rfl⟩
      · exact h.one_place n n' d d' k k' m hold hold'
      · exact absurd (h.step_lt n d k _ hold) (Nat.not_lt.2 (firstNumber_bounds t hk' w).1)
    · rcases numberAt_adopt t hm' with ⟨-, hold'⟩ | ⟨rfl, hk', heq⟩
      · exact absurd (h.step_lt n' d' k' _ hold') (Nat.not_lt.2 (firstNumber_bounds t hk w).1)
      · exact ⟨rfl, firstNumber_inj t hk hk' heq⟩

theorem shows_adopt {r : Registry (Theme Step)} (h : Apart w) (hs : Shows w r) (name : String) :
    Shows (w.adopt name t) (r.register name t) := by
  refine ⟨?_, hs.default?, fun other => ?_⟩
  · show (w.registry.register name (some w.themes.length)).names = _
    rw [Registry.names_register, Registry.names_register, hs.names]
  · rw [find?_adopt, Registry.theme?_register]
    split
    · rw [Option.map_some, view_adopt_new]
    · rw [← hs.theme? other]
      exact Option.map_congr fun n hn => view_adopt_old t h name (h.theme_lt other n hn)

/-! ## Changing one theme -/

/-- The theme of a name changed, and no other. -/
theorem Shows.replaced {r : Registry (Theme Step)} {t : Theme Step} (h : Apart w) (hs : Shows w r)
    (hname : w.find? name = some n) (hregistry : w'.registry = w.registry) (hown : w'.view n = t)
    (hothers : ∀ j, j ≠ n → w'.view j = w.view j) : Shows w' (r.register name t) := by
  have hfind : ∀ other, w'.find? other = w.find? other := fun other => by rw [find?, find?, hregistry]
  have ht : r.theme? name = some (w.view n) := by rw [← hs.theme? name, hname]; rfl
  refine ⟨?_, ?_, fun other => ?_⟩
  · rw [hregistry, hs.names, Registry.names_register,
      if_pos ((Registry.contains_iff name r).1 (Option.isSome_iff_exists.2 ⟨_, ht⟩))]
  · rw [hregistry]
    exact hs.default?
  · rw [hfind, Registry.theme?_register]
    split
    · next heq => rw [← heq, hname, Option.map_some, hown]
    · next hne =>
      rw [← hs.theme? other]
      exact Option.map_congr fun j hj => hothers j fun heq => hne (h.one_name name other n hname (heq ▸ hj))

theorem theme_putTheme (hn : n < w.themes.length) (t : Theme Nat) (j : Nat) :
    (w.putTheme n t).theme j = if n = j then t else w.theme j := by
  show (w.themes.set n t).getD j _ = _
  rw [List.getD_eq_getElem?_getD, List.getElem?_set, if_pos hn]
  split
  · rfl
  · rw [theme, List.getD_eq_getElem?_getD]

theorem sameOutcome_setDirectory {r : Registry (Theme Step)} (h : Apart w) (hs : Shows w r) (name : String)
    (directory : Path) : SameOutcome (w.setDirectoryOf name directory) (r.setDirectory name directory) := by
  unfold setDirectoryOf Registry.setDirectory
  rw [← hs.theme? name]
  cases hname : w.find? name with
  | none => exact .error _
  | some n =>
    have hn := h.theme_lt name n hname
    have htheme := theme_putTheme hn ((w.theme n).setDirectory directory)
    refine .ok (h.congr (fun _ => rfl) List.length_set (fun j d k => ?_) rfl) (hs.replaced h hname rfl ?_ fun j hj => ?_)
    · rw [numberAt, setDirectory, htheme]
      split
      · next heq =>
        rw [← heq]
        cases d <;> rfl
      · rfl
    · rw [view, setDirectory, htheme, if_pos rfl]
      rfl
    · refine view_congr ?_ fun _ _ _ _ => rfl
      rw [setDirectory, htheme, if_neg (Ne.symm hj)]

/-- The event of the step under a number replaced. -/
def attach (m : Nat) (callback : Callback) (w : Workbench) : Workbench :=
  { w with steps := w.steps.modify m fun s => { s with event := some callback } }

theorem step_attach {m : Nat} (hm : m < w.steps.length) (callback : Callback) (j : Nat) :
    (w.attach m callback).step j = if m = j then { w.step j with event := some callback } else w.step j := by
  show (w.steps.modify m _).getD j _ = _
  rw [List.getD_eq_getElem?_getD, List.getElem?_modify, step, List.getD_eq_getElem?_getD]
  split
  · next heq =>
    rw [← heq, List.getElem?_eq_getElem hm]
    rfl
  · exact congrArg (Option.getD · _) Option.map_id'

theorem apart_attach (h : Apart w) (m : Nat) (callback : Callback) : Apart (w.attach m callback) :=
  h.congr (fun _ => rfl) rfl (fun _ _ _ => rfl) (List.length_modify _ _ _)

/-- **An event shows at the one place where its step stands**, and nowhere else. -/
theorem view_attach (h : Apart w) {d : Direction} {k m : Nat} (hm : w.numberAt n d k = some m) (callback : Callback) :
    (w.attach m callback).view n =
        (w.view n).putSteps d (((w.view n).stepsFor d).modify k fun s => { s with event := some callback }) ∧
      ∀ j, j ≠ n → (w.attach m callback).view j = w.view j := by
  have hlt := h.step_lt n d k m hm
  constructor
  · refine Theme.eq_of_stepsFor (by cases d <;> rfl) (by cases d <;> rfl) fun e j => ?_
    rw [getElem?_stepsFor_view, Theme.getElem?_stepsFor_attach, getElem?_stepsFor_view]
    show (w.numberAt n e j).map _ = _
    cases hj : w.numberAt n e j with
    | none => simp
    | some m' =>
      rw [Option.map_some, step_attach hlt]
      by_cases hsame : SameSet d e ∧ k = j
      · obtain ⟨hset, rfl⟩ := hsame
        have heq : m = m' := Option.some.inj (hm.symm.trans ((numberAt_eq_of_sameSet hset n k w).trans hj))
        rw [if_pos heq, if_pos ⟨hset, rfl⟩]
        rfl
      · have hne : m ≠ m' := by
          rintro rfl
          exact hsame (h.one_place n n d e k j m hm hj).2
        rw [if_neg hne, if_neg hsame]
        rfl
  · intro j hj
    refine view_congr rfl fun e i m' hm' => ?_
    rw [step_attach hlt, if_neg]
    rintro rfl
    exact hj (h.one_place n j d e k i m hm hm').1.symm

theorem setEvent_eq_attach {index : Int} {token : Direction.Token} {p : Direction × Nat} {m : Nat}
    (hp : (w.theme n).place index token = .ok p) (hm : w.numberAt n p.1 p.2 = some m) (callback : Callback) :
    w.setEvent n index callback token = .ok (w.attach m callback) := by
  rw [numberAt] at hm
  rw [setEvent, hp, Except.map, hm]
  rfl

theorem sameOutcome_setEvent {r : Registry (Theme Step)} (h : Apart w) (hs : Shows w r) (name : String) (index : Int)
    (callback : Callback) (token : Direction.Token) :
    SameOutcome (w.setEventOf name index callback token) (r.setEvent name index callback token) := by
  unfold setEventOf Registry.setEvent
  rw [← hs.theme? name]
  cases hname : w.find? name with
  | none => exact .error _
  | some n =>
    have hplace : (w.view n).place index token = (w.theme n).place index token := Theme.place_map _ index token _
    dsimp only [Option.map_some]
    rw [Theme.setEvent, hplace]
    cases hp : (w.theme n).place index token with
    | error f =>
      rw [setEvent, hp]
      exact .error f
    | ok p =>
      have hm : w.numberAt n p.1 p.2 = some _ := List.getElem?_eq_getElem (Theme.lt_of_place hp)
      have hview := view_attach h hm callback
      rw [setEvent_eq_attach hp hm]
      exact .ok (apart_attach h _ callback) (hs.replaced h hname rfl hview.1 hview.2)

theorem sameOutcome_perform {r : Registry (Theme Step)} (h : Apart w) (hs : Shows w r) (deed : Deed) :
    SameOutcome (deed.perform w) (deed.perform r) := by
  cases deed with
  | file s =>
    have hall : ∀ (ts : List (String × Theme Step)) (w : Workbench) (r : Registry (Theme Step)), Apart w → Shows w r →
        SameOutcome (.ok (ThemeStore.adoptAll ts w)) (.ok (ThemeStore.adoptAll ts r)) := by
      intro ts
      induction ts with
      | nil => exact fun w r h hs => .ok h hs
      | cons t ts ih => exact fun w r h hs => ih _ _ (apart_adopt t.2 h t.1) (shows_adopt t.2 h hs t.1)
    exact hall s.reading.themes w r h hs
  | makeDefault name =>
    exact .ok (h.congr (fun _ => rfl) rfl (fun _ _ _ => rfl) rfl) ⟨hs.names, rfl, hs.theme?⟩
  | setEvent name index callback token => exact sameOutcome_setEvent h hs name index callback token
  | setDirectory name directory => exact sameOutcome_setDirectory h hs name directory

/-- The same for the deed and what is left if it fails. -/
theorem after_both {r : Registry (Theme Step)} (h : Apart w) (hs : Shows w r) (deed : Deed) :
    Apart (deed.after w) ∧ Shows (deed.after w) (deed.after r) := by
  have hsame := sameOutcome_perform h hs deed
  unfold Deed.after
  generalize deed.perform w = a at hsame ⊢
  generalize deed.perform r = b at hsame ⊢
  cases hsame with
  | ok h' hs' => exact ⟨h', hs'⟩
  | error f => exact ⟨h, hs⟩

/-- **A workbench that is filled from files and scripts shows the registry that is filled alike.** -/
theorem shows_filled (deeds : List Deed) :
    Apart (filled deeds empty) ∧ Shows (filled deeds empty) (filled deeds Registry.empty) := by
  have hall : ∀ (deeds : List Deed) (w : Workbench) (r : Registry (Theme Step)), Apart w → Shows w r →
      Apart (filled deeds w) ∧ Shows (filled deeds w) (filled deeds r) := by
    intro deeds
    induction deeds with
    | nil => exact fun w r h hs => ⟨h, hs⟩
    | cons deed deeds ih =>
      intro w r h hs
      obtain ⟨h', hs'⟩ := after_both h hs deed
      exact ih _ _ h' hs'
  exact hall deeds empty Registry.empty apart_empty shows_empty

end Workbench
end BatteryIndicator
