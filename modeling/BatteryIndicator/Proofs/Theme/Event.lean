import BatteryIndicator.Proofs.Theme.Shape
import Mathlib.Algebra.Group.Int.Defs
import Mathlib.Algebra.Group.Nat.Defs
import Mathlib.Data.List.Basic
/-!
# Event — what attaching an event changes

A name, a token and an index mean one step of one theme, or none (`Token.Names`, `Meant`).  Attaching an event puts it in
the place of the one that this step has, and every other step, every theme around the steps, the names and the default
stay (`Attached`).  If there is no such step, what is missing is told in the order theme, direction, index (`Attempt`).
-/
namespace BatteryIndicator

namespace Direction

/-- A token is a direction that selects a step set of its own, or its name in any case and with blanks around it. -/
def Token.Names (token : Token) (d : Direction) : Prop :=
  (d = .charging ∨ d = .discharging) ∧
    (token = .direction d ∨ ∃ s, token = .text s ∧ Text.lower (Text.trim s.toList) = d.name.toList)

theorem Token.resolve?_eq_some_iff {token : Token} {d : Direction} : token.resolve? = some d ↔ token.Names d := by
  cases token with
  | direction e => cases e <;> cases d <;> simp [Token.resolve?, Token.Names]
  | text s =>
    have hname : ∀ e : Direction, Token.text s = .direction e ↔ False := fun e => ⟨nofun, nofun⟩
    simp only [Token.Names, Token.text.injEq, hname, false_or, exists_eq_left', Token.resolve?]
    by_cases hcharging : Text.lower (Text.trim s.toList) = "charging".toList
    · rw [if_pos hcharging, hcharging]
      cases d <;> simp [Direction.name]
    rw [if_neg hcharging]
    by_cases hdischarging : Text.lower (Text.trim s.toList) = "discharging".toList
    · rw [if_pos hdischarging, hdischarging]
      cases d <;> simp [Direction.name]
    rw [if_neg hdischarging]
    refine ⟨nofun, ?_⟩
    rintro ⟨rfl | rfl, h⟩
    · exact absurd h hcharging
    · exact absurd h hdischarging
  | other v => simp [Token.resolve?, Token.Names]

theorem Token.Names.unique {token : Token} {d e : Direction} (hd : token.Names d) (he : token.Names e) : d = e :=
  Option.some.inj ((Token.resolve?_eq_some_iff.2 hd).symm.trans (Token.resolve?_eq_some_iff.2 he))

end Direction

namespace Theme

variable {index : Int} {length k : Nat}

/-- The position that an index means, counted from the first step or back from the end. -/
def Meant (index : Int) (length k : Nat) : Prop :=
  k < length ∧ (index = k ∨ index = k - length)

theorem exists_meant_iff : (∃ k, Meant index length k) ↔ -(length : Int) ≤ index ∧ index < length := by
  constructor
  · rintro ⟨k, hk, rfl | rfl⟩ <;> omega
  · rintro ⟨hlow, hhigh⟩
    by_cases h : 0 ≤ index
    · exact ⟨index.toNat, by unfold Meant; omega⟩
    · exact ⟨(length + index).toNat, by unfold Meant; omega⟩

theorem meant_of_position (h : position length index = .ok k) : Meant index length k := by
  unfold position at h
  unfold Meant
  split at h
  · cases h
  split at h
  · cases h; omega
  split at h
  · cases h; omega
  · cases h

/-- The place of a token and an index is that of a step. -/
theorem lt_of_place {σ : Type} {t : Theme σ} {token : Direction.Token} {p : Direction × Nat}
    (h : t.place index token = .ok p) : p.2 < (t.stepsFor p.1).length := by
  unfold place at h
  split at h
  · cases h
  · next d _ =>
    cases hk : position (t.stepsFor d).length index with
    | ok k =>
      rw [hk] at h
      cases h
      exact (meant_of_position hk).1
    | error f =>
      rw [hk] at h
      cases h

/-- Why an index means no position: beyond 64 bits it means none in any list. -/
def indexFailure (index : Int) : Failure :=
  if -2 ^ 63 ≤ index ∧ index < 2 ^ 63 then .noSuchItem else .indexTooLarge

/-- **An index means a position of a list that is not too long for any index**, or is refused. -/
theorem position_cases (hlength : length ≤ 2 ^ 63) (index : Int) :
    (∃ k, position length index = .ok k ∧ Meant index length k) ∨
      position length index = .error (indexFailure index) ∧ ¬∃ k, Meant index length k := by
  have hbound : indexBound = 2 ^ 63 := rfl
  rw [exists_meant_iff]
  unfold position indexFailure Meant
  rw [hbound]
  split
  · rw [if_neg (by omega)]
    exact .inr ⟨rfl, by omega⟩
  split
  · exact .inl ⟨_, rfl, by omega⟩
  split
  · exact .inl ⟨_, rfl, by omega⟩
  · rw [if_pos (by omega)]
    exact .inr ⟨rfl, by omega⟩

theorem stepsFor_eq_of_sameSet {σ : Type} {d e : Direction} (h : SameSet d e) (t : Theme σ) : t.stepsFor d = t.stepsFor e := by
  cases d <;> cases e <;> simp_all [SameSet, stepsFor]

/-- The event of one step replaced. -/
theorem getElem?_stepsFor_attach (d e : Direction) (k j : Nat) (callback : Callback) (t : Theme Step) :
    ((t.putSteps d ((t.stepsFor d).modify k fun s => { s with event := some callback })).stepsFor e)[j]? =
      if SameSet d e ∧ k = j then (t.stepsFor e)[j]?.map fun s => { s with event := some callback }
      else (t.stepsFor e)[j]? := by
  rw [stepsFor_putSteps]
  by_cases hset : SameSet d e
  · rw [if_pos hset, stepsFor_eq_of_sameSet hset, List.getElem?_modify]
    by_cases hk : k = j
    · simp [hk, hset]
    · simp [hk]
  · simp [hset]

end Theme

namespace Registry

open Theme (SameSet Meant indexFailure)

variable {name : String} {index : Int} {callback : Callback} {token : Direction.Token}
  {r : Registry (Theme Step)}

/-- A step of a registered theme. -/
def step? (name : String) (d : Direction) (k : Nat) (r : Registry (Theme Step)) : Option Step :=
  (r.theme? name).bind fun t => (t.stepsFor d)[k]?

/-- The registries are the same but for the event of one step. -/
structure Attached (name : String) (d : Direction) (k : Nat) (callback : Callback) (r r' : Registry (Theme Step)) :
    Prop where
  names : r'.names = r.names
  default? : r'.default? = r.default?
  around : ∀ n, (r'.theme? n).map (fun t => (t.stepCount, t.directory)) =
    (r.theme? n).map fun t => (t.stepCount, t.directory)
  step? : ∀ n e j, r'.step? n e j =
    if n = name ∧ SameSet d e ∧ j = k then (r.step? n e j).map fun s => { s with event := some callback }
    else r.step? n e j

theorem attached_register {t : Theme Step} (ht : r.theme? name = some t) (d : Direction) (k : Nat)
    (callback : Callback) :
    Attached name d k callback r (r.register name
      (t.putSteps d ((t.stepsFor d).modify k fun s => { s with event := some callback }))) := by
  refine ⟨?_, rfl, fun n => ?_, fun n e j => ?_⟩
  · rw [names_register, if_pos ((contains_iff name r).1 (Option.isSome_iff_exists.2 ⟨t, ht⟩))]
  · rw [theme?_register]
    split
    · next hn =>
      rw [← hn, ht]
      cases d <;> rfl
    · rfl
  · rw [Registry.step?, Registry.step?, theme?_register]
    by_cases hn : name = n
    · subst hn
      rw [if_pos rfl, ht, Option.bind_some, Option.bind_some, Theme.getElem?_stepsFor_attach]
      simp [eq_comm]
    · rw [if_neg hn, if_neg fun h => hn h.1.symm]

/-- What comes of attaching an event: it is attached to the step that is meant, or the first thing that is missing is
told. -/
inductive Attempt (name : String) (index : Int) (callback : Callback) (token : Direction.Token)
    (r : Registry (Theme Step)) : Except Failure (Registry (Theme Step)) → Prop
  | attached {t d k r'} (ht : r.theme? name = some t) (hd : token.Names d) (hk : Meant index (t.stepsFor d).length k)
    (h : Attached name d k callback r r') : Attempt name index callback token r (.ok r')
  | unknownTheme (ht : r.theme? name = none) : Attempt name index callback token r (.error (.unknownTheme name))
  | invalidDirection {t} (ht : r.theme? name = some t) (hd : ∀ d, ¬token.Names d) :
    Attempt name index callback token r (.error (.invalidDirection token))
  | noSuchStep {t d} (ht : r.theme? name = some t) (hd : token.Names d)
    (hk : ¬∃ k, Meant index (t.stepsFor d).length k) : Attempt name index callback token r (.error (indexFailure index))

/-- No step set is too long for an index. -/
def Indexed (r : Registry (Theme Step)) : Prop := ∀ name t, r.theme? name = some t → ∀ d, (t.stepsFor d).length ≤ 2 ^ 63

theorem attempt_setEvent (hr : r.Indexed) (name : String) (index : Int) (callback : Callback)
    (token : Direction.Token) : Attempt name index callback token r (r.setEvent name index callback token) := by
  unfold setEvent
  cases ht : r.theme? name with
  | none => exact .unknownTheme ht
  | some t =>
    dsimp only
    unfold Theme.setEvent Theme.place
    cases hd : token.resolve? with
    | none =>
      refine .invalidDirection ht fun d hnames => ?_
      rw [Direction.Token.resolve?_eq_some_iff.2 hnames] at hd
      cases hd
    | some d =>
      have hnames := Direction.Token.resolve?_eq_some_iff.1 hd
      dsimp only
      rcases Theme.position_cases (hr name t ht d) index with ⟨k, hposition, hk⟩ | ⟨hposition, hk⟩
      · rw [hposition]
        exact .attached ht hnames hk (attached_register ht d k callback)
      · rw [hposition]
        exact .noSuchStep ht hnames hk

/-- **An event is attached exactly if there is the step that is meant.** -/
theorem setEvent_eq_ok_iff (hr : r.Indexed) :
    (∃ r', r.setEvent name index callback token = .ok r') ↔
      ∃ t d, r.theme? name = some t ∧ token.Names d ∧
        -((t.stepsFor d).length : Int) ≤ index ∧ index < (t.stepsFor d).length := by
  have hattempt := attempt_setEvent hr name index callback token
  constructor
  · rintro ⟨r', hr'⟩
    rw [hr'] at hattempt
    cases hattempt with
    | attached ht hd hk _ => exact ⟨_, _, ht, hd, Theme.exists_meant_iff.1 ⟨_, hk⟩⟩
  · rintro ⟨t, d, ht, hd, hindex⟩
    cases hresult : r.setEvent name index callback token with
    | ok r' => exact ⟨r', rfl⟩
    | error f =>
      rw [hresult] at hattempt
      -- each of the failures says that something of what is there is missing
      cases hattempt with
      | unknownTheme ht' => cases ht.symm.trans ht'
      | invalidDirection _ hd' => exact absurd hd (hd' d)
      | noSuchStep ht' hd' hk =>
        cases ht.symm.trans ht'
        cases hd.unique hd'
        exact absurd (Theme.exists_meant_iff.2 hindex) hk

end Registry
end BatteryIndicator
