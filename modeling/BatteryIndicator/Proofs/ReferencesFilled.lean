import BatteryIndicator.Environment
import BatteryIndicator.Proofs.Number.Digits
/-!
# ReferencesFilled — literals, references between them, and what they become

A text is literals with references between them (`Template`), and every text is (`exists_text_eq`).  No reference stands
in a literal, though `$` and braces may, also where it meets a reference: none begins in a literal and ends behind it
(`reference?_of_plain`), since a name has no `$` in it.  So filling a text in leaves its literals as they are and puts
the texts of the names in the place of the references, whatever these texts are (`fill_template`).
-/
namespace BatteryIndicator
namespace Environment

open Text (IsRow isRow_takeWhile isWord)

variable {c : Char} {l name rest s x : List Char}

/-- The reference to a name. -/
def reference (name : List Char) : List Char := '$' :: '\x7b' :: (name ++ ['\x7d'])

/-- Text in which no reference stands. -/
def Plain (l : List Char) : Prop := ∀ name, IsRow isWord name → ¬reference name <:+: l

/-- A text as it is written: a literal, or a literal, a reference, and the text behind it. -/
inductive Template where
  | literal (l : List Char) (plain : Plain l)
  | reference (l : List Char) (plain : Plain l) (name : List Char) (row : IsRow isWord name) (rest : Template)

namespace Template

def text : Template → List Char
  | literal l _ => l
  | reference l _ name _ rest => l ++ (Environment.reference name ++ rest.text)

/-- The literals as they are, and between them the texts of the names, or nothing for a name that is not set. -/
def filled (env : Environment) : Template → List Char
  | literal l _ => l
  | reference l _ name _ rest => l ++ (((env.value? (String.ofList name)).getD "").toList ++ rest.filled env)

end Template

/-! ## References at the front -/

theorem name?_eq_some_iff : name? s = some (name, rest) ↔ IsRow isWord name ∧ s = name ++ '\x7d' :: rest := by
  constructor
  · intro h
    have hs : s.takeWhile isWord ++ s.dropWhile isWord = s := List.takeWhile_append_dropWhile
    unfold name? at h
    split at h
    · next c word after hword hafter =>
      obtain ⟨rfl, rfl⟩ := Prod.mk.inj (Option.some.inj h)
      refine ⟨hword ▸ isRow_takeWhile (by simp [hword]), ?_⟩
      rw [← hword, ← hafter, hs]
    · cases h
  · rintro ⟨hrow, rfl⟩
    have hclosing : isWord '\x7d' = false := by decide
    obtain ⟨c, word, rfl⟩ := List.exists_cons_of_ne_nil hrow.nonempty
    rw [name?, hrow.takeWhile_append rfl hclosing, hrow.dropWhile_append rfl hclosing]
    rfl

theorem reference?_eq_some_iff :
    reference? s = some (name, rest) ↔ IsRow isWord name ∧ s = reference name ++ rest := by
  unfold reference?
  split
  · next s => simp [name?_eq_some_iff, reference]
  · next hopening =>
    refine iff_of_false (by simp) fun ⟨_, hs⟩ => ?_
    exact hopening (name ++ '\x7d' :: rest) (by simp [hs, reference])

theorem dollar_not_mem (h : IsRow isWord name) : '$' ∉ '\x7b' :: (name ++ ['\x7d']) := by
  have hname : '$' ∉ name := fun hmem => absurd (h.all _ hmem) (by decide)
  simp [hname]

theorem Plain.tail (h : Plain (c :: l)) : Plain l := fun name hrow hin => h name hrow (List.infix_cons hin)

/-- **No reference begins in a literal**, neither one that ends there nor one that ends behind it. -/
theorem reference?_of_plain (h : Plain (c :: l)) (hx : ∀ d ∈ x.head?, d = '$') :
    reference? (c :: (l ++ x)) = none := by
  refine Option.eq_none_iff_forall_not_mem.2 fun ⟨name, rest⟩ hsome => ?_
  obtain ⟨hrow, hs⟩ := reference?_eq_some_iff.1 hsome
  rw [← List.cons_append] at hs
  rcases List.append_eq_append_iff.1 hs with ⟨beyond, hreference, hrest⟩ | ⟨more, hliteral, -⟩
  · cases beyond with
    | nil =>
      rw [List.append_nil] at hreference
      exact h name hrow (hreference ▸ List.infix_rfl)
    | cons d beyond =>
      -- what the reference has beyond the literal begins with a dollar sign of its own
      obtain rfl : d = '$' := hx d (by rw [hrest]; rfl)
      have htail : '\x7b' :: (name ++ ['\x7d']) = l ++ '$' :: beyond := (List.cons.inj hreference).2
      exact dollar_not_mem hrow (by rw [htail]; simp)
  · exact h name hrow (hliteral ▸ (List.prefix_append _ _).isInfix)

/-! ## What filling in does -/

theorem fill_reference (env : Environment) (h : IsRow isWord name) (s : List Char) :
    env.fill (reference name ++ s) = ((env.value? (String.ofList name)).getD "").toList ++ env.fill s := by
  have hfront : reference? (reference name ++ s) = some (name, s) := reference?_eq_some_iff.2 ⟨h, rfl⟩
  rw [reference, List.cons_append] at hfront ⊢
  rw [fill]
  split
  · next word after hread =>
    obtain ⟨rfl, rfl⟩ := Prod.mk.inj (Option.some.inj (hfront.symm.trans hread))
    rfl
  · next hread => rw [hfront] at hread; cases hread

theorem fill_cons (env : Environment) (h : reference? (c :: s) = none) : env.fill (c :: s) = c :: env.fill s := by
  rw [fill]
  split
  · next hread => rw [h] at hread; cases hread
  · rfl

theorem fill_plain (env : Environment) (hx : ∀ d ∈ x.head?, d = '$') :
    ∀ {l : List Char}, Plain l → env.fill (l ++ x) = l ++ env.fill x
  | [], _ => rfl
  | c :: l, h => by
    rw [List.cons_append, fill_cons env (reference?_of_plain h hx), fill_plain env hx h.tail, List.cons_append]

/-! ## Every text is a template -/

theorem plain_nil : Plain [] := fun name _ h => by simp [reference] at h

/-- A character where no reference begins makes a literal longer. -/
theorem Plain.cons (h : Plain l) (hnone : reference? (c :: (l ++ x)) = none) : Plain (c :: l) := by
  intro name hrow hin
  rcases List.infix_cons_iff.1 hin with ⟨more, hfront⟩ | hlater
  · have hsome : reference? (c :: (l ++ x)) = some (name, more ++ x) :=
      reference?_eq_some_iff.2 ⟨hrow, by rw [← List.cons_append, ← hfront, List.append_assoc]⟩
    rw [hnone] at hsome
    cases hsome
  · exact h name hrow hlater

theorem exists_text_eq_cons (t : Template) (h : reference? (c :: t.text) = none) :
    ∃ t' : Template, t'.text = c :: t.text := by
  cases t with
  | literal l plain => exact ⟨.literal (c :: l) (plain.cons (by rwa [List.append_nil])), rfl⟩
  | reference l plain name row rest => exact ⟨.reference (c :: l) (plain.cons h) name row rest, rfl⟩

theorem exists_text_eq (s : List Char) : ∃ t : Template, t.text = s := by
  induction s using fill.induct with
  | case1 => exact ⟨.literal [] plain_nil, rfl⟩
  | case2 c s name rest hread ih =>
    obtain ⟨t, rfl⟩ := ih
    obtain ⟨hrow, hs⟩ := reference?_eq_some_iff.1 hread
    exact ⟨.reference [] plain_nil name hrow t, hs.symm⟩
  | case3 c s hread ih =>
    obtain ⟨t, rfl⟩ := ih
    exact exists_text_eq_cons t hread

/-- **Filling in is one pass over a text, and takes what it puts in as it is**: the literals between the references
stay, and each reference gives way to the text of its name, or to nothing if the name is not set.  This says what any
text becomes, since every text is written like that. -/
theorem fill_template (env : Environment) :
    (∀ t : Template, env.fill t.text = t.filled env) ∧ ∀ s : List Char, ∃ t : Template, t.text = s := by
  refine ⟨fun t => ?_, exists_text_eq⟩
  induction t with
  | literal l plain =>
    have hl := fill_plain env (x := []) (by simp) plain
    rwa [List.append_nil, fill, List.append_nil] at hl
  | reference l plain name row rest ih =>
    have hdollar : ∀ d ∈ (reference name ++ rest.text).head?, d = '$' := by simp [reference]
    rw [Template.text, fill_plain env hdollar plain, fill_reference env row, ih, Template.filled]

/-- Texts that spell references, alone or together with what stands behind them, are not filled in again. -/
example : fill [("A", "$"), ("B", "$\x7bA\x7d")] "$$\x7bA\x7d\x7bB\x7d$\x7bB\x7d$\x7bC\x7d$\x7b\x7d".toList =
    "$$\x7bB\x7d$\x7bA\x7d$\x7b\x7d".toList := by
  cbv

end Environment
end BatteryIndicator
