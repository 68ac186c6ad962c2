import BatteryIndicator.Callback
/-!
# CommandWords — a command line and its words

A word that is written for a command line is read as that word, whatever stands behind it (`cut_quoteWord`): a safe word
character by character, any other between single quotes, where each single quote of its own leaves the quotes and comes
back to them.  So the line that a command is shown as is cut into the words of the command.
-/
namespace BatteryIndicator
namespace Command

variable {c : Char} {w s : List Char}

/-- Characters in front of the first word. -/
def glue (w : List Char) (words : List (List Char)) : List (List Char) := w.foldr push words

@[simp] theorem glue_cons (c : Char) (w : List Char) (words : List (List Char)) :
    glue (c :: w) words = push c (glue w words) := rfl

@[simp] theorem glue_first (w x : List Char) (words : List (List Char)) : glue w (x :: words) = (w ++ x) :: words := by
  induction w with
  | nil => rfl
  | cons c w ih => rw [glue_cons, ih]; rfl

theorem map_glue_nil (result : Except Failure (List (List Char))) : result.map (glue []) = result := by
  cases result <;> rfl

theorem map_glue_cons (c : Char) (w : List Char) (result : Except Failure (List (List Char))) :
    result.map (glue (c :: w)) = (result.map (glue w)).map (push c) := by
  cases result <;> rfl

/-! ## One word -/

theorem cut_keepQuote (c : Char) (s : List Char) : cut .single (keepQuote c ++ s) = (cut .single s).map (push c) := by
  unfold keepQuote
  split
  · next hc =>
    subst hc
    -- out of the single quotes, through the double quotes, and back
    show cut .single ('\x27' :: '\x22' :: '\x27' :: '\x22' :: '\x27' :: s) = _
    simp [cut, isSeparator]
  · next hc => rw [List.singleton_append, cut, if_neg hc]

/-- Between single quotes a word is read up to the quote that ends it. -/
theorem cut_single (s : List Char) : ∀ w : List Char,
    cut .single (w.flatMap keepQuote ++ '\x27' :: s) = (cut .word s).map (glue w)
  | [] => by rw [List.flatMap_nil, List.nil_append, cut, if_pos rfl, map_glue_nil]
  | c :: w => by
    rw [List.flatMap_cons, List.append_assoc, cut_keepQuote, cut_single s w, ← map_glue_cons]

/-- A safe character is no separator, no quote and no backslash. -/
theorem cut_safe (h : isSafe c = true) (s : List Char) :
    cut .gap (c :: s) = (cut .word s).map (push c) ∧ cut .word (c :: s) = (cut .word s).map (push c) := by
  have hseparator : isSeparator c = false := by
    rw [Bool.eq_false_iff]
    intro hblank
    simp only [isSeparator, Bool.or_eq_true, beq_iff_eq] at hblank
    rcases hblank with ((rfl | rfl) | rfl) | rfl <;> exact absurd h (by decide)
  have hspecial : c ≠ '\\' ∧ c ≠ '\x27' ∧ c ≠ '\x22' := by
    refine ⟨?_, ?_, ?_⟩ <;> (rintro rfl; exact absurd h (by decide))
  simp [cut, hseparator, hspecial]

theorem cut_word_safe (s : List Char) : ∀ {w : List Char}, (∀ c ∈ w, isSafe c = true) →
    cut .word (w ++ s) = (cut .word s).map (glue w)
  | [], _ => (map_glue_nil _).symm
  | c :: w, h => by
    rw [List.cons_append, (cut_safe (h c List.mem_cons_self) _).2,
      cut_word_safe s fun d hd => h d (List.mem_cons_of_mem _ hd), ← map_glue_cons]

/-- **A written word is read back**, and what stands behind it is read as the rest of its word. -/
theorem cut_quoteWord (w s : List Char) : cut .gap (quoteWord w ++ s) = (cut .word s).map (glue w) := by
  unfold quoteWord
  split
  · next hempty =>
    rw [List.isEmpty_iff.1 hempty, map_glue_nil]
    simp [cut, isSeparator]
  split
  · next hne hsafe =>
    have hall : ∀ c ∈ w, isSafe c = true := List.all_eq_true.1 hsafe
    cases w with
    | nil => exact absurd rfl hne
    | cons c w =>
      rw [List.cons_append, (cut_safe (hall c List.mem_cons_self) _).1,
        cut_word_safe s fun d hd => hall d (List.mem_cons_of_mem _ hd), ← map_glue_cons]
  · rw [List.append_assoc, List.cons_append, List.singleton_append, ← cut_single s w]
    simp [cut, isSeparator]

/-! ## All words -/

/-- **Words that are joined on a line are cut apart again.** -/
theorem cut_joinChars : ∀ words : List (List Char), cut .gap (joinChars words) = .ok words
  | [] => rfl
  | [w] => by
    have hcut := cut_quoteWord w []
    rw [List.append_nil] at hcut
    rw [joinChars, hcut, cut, Except.map, glue_first, List.append_nil]
  | w :: v :: words => by
    have hrest : cut .word (' ' :: joinChars (v :: words)) = .ok ([] :: v :: words) := by
      rw [cut, if_pos (by decide), cut_joinChars (v :: words), Except.map]
    rw [joinChars, cut_quoteWord, hrest, Except.map, glue_first, List.append_nil]
    exact List.cons_ne_nil v words

theorem split_join (argv : List String) : split (join argv) = .ok argv := by
  rw [split, join, String.toList_ofList, cut_joinChars]
  simp [Except.map, Function.comp_def]

end Command

namespace Callback

/-- **The printed form of a command denotes the command**: the line that it shows is the line of a callback that runs
the same words, none of them added, lost or cut. -/
theorem callback_of_literal (argv : List String) :
    (Callback.command argv).literal = "CommandCallback(" ++ Text.quoted (Command.join argv) ++ ")" ∧
      (Form.command (.line (Command.join argv))).callback = .ok (.command argv) ∧
      Command.split (Command.join argv) = .ok argv := by
  refine ⟨rfl, ?_, Command.split_join argv⟩
  rw [Form.callback, Command.Form.argv, Command.split_join]
  rfl

/-- An empty word, quotes of both kinds, a backslash, blanks and a line feed. -/
example : (Form.command (.line (Command.join ["", "it's", "a\\b", "# \x22c\x22\n", "ä", "-x=1"]))).callback =
    .ok (.command ["", "it's", "a\\b", "# \x22c\x22\n", "ä", "-x=1"]) := by
  rfl

end Callback
end BatteryIndicator
