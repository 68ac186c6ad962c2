import BatteryIndicator.Proofs.Text.Letter
import BatteryIndicator.Proofs.Theme.Assignment
/-!
# LineForm — the grammar of the lines of a theme file

What a line is depends on the form of its text without the blanks around it: nothing, a comment, a name in brackets, a
key and a value around an equals sign, or none of these.  The forms exclude each other by their first characters, and a
text has a form in one way only, up to the blanks around the equals sign (`IsPair.keyed?_eq`).
-/
namespace BatteryIndicator
namespace Theme
namespace Line

open Text

variable {c : Char} {s name key rest value : List Char} {text : String}

/-! ## Forms -/

def IsComment (s : List Char) : Prop := s.head? = some '#' ∨ s.head? = some ';'

def IsHeader (s name : List Char) : Prop := s = '[' :: (name ++ [']']) ∧ name ≠ [] ∧ ']' ∉ name

/-- A letter of ASCII or an underscore, and then word characters and hyphens. -/
def IsKey (key : List Char) : Prop := ∃ c r, key = c :: r ∧ startsKey c = true ∧ ∀ x ∈ r, inKey x = true

/-- A key and the rest of a line, with an equals sign between them that may have blanks on its two sides. -/
def IsPair (s key rest : List Char) : Prop :=
  IsKey key ∧ '\n' ∉ rest ∧
    ∃ before after, before.all isBlank = true ∧ after.all isBlank = true ∧ s = key ++ (before ++ '=' :: (after ++ rest))

theorem startsComment_iff : startsComment s = true ↔ IsComment s := by
  cases s <;> simp [startsComment, IsComment]

theorem bracketed?_eq_some_iff : bracketed? s = some name ↔ IsHeader s name := by
  unfold bracketed? IsHeader
  split
  · next r =>
    dsimp only
    constructor
    · intro h
      split at h
      · next hform =>
        simp only [Bool.and_eq_true, decide_eq_true_eq, Bool.not_eq_true', List.isEmpty_eq_false_iff,
          List.contains_eq_mem, decide_eq_false_iff_not] at hform
        obtain ⟨⟨hlast, hne⟩, hclosing⟩ := hform
        cases h
        exact ⟨by rw [List.dropLast_append_getLast? _ hlast], hne, hclosing⟩
      · cases h
    · rintro ⟨heq, hne, hclosing⟩
      cases heq
      simp [hne, hclosing]
  · next hother =>
    exact ⟨fun h => absurd h nofun, fun h => absurd h.1 (hother _)⟩

theorem not_isBlank_of_inKey (h : inKey c = true) : isBlank c = false := by
  rcases Bool.or_eq_true_iff.1 h with hword | hhyphen
  · exact not_isBlank_of_isWord hword
  · rw [beq_iff_eq.1 hhyphen]
    decide

/-- A key ends where its line goes on with blanks and an equals sign. -/
theorem span_key {r before : List Char} (hkey : ∀ x ∈ r, inKey x = true) (hbefore : before.all isBlank = true)
    (v : List Char) :
    (r ++ (before ++ '=' :: v)).takeWhile inKey = r ∧ (r ++ (before ++ '=' :: v)).dropWhile inKey = before ++ '=' :: v := by
  have hstop : ∃ d t, before ++ '=' :: v = d :: t ∧ inKey d = false := by
    cases before with
    | nil => exact ⟨'=', v, rfl, by decide⟩
    | cons d before =>
      refine ⟨d, before ++ '=' :: v, rfl, ?_⟩
      by_contra hd
      rw [Bool.not_eq_false] at hd
      have hblank := List.all_eq_true.1 hbefore d List.mem_cons_self
      rw [not_isBlank_of_inKey hd] at hblank
      cases hblank
  obtain ⟨d, t, heq, hd⟩ := hstop
  rw [heq, List.takeWhile_append_of_pos hkey, List.dropWhile_append_of_pos hkey,
    List.takeWhile_cons_of_neg (Bool.eq_false_iff.1 hd), List.dropWhile_cons_of_neg (Bool.eq_false_iff.1 hd),
    List.append_nil]
  exact ⟨rfl, rfl⟩

/-- **The key and the value of a line are found, however the blanks around the equals sign are told apart.** -/
theorem IsPair.keyed?_eq (h : IsPair s key rest) : keyed? s = some (key, trimStart rest) := by
  obtain ⟨⟨c, r, rfl, hstart, hkey⟩, hline, before, after, hbefore, hafter, rfl⟩ := h
  obtain ⟨htake, hdrop⟩ := span_key hkey hbefore (after ++ rest)
  have hsign : trimStart (before ++ '=' :: (after ++ rest)) = '=' :: (after ++ rest) := by
    rw [trimStart_append_of_blank hbefore]
    rfl
  have hvalue : trimStart (after ++ rest) = trimStart rest := trimStart_append_of_blank hafter rest
  have hrest : '\n' ∉ trimStart rest := fun hmem => hline ((List.dropWhile_sublist isBlank).subset hmem)
  rw [List.cons_append, keyed?, if_pos hstart, hdrop, hsign]
  simp [hvalue, htake, hrest]

/-- A text is a key and a rest in one way only, but for the blanks around the rest. -/
theorem IsPair.key_rest {key' rest' : List Char} (h : IsPair s key rest) (h' : IsPair s key' rest') :
    key = key' ∧ trim rest = trim rest' := by
  have hkeyed := h.keyed?_eq.symm.trans h'.keyed?_eq
  obtain ⟨hkey, hrest⟩ := Prod.mk.inj (Option.some.inj hkeyed)
  exact ⟨hkey, by rw [← trim_trimStart rest, hrest, trim_trimStart]⟩

theorem isPair_of_keyed? (h : keyed? s = some (key, value)) : IsPair s key value ∧ trimStart value = value := by
  unfold keyed? at h
  split at h
  · cases h
  · next c r =>
    split at h
    · next hstart =>
      split at h
      · next v hsign =>
        dsimp only at h
        split at h
        · cases h
        · next hline =>
          cases h
          refine ⟨⟨⟨c, _, rfl, hstart, fun x hx => List.mem_takeWhile_imp hx⟩, by simpa using hline,
            (r.dropWhile inKey).takeWhile isBlank, v.takeWhile isBlank, ?_, ?_, ?_⟩, ?_⟩
          · exact List.all_eq_true.2 fun x hx => List.mem_takeWhile_imp hx
          · exact List.all_eq_true.2 fun x hx => List.mem_takeWhile_imp hx
          · have hafter : v.takeWhile isBlank ++ trimStart v = v := List.takeWhile_append_dropWhile
            have hbefore : (r.dropWhile inKey).takeWhile isBlank ++ trimStart (r.dropWhile inKey) = r.dropWhile inKey :=
              List.takeWhile_append_dropWhile
            rw [hafter, ← hsign, hbefore, List.cons_append, List.takeWhile_append_dropWhile]
          · exact List.dropWhile_idempotent isBlank v
      · cases h
    · cases h

theorem keyed?_eq_none_iff : keyed? s = none ↔ ∀ key rest, ¬IsPair s key rest := by
  constructor
  · intro h key rest hpair
    rw [hpair.keyed?_eq] at h
    cases h
  · intro h
    cases hkeyed : keyed? s with
    | none => rfl
    | some p => exact absurd (isPair_of_keyed? hkeyed).1 (h p.1 p.2)

/-! ## The line of a form -/

theorem IsKey.head (h : IsKey key) (t : List Char) :
    ∃ c, (key ++ t).head? = some c ∧ c ≠ '#' ∧ c ≠ ';' ∧ c ≠ '[' := by
  obtain ⟨c, r, rfl, hstart, -⟩ := h
  exact ⟨c, rfl, (of_startsKey hstart).2⟩

theorem IsPair.apart (h : IsPair s key rest) : s ≠ [] ∧ ¬IsComment s ∧ ∀ name, ¬IsHeader s name := by
  obtain ⟨hkey, -, before, after, -, -, rfl⟩ := h
  obtain ⟨c, hhead, hhash, hsemicolon, hbracket⟩ := hkey.head (before ++ '=' :: (after ++ rest))
  refine ⟨?_, ?_, ?_⟩
  · intro hnil
    rw [hnil] at hhead
    cases hhead
  · unfold IsComment
    rw [hhead]
    simp [hhash, hsemicolon]
  · rintro name ⟨heq, -⟩
    rw [heq] at hhead
    exact hbracket (Option.some.inj hhead).symm

/-- The line that a text without blanks at its ends is, by the form of the text. -/
inductive Form (s : List Char) : Line → Prop
  | blank (h : s = []) : Form s .blank
  | comment (h : IsComment s) : Form s (.comment (String.ofList s))
  | header {name : List Char} (h : IsHeader s name) : Form s (.header (String.ofList (trim name)))
  | pair {key rest : List Char} (h : IsPair s key rest) :
    Form s (.pair (String.ofList (lower key)) (String.ofList (trim rest)))
  | unrecognized (hblank : s ≠ []) (hcomment : ¬IsComment s) (hheader : ∀ name, ¬IsHeader s name)
    (hpair : ∀ key rest, ¬IsPair s key rest) : Form s (.unrecognized (String.ofList s))

theorem form_ofTrimmed (s : List Char) : Form s (ofTrimmed s) := by
  unfold ofTrimmed
  split
  · next hempty => exact .blank (List.isEmpty_iff.1 hempty)
  next hblank =>
  split
  · next hcomment => exact .comment (startsComment_iff.1 hcomment)
  next hcomment =>
  split
  · next name hname => exact .header (bracketed?_eq_some_iff.1 hname)
  · next key value _ hkeyed =>
    exact .pair (isPair_of_keyed? hkeyed).1
  · next hheader hkeyed =>
    refine .unrecognized (fun hnil => hblank (List.isEmpty_iff.2 hnil)) (fun h => hcomment (startsComment_iff.2 h))
      (fun name h => ?_) (keyed?_eq_none_iff.1 hkeyed)
    rw [bracketed?_eq_some_iff.2 h] at hheader
    cases hheader

theorem IsHeader.apart (h : IsHeader s name) : s ≠ [] ∧ ¬IsComment s := by
  rw [h.1]
  exact ⟨List.cons_ne_nil _ _, by simp [IsComment]⟩

/-- A text that is neither empty nor a comment is a header or a key and a value, or neither. -/
theorem ofTrimmed_of_apart (hblank : s ≠ []) (hcomment : ¬IsComment s) :
    ofTrimmed s =
      match bracketed? s, keyed? s with
      | some name, _ => .header (String.ofList (trim name))
      | none, some (key, value) => .pair (String.ofList (lower key)) (String.ofList (trim value))
      | none, none => .unrecognized (String.ofList s) := by
  exact (if_neg (by simpa using hblank)).trans (if_neg fun h => hcomment (startsComment_iff.1 h))

theorem bracketed?_eq_none_iff : bracketed? s = none ↔ ∀ name, ¬IsHeader s name := by
  simp [Option.eq_none_iff_forall_ne_some, ← bracketed?_eq_some_iff]

theorem ofTrimmed_of_form {l : Line} (h : Form s l) : ofTrimmed s = l := by
  cases h with
  | blank h => rw [h]; rfl
  | comment h =>
    have hne : s ≠ [] := by rintro rfl; exact absurd h (by simp [IsComment])
    rw [ofTrimmed, if_neg (by simpa using hne), if_pos (startsComment_iff.2 h)]
  | header h => rw [ofTrimmed_of_apart h.apart.1 h.apart.2, bracketed?_eq_some_iff.2 h]
  | pair h =>
    obtain ⟨hblank, hcomment, hheader⟩ := h.apart
    rw [ofTrimmed_of_apart hblank hcomment, bracketed?_eq_none_iff.2 hheader, h.keyed?_eq]
    dsimp only
    rw [trim_trimStart]
  | unrecognized hblank hcomment hheader hpair =>
    rw [ofTrimmed_of_apart hblank hcomment, bracketed?_eq_none_iff.2 hheader, keyed?_eq_none_iff.2 hpair]

/-- **A line is what its text, without the blanks around it, has the form of.** -/
theorem classify_eq_iff {l : Line} : classify text = l ↔ Form (trim text.toList) l :=
  ⟨fun h => h ▸ form_ofTrimmed _, ofTrimmed_of_form⟩

/-! ## Lines written again -/

theorem trim_of_ends {c d : Char} (hfirst : s.head? = some c) (hc : isBlank c = false) (hlast : s.getLast? = some d)
    (hd : isBlank d = false) : trim s = s := by
  rw [trim, trimStart_of_head? hfirst hc, trimEnd_of_getLast? hlast hd]

theorem classify_header (hname : trim name = name) (hclosing : ']' ∉ name) :
    classify ("[ " ++ String.ofList name ++ " ]") = .header (String.ofList name) := by
  have htext : ("[ " ++ String.ofList name ++ " ]").toList = '[' :: ((' ' :: name ++ [' ']) ++ [']']) := by
    simp
  have htrim : trim ('[' :: ((' ' :: name ++ [' ']) ++ [']'])) = '[' :: ((' ' :: name ++ [' ']) ++ [']']) :=
    trim_of_ends rfl (by decide) (by rw [← List.cons_append, List.getLast?_concat]) (by decide)
  have hpadded : trim (' ' :: name ++ [' ']) = name := by
    rw [← hname]
    exact (trim_padded (a := [' ']) (b := [' ']) (by decide) _ (by decide)).trans (trim_trim name)
  rw [classify_eq_iff, htext, htrim]
  nth_rewrite 2 [← hpadded]
  exact .header ⟨rfl, by simp, by simp [hclosing]⟩

theorem classify_comment (htrim : trim s = s) (h : IsComment s) :
    classify (String.ofList s) = .comment (String.ofList s) := by
  rw [classify_eq_iff, String.toList_ofList, htrim]
  exact .comment h

/-- A key that is ASCII in lower case is a key then, too, and stays as it is. -/
theorem lower_key (hkey : IsKey key) (hascii : ∀ d ∈ lower key, d.toNat < 128) :
    IsKey (lower key) ∧ lower (lower key) = lower key := by
  obtain ⟨c, r, rfl, hstart, hrest⟩ := hkey
  have hletters : ∀ {x : Char}, x.toNat < 128 → (startsKey x = true → inKey x = true ∧ startsKey x.toLower = true) ∧
      (inKey x = true → inKey x.toLower = true) ∧ x.toLower.toLower = x.toLower :=
    fun hx => forall_ascii (P := fun x => (startsKey x = true → inKey x = true ∧ startsKey x.toLower = true) ∧
      (inKey x = true → inKey x.toLower = true) ∧ x.toLower.toLower = x.toLower) (by decide +kernel) hx
  have hfirst : c.toNat < 128 := by
    have := toNat_of_startsKey hstart
    omega
  obtain ⟨hinKey, hstart'⟩ := (hletters hfirst).1 hstart
  have hall : ∀ x ∈ c :: r, inKey x = true := List.forall_mem_cons.2 ⟨hinKey, hrest⟩
  have hlower : lower (c :: r) = c.toLower :: lowerAfter [c] r := by
    rw [lower, lowerAfter, if_neg (by omega), lowerChar_of_ascii hfirst, List.singleton_append]
  have hsmall : ∀ d ∈ lower (c :: r), inKey d = true ∧ d.toLower = d := by
    intro d hd
    rcases mem_lower_of_ascii hd (hascii d hd) with ⟨x, hx, hxascii, rfl⟩ | rfl | rfl
    · exact ⟨(hletters hxascii).2.1 (hall x hx), (hletters hxascii).2.2⟩
    · decide
    · decide
  refine ⟨⟨c.toLower, lowerAfter [c] r, hlower, hstart', fun x hx => ?_⟩, ?_⟩
  · exact (hsmall x (hlower ▸ List.mem_cons_of_mem _ hx)).1
  · rw [lower_of_ascii hascii]
    exact (List.map_congr_left fun d hd => (hsmall d hd).2).trans (List.map_id _)

theorem classify_pair (hkey : IsKey key) (hascii : ∀ c ∈ lower key, c.toNat < 128) (hvalue : trim value = value)
    (hline : '\n' ∉ value) :
    classify (String.ofList (lower key) ++ " = " ++ String.ofList value) =
      .pair (String.ofList (lower key)) (String.ofList value) := by
  obtain ⟨⟨c, r, hlower, hstart, hrest⟩, hagain⟩ := lower_key hkey hascii
  have htext : String.ofList (lower key) ++ " = " ++ String.ofList value =
      String.ofList (assignment (c :: r) value) := by
    rw [hlower, ← String.toList_inj]
    simp [assignment]
  rw [htext, classify_assignment hstart hrest (by rwa [hvalue]), ← hlower, hagain, hvalue]

/-- **The grammar of the lines of a theme file.**  Without the blanks around it a line is blank if nothing is left, a
comment if it starts with a number sign or a semicolon, a header if a name without a closing bracket stands in brackets,
a key and a value if it has the form of one, and unrecognized otherwise; each with the texts that the form gives.  A key
and the value without blanks around it are the same however the blanks at the equals sign are told apart.  Headers and
comments that are written again are the same lines, and so are keys and values if the key is ASCII. -/
theorem classify_grammar (text : String) :
    let s := trim text.toList
    (classify text = .blank ↔ s = []) ∧
    (∀ t, classify text = .comment t ↔ IsComment s ∧ t = String.ofList s) ∧
    (∀ n, classify text = .header n ↔ ∃ name, IsHeader s name ∧ n = String.ofList (trim name)) ∧
    (∀ k v, classify text = .pair k v ↔ s ≠ [] ∧ ¬IsComment s ∧
      ∃ key rest, IsPair s key rest ∧ k = String.ofList (lower key) ∧ v = String.ofList (trim rest)) ∧
    (∀ t, classify text = .unrecognized t ↔ t = String.ofList s ∧ s ≠ [] ∧ ¬IsComment s ∧
      (∀ name, ¬IsHeader s name) ∧ ∀ key rest, ¬IsPair s key rest) ∧
    (∀ key rest key' rest', IsPair s key rest → IsPair s key' rest' → key = key' ∧ trim rest = trim rest') ∧
    (∀ n, classify text = .header n → classify ("[ " ++ n ++ " ]") = .header n) ∧
    (∀ t, classify text = .comment t → classify t = .comment t) ∧
    ∀ k v, classify text = .pair k v → (∀ c ∈ k.toList, c.toNat < 128) →
      classify (k ++ " = " ++ v) = .pair k v := by
  intro s
  have hs : trim s = s := trim_trim _
  have hform : ∀ l, classify text = l ↔ Form s l := fun _ => classify_eq_iff
  clear_value s
  refine ⟨?_, fun t => ?_, fun n => ?_, fun k v => ?_, fun t => ?_, fun _ _ _ _ h h' => h.key_rest h', fun n h => ?_,
    fun t h => ?_, fun k v h hascii => ?_⟩
  · rw [hform]
    constructor
    · intro h
      cases h with
      | blank h => exact h
    · exact .blank
  · rw [hform]
    constructor
    · intro h
      cases h with
      | comment h => exact ⟨h, rfl⟩
    · rintro ⟨h, rfl⟩
      exact .comment h
  · rw [hform]
    constructor
    · intro h
      cases h with
      | header h => exact ⟨_, h, rfl⟩
    · rintro ⟨name, h, rfl⟩
      exact .header h
  · rw [hform]
    constructor
    · intro h
      cases h with
      | pair h => exact ⟨h.apart.1, h.apart.2.1, _, _, h, rfl, rfl⟩
    · rintro ⟨-, -, key, rest, h, rfl, rfl⟩
      exact .pair h
  · rw [hform]
    constructor
    · intro h
      cases h with
      | unrecognized hblank hcomment hheader hpair => exact ⟨rfl, hblank, hcomment, hheader, hpair⟩
    · rintro ⟨rfl, hblank, hcomment, hheader, hpair⟩
      exact .unrecognized hblank hcomment hheader hpair
  · cases (hform _).1 h with
    | header hname => exact classify_header (trim_trim _) fun hmem => hname.2.2 (trim_subset _ hmem)
  · cases (hform _).1 h with
    | comment hcomment => exact classify_comment hs hcomment
  · cases (hform _).1 h with
    | pair hpair =>
      rw [String.toList_ofList] at hascii
      exact classify_pair hpair.1 hascii (trim_trim _) fun hmem => hpair.2.1 (trim_subset _ hmem)

/-- A name on two lines, a comment that looks like a key and a value, and a key with the sign of the kelvin, whose equals
sign has blanks of several kinds around it and another equals sign behind it. -/
theorem classify_grammar_blanks :
    (classify "\t[ a\n b ]\n" = .header "a\n b" ∧ classify ("[ " ++ "a\n b" ++ " ]") = .header "a\n b") ∧
    (classify " ;x = 1\n" = .comment ";x = 1" ∧ classify ";x = 1" = .comment ";x = 1") ∧
    (∃ rest, IsPair (trim "Lo-\u212a\u2003=\n =[1] ".toList) "Lo-\u212a".toList rest ∧
      ∀ key' rest', IsPair (trim "Lo-\u212a\u2003=\n =[1] ".toList) key' rest' →
        key' = "Lo-\u212a".toList ∧ trim rest' = "=[1]".toList) ∧
    classify "Lo-\u212a\u2003=\n =[1] " = .pair "lo-k" "=[1]" ∧
      classify ("lo-k" ++ " = " ++ "=[1]") = .pair "lo-k" "=[1]" := by
  have hheader : classify "\t[ a\n b ]\n" = .header "a\n b" := by decide +kernel
  have hcomment : classify " ;x = 1\n" = .comment ";x = 1" := by decide +kernel
  have hpair : classify "Lo-\u212a\u2003=\n =[1] " = .pair "lo-k" "=[1]" := by decide +kernel
  obtain ⟨-, -, -, -, -, -, hagain, -⟩ := classify_grammar "\t[ a\n b ]\n"
  obtain ⟨-, -, -, -, -, -, -, hsame, -⟩ := classify_grammar " ;x = 1\n"
  obtain ⟨-, -, -, -, -, hunique, -, -, hrewritten⟩ := classify_grammar "Lo-\u212a\u2003=\n =[1] "
  have hword : "o-\u212a".toList.all inKey = true := by decide +kernel
  have hascii : "lo-k".toList.all (fun c => decide (c.toNat < 128)) = true := by decide +kernel
  have hform : IsPair (trim "Lo-\u212a\u2003=\n =[1] ".toList) "Lo-\u212a".toList " =[1]".toList :=
    ⟨⟨'L', "o-\u212a".toList, by decide +kernel, by decide +kernel, List.all_eq_true.1 hword⟩, by decide +kernel,
      ['\u2003'], ['\n'], by decide +kernel, by decide +kernel, by decide +kernel⟩
  refine ⟨⟨hheader, hagain _ hheader⟩, ⟨hcomment, hsame _ hcomment⟩, ⟨_, hform, fun key' rest' h => ?_⟩, hpair,
    hrewritten _ _ hpair fun c hc => of_decide_eq_true (List.all_eq_true.1 hascii c hc)⟩
  obtain ⟨hkey, hrest⟩ := hunique _ _ _ _ hform h
  exact ⟨hkey.symm, hrest.symm.trans (by decide +kernel)⟩

end Line
end Theme
end BatteryIndicator
