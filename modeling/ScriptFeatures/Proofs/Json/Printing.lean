import Mathlib.Data.List.Forall2
import Mathlib.Tactic.NormNum
import ScriptFeatures.Proofs.Json.Grammar

namespace ScriptFeatures.Json

theorem hexDigit?_digitChar : ∀ n < 16, hexDigit? (Nat.digitChar n) = some n := by decide

theorem codeUnit?_digitChar {n : ℕ} (h : n < 256) :
    codeUnit? '0' '0' (Nat.digitChar (n / 16)) (Nat.digitChar (n % 16)) = some n := by
  have hh : n / 16 < 16 := by omega
  have hl : n % 16 < 16 := by omega
  have h0 : hexDigit? '0' = some 0 := by decide
  simp only [codeUnit?, h0, hexDigit?_digitChar _ hh, hexDigit?_digitChar _ hl]
  change some _ = some _
  congr 1
  omega

theorem lookup_escapes {c e : Char} (h : shortEscape? c = some e) :
    escapes.lookup e = some c := by
  unfold shortEscape? at h
  split_ifs at h with h₁ h₂ h₃ h₄ h₅ h₆ h₇
  all_goals
    obtain rfl := Option.some.inj h
    subst c
    rfl

theorem ne_of_shortEscape? {c : Char} (h : shortEscape? c = none) : c ≠ '"' ∧ c ≠ '\\' := by
  constructor
  · rintro rfl
    cases h
  · rintro rfl
    cases h

theorem quoted_escapeChar {cs s rest : List Char} (c : Char) (h : Quoted cs s rest) :
    Quoted (escapeChar c ++ cs) (c :: s) rest := by
  unfold escapeChar
  cases he : shortEscape? c with
  | some e => exact .escape (lookup_escapes he) h
  | none =>
    obtain ⟨hq, hb⟩ := ne_of_shortEscape? he
    dsimp only
    split_ifs with hc
    · have hn : c.toNat < 32 := hc
      have hu := codeUnit?_digitChar (n := c.toNat) (by omega)
      have hr := Quoted.codeUnit hu (by omega) h
      rwa [Char.ofNat_toNat] at hr
    · exact .plain (Char.not_lt.1 hc) hq hb h

theorem quoted_flatMap (s rest : List Char) :
    Quoted (s.flatMap escapeChar ++ '"' :: rest) s rest := by
  induction s with
  | nil => exact .close rest
  | cons c s ih =>
    rw [List.flatMap_cons, List.append_assoc]
    exact quoted_escapeChar c ih

theorem quote_append (s : String) (rest : List Char) :
    quote s ++ rest = '"' :: (s.toList.flatMap escapeChar ++ '"' :: rest) := by
  simp [quote]

theorem digits_append {ds : List Char} (h : ∀ d ∈ ds, d.isDigit = true) (rest : List Char) :
    Digits (ds ++ rest) ds rest := by
  induction ds with
  | nil => exact .none rest
  | cons d ds ih =>
    rw [List.forall_mem_cons] at h
    exact .more h.1 (ih h.2)

theorem toDigits_of_head_zero {n : ℕ} {ds : List Char} (h : Nat.toDigits 10 n = '0' :: ds) :
    ds = [] := by
  induction n using Nat.strong_induction_on generalizing ds with
  | _ n ih =>
    rw [Nat.toDigits_eq_if (by norm_num)] at h
    split_ifs at h with hn
    · exact (List.cons.inj h).2.symm
    · have hq : n / 10 ≠ 0 := by omega
      cases hd : Nat.toDigits 10 (n / 10) with
      | nil => exact absurd hd Nat.toDigits_ne_nil
      | cons d es =>
        rw [hd] at h
        obtain ⟨rfl, -⟩ := List.cons.inj h
        obtain rfl := ih (n / 10) (by omega) hd
        have hz := Nat.ofDigitChars_ten_toDigits (n := n / 10)
        rw [hd] at hz
        exact absurd hz.symm hq

theorem reads_toDigits (n : ℕ) (rest : List Char) :
    Reads (Nat.toDigits 10 n ++ rest) (.number n) rest := by
  have hd : ∀ d ∈ Nat.toDigits 10 n, d.isDigit = true := fun d =>
    Nat.isDigit_of_mem_toDigits (by norm_num) le_rfl
  have hn := Nat.ofDigitChars_ten_toDigits (n := n)
  cases h : Nat.toDigits 10 n with
  | nil => exact absurd h Nat.toDigits_ne_nil
  | cons d ds =>
    rw [h] at hd hn
    rw [List.forall_mem_cons] at hd
    have hr : Reads (d :: (ds ++ rest)) (.number (Nat.ofDigitChars 10 (d :: ds) 0)) rest := by
      apply Reads.number hd.1 _ (digits_append hd.2 rest)
      rintro rfl
      exact toDigits_of_head_zero h
    rwa [hn] at hr

theorem blanks_append {bs : List Char} (h : ∀ b ∈ bs, isBlank b = true) (rest : List Char) :
    Blanks (bs ++ rest) rest := by
  induction bs with
  | nil => exact .none rest
  | cons b bs ih =>
    rw [List.forall_mem_cons] at h
    exact .more h.1 (ih h.2)

theorem isBlank_of_mem_newline {level : ℕ} {b : Char} (h : b ∈ newline level) :
    isBlank b = true := by
  rcases List.mem_cons.1 h with rfl | h
  · rfl
  · rw [List.eq_of_mem_replicate h]
    rfl

/-- Whatever follows it, if it cannot be a part of it, `cs` is read as `x`. -/
def Prints {α : Type} (item : List Char → α → List Char → Prop) (cs : List Char) (x : α) : Prop :=
  ∀ rest, item (cs ++ rest) x rest

theorem items_joinWith {α : Type} {item : List Char → α → List Char → Prop} {closing : Char}
    {before after : List Char} (hb : ∀ b ∈ before, isBlank b = true)
    (ha : ∀ b ∈ after, isBlank b = true) {parts : List (List Char)} {xs : List α}
    (h : List.Forall₂ (Prints item) parts xs) (hne : parts ≠ []) (rest : List Char) :
    Items item closing
      (before ++ (joinWith (',' :: before) parts ++ (after ++ closing :: rest))) xs rest := by
  induction h with
  | nil => exact absurd rfl hne
  | cons hp hps ih =>
    cases hps with
    | nil => exact .last (blanks_append hb _) (hp _) (blanks_append ha _)
    | cons hq hqs =>
      have hi := ih (List.cons_ne_nil _ _)
      rw [joinWith, List.append_assoc, List.append_assoc, List.cons_append]
      exact .more (blanks_append hb _) (hp _) (.none _) hi

/-- Items between two brackets are read as a value made from them. -/
structure Encloses {α : Type} (item : List Char → α → List Char → Prop) (opening closing : Char)
    (of : List α → Json) : Prop where
  empty : ∀ {cs rest : List Char}, Blanks cs (closing :: rest) → Reads (opening :: cs) (of []) rest
  items : ∀ {cs rest : List Char} {xs : List α}, Items item closing cs xs rest →
    Reads (opening :: cs) (of xs) rest

theorem encloses_array : Encloses Reads '[' ']' .array := ⟨.emptyArray, .array⟩

theorem encloses_object : Encloses (Field Reads) '{' '}' .object := ⟨.emptyObject, .object⟩

section

variable {α : Type} {item : List Char → α → List Char → Prop} {opening closing : Char}
  {of : List α → Json} {print : α → List Char} {xs : List α}

theorem forall₂_map (h : ∀ x ∈ xs, Prints item (print x) x) :
    List.Forall₂ (Prints item) (xs.map print) xs := by
  rw [List.forall₂_map_left_iff, List.forall₂_same]
  exact h

theorem prints_joinWith (he : Encloses item opening closing of)
    (h : ∀ x ∈ xs, Prints item (print x) x) :
    Prints Reads (opening :: joinWith [','] (xs.map print) ++ [closing]) (of xs) := by
  intro rest
  rw [List.cons_append, List.cons_append, List.append_assoc]
  cases xs with
  | nil => exact he.empty (.none _)
  | cons x xs =>
    have hn : ∀ b ∈ ([] : List Char), isBlank b = true := by simp
    exact he.items (items_joinWith hn hn (forall₂_map h) (List.cons_ne_nil _ _) rest)

theorem prints_bracketed (he : Encloses item opening closing of)
    (h : ∀ x ∈ xs, Prints item (print x) x) (level : ℕ) :
    Prints Reads (bracketed level opening closing (xs.map print)) (of xs) := by
  intro rest
  cases xs with
  | nil => exact he.empty (.none _)
  | cons x xs =>
    have hn (level : ℕ) : ∀ b ∈ newline level, isBlank b = true :=
      fun _ => isBlank_of_mem_newline
    have hi := he.items (items_joinWith (hn (level + 1)) (hn level) (forall₂_map h)
      (List.cons_ne_nil _ _) rest)
    simpa only [bracketed, List.map_cons, List.isEmpty_cons, Bool.false_eq_true, ↓reduceIte,
      List.cons_append, List.append_assoc, List.nil_append] using hi

end

theorem prints_field {name : String} {j : Json} {bs cs : List Char}
    (hb : ∀ b ∈ bs, isBlank b = true) (h : Prints Reads cs j) :
    Prints (Field Reads) (quote name ++ ':' :: (bs ++ cs)) (name, j) := by
  intro rest
  rw [List.append_assoc, List.cons_append, List.append_assoc, quote_append]
  exact .mk (quoted_flatMap _ _) (.none _) (blanks_append hb _) (h rest)

theorem compactElements_eq (es : List Json) : compactElements es = es.map compactChars := by
  induction es with
  | nil => rfl
  | cons e es ih => rw [compactElements, ih, List.map_cons]

theorem compactFields_eq (fs : List (String × Json)) :
    compactFields fs = fs.map fun f => quote f.1 ++ ':' :: f.2.compactChars := by
  induction fs with
  | nil => rfl
  | cons f fs ih => rw [compactFields, ih, List.map_cons]

theorem prettyElements_eq (level : ℕ) (es : List Json) :
    prettyElements level es = es.map (prettyChars level) := by
  induction es with
  | nil => rfl
  | cons e es ih => rw [prettyElements, ih, List.map_cons]

theorem prettyFields_eq (level : ℕ) (fs : List (String × Json)) :
    prettyFields level fs =
      fs.map fun f => quote f.1 ++ ':' :: ' ' :: f.2.prettyChars level := by
  induction fs with
  | nil => rfl
  | cons f fs ih => rw [prettyFields, ih, List.map_cons]

theorem prints_compactChars (j : Json) : Prints Reads j.compactChars j := by
  induction j using parts_induction with
  | null => exact .null
  | bool b =>
    cases b with
    | false => exact .ofFalse
    | true => exact .ofTrue
  | number n => exact reads_toDigits n
  | string s =>
    intro rest
    rw [compactChars, quote_append]
    exact .string (quoted_flatMap _ _)
  | array es ih =>
    rw [compactChars, compactElements_eq]
    exact prints_joinWith encloses_array ih
  | object fs ih =>
    rw [compactChars, compactFields_eq]
    apply prints_joinWith encloses_object
    intro f hf
    have hn : ∀ b ∈ ([] : List Char), isBlank b = true := by simp
    exact prints_field hn (ih f hf)

theorem prints_prettyChars (j : Json) (level : ℕ) : Prints Reads (j.prettyChars level) j := by
  induction j using parts_induction generalizing level with
  | null => exact .null
  | bool b =>
    cases b with
    | false => exact .ofFalse
    | true => exact .ofTrue
  | number n => exact reads_toDigits n
  | string s =>
    intro rest
    rw [prettyChars, quote_append]
    exact .string (quoted_flatMap _ _)
  | array es ih =>
    rw [prettyChars, prettyElements_eq]
    exact prints_bracketed encloses_array (fun e he => ih e he (level + 1)) level
  | object fs ih =>
    rw [prettyChars, prettyFields_eq]
    apply prints_bracketed encloses_object
    intro f hf
    have hb : ∀ b ∈ [' '], isBlank b = true := by simp [isBlank]
    exact prints_field hb (ih f hf (level + 1))

/-- What is printed as a value is a text of that value and of nothing else. -/
theorem isText_iff_of_prints {cs : List Char} {j j' : Json} (h : Prints Reads cs j) :
    IsText cs j' ↔ j' = j := by
  have hr := h []
  rw [List.append_nil] at hr
  have ht : IsText cs j := ⟨cs, [], .none cs, hr, .none []⟩
  constructor
  · intro h'
    exact h'.unique ht
  · rintro rfl
    exact ht

theorem isText_compact_iff {j j' : Json} : IsText j.compact.toList j' ↔ j' = j := by
  rw [compact, String.toList_ofList]
  exact isText_iff_of_prints (prints_compactChars j)

theorem isText_pretty_iff {j j' : Json} : IsText j.pretty.toList j' ↔ j' = j := by
  rw [pretty, String.toList_ofList]
  exact isText_iff_of_prints (prints_prettyChars j 0)

end ScriptFeatures.Json
