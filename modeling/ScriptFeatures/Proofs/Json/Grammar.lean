import Mathlib.Data.Nat.Notation
import ScriptFeatures.Json.Value

namespace ScriptFeatures.Json

/-- The characters may start with one that `p` does not hold of, or be none. -/
def StopsAt (p : Char → Bool) (cs : List Char) : Prop := ∀ c ∈ cs.head?, p c = false

def isBlank (c : Char) : Bool := [' ', '\t', '\n', '\r'].contains c

inductive Blanks : List Char → List Char → Prop where
  | none (cs : List Char) : Blanks cs cs
  | more {c : Char} {cs rest : List Char} :
      isBlank c = true → Blanks cs rest → Blanks (c :: cs) rest

/-- The digits that characters start with, or some of them, and what is left. -/
inductive Digits : List Char → List Char → List Char → Prop where
  | none (cs : List Char) : Digits cs [] cs
  | more {d : Char} {cs ds rest : List Char} :
      d.isDigit = true → Digits cs ds rest → Digits (d :: cs) (d :: ds) rest

def escapes : List (Char × Char) := [
  ('"', '"'), ('\\', '\\'), ('/', '/'), ('b', '\x08'), ('f', '\x0C'), ('n', '\n'), ('r', '\r'),
  ('t', '\t')]

def hexDigit? (c : Char) : Option ℕ :=
  if c.isDigit then some (c.toNat - '0'.toNat)
  else if 'a' ≤ c ∧ c ≤ 'f' then some (c.toNat - 'a'.toNat + 10)
  else if 'A' ≤ c ∧ c ≤ 'F' then some (c.toNat - 'A'.toNat + 10)
  else none

def codeUnit? (a b c d : Char) : Option ℕ := do
  some (4096 * (← hexDigit? a) + 256 * (← hexDigit? b) + 16 * (← hexDigit? c) + (← hexDigit? d))

/-- The characters of a string up to the quote that ends it. A character past the first 65536 is
escaped by two code units, of which neither is a character. -/
inductive Quoted : List Char → List Char → List Char → Prop where
  | close (rest : List Char) : Quoted ('"' :: rest) [] rest
  | plain {c : Char} {cs s rest : List Char} :
      ' ' ≤ c → c ≠ '"' → c ≠ '\\' → Quoted cs s rest → Quoted (c :: cs) (c :: s) rest
  | escape {e c : Char} {cs s rest : List Char} :
      escapes.lookup e = some c → Quoted cs s rest → Quoted ('\\' :: e :: cs) (c :: s) rest
  | codeUnit {a b c d : Char} {n : ℕ} {cs s rest : List Char} :
      codeUnit? a b c d = some n → n < 0xD800 ∨ 0xE000 ≤ n → Quoted cs s rest →
      Quoted ('\\' :: 'u' :: a :: b :: c :: d :: cs) (Char.ofNat n :: s) rest
  | codeUnits {a b c d a' b' c' d' : Char} {high low : ℕ} {cs s rest : List Char} :
      codeUnit? a b c d = some (0xD800 + high) → high < 1024 →
      codeUnit? a' b' c' d' = some (0xDC00 + low) → low < 1024 → Quoted cs s rest →
      Quoted ('\\' :: 'u' :: a :: b :: c :: d :: '\\' :: 'u' :: a' :: b' :: c' :: d' :: cs)
        (Char.ofNat (0x10000 + 1024 * high + low) :: s) rest

inductive Items {α : Type} (item : List Char → α → List Char → Prop) (closing : Char) :
    List Char → List α → List Char → Prop where
  | last {cs cs₁ cs₂ rest : List Char} {x : α} :
      Blanks cs cs₁ → item cs₁ x cs₂ → Blanks cs₂ (closing :: rest) →
      Items item closing cs [x] rest
  | more {cs cs₁ cs₂ cs₃ rest : List Char} {x : α} {xs : List α} :
      Blanks cs cs₁ → item cs₁ x cs₂ → Blanks cs₂ (',' :: cs₃) → Items item closing cs₃ xs rest →
      Items item closing cs (x :: xs) rest

inductive Field (value : List Char → Json → List Char → Prop) :
    List Char → String × Json → List Char → Prop where
  | mk {cs cs₁ cs₂ cs₃ rest : List Char} {name : String} {j : Json} :
      Quoted cs name.toList cs₁ → Blanks cs₁ (':' :: cs₂) → Blanks cs₂ cs₃ → value cs₃ j rest →
      Field value ('"' :: cs) (name, j) rest

/-- The characters begin with a text of the value, and are followed by others. Blanks may stand on
both sides of a value, of a name and of a bracket. -/
inductive Reads : List Char → Json → List Char → Prop where
  | null (rest : List Char) : Reads ('n' :: 'u' :: 'l' :: 'l' :: rest) .null rest
  | ofTrue (rest : List Char) : Reads ('t' :: 'r' :: 'u' :: 'e' :: rest) (.bool true) rest
  | ofFalse (rest : List Char) : Reads ('f' :: 'a' :: 'l' :: 's' :: 'e' :: rest) (.bool false) rest
  | number {d : Char} {cs ds rest : List Char} :
      d.isDigit = true → (d = '0' → ds = []) → Digits cs ds rest →
      Reads (d :: cs) (.number (Nat.ofDigitChars 10 (d :: ds) 0)) rest
  | string {cs rest : List Char} {s : String} :
      Quoted cs s.toList rest → Reads ('"' :: cs) (.string s) rest
  | emptyArray {cs rest : List Char} :
      Blanks cs (']' :: rest) → Reads ('[' :: cs) (.array []) rest
  | array {cs rest : List Char} {es : List Json} :
      Items Reads ']' cs es rest → Reads ('[' :: cs) (.array es) rest
  | emptyObject {cs rest : List Char} :
      Blanks cs ('}' :: rest) → Reads ('{' :: cs) (.object []) rest
  | object {cs rest : List Char} {fs : List (String × Json)} :
      Items (Field Reads) '}' cs fs rest → Reads ('{' :: cs) (.object fs) rest

/-- The characters are a text of the value. -/
def IsText (cs : List Char) (j : Json) : Prop :=
  ∃ cs₁ cs₂, Blanks cs cs₁ ∧ Reads cs₁ j cs₂ ∧ Blanks cs₂ []

/-- What holds of a value if it holds of its elements or fields holds of every value. -/
theorem parts_induction {P : Json → Prop} (null : P .null) (bool : ∀ b, P (.bool b))
    (number : ∀ n, P (.number n)) (string : ∀ s, P (.string s))
    (array : ∀ es, (∀ e ∈ es, P e) → P (.array es))
    (object : ∀ fs : List (String × Json), (∀ f ∈ fs, P f.2) → P (.object fs)) : ∀ j, P j
  | .null => null
  | .bool b => bool b
  | .number n => number n
  | .string s => string s
  | .array es => array es fun e _ => parts_induction null bool number string array object e
  | .object fs => object fs fun f _ => parts_induction null bool number string array object f.2
termination_by j => sizeOf j
decreasing_by
  · have he : sizeOf e < sizeOf es := List.sizeOf_lt_of_mem ‹_›
    simp only [Json.array.sizeOf_spec]
    omega
  · have hf : sizeOf f < sizeOf fs := List.sizeOf_lt_of_mem ‹_›
    obtain ⟨name, j⟩ := f
    simp only [Json.object.sizeOf_spec, Prod.mk.sizeOf_spec] at hf ⊢
    omega

theorem StopsAt.of_cons {p : Char → Bool} {c : Char} (h : p c = false) (cs : List Char) :
    StopsAt p (c :: cs) := by
  rintro d ⟨⟩
  exact h

theorem StopsAt.head {p : Char → Bool} {c : Char} {cs : List Char} (h : StopsAt p (c :: cs)) :
    p c = false := h c rfl

theorem Blanks.unique {cs rest rest' : List Char} (h : Blanks cs rest) (h' : Blanks cs rest')
    (hr : StopsAt isBlank rest) (hr' : StopsAt isBlank rest') : rest = rest' := by
  induction h with
  | none cs =>
    cases h' with
    | none => rfl
    | more hc _ => exact absurd (hr.head.symm.trans hc) Bool.false_ne_true
  | more hc _ ih =>
    cases h' with
    | none => exact absurd (hr'.head.symm.trans hc) Bool.false_ne_true
    | more _ h' => exact ih h' hr

theorem Blanks.stopsAt {p : Char → Bool} {cs rest : List Char} (h : Blanks cs rest)
    (hp : ∀ c, isBlank c = true → p c = false) (hr : StopsAt p rest) : StopsAt p cs := by
  cases h with
  | none => exact hr
  | more hc _ => exact .of_cons (hp _ hc) _

theorem Quoted.unique {cs s rest : List Char} (h : Quoted cs s rest) {s' rest' : List Char}
    (h' : Quoted cs s' rest') : s = s' ∧ rest = rest' := by
  have hu : escapes.lookup 'u' = Option.none := by decide
  induction h generalizing s' rest' with
  | close rest =>
    cases h' with
    | close => exact ⟨rfl, rfl⟩
    | plain _ hq => exact absurd rfl hq
  | plain hc hq hb _ ih =>
    cases h' with
    | close => exact absurd rfl hq
    | plain _ _ _ h' =>
      obtain ⟨rfl, rfl⟩ := ih h'
      exact ⟨rfl, rfl⟩
    | escape => exact absurd rfl hb
    | codeUnit => exact absurd rfl hb
    | codeUnits => exact absurd rfl hb
  | escape he _ ih =>
    cases h' with
    | plain _ _ hb => exact absurd rfl hb
    | escape he' h' =>
      obtain ⟨rfl, rfl⟩ := ih h'
      obtain rfl := Option.some.inj (he.symm.trans he')
      exact ⟨rfl, rfl⟩
    | codeUnit => cases hu.symm.trans he
    | codeUnits => cases hu.symm.trans he
  | codeUnit hn hc _ ih =>
    cases h' with
    | plain _ _ hb => exact absurd rfl hb
    | escape he => cases hu.symm.trans he
    | codeUnit hn' _ h' =>
      obtain ⟨rfl, rfl⟩ := ih h'
      obtain rfl := Option.some.inj (hn.symm.trans hn')
      exact ⟨rfl, rfl⟩
    | codeUnits hn' =>
      have he := Option.some.inj (hn.symm.trans hn')
      omega
  | codeUnits hh hh' hl hl' _ ih =>
    cases h' with
    | plain _ _ hb => exact absurd rfl hb
    | escape he => cases hu.symm.trans he
    | codeUnit hn hc =>
      have he := Option.some.inj (hh.symm.trans hn)
      omega
    | codeUnits hn _ hm _ h' =>
      obtain ⟨rfl, rfl⟩ := ih h'
      obtain rfl := Nat.add_left_cancel (Option.some.inj (hh.symm.trans hn))
      obtain rfl := Nat.add_left_cancel (Option.some.inj (hl.symm.trans hm))
      exact ⟨rfl, rfl⟩

theorem Digits.unique {cs ds rest ds' rest' : List Char} (h : Digits cs ds rest)
    (h' : Digits cs ds' rest') (hr : StopsAt Char.isDigit rest)
    (hr' : StopsAt Char.isDigit rest') : ds = ds' ∧ rest = rest' := by
  induction h generalizing ds' with
  | none cs =>
    cases h' with
    | none => exact ⟨rfl, rfl⟩
    | more hd _ => exact absurd (hr.head.symm.trans hd) Bool.false_ne_true
  | more hd _ ih =>
    cases h' with
    | none => exact absurd (hr'.head.symm.trans hd) Bool.false_ne_true
    | more _ h' =>
      obtain ⟨rfl, rfl⟩ := ih h' hr
      exact ⟨rfl, rfl⟩

def endsItem (c : Char) : Bool := isBlank c || c == ',' || c == ']' || c == '}'

/-- A text of `x` is a text of nothing else, if neither text can be longer. -/
def Unambiguous {α : Type} (item : List Char → α → List Char → Prop) (x : α) : Prop :=
  ∀ {cs rest : List Char} {x' : α} {rest' : List Char}, item cs x rest → item cs x' rest' →
    StopsAt Char.isDigit rest → StopsAt Char.isDigit rest' → x = x' ∧ rest = rest'

section

variable {α : Type} {item : List Char → α → List Char → Prop} {closing : Char}

theorem StopsAt.of_endsItem {cs : List Char} (h : StopsAt endsItem cs) : StopsAt isBlank cs := by
  intro c hc
  have he : endsItem c = false := h c hc
  simp only [endsItem, Bool.or_eq_false_iff] at he
  exact he.1.1.1

theorem isDigit_of_isBlank (c : Char) (h : isBlank c = true) : c.isDigit = false := by
  simp only [isBlank, List.contains_eq_mem, decide_eq_true_eq, List.mem_cons,
    List.not_mem_nil, or_false] at h
  rcases h with rfl | rfl | rfl | rfl <;> rfl

theorem Blanks.unique_ends {c c' : Char} {cs rest rest' : List Char} (h : Blanks cs (c :: rest))
    (h' : Blanks cs (c' :: rest')) (hc : isBlank c = false) (hc' : isBlank c' = false) :
    c = c' ∧ rest = rest' :=
  List.cons.inj (h.unique h' (.of_cons hc _) (.of_cons hc' _))

/-- Items are those that they read as, if their kind is unambiguous. -/
theorem Items.unique {cs rest : List Char} {xs : List α} (h : Items item closing cs xs rest)
    (hc : closing = ']' ∨ closing = '}')
    (hs : ∀ {cs x rest}, item cs x rest → StopsAt endsItem cs)
    (hx : ∀ x ∈ xs, Unambiguous item x) {xs' : List α} {rest' : List Char}
    (h' : Items item closing cs xs' rest') : xs = xs' ∧ rest = rest' := by
  have hb : isBlank closing = false ∧ closing.isDigit = false ∧ closing ≠ ',' := by
    rcases hc with rfl | rfl <;> decide
  have hd {cs₂ rest : List Char} {c : Char} (h : Blanks cs₂ (c :: rest))
      (hc : c = ',' ∨ c = closing) : StopsAt Char.isDigit cs₂ := by
    apply h.stopsAt isDigit_of_isBlank (.of_cons _ _)
    rcases hc with rfl | rfl
    · rfl
    · exact hb.2.1
  induction h generalizing xs' with
  | last hl hi hr =>
    cases h' with
    | last hl' hi' hr' =>
      obtain rfl := hl.unique hl' (hs hi).of_endsItem (hs hi').of_endsItem
      obtain ⟨rfl, rfl⟩ := hx _ (.head _) hi hi' (hd hr (.inr rfl)) (hd hr' (.inr rfl))
      exact ⟨rfl, (hr.unique_ends hr' hb.1 hb.1).2⟩
    | more hl' hi' hr' _ =>
      obtain rfl := hl.unique hl' (hs hi).of_endsItem (hs hi').of_endsItem
      obtain ⟨-, rfl⟩ := hx _ (.head _) hi hi' (hd hr (.inr rfl)) (hd hr' (.inl rfl))
      exact absurd (hr.unique_ends hr' hb.1 rfl).1 hb.2.2
  | more hl hi hr _ ih =>
    cases h' with
    | last hl' hi' hr' =>
      obtain rfl := hl.unique hl' (hs hi).of_endsItem (hs hi').of_endsItem
      obtain ⟨-, rfl⟩ := hx _ (.head _) hi hi' (hd hr (.inl rfl)) (hd hr' (.inr rfl))
      exact absurd (hr.unique_ends hr' rfl hb.1).1.symm hb.2.2
    | more hl' hi' hr' h' =>
      obtain rfl := hl.unique hl' (hs hi).of_endsItem (hs hi').of_endsItem
      obtain ⟨rfl, rfl⟩ := hx _ (.head _) hi hi' (hd hr (.inl rfl)) (hd hr' (.inl rfl))
      obtain ⟨-, rfl⟩ := hr.unique_ends hr' rfl rfl
      obtain ⟨rfl, rfl⟩ := ih (fun x hm => hx x (.tail _ hm)) h'
      exact ⟨rfl, rfl⟩

theorem Items.not_blanks {cs rest rest' : List Char} {xs : List α}
    (h : Items item closing cs xs rest) (hc : closing = ']' ∨ closing = '}')
    (hs : ∀ {cs x rest}, item cs x rest → StopsAt endsItem cs) :
    ¬ Blanks cs (closing :: rest') := by
  have he : isBlank closing = false ∧ endsItem closing = true := by
    rcases hc with rfl | rfl <;> decide
  intro hb
  have hi {cs₁ cs₂ : List Char} {x : α} (hl : Blanks cs cs₁) (hi : item cs₁ x cs₂) : False := by
    obtain rfl := hl.unique hb (hs hi).of_endsItem (.of_cons he.1 _)
    exact absurd ((hs hi).head.symm.trans he.2) Bool.false_ne_true
  cases h with
  | last hl hx _ => exact hi hl hx
  | more hl hx _ _ => exact hi hl hx

end

theorem Reads.stopsAt {cs rest : List Char} {j : Json} (h : Reads cs j rest) :
    StopsAt endsItem cs := by
  cases h
  case number d _ _ hd _ _ =>
    apply StopsAt.of_cons
    rw [Bool.eq_false_iff]
    intro he
    simp [endsItem, isBlank] at he
    rcases he with (((rfl | rfl | rfl | rfl) | rfl) | rfl) | rfl <;> cases hd
  all_goals exact .of_cons rfl _

theorem Field.stopsAt {value : List Char → Json → List Char → Prop} {cs rest : List Char}
    {f : String × Json} (h : Field value cs f rest) : StopsAt endsItem cs := by
  cases h
  exact .of_cons rfl _

theorem Field.unambiguous {f : String × Json} (h : Unambiguous Reads f.2) :
    Unambiguous (Field Reads) f := by
  intro cs rest f' rest' hf hf' hr hr'
  cases hf with
  | mk hq hb hb₁ hv =>
    cases hf' with
    | mk hq' hb' hb₁' hv' =>
      obtain ⟨hn, rfl⟩ := hq.unique hq'
      obtain ⟨-, rfl⟩ := hb.unique_ends hb' rfl rfl
      obtain rfl := hb₁.unique hb₁' hv.stopsAt.of_endsItem hv'.stopsAt.of_endsItem
      obtain ⟨rfl, rfl⟩ := h hv hv' hr hr'
      rw [String.toList_inj.1 hn]
      exact ⟨rfl, rfl⟩

theorem unambiguous (j : Json) : Unambiguous Reads j := by
  induction j using parts_induction with
  | null =>
    intro cs rest j' rest' h h' _ _
    cases h
    cases h' with
    | null => exact ⟨rfl, rfl⟩
    | number hd => cases hd
  | bool b =>
    intro cs rest j' rest' h h' _ _
    cases h
    all_goals cases h' with
    | number hd => cases hd
    | _ => exact ⟨rfl, rfl⟩
  | number n =>
    intro cs rest j' rest' h h' hr hr'
    cases h with
    | number hd _ hds =>
      cases h' with
      | number _ _ hds' =>
        obtain ⟨rfl, rfl⟩ := hds.unique hds' hr hr'
        exact ⟨rfl, rfl⟩
      | _ => cases hd
  | string s =>
    intro cs rest j' rest' h h' _ _
    cases h with
    | string hq =>
      cases h' with
      | string hq' =>
        obtain ⟨hs, rfl⟩ := hq.unique hq'
        rw [String.toList_inj.1 hs]
        exact ⟨rfl, rfl⟩
      | number hd => cases hd
  | array es ih =>
    intro cs rest j' rest' h h' _ _
    cases h with
    | emptyArray hb =>
      cases h' with
      | emptyArray hb' => exact ⟨rfl, (hb.unique_ends hb' rfl rfl).2⟩
      | array hi' => exact absurd hb (hi'.not_blanks (.inl rfl) Reads.stopsAt)
      | number hd => cases hd
    | array hi =>
      cases h' with
      | emptyArray hb' => exact absurd hb' (hi.not_blanks (.inl rfl) Reads.stopsAt)
      | array hi' =>
        obtain ⟨rfl, rfl⟩ := hi.unique (.inl rfl) Reads.stopsAt ih hi'
        exact ⟨rfl, rfl⟩
      | number hd => cases hd
  | object fs ih =>
    intro cs rest j' rest' h h' _ _
    cases h with
    | emptyObject hb =>
      cases h' with
      | emptyObject hb' => exact ⟨rfl, (hb.unique_ends hb' rfl rfl).2⟩
      | object hi' => exact absurd hb (hi'.not_blanks (.inr rfl) Field.stopsAt)
      | number hd => cases hd
    | object hi =>
      cases h' with
      | emptyObject hb' => exact absurd hb' (hi.not_blanks (.inr rfl) Field.stopsAt)
      | object hi' =>
        obtain ⟨rfl, rfl⟩ :=
          hi.unique (.inr rfl) Field.stopsAt (fun f hf => Field.unambiguous (ih f hf)) hi'
        exact ⟨rfl, rfl⟩
      | number hd => cases hd

theorem IsText.unique {cs : List Char} {j j' : Json} (h : IsText cs j) (h' : IsText cs j') :
    j = j' := by
  obtain ⟨cs₁, cs₂, hb, hj, he⟩ := h
  obtain ⟨cs₁', cs₂', hb', hj', he'⟩ := h'
  have hd {cs : List Char} (h : Blanks cs []) : StopsAt Char.isDigit cs :=
    h.stopsAt isDigit_of_isBlank (by rintro c ⟨⟩)
  obtain rfl := hb.unique hb' hj.stopsAt.of_endsItem hj'.stopsAt.of_endsItem
  exact (unambiguous j hj hj' (hd he) (hd he')).1

end ScriptFeatures.Json
