import ScriptFeatures.Proofs.Text.Backslash
import ScriptFeatures.Proofs.Usage.Kinds
import ScriptFeatures.Proofs.Walk.Coverage

namespace ScriptFeatures

open Syntax (Node Occurrence Span)
open Text (OddRun RunBefore Snippet escapesCodePoint escapesCodePoint_iff occursIn
  occursIn_codePoint_iff occursIn_of_escapesCodePoint)
open Usage (Use hasCodePointEscape quasiUse?)

namespace Syntax.Node

/-- The raw texts of a string literal and of the parts of a template, each with its place. -/
def rawTexts : Node → List (Span × List Char)
  | stringLiteral span _ raw => raw.toList.map fun r => (span, r.toList)
  | template _ _ quasis => quasis.filterMap fun
    | templateElement span raw => some (span, raw.toList)
    | _ => none
  | _ => []

def escapeUses (test : List Char → Bool) (n : Node) : List Use :=
  (n.rawTexts.filter (test ·.2)).map fun r => ⟨"unicode-code-point-escapes", r.1⟩

/-- The node shows one code point escape for each raw text that has one. -/
def ShowsEscapes (n : Node) : Prop :=
  n.uses.filter (·.key == "unicode-code-point-escapes") = n.escapeUses escapesCodePoint

theorem filter_quasiUses {span : Span} {expressions : List Node} (quasis : List Node) :
    (quasis.filterMap quasiUse?).filter (·.key == "unicode-code-point-escapes") =
      escapeUses (occursIn ['\\', 'u', '{']) (.template span expressions quasis) := by
  rw [escapeUses, rawTexts]
  induction quasis with
  | nil => rfl
  | cons q quasis ih =>
    cases q with
    | templateElement span raw =>
      by_cases h : occursIn ['\\', 'u', '{'] raw.toList = true <;>
        simp [quasiUse?, hasCodePointEscape, h, ih]
    | _ => exact ih

theorem filter_uses_escapes (n : Node) :
    n.uses.filter (·.key == "unicode-code-point-escapes") =
      n.escapeUses (occursIn ['\\', 'u', '{']) := by
  cases n with
  | stringLiteral span value raw =>
    cases raw with
    | none => rfl
    | some raw =>
      by_cases h : occursIn ['\\', 'u', '{'] raw.toList = true <;>
        simp [uses, hasCodePointEscape, escapeUses, rawTexts, h]
  | template span expressions quasis => exact filter_quasiUses quasis
  | _ => exact filter_uses_eq_nil (by simp only [kindKeys]; decide)

theorem mem_uses_escapes {n : Node} {span : Span} :
    ⟨"unicode-code-point-escapes", span⟩ ∈ n.uses ↔
      ∃ r ∈ n.rawTexts, occursIn ['\\', 'u', '{'] r.2 = true ∧ r.1 = span := by
  have h : ⟨"unicode-code-point-escapes", span⟩ ∈ n.uses ↔
      ⟨"unicode-code-point-escapes", span⟩ ∈
        n.uses.filter (·.key == "unicode-code-point-escapes") := by
    rw [List.mem_filter, and_iff_left (beq_self_eq_true _)]
  rw [h, filter_uses_escapes, escapeUses, List.mem_map]
  constructor
  · rintro ⟨r, hr, he⟩
    obtain ⟨hm, ho⟩ := List.mem_filter.1 hr
    exact ⟨r, hm, ho, (Use.mk.inj he).2⟩
  · rintro ⟨r, hm, ho, rfl⟩
    exact ⟨r, List.mem_filter.2 ⟨hm, ho⟩, rfl⟩

/-- The texts with an escape are among those with its characters. The node shows one use for each
of the latter, so that there may be no more of them. -/
theorem showsEscapes_iff {n : Node} :
    n.ShowsEscapes ↔
      ∀ r ∈ n.rawTexts, occursIn ['\\', 'u', '{'] r.2 = true → escapesCodePoint r.2 = true := by
  have himp (r : Span × List Char) (h : escapesCodePoint r.2 = true) :
      occursIn ['\\', 'u', '{'] r.2 = true := occursIn_of_escapesCodePoint h
  rw [ShowsEscapes, filter_uses_escapes, escapeUses, escapeUses]
  constructor
  · intro h r hr ho
    have hl := congrArg List.length h
    rw [List.length_map, List.length_map] at hl
    have hf : n.rawTexts.filter (escapesCodePoint ·.2) =
        n.rawTexts.filter (occursIn ['\\', 'u', '{'] ·.2) :=
      (List.monotone_filter_right n.rawTexts himp).eq_of_length hl.symm
    have hm : r ∈ n.rawTexts.filter (escapesCodePoint ·.2) :=
      hf ▸ List.mem_filter.2 ⟨hr, ho⟩
    exact (List.mem_filter.1 hm).2
  · intro h
    congr 1
    apply List.filter_congr
    intro r hr
    exact Bool.eq_iff_iff.2 ⟨h r hr, himp r⟩

end Syntax.Node

namespace Evidence

/-- A code point escape is reported for each raw text with backslashes before `u{`, however many
they are. That is right exactly where such a text has an odd run of them too. -/
theorem showsEscapes_iff_runs (cite : Citation) (module : Node) :
    (∀ s, (ofModule cite module).contains "unicode-code-point-escapes" s = true ↔
      ∃ o ∈ module.occurrences [], ∃ r ∈ o.node.rawTexts, (∃ k, 0 < k ∧ RunBefore k r.2) ∧
        r.1.isDummy = false ∧ cite.snippet r.1 = s) ∧
    (∀ n : Node, n.uses.filter (·.key == "unicode-code-point-escapes") =
      n.escapeUses (occursIn ['\\', 'u', '{'])) ∧
    (∀ cs, occursIn ['\\', 'u', '{'] cs = true ↔ ∃ k, 0 < k ∧ RunBefore k cs) ∧
    (∀ cs, escapesCodePoint cs = true ↔ OddRun cs) ∧
    ∀ n : Node, n.ShowsEscapes ↔
      ∀ r ∈ n.rawTexts, (∃ k, 0 < k ∧ RunBefore k r.2) → OddRun r.2 := by
  refine ⟨fun s => ?_, Node.filter_uses_escapes, fun cs => occursIn_codePoint_iff,
    fun cs => escapesCodePoint_iff, fun n => ?_⟩
  · have hk : "unicode-code-point-escapes" ≠ "top-level-await" := by decide
    simp only [contains_ofModule, Occurrence.mem_uses_of_ne hk, Node.mem_uses_escapes]
    constructor
    · rintro ⟨o, ho, _, ⟨r, hr, hc, rfl⟩, hs⟩
      exact ⟨o, ho, r, hr, occursIn_codePoint_iff.1 hc, hs⟩
    · rintro ⟨o, ho, r, hr, hc, hs⟩
      exact ⟨o, ho, r.1, ⟨r, hr, occursIn_codePoint_iff.2 hc, rfl⟩, hs⟩
  · simp only [Node.showsEscapes_iff, occursIn_codePoint_iff, escapesCodePoint_iff]

theorem not_showsEscapes_even :
    ¬ (Node.stringLiteral ⟨1, 10⟩ "\\u\x7b41\x7d" (some "\"\\\\u\x7b41\x7d\"")).ShowsEscapes := by
  rw [Node.showsEscapes_iff]
  intro h
  have hm := h (⟨1, 10⟩, "\"\\\\u\x7b41\x7d\"".toList) (.head _) (by decide)
  revert hm
  decide

end Evidence
end ScriptFeatures
