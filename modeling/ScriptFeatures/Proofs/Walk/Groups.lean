import ScriptFeatures.Proofs.Text.Search
import ScriptFeatures.Proofs.Usage.Kinds
import ScriptFeatures.Proofs.Walk.Coverage

namespace ScriptFeatures

open Syntax (Node Occurrence Span)
open Text (StandsBefore byteLength byteLength_append getElem?_utf8Bytes
  head?_utf8Bytes_eq_some_iff infix_iff_standsBefore mem_matchOffsets_iff
  occursIn_append_singleton_iff standsBefore_append standsBefore_or utf8Bytes)

namespace Usage

variable {pattern flags before rest : List Char} {span place : Span}

/-- What comes right after the mark makes the group a lookbehind. -/
def LookbehindSign (next : Option Char) : Prop := next = some '=' ∨ next = some '!'

def RegexShows (flags : List Char) (span : Span) (key : String) (pattern : List Char) : Prop :=
  ⟨key, span⟩ ∈ regexUses pattern flags span

theorem not_mem_groupMark : '(' ∉ ['?', '<'] := by decide

/-- The byte after the mark tells of the character after it, however many bytes that one has. -/
theorem isLookbehind_getElem?_iff :
    isLookbehind (utf8Bytes (before ++ groupMark ++ rest))[byteLength before + groupMark.length]? =
        true ↔ LookbehindSign rest.head? := by
  have hb : byteLength before + groupMark.length = byteLength (before ++ groupMark) := by
    rw [byteLength_append]
    rfl
  rw [hb, getElem?_utf8Bytes, isLookbehind, Bool.or_eq_true, beq_iff_eq, beq_iff_eq,
    head?_utf8Bytes_eq_some_iff (by decide), head?_utf8Bytes_eq_some_iff (by decide),
    LookbehindSign]

theorem hasLookbehind_iff :
    hasLookbehind pattern = true ↔ StandsBefore groupMark LookbehindSign pattern := by
  have hs : StandsBefore groupMark LookbehindSign pattern ↔ _ := standsBefore_or
  rw [hs, hasLookbehind, Bool.or_eq_true, ← occursIn_append_singleton_iff,
    ← occursIn_append_singleton_iff]
  rfl

theorem hasNamedGroup_iff :
    hasNamedGroup pattern = true ↔ StandsBefore groupMark (¬ LookbehindSign ·) pattern := by
  simp only [hasNamedGroup, List.any_eq_true, Bool.not_eq_true', ← Bool.not_eq_true]
  constructor
  · rintro ⟨_, hk, hn⟩
    obtain ⟨before, rest, rfl, rfl⟩ := (mem_matchOffsets_iff not_mem_groupMark).1 hk
    exact ⟨before, rest, rfl, fun hs => hn (isLookbehind_getElem?_iff.2 hs)⟩
  · rintro ⟨before, rest, rfl, hn⟩
    have hk := (mem_matchOffsets_iff not_mem_groupMark).2 ⟨before, rest, rfl, rfl⟩
    exact ⟨byteLength before, hk, fun hl => hn (isLookbehind_getElem?_iff.1 hl)⟩

-- After the second mark comes a character of two bytes, or the end.
example : hasNamedGroup "(?<=a)(?<é".toList = true ∧ hasNamedGroup "(?<=a)(?<".toList = true := by
  decide

inductive GroupKind where
  | lookbehind
  | named

namespace GroupKind

def key : GroupKind → String
  | lookbehind => "regex-lookbehind"
  | named => "regex-named-groups"

def Takes : GroupKind → Option Char → Prop
  | lookbehind => LookbehindSign
  | named => (¬ LookbehindSign ·)

def isIn : GroupKind → List Char → Bool
  | lookbehind => hasLookbehind
  | named => hasNamedGroup

variable {kind : GroupKind}

theorem isIn_iff : kind.isIn pattern = true ↔ StandsBefore groupMark kind.Takes pattern := by
  cases kind with
  | lookbehind => exact hasLookbehind_iff
  | named => exact hasNamedGroup_iff

theorem mem_regexUses_iff :
    ⟨kind.key, place⟩ ∈ regexUses pattern flags span ↔ place = span ∧ kind.isIn pattern = true := by
  cases kind <;> simp [regexUses, regexFlags, key, isIn, and_comm]

theorem regexShows_iff (kind : GroupKind) :
    RegexShows flags span kind.key pattern ↔ StandsBefore groupMark kind.Takes pattern := by
  rw [RegexShows, mem_regexUses_iff, and_iff_right rfl, isIn_iff]

/-- A group, the text before it and the text behind it each show what they show by themselves. -/
theorem regexShows_append (kind : GroupKind) :
    RegexShows flags span kind.key (before ++ groupMark ++ rest) ↔
      RegexShows flags span kind.key before ∨ kind.Takes rest.head? ∨
        RegexShows flags span kind.key rest := by
  have hp : kind.Takes none ↔ kind.Takes (some '(') := by
    cases kind <;> simp [Takes, LookbehindSign]
  simp only [regexShows_iff]
  exact standsBefore_append not_mem_groupMark hp

end GroupKind

theorem regexShows_or_iff :
    RegexShows flags span "regex-lookbehind" pattern ∨
      RegexShows flags span "regex-named-groups" pattern ↔ groupMark <:+: pattern := by
  rw [infix_iff_standsBefore]
  exact or_congr (GroupKind.regexShows_iff .lookbehind) (GroupKind.regexShows_iff .named)

end Usage

open Usage (GroupKind LookbehindSign RegexShows regexShows_or_iff groupMark)

namespace Syntax.Node

theorem eq_regexLiteral {n : Node} {kind : GroupKind} (h : kind.key ∈ n.kindKeys) :
    ∃ span pattern flags, n = .regexLiteral span pattern flags := by
  cases n with
  | regexLiteral span pattern flags => exact ⟨span, pattern, flags, rfl⟩
  | _ => cases kind <;> exact absurd h (by simp only [GroupKind.key, kindKeys]; decide)

end Syntax.Node

namespace Evidence

variable {cite : Citation} {module : Node}

theorem contains_group (kind : GroupKind) {s : Text.Snippet} :
    (ofModule cite module).contains kind.key s = true ↔
      ∃ o ∈ module.occurrences [], ∃ span pattern flags,
        o.node = .regexLiteral span pattern flags ∧
          StandsBefore groupMark kind.Takes pattern.toList ∧ span.isDummy = false ∧
            cite.snippet span = s := by
  have hk : kind.key ≠ "top-level-await" := by cases kind <;> decide
  simp only [contains_ofModule, Occurrence.mem_uses_of_ne hk, ← GroupKind.isIn_iff]
  constructor
  · rintro ⟨o, ho, place, hu, hs⟩
    obtain ⟨span, pattern, flags, hn⟩ := Node.eq_regexLiteral (o.node.keysIn_kindKeys _ hu)
    rw [hn] at hu
    obtain ⟨rfl, hg⟩ := GroupKind.mem_regexUses_iff.1 hu
    exact ⟨o, ho, place, pattern, flags, hn, hg, hs⟩
  · rintro ⟨o, ho, span, pattern, flags, hn, hg, hs⟩
    refine ⟨o, ho, span, ?_, hs⟩
    rw [hn]
    exact GroupKind.mem_regexUses_iff.2 ⟨rfl, hg⟩

/-- A regular expression is reported as a lookbehind if `=` or `!` comes right after some `(?<`,
and as a named group if anything else or the end of the pattern does. One of the two is reported
whenever `(?<` stands in the pattern. Each `(?<` counts for itself: it shows what comes after it
tells, and the text on either side of it shows what it would show alone. -/
theorem regexGroups_by_next (cite : Citation) (module : Node) :
    (∀ s, (ofModule cite module).contains "regex-lookbehind" s = true ↔
      ∃ o ∈ module.occurrences [], ∃ span pattern flags,
        o.node = .regexLiteral span pattern flags ∧
          StandsBefore groupMark LookbehindSign pattern.toList ∧ span.isDummy = false ∧
            cite.snippet span = s) ∧
    (∀ s, (ofModule cite module).contains "regex-named-groups" s = true ↔
      ∃ o ∈ module.occurrences [], ∃ span pattern flags,
        o.node = .regexLiteral span pattern flags ∧
          StandsBefore groupMark (¬ LookbehindSign ·) pattern.toList ∧ span.isDummy = false ∧
            cite.snippet span = s) ∧
    ∀ flags span,
      (∀ pattern, RegexShows flags span "regex-lookbehind" pattern ↔
        StandsBefore groupMark LookbehindSign pattern) ∧
      (∀ pattern, RegexShows flags span "regex-named-groups" pattern ↔
        StandsBefore groupMark (¬ LookbehindSign ·) pattern) ∧
      (∀ pattern, RegexShows flags span "regex-lookbehind" pattern ∨
        RegexShows flags span "regex-named-groups" pattern ↔ groupMark <:+: pattern) ∧
      ∀ before rest,
        (RegexShows flags span "regex-lookbehind" (before ++ groupMark ++ rest) ↔
          RegexShows flags span "regex-lookbehind" before ∨ LookbehindSign rest.head? ∨
            RegexShows flags span "regex-lookbehind" rest) ∧
        (RegexShows flags span "regex-named-groups" (before ++ groupMark ++ rest) ↔
          RegexShows flags span "regex-named-groups" before ∨ ¬ LookbehindSign rest.head? ∨
            RegexShows flags span "regex-named-groups" rest) := by
  refine ⟨fun s => contains_group .lookbehind, fun s => contains_group .named,
    fun flags span => ⟨fun pattern => ?_, fun pattern => ?_, fun pattern => ?_,
      fun before rest => ⟨?_, ?_⟩⟩⟩
  · exact GroupKind.regexShows_iff .lookbehind
  · exact GroupKind.regexShows_iff .named
  · exact regexShows_or_iff
  · exact GroupKind.regexShows_append .lookbehind
  · exact GroupKind.regexShows_append .named

end Evidence
end ScriptFeatures
