import ScriptFeatures.Proofs.Text.Position
import ScriptFeatures.Proofs.Text.Trimming
import ScriptFeatures.Proofs.Walk.Locations

namespace ScriptFeatures

open Syntax (Node Occurrence Span)
open Text (IsTrimmed Snippet Source byteLength isBlank isTrimmed_trimBlankEnd quotePart
  quotePart_sameExcerpt trimBlankEnd trimBlankEnd_eq_nil)
open Usage (Use)

namespace Usage

def flagKeys : List String := ["generators", "async-functions", "async-generators"]

inductive HasFlag (isAsync isGenerator : Bool) : String → Prop where
  | generators : isGenerator = true → HasFlag isAsync isGenerator "generators"
  | asyncFunctions : isAsync = true → HasFlag isAsync isGenerator "async-functions"
  | asyncGenerators : isAsync = true → isGenerator = true →
      HasFlag isAsync isGenerator "async-generators"

variable {isAsync isGenerator : Bool} {key : String} {span place : Span}

theorem HasFlag.mem_flagKeys (h : HasFlag isAsync isGenerator key) : key ∈ flagKeys := by
  cases h <;> decide

theorem mem_functionFlags :
    ⟨key, place⟩ ∈ functionFlags span isAsync isGenerator ↔
      HasFlag isAsync isGenerator key ∧ place = span := by
  constructor
  · intro h
    cases isAsync <;> cases isGenerator <;> simp [functionFlags] at h
    case false.true => exact ⟨h.1 ▸ .generators rfl, h.2⟩
    case true.false => exact ⟨h.1 ▸ .asyncFunctions rfl, h.2⟩
    case true.true =>
      rcases h with ⟨rfl, hs⟩ | ⟨rfl, hs⟩ | ⟨rfl, hs⟩
      · exact ⟨.generators rfl, hs⟩
      · exact ⟨.asyncFunctions rfl, hs⟩
      · exact ⟨.asyncGenerators rfl rfl, hs⟩
  · rintro ⟨h, rfl⟩
    cases h with
    | generators hg => simp [functionFlags, hg]
    | asyncFunctions ha => simp [functionFlags, ha]
    | asyncGenerators ha hg => simp [functionFlags, ha, hg]

theorem not_mem_filterMap_paramUse? (hk : key ∈ flagKeys) (ps : List Node) :
    ⟨key, place⟩ ∉ ps.filterMap paramUse? := by
  intro h
  obtain ⟨p, -, hp⟩ := List.mem_filterMap.1 h
  unfold paramUse? at hp
  split at hp <;> cases hp <;> revert hk <;> decide

theorem functionHead_of_le {body : Node} (h : span.lo ≤ body.span.lo) :
    functionHead span (some body) = ⟨span.lo, body.span.lo⟩ := by
  rw [functionHead, Span.withHi, Span.ofEnds, if_pos h]

theorem mem_uses_function (hk : key ∈ flagKeys) {params decorators : List Node} {body : Node}
    (h : span.lo ≤ body.span.lo) :
    ⟨key, place⟩ ∈
        (Node.function span isAsync isGenerator params decorators (some body)).uses ↔
      HasFlag isAsync isGenerator key ∧ place = ⟨span.lo, body.span.lo⟩ := by
  rw [Node.uses, List.mem_append, or_iff_left (not_mem_filterMap_paramUse? hk _),
    mem_functionFlags, functionHead_of_le h]

end Usage

open Usage (HasFlag flagKeys mem_uses_function)

namespace Citation

/-- The place covers `part` of the text, behind `before`. -/
structure Covers (c : Citation) (span : Span) (before part : List Char) : Prop where
  isPrefix : before ++ part <+: c.source.chars
  offset_lo : c.offset span.lo = byteLength before
  offset_hi : c.offset span.hi = byteLength (before ++ part)

namespace Covers

variable {c : Citation} {span : Span} {before part : List Char}

theorem snippet_eq (h : c.Covers span before part) :
    c.snippet span = quotePart c.source.chars before (trimBlankEnd part) c.context := by
  obtain ⟨⟨after, ha⟩, hlo, hhi⟩ := h
  rw [snippet, hlo, hhi]
  exact Source.snippet_trimEnd ha.symm c.context

theorem matchText_eq (h : c.Covers span before part) :
    (c.snippet span).matchText = String.ofList (trimBlankEnd part) := by
  rw [h.snippet_eq]
  rfl

theorem isTrimmed (h : c.Covers span before part) :
    IsTrimmed part (c.snippet span).matchText.toList := by
  rw [h.matchText_eq, String.toList_ofList]
  exact isTrimmed_trimBlankEnd part

-- From its start to its brace, a function ends in a blank.
example : (Citation.snippet ⟨.ofString "async function* h() {}", 1, 2⟩ ⟨1, 21⟩).matchText =
    "async function* h()" := by
  decide

theorem start_range (h : c.Covers span before part) :
    (c.range span).start = byteLength before := by
  obtain ⟨⟨after, ha⟩, hlo, -⟩ := h
  change c.source.clamp (c.offset span.lo) = byteLength before
  rw [hlo]
  exact Source.clamp_byteLength (by rw [← ha, List.append_assoc])

theorem stop_range (h : c.Covers span before part) :
    (c.range span).stop = byteLength (before ++ trimBlankEnd part) := by
  have hs := h.start_range
  obtain ⟨⟨after, ha⟩, hlo, hhi⟩ := h
  change max (c.source.clamp (c.source.trimEnd _ _)) (c.range span).start = _
  rw [hs, hlo, hhi, Source.trimEnd_of_parts ha.symm,
    Source.clamp_byteLength (Source.eq_append_trimBlankEnd ha.symm), Text.byteLength_append]
  omega

end Covers

/-- In the tree stands a function with these flags and a body. Its head is the place from its start
to its body; it covers `head`, behind `before`. -/
structure HasHead (c : Citation) (module : Node) (isAsync isGenerator : Bool) (place : Span)
    (before head : List Char) : Prop where
  exists_function : ∃ o ∈ module.occurrences [], ∃ span params decorators body,
    o.node = .function span isAsync isGenerator params decorators (some body) ∧
      span.lo ≤ body.span.lo ∧ place = ⟨span.lo, body.span.lo⟩
  covers : c.Covers place before head
  isDummy_eq : place.isDummy = false

namespace HasHead

variable {c c' : Citation} {module module' : Node} {isAsync isGenerator : Bool}
  {place place' : Span} {before head : List Char} {key : String}

theorem contains (h : c.HasHead module isAsync isGenerator place before head)
    (hf : HasFlag isAsync isGenerator key) :
    (Evidence.ofModule c module).contains key (c.snippet place) = true := by
  obtain ⟨⟨o, ho, span, params, decorators, body, hn, hle, rfl⟩, -, hd⟩ := h
  have hu : (⟨key, ⟨span.lo, body.span.lo⟩⟩ : Use) ∈ o.node.uses := by
    rw [hn, mem_uses_function hf.mem_flagKeys hle]
    exact ⟨hf, rfl⟩
  exact Evidence.contains_ofModule.2 ⟨o, ho, _, List.mem_append_left _ hu, hd, rfl⟩

theorem stop_range_le (h : c.HasHead module isAsync isGenerator place before head) :
    (c.range place).stop ≤ c.offset place.hi := by
  rw [h.covers.stop_range, h.covers.offset_hi]
  conv_rhs => rw [← Text.trimBlankEnd_append head]
  simp only [Text.byteLength_append]
  omega

/-- The same head is cited alike in any two texts that begin alike, whatever follows it there. -/
theorem sameExcerpt (h : c.HasHead module isAsync isGenerator place before head)
    (h' : c'.HasHead module' isAsync isGenerator place' before head) :
    (c'.snippet place').SameExcerpt (c.snippet place) := by
  rw [h.covers.snippet_eq, h'.covers.snippet_eq]
  exact quotePart_sameExcerpt _ _ before _ _ _

end HasHead
end Citation

namespace Evidence

/-- Each use at a place that covers a part of the text is recorded with the longest prefix of this
part that does not end in a blank, located where the part starts. The flags of a function with a
body are shown at its head, from its first byte up to its body: what is recorded for them starts at
this byte, ends before the body and holds none of it, so that it is the same text at the same place
in every text that begins with the same head. -/
theorem ofModule_cites_trimmed (cite : Citation) (module : Node) :
    (∀ o ∈ module.occurrences [], ∀ u ∈ o.uses, u.span.isDummy = false →
      ∀ before part, cite.Covers u.span before part →
        (ofModule cite module).contains u.key (cite.snippet u.span) = true ∧
        IsTrimmed part (cite.snippet u.span).matchText.toList ∧
        ((∀ c ∈ part, isBlank c = true) → (cite.snippet u.span).matchText = "") ∧
        ((cite.snippet u.span).matchLine, (cite.snippet u.span).matchColumn) =
          cite.source.position (byteLength before)) ∧
    (∀ span isAsync isGenerator params decorators body, span.lo ≤ body.span.lo →
      ∀ key ∈ flagKeys, ∀ place,
        ⟨key, place⟩ ∈
            (Node.function span isAsync isGenerator params decorators (some body)).uses ↔
          HasFlag isAsync isGenerator key ∧ place = ⟨span.lo, body.span.lo⟩) ∧
    ∀ isAsync isGenerator place before head,
      cite.HasHead module isAsync isGenerator place before head →
      ∀ key, HasFlag isAsync isGenerator key →
        (ofModule cite module).contains key (cite.snippet place) = true ∧
        (cite.range place).start = cite.offset place.lo ∧
        (cite.range place).stop ≤ cite.offset place.hi ∧
        (cite.snippet place).matchText.toList <+: head ∧
        ∀ cite' module' place',
          cite'.HasHead module' isAsync isGenerator place' before head →
          (ofModule cite' module').contains key (cite'.snippet place') = true ∧
          (cite'.snippet place').SameExcerpt (cite.snippet place) := by
  refine ⟨?_, ?_, ?_⟩
  · intro o ho u hu hd before part h
    refine ⟨contains_ofModule.2 ⟨o, ho, u.span, hu, hd, rfl⟩, h.isTrimmed, fun hb => ?_, ?_⟩
    · rw [h.matchText_eq, trimBlankEnd_eq_nil hb, String.ofList_nil]
    · rw [← h.offset_lo]
      exact Source.place_snippet _ _ _
  · intro span isAsync isGenerator params decorators body hle key hk place
    exact mem_uses_function hk hle
  · intro isAsync isGenerator place before head h key hf
    refine ⟨h.contains hf, ?_, h.stop_range_le, h.covers.isTrimmed.isPrefix,
      fun cite' module' place' h' => ⟨h'.contains hf, h.sameExcerpt h'⟩⟩
    rw [h.covers.start_range, h.covers.offset_lo]

theorem ofModule_cites_trimmed_bodies :
    let empty : Node := .function ⟨1, 23⟩ true true [] [] (some (.block ⟨21, 23⟩ []))
    let call : Node := .function ⟨1, 26⟩ true true [] [] (some (.block ⟨21, 26⟩
      [.expressionStatement ⟨23, 24⟩ (.identifier ⟨23, 24⟩ "f")]))
    let cite : Citation := ⟨.ofString "async function* h() {}", 1, 2⟩
    let cite' : Citation := ⟨.ofString "async function* h() { f }", 1, 2⟩
    let head := "async function* h() ".toList
    cite.HasHead empty true true ⟨1, 21⟩ [] head ∧ cite'.HasHead call true true ⟨1, 21⟩ [] head ∧
      (ofModule cite empty).contains "async-generators" (cite.snippet ⟨1, 21⟩) = true ∧
      (cite'.snippet ⟨1, 21⟩).SameExcerpt (cite.snippet ⟨1, 21⟩) := by
  intro empty call cite cite' head
  have h : cite.HasHead empty true true ⟨1, 21⟩ [] head :=
    ⟨⟨_, .head _, _, [], [], _, rfl, by decide, rfl⟩, ⟨⟨['{', '}'], by decide⟩, rfl, rfl⟩, rfl⟩
  have h' : cite'.HasHead call true true ⟨1, 21⟩ [] head :=
    ⟨⟨_, .head _, _, [], [], _, rfl, by decide, rfl⟩,
      ⟨⟨['{', ' ', 'f', ' ', '}'], by decide⟩, rfl, rfl⟩, rfl⟩
  obtain ⟨hc, -, -, -, hs⟩ := (ofModule_cites_trimmed cite empty).2.2 _ _ _ _ _ h
    "async-generators" (.asyncGenerators rfl rfl)
  exact ⟨h, h', hc, (hs cite' call _ h').2⟩

end Evidence
end ScriptFeatures
