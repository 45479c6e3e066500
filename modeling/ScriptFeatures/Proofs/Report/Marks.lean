import ScriptFeatures.Proofs.Report.Composition
import ScriptFeatures.Proofs.Report.Completeness
import ScriptFeatures.Proofs.Syntax.Relocation
import ScriptFeatures.Proofs.Text.Checked
import ScriptFeatures.Proofs.Text.Prefix

namespace ScriptFeatures

open Syntax (Node Occurrence Span parseModule withoutMark)
open Text (Snippet Source byteLength)
open Usage (Use)

def mark : Char := '\uFEFF'

def marked (n : ℕ) (text : List Char) : List Char := List.replicate n mark ++ text

variable {t : List Char} {n k : ℕ}

theorem withoutMark_marked_succ (n : ℕ) (t : List Char) :
    withoutMark (marked (n + 1) t) = marked n t := rfl

theorem withoutMark_of_head (h : t.head? ≠ some mark) : withoutMark t = t := by
  cases t with
  | nil => rfl
  | cons c cs =>
    rw [withoutMark, if_neg]
    intro hc
    apply h
    rw [List.head?_cons, ← Char.ofNat_toNat c, hc]
    rfl

theorem head?_marked_eq_mark_iff (h : t.head? ≠ some mark) :
    (marked n t).head? = some mark ↔ n ≠ 0 := by
  cases n with
  | zero => exact iff_of_false h (not_not_intro rfl)
  | succ n => exact iff_of_true rfl (Nat.succ_ne_zero n)

theorem byteLength_marks (n : ℕ) : byteLength (List.replicate n mark) = 3 * n := by
  induction n with
  | zero => rfl
  | succ n ih =>
    have hm : mark.utf8Size = 3 := rfl
    rw [List.replicate_succ, byteLength, ih, hm]
    omega

theorem hashbang?_marked_succ (n : ℕ) (t : List Char) : hashbang? (marked (n + 1) t) = none := rfl

theorem parseModule_congr {markup : Bool} {base : ℕ} {cs ds : List Char}
    (h : withoutMark cs = withoutMark ds) :
    parseModule markup base cs = parseModule markup base ds := by
  rw [parseModule, parseModule, h]

theorem exists_items_of_accept {markup : Bool} {base : ℕ} {cs : List Char} {module : Node}
    (h : (parseModule markup base cs).accept = .ok module) :
    ∃ span items, module = .module span items := by
  rw [parseModule] at h
  split at h
  · rw [Syntax.Outcome.accept] at h
    split at h
    · cases h
    · rename_i he
      cases he
      split at h
      · cases h
      · cases h
        exact ⟨_, _, rfl⟩
  · cases h

def itemUses (items : List Node) : List Use :=
  items.flatMap fun item => (item.occurrences []).flatMap Occurrence.uses

theorem itemUses_relocate {f : ℕ → ℕ} (hf : Monotone f) (h0 : f 0 = 0) (items : List Node) :
    itemUses (items.map (Node.relocate f)) = (itemUses items).map (Use.relocate f) := by
  rw [itemUses, itemUses, List.flatMap_map, List.map_flatMap]
  congr 1
  funext item
  exact Node.uses_occurrences_relocate hf h0 item

theorem evidence_module {cite : Citation} (h : hashbang? cite.source.chars = none) (span : Span)
    (items : List Node) :
    Analysis.evidence cite (.module span items) =
      Evidence.empty.recordAll (cite.hits (itemUses items)) := by
  rw [Analysis.evidence, h, itemUses, Citation.hits_flatMap]
  exact Evidence.ofModule_module cite span items

def citation (options : Options) (text : List Char) : Citation :=
  ⟨{ chars := text }, Analysis.base, options.contextLines⟩

theorem analyze_ofList_eq_ok_iff {options : Options} {cs : List Char} {report : Report} :
    analyze options (.ofList cs) = .ok report ↔
      ∃ module,
        (parseModule options.markup Analysis.base (withoutMark cs)).accept = .ok module ∧
        report = .ofEvidence (Analysis.evidence (citation options (withoutMark cs)) module) := by
  rw [analyze_eq_ok_iff, String.toList_ofList]
  rfl

theorem analyze_congr {options : Options} {cs ds : List Char}
    (h : withoutMark cs = withoutMark ds) :
    analyze options (.ofList cs) = analyze options (.ofList ds) := by
  simp only [analyze, String.toList_ofList, h]

/-- Positions moved by `k`. Zero stands for no place and is not moved. -/
def moveBy (k position : ℕ) : ℕ := if position = 0 then 0 else position + k

theorem moveBy_zero_right (k : ℕ) : moveBy k 0 = 0 := rfl

theorem moveBy_of_pos {position : ℕ} (h : 0 < position) : moveBy k position = position + k :=
  if_neg h.ne'

theorem monotone_moveBy (k : ℕ) : Monotone (moveBy k) := by
  intro a b h
  rw [moveBy, moveBy]
  split_ifs <;> omega

theorem relocate_moveBy_zero (u : Use) : u.relocate (moveBy 0) = u := by
  have hm (p : ℕ) : moveBy 0 p = p := by
    rw [moveBy]
    split_ifs <;> omega
  rw [Use.relocate, Span.relocate, hm, hm]

/-- What is assumed of the parser: it takes further marks for blanks. Behind them it finds the
items of the text, each position moved by the bytes of the marks, and no place gets lost. -/
structure SkipsMarks (markup : Bool) (k : ℕ) (t : List Char) : Prop where
  accept_eq : ∀ span items,
    (parseModule markup Analysis.base t).accept = .ok (.module span items) →
      ∃ span', (parseModule markup Analysis.base (marked (k + 1) t)).accept =
        .ok (.module span' (items.map (Node.relocate (moveBy (3 * k)))))
  isDummy_eq : ∀ span items,
    (parseModule markup Analysis.base t).accept = .ok (.module span items) →
      ∀ u ∈ itemUses items, (u.relocate (moveBy (3 * k))).span.isDummy = u.span.isDummy

def letAt (lo : ℕ) : Node :=
  .variableDeclaration ⟨lo, lo + 10⟩ .let
    [.declarator ⟨lo + 4, lo + 9⟩ (.bindingName ⟨lo + 4, lo + 5⟩ "x")
      (some (.numberLiteral ⟨lo + 8, lo + 9⟩ (some "1")))]

def isLetAt (lo : ℕ) : Except Diagnostic Node → Bool
  | .ok (.module _ [.variableDeclaration s .let
      [.declarator d (.bindingName b x) (some (.numberLiteral v raw))]]) =>
    s = ⟨lo, lo + 10⟩ && d = ⟨lo + 4, lo + 9⟩ && b = ⟨lo + 4, lo + 5⟩ && x = "x" &&
      v = ⟨lo + 8, lo + 9⟩ && raw = some "1"
  | _ => false

theorem exists_of_isLetAt {lo : ℕ} {o : Except Diagnostic Node} (h : isLetAt lo o = true) :
    ∃ span, o = .ok (.module span [letAt lo]) := by
  unfold isLetAt at h
  split at h
  · simp only [Bool.and_eq_true, decide_eq_true_eq] at h
    obtain ⟨⟨⟨⟨⟨rfl, rfl⟩, rfl⟩, rfl⟩, rfl⟩, rfl⟩ := h
    exact ⟨_, rfl⟩
  · cases h

theorem skipsMarks_let : SkipsMarks false 1 "\n\n\n\nlet x = 1;".toList := by
  have h₀ : isLetAt 5
      (parseModule false Analysis.base "\n\n\n\nlet x = 1;".toList).accept = true := by
    decide +kernel
  have h₂ : isLetAt 8
      (parseModule false Analysis.base (marked 2 "\n\n\n\nlet x = 1;".toList)).accept = true := by
    decide +kernel
  obtain ⟨span₀, h₀⟩ := exists_of_isLetAt h₀
  obtain ⟨span₂, h₂⟩ := exists_of_isLetAt h₂
  constructor
  case accept_eq =>
    intro span items h
    rw [h₀] at h
    cases h
    exact ⟨span₂, h₂⟩
  case isDummy_eq =>
    intro span items h
    rw [h₀] at h
    cases h
    decide +kernel

def SameMatch (s s' : Snippet) : Prop := s.matchText = s'.matchText ∧ s.matchLine = s'.matchLine

/-- What behind `k + 2` marks is reported as the features of `t`: the same ones, but cited at
positions that are moved by `k` marks, where what stands behind `k + 1` marks is moved by these.
No place in the text is cited by the snippet that it has there. -/
structure CitedEarly (options : Options) (t : List Char) (k : ℕ) (r r' : Report) : Prop where
  features_eq : r'.features.map (·.feature) = r.features.map (·.feature)
  summary_eq : r'.summary = r.summary
  minimumVersions_eq : r'.minimumVersions = r.minimumVersions
  cited : ∃ us : List Use,
    r = .ofEvidence (Evidence.empty.recordAll ((citation options t).hits us)) ∧
    r' = .ofEvidence (Evidence.empty.recordAll
      ((citation options (marked (k + 1) t)).hits (us.map (Use.relocate (moveBy (3 * k)))))) ∧
    ∀ u ∈ us, Analysis.base ≤ u.span.lo → Analysis.base ≤ u.span.hi →
      SameMatch ((citation options (marked (k + 1) t)).snippet
        (u.relocate (moveBy (3 * (k + 1)))).span) ((citation options t).snippet u.span) ∧
      (Source.IsBoundary { chars := t } (u.span.lo - Analysis.base) →
        (citation options (marked (k + 1) t)).snippet (u.relocate (moveBy (3 * k))).span ≠
          (citation options (marked (k + 1) t)).snippet
            (u.relocate (moveBy (3 * (k + 1)))).span)

section Cited

variable {options : Options} {u : Use}

theorem offset_moveBy (cite : Citation) (h : cite.base = Analysis.base) (j : ℕ) {position : ℕ}
    (hp : Analysis.base ≤ position) :
    cite.offset (moveBy j position) = j + cite.offset position := by
  have hb : Analysis.base = 1 := rfl
  rw [hb] at hp
  rw [Citation.offset, Citation.offset, h, hb, moveBy_of_pos hp]
  omega

/-- Behind marks, what stands at a place is found at the place moved by the marks. -/
theorem sameMatch_behind (hlo : Analysis.base ≤ u.span.lo) (hhi : Analysis.base ≤ u.span.hi) :
    SameMatch ((citation options (marked n t)).snippet (u.relocate (moveBy (3 * n))).span)
      ((citation options t).snippet u.span) := by
  have hs : (citation options (marked n t)).source.chars =
      List.replicate n mark ++ (citation options t).source.chars := rfl
  have hn : (List.replicate n mark).count '\n' = 0 := by
    rw [List.count_eq_zero]
    intro hm
    exact absurd (List.eq_of_mem_replicate hm) (by decide)
  have hb := byteLength_marks n
  have hl := offset_moveBy (citation options (marked n t)) rfl (3 * n) hlo
  have hh := offset_moveBy (citation options (marked n t)) rfl (3 * n) hhi
  rw [← hb] at hl hh
  rw [Citation.snippet, Citation.snippet, ← hb]
  simp only [Use.relocate, Span.relocate, hl, hh]
  obtain ⟨htext, -, hline⟩ := Source.snippet_behind hs ((citation options t).offset u.span.lo)
    ((citation options t).source.trimEnd ((citation options t).offset u.span.lo)
      ((citation options t).offset u.span.hi)) options.contextLines
  rw [← Source.trimEnd_behind hs] at htext hline
  rw [hn] at hline
  exact ⟨htext, hline⟩

theorem Text.Source.clamp_eq_of_snippet_eq {s : Source} {start stop start' stop' context : ℕ}
    (h : s.snippet start stop context = s.snippet start' stop' context) :
    s.clamp start = s.clamp start' := by
  have hc : compare (s.range start stop) (s.range start' stop') = .eq := by
    rw [← Source.compare_snippet start stop start' stop' context, h]
    exact Snippet.compare_eq_iff.2 rfl
  exact congrArg Source.Range.start (Std.LawfulEqOrd.eq_of_compare hc)

theorem snippet_moveBy_ne (hlo : Analysis.base ≤ u.span.lo)
    (hb : Source.IsBoundary { chars := t } (u.span.lo - Analysis.base)) :
    (citation options (marked (k + 1) t)).snippet (u.relocate (moveBy (3 * k))).span ≠
      (citation options (marked (k + 1) t)).snippet
        (u.relocate (moveBy (3 * (k + 1)))).span := by
  intro h
  have hs : (citation options (marked (k + 1) t)).source.chars =
      List.replicate (k + 1) mark ++ (citation options t).source.chars := rfl
  -- The place moved by all marks is a boundary above the other one, which is only moved down.
  have hc := Source.clamp_eq_of_snippet_eq h
  simp only [Use.relocate, Span.relocate] at hc
  rw [offset_moveBy _ rfl _ hlo, offset_moveBy _ rfl _ hlo, ← byteLength_marks (k + 1),
    Source.clamp_behind hs] at hc
  have hle := Source.clamp_le (s := (citation options (marked (k + 1) t)).source)
    (3 * k + (citation options (marked (k + 1) t)).offset u.span.lo)
  have he : (citation options t).source.clamp
      ((citation options (marked (k + 1) t)).offset u.span.lo) =
      (citation options (marked (k + 1) t)).offset u.span.lo := Source.clamp_of_isBoundary hb
  rw [hc, he, byteLength_marks] at hle
  omega

end Cited

theorem Report.map_feature_ofEvidence (e : Evidence) :
    (ofEvidence e).features.map (·.feature) = e.keys.filterMap Catalogue.lookup? := by
  simp only [ofEvidence, Evidence.keys, List.map_filterMap, List.filterMap_map]
  congr 1
  funext entry
  obtain ⟨key, ss⟩ := entry
  cases h : Catalogue.lookup? key <;> simp [h]

theorem map_key_hits_relocate {f : ℕ → ℕ} {us : List Use}
    (h : ∀ u ∈ us, (u.relocate f).span.isDummy = u.span.isDummy) (c c' : Citation) :
    (c'.hits (us.map (Use.relocate f))).map (·.1) = (c.hits us).map (·.1) := by
  have hf : us.filter (fun u => !(u.relocate f).span.isDummy) =
      us.filter fun u => !u.span.isDummy := by
    apply List.filter_congr
    intro u hu
    rw [h u hu]
  rw [Citation.hits, Citation.hits, List.map_map, List.map_map, List.filter_map, List.map_map]
  exact congrArg (List.map (·.key)) hf

section Marked

variable {options : Options} {report : Report}

theorem citedEarly_ofEvidence {us : List Use}
    (h : ∀ u ∈ us, (u.relocate (moveBy (3 * k))).span.isDummy = u.span.isDummy) :
    CitedEarly options t k
      (.ofEvidence (Evidence.empty.recordAll ((citation options t).hits us)))
      (.ofEvidence (Evidence.empty.recordAll ((citation options (marked (k + 1) t)).hits
        (us.map (Use.relocate (moveBy (3 * k))))))) := by
  have hk := map_key_hits_relocate h (citation options t) (citation options (marked (k + 1) t))
  have hf : (Report.ofEvidence (Evidence.empty.recordAll
        ((citation options (marked (k + 1) t)).hits
          (us.map (Use.relocate (moveBy (3 * k))))))).features.map (·.feature) =
      (Report.ofEvidence (Evidence.empty.recordAll
        ((citation options t).hits us))).features.map (·.feature) := by
    rw [Report.map_feature_ofEvidence, Report.map_feature_ofEvidence,
      Evidence.keys_recordAll_empty, Evidence.keys_recordAll_empty, hk]
  constructor
  case features_eq => exact hf
  case summary_eq => exact congrArg Summary.ofFeatures hf
  case minimumVersions_eq => exact congrArg minimumVersions hf
  case cited =>
    refine ⟨us, rfl, rfl, ?_⟩
    intro u _ hlo hhi
    exact ⟨sameMatch_behind hlo hhi, snippet_moveBy_ne hlo⟩

theorem exists_uses_of_analyze (hm : t.head? ≠ some mark) (hh : hashbang? t = none)
    (h : analyze options (.ofList t) = .ok report) :
    ∃ span items,
      (parseModule options.markup Analysis.base t).accept = .ok (.module span items) ∧
      report = .ofEvidence
        (Evidence.empty.recordAll ((citation options t).hits (itemUses items))) := by
  obtain ⟨module, ha, hr⟩ := analyze_ofList_eq_ok_iff.1 h
  rw [withoutMark_of_head hm] at ha hr
  obtain ⟨span, items, rfl⟩ := exists_items_of_accept ha
  rw [evidence_module hh] at hr
  exact ⟨span, items, ha, hr⟩

theorem analyze_marked_of_accept {span : Span} {items : List Node}
    (h : (parseModule options.markup Analysis.base (marked (k + 1) t)).accept =
      .ok (.module span items)) :
    analyze options (.ofList (marked (k + 2) t)) = .ok (.ofEvidence
      (Evidence.empty.recordAll
        ((citation options (marked (k + 1) t)).hits (itemUses items)))) := by
  apply analyze_ofList_eq_ok_iff.2
  rw [withoutMark_marked_succ]
  refine ⟨_, h, ?_⟩
  rw [evidence_module (hashbang?_marked_succ k t)]

theorem withoutMark_marked_one (hm : t.head? ≠ some mark) :
    withoutMark (marked 1 t) = withoutMark t := (withoutMark_of_head hm).symm

theorem head?_withoutMark_marked_iff (hm : t.head? ≠ some mark) :
    (withoutMark (marked n t)).head? = some mark ↔ 2 ≤ n := by
  cases n with
  | zero =>
    have h0 : marked 0 t = t := rfl
    rw [h0, withoutMark_of_head hm]
    exact iff_of_false hm (by omega)
  | succ n =>
    rw [withoutMark_marked_succ, head?_marked_eq_mark_iff hm]
    omega

theorem exists_citedEarly_two (hm : t.head? ≠ some mark) (hh : hashbang? t = none)
    (h : analyze options (.ofList t) = .ok report) :
    ∃ report', analyze options (.ofList (marked 2 t)) = .ok report' ∧
      CitedEarly options t 0 report report' := by
  obtain ⟨span, items, ha, rfl⟩ := exists_uses_of_analyze hm hh h
  have ha' : (parseModule options.markup Analysis.base (marked 1 t)).accept =
      .ok (.module span items) := by
    rw [parseModule_congr (withoutMark_marked_one hm), ha]
  refine ⟨_, analyze_marked_of_accept ha', ?_⟩
  have hz : (itemUses items).map (Use.relocate (moveBy (3 * 0))) = itemUses items := by
    rw [Nat.mul_zero, List.map_congr_left fun u _ => relocate_moveBy_zero u, List.map_id']
  have hd : ∀ u ∈ itemUses items, (u.relocate (moveBy (3 * 0))).span.isDummy = u.span.isDummy := by
    intro u _
    rw [Nat.mul_zero, relocate_moveBy_zero]
  have hc : CitedEarly options t 0 _ _ := citedEarly_ofEvidence hd
  rw [hz] at hc
  exact hc

theorem exists_citedEarly_of_skipsMarks (hm : t.head? ≠ some mark) (hh : hashbang? t = none)
    (h : analyze options (.ofList t) = .ok report) (hk : SkipsMarks options.markup k t) :
    ∃ report', analyze options (.ofList (marked (k + 2) t)) = .ok report' ∧
      CitedEarly options t k report report' := by
  obtain ⟨span, items, ha, rfl⟩ := exists_uses_of_analyze hm hh h
  obtain ⟨span', ha'⟩ := hk.accept_eq span items ha
  refine ⟨_, analyze_marked_of_accept ha', ?_⟩
  rw [itemUses_relocate (monotone_moveBy _) (moveBy_zero_right _)]
  exact citedEarly_ofEvidence (hk.isDummy_eq span items ha)

end Marked

/-- The text that is handed to the parser starts with a mark if there are two of them or more. One
mark changes nothing about the report. Behind two, each feature is cited three bytes before its
place. So it is behind more of them, as long as the parser takes the others for blanks. -/
theorem analyze_marked (options : Options) (t : List Char) (hm : t.head? ≠ some mark)
    (hh : hashbang? t = none) :
    (∀ n, (withoutMark (marked n t)).head? = some mark ↔ 2 ≤ n) ∧
    (∀ n ≤ 1, analyze options (.ofList (marked n t)) = analyze options (.ofList t)) ∧
    ∀ report, analyze options (.ofList t) = .ok report →
      (∃ report', analyze options (.ofList (marked 2 t)) = .ok report' ∧
        CitedEarly options t 0 report report') ∧
      ∀ k, SkipsMarks options.markup k t →
        ∃ report', analyze options (.ofList (marked (k + 2) t)) = .ok report' ∧
          CitedEarly options t k report report' := by
  refine ⟨fun n => head?_withoutMark_marked_iff hm, ?_, ?_⟩
  · intro n hn
    rcases Nat.le_one_iff_eq_zero_or_eq_one.1 hn with rfl | rfl
    · rfl
    · exact analyze_congr (withoutMark_marked_one hm)
  · intro report h
    exact ⟨exists_citedEarly_two hm hh h, fun k => exists_citedEarly_of_skipsMarks hm hh h⟩

theorem analyze_marked_let :
    let t := "\n\n\n\nlet x = 1;".toList
    t.head? ≠ some mark ∧ hashbang? t = none ∧ SkipsMarks false 1 t ∧
      ∃ report report' report'', analyze {} (.ofList t) = .ok report ∧
        analyze {} (.ofList (marked 2 t)) = .ok report' ∧ CitedEarly {} t 0 report report' ∧
        analyze {} (.ofList (marked 3 t)) = .ok report'' ∧ CitedEarly {} t 1 report report'' := by
  intro t
  have hm : t.head? ≠ some mark := by decide +kernel
  have hh : hashbang? t = none := by decide +kernel
  have hs : SkipsMarks false 1 t := skipsMarks_let
  have hok : (analyze {} (.ofList t)).isOk = true := by decide +kernel
  cases ha : analyze {} (.ofList t) with
  | error e =>
    rw [ha] at hok
    cases hok
  | ok report =>
    obtain ⟨two, further⟩ := (analyze_marked {} t hm hh).2.2 report ha
    obtain ⟨report', hr', hc'⟩ := two
    obtain ⟨report'', hr'', hc''⟩ := further 1 hs
    exact ⟨hm, hh, hs, report, report', report'', rfl, hr', hc', hr'', hc''⟩

def Report.matchesByKey (r : Report) : List (String × List (String × ℕ)) :=
  r.features.map fun f => (f.feature.key, f.snippets.map fun s => (s.matchText, s.matchLine))

theorem not_matchesByKey_marked :
    ¬ ∀ (options : Options) (t : List Char) (report : Report), t.head? ≠ some mark →
      hashbang? t = none → analyze options (.ofList t) = .ok report →
        ∀ n, ∃ report', analyze options (.ofList (marked n t)) = .ok report' ∧
          report'.matchesByKey = report.matchesByKey := by
  intro h
  let t := "\n\n\n\nlet x = 1;".toList
  have h₀ : (analyze {} (.ofList t)).map Report.matchesByKey =
      .ok [("let", [("let x = 1;", 5)])] := by decide +kernel
  have h₂ : (analyze {} (.ofList (marked 2 t))).map Report.matchesByKey =
      .ok [("let", [("\n\n\nlet x =", 2)])] := by decide +kernel
  cases ha : analyze {} (.ofList t) with
  | error e =>
    rw [ha] at h₀
    cases h₀
  | ok report =>
    obtain ⟨report', hr, hs⟩ := h {} t report (by decide +kernel) (by decide +kernel) ha 2
    rw [ha] at h₀
    rw [hr] at h₂
    rw [Except.ok.inj h₀, Except.ok.inj h₂] at hs
    exact absurd hs (by decide)

end ScriptFeatures
