import ScriptFeatures.Proofs.Text.Checked
import ScriptFeatures.Proofs.Walk.Locations

namespace ScriptFeatures

open Syntax (Node Occurrence Span)
open Text (Snippet Source)
open Usage (Use)

theorem Citation.matchText_of_le {c : Citation} {span : Span} (h : span.hi ≤ span.lo) :
    (c.snippet span).matchText = "" := by
  have hc : c.offset span.hi ≤ c.offset span.lo := Nat.sub_le_sub_right h _
  exact Source.matchText_eq_empty ((Source.clamp_le _).trans (Source.trimEnd_le hc)) _

namespace Walk

def recordRange? (cite : Citation) (s : Walk) (key : String) (start stop : Nat) : Option Walk := do
  let snippet ← cite.source.snippet? start stop cite.context
  some { s with evidence := (s.evidence.record key snippet).2 }

def recordUse? (cite : Citation) (s : Walk) (u : Use) : Option Walk :=
  if u.span.isDummy then some s
  else do
    let start := cite.offset u.span.lo
    let stop ← cite.source.trimEnd? start (cite.offset u.span.hi)
    recordRange? cite s u.key start stop

/-- Visits a node and then its parts, and leaves the function that the node is. -/
def visit? (cite : Citation) (n : Node) (s : Walk) : Option Walk := do
  let s ← (usesAt s.functionDepth n).foldlM (recordUse? cite) s
  let inner := if n.isFunctionBoundary then { s with functionDepth := s.functionDepth + 1 } else s
  let left ← n.children.attach.foldlM (fun s c => visit? cite c.1 s) inner
  if n.isFunctionBoundary then do
    let depth ← left.functionDepth.ppred
    some { left with functionDepth := depth }
  else some left
termination_by sizeOf n
decreasing_by exact Node.sizeOf_lt_of_mem_children c.2

variable {cite : Citation} (h : cite.source.lineCount - 1 + cite.context < 2 ^ 64)
include h

theorem recordRange?_eq (s : Walk) (key : String) (start stop : Nat) :
    recordRange? cite s key start stop = some (recordRange cite s key start stop) := by
  rw [recordRange?, Source.snippet?_eq h]
  rfl

theorem recordUse?_eq (s : Walk) (u : Use) : recordUse? cite s u = some (recordUse cite s u) := by
  rw [recordUse?, recordUse]
  split
  · rfl
  · simp only [Source.trimEnd?_eq, recordRange?_eq h, Option.bind_eq_bind, Option.bind_some]
    rfl

omit h in
theorem functionDepth_foldl_visit {α : Type} (f : α → Node) (as : List α) (s : Walk) :
    (as.foldl (fun s a => visit cite (f a) s) s).functionDepth = s.functionDepth := by
  induction as generalizing s with
  | nil => rfl
  | cons a as ih => rw [List.foldl_cons, ih, functionDepth_visit]

/-- A function is left at the depth at which its parts are visited, which is not zero. -/
theorem visit?_eq (n : Node) (s : Walk) : visit? cite n s = some (visit cite n s) := by
  induction n using Node.children_induction generalizing s with
  | step n ih =>
    have hu : recordUse? cite = fun t u => pure (recordUse cite t u) :=
      funext₂ (recordUse?_eq h)
    have hc : (fun t (c : { c // c ∈ n.children }) => visit? cite c.1 t) =
        fun t c => pure (visit cite c.1 t) :=
      funext₂ fun t c => ih c.1 c.2 t
    rw [visit?, visit]
    simp only [hu, hc, List.foldlM_pure, pure_bind]
    cases n.isFunctionBoundary with
    | false => rfl
    | true =>
      simp only [↓reduceIte]
      rw [Nat.ppred_eq_pred (by rw [functionDepth_foldl_visit]; exact Nat.succ_pos _)]
      rfl

end Walk

def Evidence.ofModule? (cite : Citation) (module : Node) : Option Evidence :=
  (Walk.visit? cite module {}).map Walk.evidence

def Analysis.evidence? (cite : Citation) (module : Node) : Option Evidence := do
  let start : Walk := {}
  let start ← match hashbang? cite.source.chars with
    | some (first, last) => start.recordRange? cite "hashbang" first last
    | none => some start
  (start.visit? cite module).map Walk.evidence

namespace Evidence

variable {cite : Citation}

theorem ofModule?_eq (h : cite.source.lineCount - 1 + cite.context < 2 ^ 64) (module : Node) :
    ofModule? cite module = some (ofModule cite module) := by
  rw [ofModule?, Walk.visit?_eq h]
  rfl

theorem analysis?_eq (h : cite.source.lineCount - 1 + cite.context < 2 ^ 64) (module : Node) :
    Analysis.evidence? cite module = some (Analysis.evidence cite module) := by
  rw [Analysis.evidence?, Analysis.evidence]
  cases hashbang? cite.source.chars <;>
    simp only [Walk.recordRange?_eq h, Walk.visit?_eq h, Option.bind_eq_bind, Option.bind_some,
      Option.map_some]

/-- No step of the walk fails, whatever the positions in the tree. Every use whose place is no dummy
is cited by a part of the text, which is empty if the place ends before it starts. -/
theorem ofModule_total (h : cite.source.lineCount - 1 + cite.context < 2 ^ 64) (module : Node) :
    ofModule? cite module = some (ofModule cite module) ∧
    Analysis.evidence? cite module = some (Analysis.evidence cite module) ∧
    ∀ o ∈ module.occurrences [], ∀ key span, ⟨key, span⟩ ∈ o.uses → span.isDummy = false →
      (ofModule cite module).contains key (cite.snippet span) = true ∧
      (cite.snippet span).matchText.toList <:+: cite.source.chars ∧
      (span.hi ≤ span.lo → (cite.snippet span).matchText = "") := by
  refine ⟨ofModule?_eq h module, analysis?_eq h module, ?_⟩
  intro o ho key span hu hd
  have hc : (ofModule cite module).contains key (cite.snippet span) = true :=
    contains_ofModule.2 ⟨o, ho, span, hu, hd, rfl⟩
  exact ⟨hc, Source.matchText_isInfix _ _ _, Citation.matchText_of_le⟩

theorem ofModule_total_outside :
    (Source.ofString "é").lineCount - 1 + 2 < 2 ^ 64 ∧
    ofModule? ⟨.ofString "é", 5, 2⟩
        (.module ⟨9, 1⟩ [.expressionStatement ⟨0, 4294967295⟩
          (.await ⟨6, 2⟩ (.identifier ⟨4294967295, 7⟩ "x"))]) =
      some (ofModule ⟨.ofString "é", 5, 2⟩
        (.module ⟨9, 1⟩ [.expressionStatement ⟨0, 4294967295⟩
          (.await ⟨6, 2⟩ (.identifier ⟨4294967295, 7⟩ "x"))])) ∧
    (ofModule ⟨.ofString "é", 5, 2⟩
      (.module ⟨9, 1⟩ [.expressionStatement ⟨0, 4294967295⟩
        (.await ⟨6, 2⟩ (.identifier ⟨4294967295, 7⟩ "x"))])).contains "await"
      ⟨1, 0, 0, "", 1, "é"⟩ = true ∧
    (Citation.snippet ⟨.ofString "é", 5, 2⟩ ⟨6, 2⟩).matchText = "" := by
  have hl : (Source.ofString "é").lineCount - 1 + 2 < 2 ^ 64 := by decide
  have ht := @ofModule_total ⟨.ofString "é", 5, 2⟩ hl (.module ⟨9, 1⟩
    [.expressionStatement ⟨0, 4294967295⟩ (.await ⟨6, 2⟩ (.identifier ⟨4294967295, 7⟩ "x"))])
  obtain ⟨hc, -, he⟩ := ht.2.2 _ (.tail _ (.tail _ (.head _))) "await" ⟨6, 2⟩ (.head _) (by decide)
  exact ⟨hl, ht.1, hc, he (by decide)⟩

end Evidence
end ScriptFeatures
