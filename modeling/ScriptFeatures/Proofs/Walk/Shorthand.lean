import ScriptFeatures.Proofs.Evidence.Union
import ScriptFeatures.Proofs.Usage.Parts
import ScriptFeatures.Proofs.Walk.Locations

namespace ScriptFeatures

open Syntax (Node Occurrence Span)
open Text (Snippet)
open Usage (Alike Use globals)

namespace Syntax.Node

def writtenOut (key : Span) : Node → Node
  | shorthand span x => .property (.propertyName key x) (.identifier span x)
  | n => n

/-- An object literal with one of its properties written out. -/
def writeOut (i : ℕ) (key : Span) : Node → Node
  | objectLiteral span properties => .objectLiteral span (properties.modify i (writtenOut key))
  | n => n

def writeOutAt (path : List ℕ) (i : ℕ) (key : Span) (n : Node) : Node :=
  n.editAt (writeOut i key) path

theorem alike_writeOut (i : ℕ) (key : Span) (n : Node) : Alike n (n.writeOut i key) := by
  cases n
  case objectLiteral span properties =>
    refine ⟨?_, rfl, rfl, rfl, rfl⟩
    rw [writeOut, ← mapIdx_if_eq_modify]
    exact label_mapChildren _ (.objectLiteral span properties)
  all_goals exact .refl _

def shown (above : List Node) (n : Node) : List Use :=
  (n.occurrences above).flatMap Occurrence.uses

theorem shown_eq (above : List Node) (n : Node) :
    n.shown above = Occurrence.uses ⟨above, n⟩ ++ n.children.flatMap (shown (n :: above)) := by
  rw [shown, occurrences_eq, List.flatMap_cons, List.flatMap_assoc]
  rfl

theorem uses_congr {above above' : List Node}
    (h : above'.map isFunctionBoundary = above.map isFunctionBoundary) {n n' : Node}
    (hu : n'.uses = n.uses) (ha : n'.awaited? = n.awaited?) :
    Occurrence.uses ⟨above', n'⟩ = Occurrence.uses ⟨above, n⟩ := by
  have ho : Occurrence.isOutside ⟨above', n'⟩ = Occurrence.isOutside ⟨above, n⟩ := by
    have hm (ns : List Node) :
        (ns.all fun m => !m.isFunctionBoundary) = (ns.map isFunctionBoundary).all (!·) := by
      rw [List.all_map]
      rfl
    rw [Occurrence.isOutside, Occurrence.isOutside, hm, hm, h]
  rw [Occurrence.uses, Occurrence.uses, ho, hu, ha]

/-- What a tree shows depends on what it stands in by the function boundaries alone. -/
theorem shown_congr {above above' : List Node}
    (h : above'.map isFunctionBoundary = above.map isFunctionBoundary) (n : Node) :
    n.shown above' = n.shown above := by
  induction n using children_induction generalizing above above' with
  | step n ih =>
    have hc : n.children.flatMap (shown (n :: above')) = n.children.flatMap (shown (n :: above)) :=
      List.flatMap_congr fun c hc => ih c hc (by rw [List.map_cons, List.map_cons, h])
    rw [shown_eq, shown_eq, hc, uses_congr h rfl rfl]

theorem exists_shown_eq {n n' c : Node} {i : ℕ} {g : Node → Node} (hu : n'.uses = n.uses)
    (ha : n'.awaited? = n.awaited?) (hb : n'.isFunctionBoundary = n.isFunctionBoundary)
    (hc : n'.children = n.children.modify i g) (hi : n.children[i]? = some c)
    (above : List Node) :
    ∃ us vs, n.shown above = us ++ c.shown (n :: above) ++ vs ∧
      n'.shown above = us ++ (g c).shown (n :: above) ++ vs := by
  obtain ⟨hl, -⟩ := List.getElem?_eq_some_iff.1 hi
  obtain ⟨before, d, after, hn, hlen, hm⟩ := List.exists_of_modify g hl
  obtain rfl : d = c := by simpa [hn, ← hlen] using hi
  have hs : shown (n' :: above) = shown (n :: above) :=
    funext (shown_congr (by rw [List.map_cons, List.map_cons, hb]))
  refine ⟨Occurrence.uses ⟨above, n⟩ ++ before.flatMap (shown (n :: above)),
    after.flatMap (shown (n :: above)), ?_, ?_⟩
  · rw [shown_eq, hn, List.flatMap_append, List.flatMap_cons]
    simp only [List.append_assoc]
  · rw [shown_eq, uses_congr rfl hu ha, hc, hm, hs, List.flatMap_append, List.flatMap_cons]
    simp only [List.append_assoc]

theorem shown_shorthand (above : List Node) (span : Span) (x : String) :
    (shorthand span x).shown above = [⟨"shorthand-properties", span⟩] := by
  simp [shown, occurrences, Occurrence.uses, uses, awaited?]

theorem shown_writtenOut (above : List Node) (key span : Span) (x : String) :
    ((shorthand span x).writtenOut key).shown above =
      (globals.lookup x).toList.map (⟨·, span⟩) := by
  simp [writtenOut, shown, occurrences, Occurrence.uses, uses, awaited?]

/-- Where a shorthand is written out, the tree shows a global in its place. -/
theorem exists_shown_writeOutAt {path : List ℕ} {n : Node} {i : ℕ} {place span : Span}
    {properties : List Node} {x : String}
    (hp : n.nodeAt? path = some (.objectLiteral place properties))
    (hs : properties[i]? = some (.shorthand span x)) (key : Span) (above : List Node) :
    ∃ us vs, n.shown above = us ++ [⟨"shorthand-properties", span⟩] ++ vs ∧
      (n.writeOutAt path i key).shown above =
        us ++ (globals.lookup x).toList.map (⟨·, span⟩) ++ vs := by
  induction path generalizing n above with
  | nil =>
    obtain rfl := Option.some.inj hp
    have hu : ((objectLiteral place properties).writeOut i key).uses =
        (objectLiteral place properties).uses := rfl
    have hi : (objectLiteral place properties).children[i]? = some (.shorthand span x) := hs
    obtain ⟨us, vs, hn, hn'⟩ := exists_shown_eq hu rfl rfl rfl hi above
    rw [shown_shorthand] at hn
    rw [shown_writtenOut] at hn'
    exact ⟨us, vs, hn, hn'⟩
  | cons j path ih =>
    obtain ⟨c, hj, hc⟩ := Option.bind_eq_some_iff.1 hp
    have ha (i' : ℕ) (m : Node) :
        Alike m (if i' = j then m.writeOutAt path i key else m) := by
      split
      · exact .editAt (alike_writeOut i key) path m
      · exact .refl m
    obtain ⟨us, vs, hn, hn'⟩ := exists_shown_eq (uses_mapChildren ha n) (awaited?_mapChildren ha n)
      (Alike.mapChildren ha n).isFunctionBoundary (children_editAt _ j path n) hj above
    obtain ⟨us', vs', hc, hc'⟩ := ih hc (n :: above)
    refine ⟨us ++ us', vs' ++ vs, ?_, ?_⟩
    · simp only [hn, hc, List.append_assoc]
    · have he : (n.writeOutAt (j :: path) i key).shown above =
          us ++ (c.writeOutAt path i key).shown (n :: above) ++ vs := hn'
      simp only [he, hc', List.append_assoc]

end Syntax.Node

namespace Evidence

open Syntax.Node

variable {cite : Citation} {module : Node}

/-- For every key but one there is the same evidence. -/
def SameBut (key : String) (e e' : Evidence) : Prop := ∀ k ≠ key, e'.snippets? k = e.snippets? k

theorem contains_ofModule_iff_shown {key : String} {s : Snippet} :
    (ofModule cite module).contains key s = true ↔ (key, s) ∈ cite.hits (module.shown []) := by
  rw [ofModule_eq, contains_recordAll, contains_empty, or_iff_left Bool.false_ne_true]
  rfl

theorem sameBut_ofModule_iff {key : String} {module' : Node} :
    SameBut key (ofModule cite module) (ofModule cite module') ↔
      ∀ k ≠ key, ∀ s, (ofModule cite module').contains k s = true ↔
        (ofModule cite module).contains k s = true := by
  constructor
  · intro h k hk s
    rw [contains_iff, contains_iff, h k hk]
  · intro h k hk
    exact snippets?_eq_of_contains_iff wellFormed_ofModule wellFormed_ofModule (h k hk)

theorem mem_hits_lookup {o : Option String} {span : Span} {key : String} {s : Snippet} :
    (key, s) ∈ cite.hits (o.toList.map (⟨·, span⟩)) ↔
      o = some key ∧ span.isDummy = false ∧ cite.snippet span = s := by
  rw [Citation.mem_hits]
  constructor
  · rintro ⟨_, hu, h⟩
    obtain ⟨_, hk, he⟩ := List.mem_map.1 hu
    obtain ⟨rfl, rfl⟩ := Usage.Use.mk.inj he
    exact ⟨Option.mem_toList.1 hk, h⟩
  · rintro ⟨rfl, h⟩
    exact ⟨span, List.mem_map.2 ⟨key, by simp, rfl⟩, h⟩

section

variable {path : List ℕ} {i : ℕ} {place span : Span} {properties : List Node} {x : String}

theorem contains_writeOutAt (hp : module.nodeAt? path = some (.objectLiteral place properties))
    (hs : properties[i]? = some (.shorthand span x)) (key : Span) {k : String} {s : Snippet} :
    ((ofModule cite (module.writeOutAt path i key)).contains k s = true ∨
        (k = "shorthand-properties" ∧ span.isDummy = false ∧ cite.snippet span = s) ↔
      (ofModule cite module).contains k s = true ∨
        (globals.lookup x = some k ∧ span.isDummy = false ∧ cite.snippet span = s)) := by
  obtain ⟨us, vs, hm, hm'⟩ := exists_shown_writeOutAt hp hs key []
  have h1 : (k, s) ∈ cite.hits [⟨"shorthand-properties", span⟩] ↔
      k = "shorthand-properties" ∧ span.isDummy = false ∧ cite.snippet span = s := by
    have ho : (k, s) ∈ cite.hits ((some "shorthand-properties").toList.map (⟨·, span⟩)) ↔ _ :=
      mem_hits_lookup
    rwa [Option.some.injEq, eq_comm] at ho
  simp only [contains_ofModule_iff_shown, hm, hm', Citation.hits_append, List.mem_append, h1,
    mem_hits_lookup]
  tauto

/-- What the written-out property adds to the evidence is the global that its name is. -/
theorem writeOut_shows_global (cite : Citation) {module : Node}
    (hp : module.nodeAt? path = some (.objectLiteral place properties))
    (hs : properties[i]? = some (.shorthand span x)) (key : Span) :
    (∀ k ≠ "shorthand-properties", ∀ s,
      (ofModule cite (module.writeOutAt path i key)).contains k s = true ↔
        (ofModule cite module).contains k s = true ∨
          (globals.lookup x = some k ∧ span.isDummy = false ∧ cite.snippet span = s)) ∧
    (∀ s, (ofModule cite module).contains "shorthand-properties" s = true ↔
      (ofModule cite (module.writeOutAt path i key)).contains "shorthand-properties" s = true ∨
        (span.isDummy = false ∧ cite.snippet span = s)) ∧
    (SameBut "shorthand-properties" (ofModule cite module)
        (ofModule cite (module.writeOutAt path i key)) ↔
      ∀ k, globals.lookup x = some k → span.isDummy = false →
        (ofModule cite module).contains k (cite.snippet span) = true) := by
  have hg (k : String) (h : globals.lookup x = some k) : k ≠ "shorthand-properties" := by
    have hm : k ∈ globals.map (·.2) := List.mem_map_of_mem (Usage.Shown.mem_of_lookup h)
    rintro rfl
    exact absurd hm (by decide)
  have hk : ∀ k ≠ "shorthand-properties", ∀ s,
      (ofModule cite (module.writeOutAt path i key)).contains k s = true ↔
        (ofModule cite module).contains k s = true ∨
          (globals.lookup x = some k ∧ span.isDummy = false ∧ cite.snippet span = s) := by
    intro k hk s
    rw [← contains_writeOutAt hp hs key, or_iff_left fun h => hk h.1]
  refine ⟨hk, fun s => ?_, ?_⟩
  · have hn : ¬ (globals.lookup x = some "shorthand-properties" ∧ span.isDummy = false ∧
        cite.snippet span = s) := fun h => hg _ h.1 rfl
    refine (or_iff_left hn).symm.trans ((contains_writeOutAt hp hs key).symm.trans ?_)
    rw [and_iff_right rfl]
  · rw [sameBut_ofModule_iff]
    constructor
    · intro h k hl hd
      exact (h k (hg k hl) _).1 ((hk k (hg k hl) _).2 (.inr ⟨hl, hd, rfl⟩))
    · intro h k hne s
      rw [hk k hne, or_iff_left_of_imp]
      rintro ⟨hl, hd, rfl⟩
      exact h k hl hd

end

theorem writeOut_shows_global_symbol :
    let module : Node := .module ⟨1, 17⟩ [.expressionStatement ⟨1, 17⟩
      (.call ⟨1, 17⟩ (.identifier ⟨1, 2⟩ "f") [.objectLiteral ⟨3, 16⟩
        [.shorthand ⟨5, 6⟩ "a", .shorthand ⟨8, 14⟩ "Symbol"]])]
    module.nodeAt? [0, 0, 1] = some (.objectLiteral ⟨3, 16⟩
      [.shorthand ⟨5, 6⟩ "a", .shorthand ⟨8, 14⟩ "Symbol"]) ∧
    (ofModule ⟨.ofString "f({ a, Symbol })", 1, 2⟩
        (module.writeOutAt [0, 0, 1] 1 ⟨8, 14⟩)).contains "symbol"
      ⟨1, 7, 6, "Symbol", 1, "f({ a, Symbol })"⟩ = true := by
  refine ⟨rfl, ((writeOut_shows_global _ (by rfl) (by rfl) _).1 _ (by decide) _).2 ?_⟩
  exact .inr ⟨by decide, by decide, by decide⟩

theorem not_sameBut_symbol :
    let module : Node := .module ⟨1, 13⟩ [.expressionStatement ⟨1, 13⟩ (.parenthesized ⟨1, 13⟩
      (.objectLiteral ⟨2, 12⟩ [.shorthand ⟨4, 10⟩ "Symbol"]))]
    ¬ SameBut "shorthand-properties" (ofModule ⟨.ofString "({ Symbol })", 1, 2⟩ module)
      (ofModule ⟨.ofString "({ Symbol })", 1, 2⟩
        (module.writeOutAt [0, 0, 0] 0 ⟨4, 10⟩)) := by
  intro module h
  have hs := h "symbol" (by decide)
  rw [ofModule_eq, ofModule_eq] at hs
  revert hs
  decide

end Evidence
end ScriptFeatures
