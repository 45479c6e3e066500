import Mathlib.Data.Finmap
import ScriptFeatures.Proofs.Evidence.Union

namespace ScriptFeatures

open Text (Snippet)

theorem insertSnippet_of_mem {s : Snippet} {ss : List Snippet} (hi : StrictlyIncreasing ss)
    (h : s ∈ ss) : insertSnippet s ss = ss := by
  apply (strictlyIncreasing_insertSnippet s hi).eq_of_mem_iff hi
  intro t
  rw [mem_insertSnippet, or_iff_right_iff_imp]
  rintro rfl
  exact h

namespace Evidence

theorem recordIn_of_mem {key : String} {s : Snippet} {es : List (String × List Snippet)}
    (hi : ∀ entry ∈ es, StrictlyIncreasing entry.2) (h : s ∈ (es.lookup key).getD []) :
    recordIn key s es = es := by
  induction es with
  | nil => cases h
  | cons entry es ih =>
    obtain ⟨k, ss⟩ := entry
    rw [List.forall_mem_cons] at hi
    rw [recordIn]
    by_cases hk : k = key
    · subst hk
      rw [List.lookup_cons_self] at h
      rw [if_pos rfl, insertSnippet_of_mem hi.1 h]
    · rw [lookup_cons_of_ne (Ne.symm hk)] at h
      rw [if_neg hk, ih hi.2 h]

theorem record_of_contains {e : Evidence} (he : e.WellFormed) {key : String} {s : Snippet}
    (h : e.contains key s = true) : (e.record key s).2 = e := by
  rw [record, recordIn_of_mem he.increasing (contains_iff.1 h)]

theorem contains_recordAll_empty {calls : List (String × Snippet)} {key : String} {s : Snippet} :
    (empty.recordAll calls).contains key s = true ↔ (key, s) ∈ calls := by
  rw [contains_recordAll, contains_empty, or_iff_left Bool.false_ne_true]

/-- What is to be observed of evidence after some records: the distinct keys in the order of their
first records, and for each key the sorted set of the snippets recorded for it. A record is new if
it was not made before, and changes nothing otherwise. The entries list each key once and in order,
with all of its set. -/
structure Observed (calls : List (String × Snippet)) (e : Evidence) : Prop where
  keys_eq : e.keys = (calls.map (·.1)).eraseDups
  size_eq : e.size = e.keys.length
  isEmpty_iff : e.isEmpty = true ↔ calls = []
  snippets?_eq_none_iff : ∀ key, e.snippets? key = none ↔ ∀ s, (key, s) ∉ calls
  snippets?_eq_some_iff : ∀ key ss, e.snippets? key = some ss ↔
    ss ≠ [] ∧ StrictlyIncreasing ss ∧ ∀ s, s ∈ ss ↔ (key, s) ∈ calls
  isNew_iff : ∀ key s, (e.record key s).1 = true ↔ (key, s) ∉ calls
  unchanged : ∀ key s, (e.record key s).1 = false → (e.record key s).2 = e
  entries_keys : e.entries.map (·.1) = e.keys ∧ e.keys.Nodup
  entries_sets : ∀ entry ∈ e.entries, e.snippets? entry.1 = some entry.2

theorem observed_recordAll (calls : List (String × Snippet)) :
    Observed calls (empty.recordAll calls) := by
  have hw := wellFormed_recordAll wellFormed_empty calls
  have hm {key : String} {ss : List Snippet}
      (h : (empty.recordAll calls).snippets? key = some ss) (s : Snippet) :
      s ∈ ss ↔ (key, s) ∈ calls := by
    rw [← contains_recordAll_empty, contains_iff, h]
    rfl
  have hn (key : String) : (empty.recordAll calls).snippets? key = none ↔
      ∀ s, (key, s) ∉ calls := by
    rw [← Option.not_isSome_iff_eq_none, ← mem_keys_iff_isSome, mem_keys_iff_contains hw]
    simp only [contains_recordAll_empty, not_exists]
  constructor
  case keys_eq => exact keys_recordAll_empty calls
  case size_eq => exact (List.length_map _).symm
  case isEmpty_iff =>
    cases calls with
    | nil => exact iff_of_true rfl rfl
    | cons call calls =>
      have hk := keys_recordAll_empty (call :: calls)
      rw [List.map_cons, List.eraseDups_cons] at hk
      refine iff_of_false ?_ (List.cons_ne_nil _ _)
      intro he
      rw [keys, List.isEmpty_iff.1 he] at hk
      cases hk
  case snippets?_eq_none_iff => exact hn
  case snippets?_eq_some_iff =>
    intro key ss
    constructor
    · intro h
      have he := (Evidence.snippets?_eq_some_iff hw).1 h
      exact ⟨hw.ne_nil _ he, hw.increasing _ he, hm h⟩
    · rintro ⟨hne, hi, hs⟩
      obtain ⟨s, hmem⟩ := List.exists_mem_of_ne_nil ss hne
      cases h : (empty.recordAll calls).snippets? key with
      | none => exact ((hn key).1 h s ((hs s).1 hmem)).elim
      | some ts =>
        have ht : StrictlyIncreasing ts :=
          hw.increasing _ ((Evidence.snippets?_eq_some_iff hw).1 h)
        rw [ht.eq_of_mem_iff hi fun t => (hm h t).trans (hs t).symm]
  case isNew_iff =>
    intro key s
    rw [← contains_recordAll_empty, Bool.not_eq_true, record, Bool.not_eq_true']
  case unchanged =>
    intro key s h
    rw [record, Bool.not_eq_false'] at h
    exact record_of_contains hw h
  case entries_keys => exact ⟨rfl, hw.nodup_keys⟩
  case entries_sets => exact fun entry h => (Evidence.snippets?_eq_some_iff hw).2 h

end Evidence

/-- Evidence in two parts: the keys in the order of their first records, and apart from them a map
from the keys to their sets. -/
structure IndexedEvidence where
  order : List String := []
  sets : Finmap fun _ : String => List Snippet := ∅

namespace IndexedEvidence

def record (d : IndexedEvidence) (key : String) (s : Snippet) : Bool × IndexedEvidence :=
  let ss := (d.sets.lookup key).getD []
  (!ss.contains s,
    { order := if key ∈ d.sets then d.order else d.order ++ [key]
      sets := d.sets.insert key (insertSnippet s ss) })

def recordAll (d : IndexedEvidence) (calls : List (String × Snippet)) : IndexedEvidence :=
  calls.foldl (fun d call => (d.record call.1 call.2).2) d

/-- Takes the keys out of a map, one after the other, each with what is left for it there. -/
def drain : List String → Finmap (fun _ : String => List Snippet) →
    List (String × Option (List Snippet)) × Finmap (fun _ : String => List Snippet)
  | [], sets => ([], sets)
  | key :: keys, sets =>
    ((key, sets.lookup key) :: (drain keys (sets.erase key)).1, (drain keys (sets.erase key)).2)

/-- Both parts show the same as evidence in one. -/
structure Represents (d : IndexedEvidence) (e : Evidence) : Prop where
  order_eq : d.order = e.keys
  lookup_eq : ∀ key, d.sets.lookup key = e.snippets? key

variable {d : IndexedEvidence} {e : Evidence}

theorem represents_empty : Represents {} .empty where
  order_eq := rfl
  lookup_eq _ := rfl

theorem Represents.record_fst (h : d.Represents e) (key : String) (s : Snippet) :
    (d.record key s).1 = (e.record key s).1 := by
  simp only [record, Evidence.record, Evidence.contains, h.lookup_eq]

theorem Represents.record (h : d.Represents e) (key : String) (s : Snippet) :
    (d.record key s).2.Represents (e.record key s).2 where
  order_eq := by
    have hm : key ∈ d.sets ↔ key ∈ e.keys := by
      rw [← Finmap.lookup_isSome, h.lookup_eq, Evidence.mem_keys_iff_isSome]
    rw [Evidence.keys_record, ← h.order_eq]
    simp only [IndexedEvidence.record, hm, ← h.order_eq]
  lookup_eq k := by
    rw [Evidence.snippets?_record]
    by_cases hk : k = key
    · subst hk
      simp only [IndexedEvidence.record, Finmap.lookup_insert, h.lookup_eq, ↓reduceIte]
    · simp only [IndexedEvidence.record, Finmap.lookup_insert_of_ne _ hk, h.lookup_eq, if_neg hk]

theorem Represents.recordAll (h : d.Represents e) (calls : List (String × Snippet)) :
    (d.recordAll calls).Represents (e.recordAll calls) := by
  induction calls generalizing d e with
  | nil => exact h
  | cons call calls ih => exact ih (h.record call.1 call.2)

theorem Represents.unique {d' : IndexedEvidence} (h : d.Represents e) (h' : d'.Represents e) :
    d = d' := by
  obtain ⟨order, sets⟩ := d
  obtain ⟨order', sets'⟩ := d'
  have ho : order = order' := h.order_eq.trans h'.order_eq.symm
  have hs : sets = sets' :=
    Finmap.ext_lookup fun key => (h.lookup_eq key).trans (h'.lookup_eq key).symm
  rw [ho, hs]

theorem Represents.record_of_not_new (h : d.Represents e) (he : e.WellFormed) {key : String}
    {s : Snippet} (hf : (d.record key s).1 = false) : (d.record key s).2 = d := by
  have hr := h.record key s
  rw [h.record_fst, Evidence.record, Bool.not_eq_false'] at hf
  rw [Evidence.record_of_contains he hf] at hr
  exact hr.unique h

/-- The keys of the order find their sets in the map, and nothing is left there. -/
theorem drain_eq {es : List (String × List Snippet)} (hk : (es.map (·.1)).Nodup)
    {sets : Finmap fun _ : String => List Snippet} (hs : ∀ key, sets.lookup key = es.lookup key) :
    drain (es.map (·.1)) sets = (es.map fun entry => (entry.1, some entry.2), ∅) := by
  induction es generalizing sets with
  | nil =>
    have he : sets = ∅ := Finmap.ext_lookup hs
    rw [he]
    rfl
  | cons entry es ih =>
    obtain ⟨key, ss⟩ := entry
    rw [List.map_cons, List.nodup_cons] at hk
    have hl : ∀ k, (sets.erase key).lookup k = es.lookup k := by
      intro k
      by_cases h : k = key
      · subst h
        have hn : es.lookup k = none := by
          rw [← Option.not_isSome_iff_eq_none, ← Evidence.mem_map_iff_isSome_lookup]
          exact hk.1
        rw [Finmap.lookup_erase, hn]
      · rw [Finmap.lookup_erase_ne h, hs, Evidence.lookup_cons_of_ne h]
    rw [List.map_cons, drain, ih hk.2 hl, hs, List.lookup_cons_self]
    rfl

theorem Represents.drain (h : d.Represents e) (he : e.WellFormed) :
    IndexedEvidence.drain d.order d.sets =
      (e.entries.map fun entry => (entry.1, some entry.2), ∅) := by
  rw [h.order_eq]
  exact drain_eq he.nodup_keys h.lookup_eq

end IndexedEvidence

/-- After any records, evidence shows an ordered map of sets. Kept in two parts it shows the same,
also whether a record is new; then the keys of the order find their sets in the map, one by one,
and leave nothing there. -/
theorem Evidence.recordAll_observed (calls : List (String × Snippet)) :
    let e := empty.recordAll calls
    let d := ({} : IndexedEvidence).recordAll calls
    Observed calls e ∧ d.Represents e ∧
      (∀ key s, (d.record key s).1 = (e.record key s).1 ∧
        ((d.record key s).1 = false → (d.record key s).2 = d)) ∧
      IndexedEvidence.drain d.order d.sets =
        (e.entries.map fun entry => (entry.1, some entry.2), ∅) := by
  intro e d
  have hw : e.WellFormed := wellFormed_recordAll wellFormed_empty calls
  have hr : d.Represents e := IndexedEvidence.represents_empty.recordAll calls
  exact ⟨observed_recordAll calls, hr,
    fun key s => ⟨hr.record_fst key s, hr.record_of_not_new hw⟩, hr.drain hw⟩

end ScriptFeatures
