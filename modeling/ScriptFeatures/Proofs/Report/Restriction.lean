import ScriptFeatures.Proofs.Evidence.OrderedMap
import ScriptFeatures.Proofs.Report.Completeness

namespace ScriptFeatures

open Text (Snippet)

namespace Catalogue

theorem nodup_keys : keys.Nodup := by decide +kernel

theorem lookup?_eq_some_iff {key : String} {f : Feature} :
    lookup? key = some f ↔ f ∈ all ∧ f.key = key := by
  constructor
  · intro h
    exact ⟨List.mem_of_find?_eq_some h, key_of_lookup? h⟩
  · rintro ⟨hf, rfl⟩
    have hs : (lookup? f.key).isSome = true := lookup?_isSome_iff.2 (List.mem_map_of_mem hf)
    obtain ⟨g, hg⟩ := Option.isSome_iff_exists.1 hs
    have hgf : g = f :=
      List.inj_on_of_nodup_map nodup_keys (List.mem_of_find?_eq_some hg) hf (key_of_lookup? hg)
    rw [hg, hgf]

end Catalogue

namespace Evidence

variable {p : String → Bool} {key : String}

theorem filter_recordIn_of_pos (h : p key = true) (s : Snippet)
    (es : List (String × List Snippet)) :
    (recordIn key s es).filter (fun entry => p entry.1) =
      recordIn key s (es.filter fun entry => p entry.1) := by
  induction es with
  | nil => simp [recordIn, h]
  | cons entry es ih =>
    obtain ⟨k, ss⟩ := entry
    by_cases hk : k = key
    · subst hk
      simp [recordIn, h]
    · by_cases hp : p k = true
      · simp [recordIn, hk, hp, ih]
      · simp [recordIn, hk, hp, ih]

theorem filter_recordIn_of_neg (h : ¬ p key = true) (s : Snippet)
    (es : List (String × List Snippet)) :
    (recordIn key s es).filter (fun entry => p entry.1) = es.filter fun entry => p entry.1 := by
  induction es with
  | nil => simp [recordIn, h]
  | cons entry es ih =>
    obtain ⟨k, ss⟩ := entry
    by_cases hk : k = key
    · subst hk
      simp [recordIn, h]
    · simp [recordIn, hk, List.filter_cons, ih]

/-- Records under keys that are left out in the end could as well not have been made. -/
theorem entries_recordAll_filter (p : String → Bool) {e e' : Evidence}
    (h : e.entries.filter (fun entry => p entry.1) = e'.entries)
    (calls : List (String × Snippet)) :
    (e.recordAll calls).entries.filter (fun entry => p entry.1) =
      (e'.recordAll (calls.filter fun call => p call.1)).entries := by
  induction calls generalizing e e' with
  | nil => exact h
  | cons call calls ih =>
    obtain ⟨key, s⟩ := call
    rw [recordAll_cons]
    by_cases hp : p key = true
    · have hc : ((key, s) :: calls).filter (fun call => p call.1) =
          (key, s) :: calls.filter fun call => p call.1 := List.filter_cons_of_pos hp
      rw [hc, recordAll_cons]
      apply ih
      rw [record, filter_recordIn_of_pos hp, h]
      rfl
    · have hc : ((key, s) :: calls).filter (fun call => p call.1) =
          calls.filter fun call => p call.1 := List.filter_cons_of_neg hp
      rw [hc]
      apply ih
      rw [record, filter_recordIn_of_neg hp, h]

end Evidence

namespace Report

/-- A report that lists what is recorded under catalogued keys. -/
structure IsRestriction (r : Report) (calls : List (String × Snippet)) : Prop where
  keys_eq : r.features.map (·.feature.key) =
    (calls.map (·.1)).eraseDups.filter fun key => (Catalogue.lookup? key).isSome
  nodup_keys : (r.features.map (·.feature.key)).Nodup
  lookup?_eq : ∀ f ∈ r.features, Catalogue.lookup? f.feature.key = some f.feature
  descriptor : ∀ f ∈ r.features, f.feature ∈ Catalogue.all ∧
    ∀ g ∈ Catalogue.all, g.key = f.feature.key → g = f.feature
  snippets : ∀ f ∈ r.features, f.snippets ≠ [] ∧ StrictlyIncreasing f.snippets ∧
    ∀ s, s ∈ f.snippets ↔ (f.feature.key, s) ∈ calls
  summary_eq : r.summary = .ofFeatures (r.features.map (·.feature))
  minimumVersions_eq :
    r.minimumVersions = ScriptFeatures.minimumVersions (r.features.map (·.feature))

theorem isRestriction_ofEvidence (calls : List (String × Snippet)) :
    (ofEvidence (Evidence.empty.recordAll calls)).IsRestriction calls := by
  have hw := Evidence.wellFormed_recordAll Evidence.wellFormed_empty calls
  have ho := Evidence.observed_recordAll calls
  have hm := map_features_ofEvidence (Evidence.empty.recordAll calls)
  have hk : (ofEvidence (Evidence.empty.recordAll calls)).features.map (·.feature.key) =
      (calls.map (·.1)).eraseDups.filter fun key => (Catalogue.lookup? key).isSome := by
    have hmap := congrArg (List.map (·.1)) hm
    rw [List.map_map] at hmap
    rw [← ho.keys_eq, Evidence.keys, List.filter_map]
    exact hmap
  constructor
  case keys_eq => exact hk
  case nodup_keys =>
    rw [hk, ← ho.keys_eq]
    exact hw.nodup_keys.filter _
  case lookup?_eq => exact fun f => lookup?_of_mem_features
  case descriptor =>
    intro f hf
    obtain ⟨hfa, -⟩ := Catalogue.lookup?_eq_some_iff.1 (lookup?_of_mem_features hf)
    exact ⟨hfa, fun g hg he => List.inj_on_of_nodup_map Catalogue.nodup_keys hg hfa he⟩
  case snippets =>
    intro f hf
    have he : (f.feature.key, f.snippets) ∈ (Evidence.empty.recordAll calls).entries := by
      apply List.mem_of_mem_filter
      rw [← hm]
      exact List.mem_map.2 ⟨f, hf, rfl⟩
    exact (ho.snippets?_eq_some_iff _ _).1 ((Evidence.snippets?_eq_some_iff hw).2 he)
  case summary_eq => rfl
  case minimumVersions_eq => rfl

theorem ofEvidence_congr {e e' : Evidence}
    (h : e.entries.filter (fun entry => (Catalogue.lookup? entry.1).isSome) = e'.entries) :
    ofEvidence e = ofEvidence e' := by
  have hf : (ofEvidence e).features = (ofEvidence e').features := by
    simp only [ofEvidence, ← h, List.filterMap_filter]
    congr 1
    funext entry
    obtain ⟨key, ss⟩ := entry
    cases Catalogue.lookup? key <;> rfl
  have he (e : Evidence) : ofEvidence e =
    ⟨(ofEvidence e).features, .ofFeatures ((ofEvidence e).features.map (·.feature)),
      ScriptFeatures.minimumVersions ((ofEvidence e).features.map (·.feature))⟩ := rfl
  rw [he e, he e', hf]

end Report

/-- A report on recorded evidence lists what is recorded under catalogued keys. Records under other
keys do not change it, wherever they stand among the others. Kept in two parts the evidence is
listed the same way. -/
theorem Report.ofEvidence_recordAll (calls : List (String × Snippet)) :
    let d := ({} : IndexedEvidence).recordAll calls
    let r := ofEvidence (Evidence.empty.recordAll calls)
    r.IsRestriction calls ∧
      r = ofEvidence (Evidence.empty.recordAll
        (calls.filter fun call => (Catalogue.lookup? call.1).isSome)) ∧
      r.features = (IndexedEvidence.drain d.order d.sets).1.filterMap fun entry =>
        (Catalogue.lookup? entry.1).map (⟨·, entry.2.getD []⟩) := by
  intro d r
  have hw := Evidence.wellFormed_recordAll Evidence.wellFormed_empty calls
  have hr := IndexedEvidence.represents_empty.recordAll calls
  refine ⟨isRestriction_ofEvidence calls, ?_, ?_⟩
  · exact ofEvidence_congr
      (Evidence.entries_recordAll_filter (fun key => (Catalogue.lookup? key).isSome) rfl calls)
  · rw [hr.drain hw, List.filterMap_map]
    rfl

end ScriptFeatures
