import Mathlib.Data.List.Nodup
import ScriptFeatures.Proofs.Evidence.Order

namespace ScriptFeatures

open Text (Snippet)

theorem StrictlyIncreasing.eq_of_mem_iff {ss ts : List Snippet} (hs : StrictlyIncreasing ss)
    (ht : StrictlyIncreasing ts) (h : ∀ s, s ∈ ss ↔ s ∈ ts) : ss = ts := by
  have irrefl {s t : Snippet} (hst : compare s t = .lt) : s ≠ t := by
    rintro rfl
    simp at hst
  have hp : ss.Perm ts := (List.perm_ext_iff_of_nodup (hs.imp irrefl) (ht.imp irrefl)).2 h
  apply hp.eq_of_pairwise _ hs ht
  intro s t _ _ hst hts
  exact (Std.OrientedCmp.not_lt_of_lt hst hts).elim

namespace Evidence

variable {e e' : Evidence}

theorem mem_map_iff_isSome_lookup {es : List (String × List Snippet)} {key : String} :
    key ∈ es.map (·.1) ↔ (es.lookup key).isSome = true := by
  induction es with
  | nil => simp
  | cons entry es ih =>
    obtain ⟨k, ss⟩ := entry
    by_cases h : key = k
    · simp [h]
    · rw [lookup_cons_of_ne h, List.map_cons, List.mem_cons, or_iff_right h, ih]

theorem mem_keys_iff_isSome {key : String} : key ∈ e.keys ↔ (e.snippets? key).isSome = true :=
  mem_map_iff_isSome_lookup

theorem mem_keys_iff_contains (h : e.WellFormed) {key : String} :
    key ∈ e.keys ↔ ∃ s, e.contains key s = true := by
  rw [mem_keys_iff_isSome]
  simp only [contains_iff]
  cases hs : e.snippets? key with
  | none => simp
  | some ss =>
    obtain ⟨s, hm⟩ := List.exists_mem_of_ne_nil ss (h.ne_nil _ ((snippets?_eq_some_iff h).1 hs))
    simpa using ⟨s, hm⟩

theorem snippets?_eq_of_contains_iff (h : e.WellFormed) (h' : e'.WellFormed) {key key' : String}
    (hc : ∀ s, e.contains key s = true ↔ e'.contains key' s = true) :
    e.snippets? key = e'.snippets? key' := by
  have hl : (e.snippets? key).getD [] = (e'.snippets? key').getD [] := by
    apply (strictlyIncreasing_getD h key).eq_of_mem_iff (strictlyIncreasing_getD h' key')
    intro s
    rw [← contains_iff, ← contains_iff, hc]
  have hk : (e.snippets? key).isSome = (e'.snippets? key').isSome := by
    rw [Bool.eq_iff_iff, ← mem_keys_iff_isSome, ← mem_keys_iff_isSome, mem_keys_iff_contains h,
      mem_keys_iff_contains h']
    simp only [hc]
  cases hs : e.snippets? key <;> cases hs' : e'.snippets? key' <;> simp_all

/-- The entries of well-formed evidence are determined by what is looked up in it, but for their
order. -/
theorem entries_perm (h : e.WellFormed) (h' : e'.WellFormed)
    (hs : ∀ key, e.snippets? key = e'.snippets? key) : e.entries.Perm e'.entries := by
  apply (List.perm_ext_iff_of_nodup (List.Nodup.of_map _ h.nodup_keys)
    (List.Nodup.of_map _ h'.nodup_keys)).2
  rintro ⟨key, ss⟩
  rw [← snippets?_eq_some_iff h, ← snippets?_eq_some_iff h', hs]

theorem snippets?_recordAll_perm (h : e.WellFormed) {hits hits' : List (String × Snippet)}
    (hp : hits.Perm hits') (key : String) :
    (e.recordAll hits).snippets? key = (e.recordAll hits').snippets? key := by
  apply snippets?_eq_of_contains_iff (wellFormed_recordAll h hits) (wellFormed_recordAll h hits')
  intro s
  rw [contains_recordAll, contains_recordAll, hp.mem_iff]

/-- The evidence of both: key by key the union of their sets. The keys of the first one come
first, in their order, and then those that only the second one has, in theirs. -/
structure IsUnion (both first second : Evidence) : Prop where
  contains_iff : ∀ key s, both.contains key s = true ↔
    first.contains key s = true ∨ second.contains key s = true
  keys_eq : both.keys = first.keys ++ second.keys.filter (· ∉ first.keys)

theorem eraseDups_filter {α : Type*} [BEq α] [LawfulBEq α] (p : α → Bool) (as : List α) :
    (as.filter p).eraseDups = as.eraseDups.filter p := by
  match as with
  | [] => rfl
  | a :: as =>
    have ih := eraseDups_filter p (as.filter fun b => !b == a)
    rw [List.filter_comm] at ih
    rw [List.eraseDups_cons]
    by_cases ha : p a = true
    · rw [List.filter_cons_of_pos ha, List.filter_cons_of_pos ha, List.eraseDups_cons, ih]
    · have hn : (as.filter p).filter (fun b => !b == a) = as.filter p := by
        rw [List.filter_eq_self]
        intro b hb
        have hne : b ≠ a := by
          rintro rfl
          exact ha (List.mem_filter.1 hb).2
        simpa using hne
      rw [List.filter_cons_of_neg ha, List.filter_cons_of_neg ha, ← ih, hn]
termination_by as.length
decreasing_by exact Nat.lt_succ_of_le (List.length_filter_le _ _)

theorem isUnion_recordAll (hits more : List (String × Snippet)) :
    (empty.recordAll (hits ++ more)).IsUnion (empty.recordAll hits) (empty.recordAll more) := by
  constructor
  case contains_iff =>
    intro key s
    simp only [contains_recordAll, List.mem_append, contains_empty, Bool.false_eq_true, or_false]
  case keys_eq =>
    rw [recordAll_append, keys_recordAll, keys_recordAll_empty more]
    rw [List.removeAll, eraseDups_filter]
    simp

end Evidence
end ScriptFeatures
