import Mathlib.Data.List.Forall2
import ScriptFeatures.Proofs.Evidence.Recording

namespace ScriptFeatures

open Text (Snippet)

namespace Text.Snippet

instance : Std.TransOrd Snippet :=
  inferInstanceAs (Std.TransCmp (compareLex (compareLex (compareLex (compareLex (compareLex
    (compareOn matchLine) (compareOn matchColumn)) (compareOn matchLength)) (compareOn matchText))
    (compareOn contextStartLine)) (compareOn contextText)))

end Text.Snippet

def StrictlyIncreasing (ss : List Snippet) : Prop := ss.Pairwise fun s t => compare s t = .lt

theorem strictlyIncreasing_insertSnippet (s : Snippet) {ss : List Snippet}
    (h : StrictlyIncreasing ss) : StrictlyIncreasing (insertSnippet s ss) := by
  induction ss with
  | nil => exact List.pairwise_singleton _ s
  | cons t ts ih =>
    obtain ⟨ht, hts⟩ := List.pairwise_cons.1 h
    rw [insertSnippet]
    split
    case h_1 hc =>
      refine List.pairwise_cons.2 ⟨?_, h⟩
      intro u hu
      rcases List.mem_cons.1 hu with rfl | hu
      · exact hc
      · exact Std.TransCmp.lt_trans hc (ht u hu)
    case h_2 => exact h
    case h_3 hc =>
      refine List.pairwise_cons.2 ⟨?_, ih hts⟩
      intro u hu
      rcases mem_insertSnippet.1 hu with rfl | hu
      · exact Std.OrientedCmp.lt_of_gt hc
      · exact ht u hu

theorem insertSnippet_ne_nil (s : Snippet) (ss : List Snippet) : insertSnippet s ss ≠ [] :=
  List.ne_nil_of_mem (mem_insertSnippet.2 (.inl rfl))

namespace Evidence

/-- What recording keeps: a key has one entry, and the snippets of an entry are at least one and
strictly increase. -/
structure WellFormed (e : Evidence) : Prop where
  nodup_keys : e.keys.Nodup
  ne_nil : ∀ entry ∈ e.entries, entry.2 ≠ []
  increasing : ∀ entry ∈ e.entries, StrictlyIncreasing entry.2

theorem wellFormed_empty : empty.WellFormed where
  nodup_keys := .nil
  ne_nil := by simp [empty]
  increasing := by simp [empty]

theorem forall_mem_recordIn {P : List Snippet → Prop} (key : String) (s : Snippet)
    (single : P [s]) (insert : ∀ ss, P ss → P (insertSnippet s ss))
    {es : List (String × List Snippet)} (h : ∀ entry ∈ es, P entry.2) :
    ∀ entry ∈ recordIn key s es, P entry.2 := by
  induction es with
  | nil => simpa [recordIn] using single
  | cons e es ih =>
    obtain ⟨k, ss⟩ := e
    rw [List.forall_mem_cons] at h
    rw [recordIn]
    split
    · exact List.forall_mem_cons.2 ⟨insert ss h.1, h.2⟩
    · exact List.forall_mem_cons.2 ⟨h.1, ih h.2⟩

theorem wellFormed_record {e : Evidence} (h : e.WellFormed) (key : String) (s : Snippet) :
    (e.record key s).2.WellFormed where
  nodup_keys := by
    rw [keys_record]
    split
    · exact h.nodup_keys
    · rename_i hk
      refine List.nodup_append.2 ⟨h.nodup_keys, List.pairwise_singleton _ key, ?_⟩
      intro k hm _ hs he
      rw [List.mem_singleton.1 hs] at he
      exact hk (he ▸ hm)
  ne_nil := forall_mem_recordIn (P := (· ≠ [])) key s (by simp)
    (fun ss _ => insertSnippet_ne_nil s ss) h.ne_nil
  increasing := forall_mem_recordIn (P := StrictlyIncreasing) key s (List.pairwise_singleton _ s)
    (fun _ => strictlyIncreasing_insertSnippet s) h.increasing

theorem wellFormed_recordAll {e : Evidence} (h : e.WellFormed) (hits : List (String × Snippet)) :
    (e.recordAll hits).WellFormed := by
  induction hits generalizing e with
  | nil => exact h
  | cons hit hits ih => exact ih (wellFormed_record h hit.1 hit.2)

theorem snippets?_eq_some_iff {e : Evidence} (h : e.WellFormed) {key : String}
    {ss : List Snippet} : e.snippets? key = some ss ↔ (key, ss) ∈ e.entries := by
  obtain ⟨es⟩ := e
  have hk : (es.map (·.1)).Nodup := h.nodup_keys
  change es.lookup key = some ss ↔ (key, ss) ∈ es
  clear h
  induction es with
  | nil => simp
  | cons entry es ih =>
    obtain ⟨k, ts⟩ := entry
    rw [List.map_cons, List.nodup_cons] at hk
    by_cases he : key = k
    · subst he
      have hn : (key, ss) ∉ es := fun hm => hk.1 (List.mem_map.2 ⟨_, hm, rfl⟩)
      simp [hn, eq_comm]
    · rw [lookup_cons_of_ne he, ih hk.2, List.mem_cons]
      simp [he]

theorem exists_map_eq {α β : Type*} {f : α → β} {p : α → Prop} {bs : List β}
    (h : ∀ b ∈ bs, ∃ a, p a ∧ f a = b) : ∃ as : List α, (∀ a ∈ as, p a) ∧ bs = as.map f := by
  induction bs with
  | nil => exact ⟨[], by simp, rfl⟩
  | cons b bs ih =>
    rw [List.forall_mem_cons] at h
    obtain ⟨a, ha, rfl⟩ := h.1
    obtain ⟨as, has, rfl⟩ := ih h.2
    exact ⟨a :: as, List.forall_mem_cons.2 ⟨ha, has⟩, rfl⟩

theorem strictlyIncreasing_getD {e : Evidence} (h : e.WellFormed) (key : String) :
    StrictlyIncreasing ((e.snippets? key).getD []) := by
  cases hs : e.snippets? key with
  | none => exact .nil
  | some ss => exact h.increasing _ ((snippets?_eq_some_iff h).1 hs)

/-- The same keys in the same order, and for each key as many snippets, which are related one by
one. -/
def Agree (R : Snippet → Snippet → Prop) (e e' : Evidence) : Prop :=
  List.Forall₂ (fun a b => a.1 = b.1 ∧ List.Forall₂ R a.2 b.2) e.entries e'.entries

theorem Agree.imp {R S : Snippet → Snippet → Prop} (h : ∀ s t, R s t → S s t) {e e' : Evidence}
    (he : e.Agree R e') : e.Agree S e' :=
  List.Forall₂.imp (fun _ _ hab => ⟨hab.1, hab.2.imp h⟩) he

section Places

variable {ρ : Type} {f g : ρ → Snippet}

theorem mem_keys_recordAll_map {hits : List (String × ρ)} {key : String} :
    key ∈ (empty.recordAll (hits.map (Prod.map id f))).keys ↔ ∃ r, (key, r) ∈ hits := by
  rw [keys_recordAll_empty, List.mem_eraseDups, List.map_map]
  simp

theorem mem_getD_recordAll_map {hits : List (String × ρ)} {key : String} {s : Snippet} :
    s ∈ ((empty.recordAll (hits.map (Prod.map id f))).snippets? key).getD [] ↔
      ∃ r, (key, r) ∈ hits ∧ f r = s := by
  rw [← contains_iff, contains_recordAll, contains_empty]
  simp only [Bool.false_eq_true, or_false, List.mem_map, Prod.exists, Prod.map_apply, id_eq,
    Prod.mk.injEq]
  constructor
  · rintro ⟨_, r, hm, rfl, hf⟩
    exact ⟨r, hm, hf⟩
  · rintro ⟨r, hm, hf⟩
    exact ⟨key, r, hm, rfl, hf⟩

/-- An entry lists the places of its key, each once and in the order of the places. -/
theorem exists_places_recordAll [Ord ρ] [Std.LawfulEqOrd ρ]
    (hf : ∀ r r', compare (f r) (f r') = compare r r') (hits : List (String × ρ)) (key : String) :
    ∃ rs : List ρ, rs.Pairwise (fun r r' => compare r r' = .lt) ∧
      (∀ r, r ∈ rs ↔ (key, r) ∈ hits) ∧
      ((empty.recordAll (hits.map (Prod.map id f))).snippets? key).getD [] = rs.map f := by
  have hw := wellFormed_recordAll wellFormed_empty (hits.map (Prod.map id f))
  have hi := strictlyIncreasing_getD hw key
  obtain ⟨rs, hr, he⟩ := exists_map_eq fun s hs => mem_getD_recordAll_map.1 hs
  refine ⟨rs, ?_, fun r => ⟨hr r, fun hm => ?_⟩, he⟩
  · rw [he, StrictlyIncreasing, List.pairwise_map] at hi
    simpa only [hf] using hi
  · have hs : f r ∈ rs.map f := he ▸ mem_getD_recordAll_map.2 ⟨r, hm, rfl⟩
    obtain ⟨r', hr', hff⟩ := List.mem_map.1 hs
    have hc : compare r' r = .eq := by
      rw [← hf, hff, Snippet.compare_eq_iff]
    rwa [← Std.LawfulEqOrd.eq_of_compare hc]

def CiteSame (f g : ρ → Snippet) (s t : Snippet) : Prop := ∃ r, s = f r ∧ t = g r

theorem forall₂_insertSnippet (h : ∀ r r', compare (f r) (f r') = compare (g r) (g r')) (r : ρ)
    {ss ts : List Snippet} (hst : List.Forall₂ (CiteSame f g) ss ts) :
    List.Forall₂ (CiteSame f g) (insertSnippet (f r) ss)
      (insertSnippet (g r) ts) := by
  have hr : CiteSame f g (f r) (g r) := ⟨r, rfl, rfl⟩
  induction hst with
  | nil => exact .cons hr .nil
  | cons ht hts ih =>
    obtain ⟨r', rfl, rfl⟩ := ht
    have ht : CiteSame f g (f r') (g r') := ⟨r', rfl, rfl⟩
    rw [insertSnippet, insertSnippet, h]
    cases compare (g r) (g r') with
    | lt => exact .cons hr (.cons ht hts)
    | eq => exact .cons ht hts
    | gt => exact .cons ht ih

theorem agree_record (h : ∀ r r', compare (f r) (f r') = compare (g r) (g r')) {e e' : Evidence}
    (he : e.Agree (CiteSame f g) e') (key : String) (r : ρ) :
    (e.record key (f r)).2.Agree (CiteSame f g) (e'.record key (g r)).2 := by
  obtain ⟨es⟩ := e
  obtain ⟨es'⟩ := e'
  change List.Forall₂ _ es es' at he
  change List.Forall₂ _ (recordIn key (f r) es) (recordIn key (g r) es')
  induction he with
  | nil => exact .cons ⟨rfl, .cons ⟨r, rfl, rfl⟩ .nil⟩ .nil
  | @cons a b es es' hab hes ih =>
    obtain ⟨k, ss⟩ := a
    obtain ⟨_, ts⟩ := b
    obtain ⟨rfl, hst⟩ := hab
    rw [recordIn, recordIn]
    split
    · exact .cons ⟨rfl, forall₂_insertSnippet h r hst⟩ hes
    · exact .cons ⟨rfl, hst⟩ ih

/-- Two ways to cite places in one order agree on the whole evidence, key by key and snippet by
snippet. -/
theorem agree_recordAll_map (h : ∀ r r', compare (f r) (f r') = compare (g r) (g r'))
    {e e' : Evidence} (he : e.Agree (CiteSame f g) e')
    (hits : List (String × ρ)) :
    (e.recordAll (hits.map (Prod.map id f))).Agree (CiteSame f g)
      (e'.recordAll (hits.map (Prod.map id g))) := by
  induction hits generalizing e e' with
  | nil => exact he
  | cons hit hits ih =>
    obtain ⟨key, r⟩ := hit
    exact ih (agree_record h he key r)

end Places

end Evidence
end ScriptFeatures
