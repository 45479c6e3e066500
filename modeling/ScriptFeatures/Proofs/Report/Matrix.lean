import ScriptFeatures.Catalogue.Lookup
import ScriptFeatures.Proofs.Report.Slot
import ScriptFeatures.Proofs.Report.Versions

namespace ScriptFeatures

open Decimal (Magnitude Scaled shortest)

namespace Slot

def numeralText (slot : String) : String := String.ofList (numerals slot.toList)

/-- A slot without support, or with the text of a plain decimal. -/
def IsRegular (slot : String) : Prop :=
  slot = unsupported ∨ ∃ d : Scaled, d.IsPlain ∧ d.text = numerals slot.toList

/-- The decimal of numerals, with the zeros at the end of a whole number in its exponent. -/
def plain (cs : List Char) : Scaled :=
  let whole := cs.takeWhile (· ≠ '.')
  let fraction := (cs.dropWhile (· ≠ '.')).drop 1
  let zeros := if fraction.isEmpty then (whole.reverse.takeWhile (· = '0')).length else 0
  ⟨readDigits (whole ++ fraction) / 10 ^ zeros, (zeros : ℤ) - fraction.length⟩

theorem isRegular_catalogue {f : Feature} (h : f ∈ Catalogue.all) (b : Browser) :
    IsRegular (f.support.get b) := by
  have hc : ∀ f ∈ Catalogue.all, ∀ b ∈ Browser.all, f.support.get b = unsupported ∨
      (plain (numerals (f.support.get b).toList)).IsPlain ∧
        (plain (numerals (f.support.get b).toList)).text = numerals (f.support.get b).toList := by
    decide +kernel
  have hb : b ∈ Browser.all := by cases b <;> decide
  exact (hc f h b hb).imp_right fun hp => ⟨_, hp⟩

theorem floor?_unsupported : floor? unsupported = none := rfl

theorem number?_unsupported : number? unsupported = none := rfl

/-- A regular slot with support is read as the number for which its numerals are printed. -/
theorem IsRegular.exists_floor? {slot : String} (h : IsRegular slot) (hs : slot ≠ unsupported) :
    ∃ n, Magnitude.spacing n ∣ n ∧ floor? slot = some (.finite n) ∧
      number? slot = some (shortest n).number ∧
      ofFloor? (some (.finite n)) = numeralText slot ++ "+" := by
  obtain ⟨d, hd, ht⟩ := h.resolve_left hs
  obtain ⟨n, hn, hr, he⟩ := hd.exists_shortest
  have hsp : spelled? slot = some (d.digitsWritten, d.places) := by
    rw [spelled?, ← ht, spell?_text]
  refine ⟨n, hn, ?_, ?_, ?_⟩
  · rw [floor?_eq, hsp, Option.map_some, hr]
  · rw [number?, hsp, he]
    rfl
  · rw [numeralText, ← ht, ← he]
    rfl

end Slot

/-- What a slot says of the features in a list: whether there is a browser with them all, and
which of their floors is the largest, both as the floors are read and as one sees them. -/
structure IsMinimum (fs : List Feature) (b : Browser) (slot : String) : Prop where
  unsupported_iff : slot = Slot.unsupported ↔ ∀ f ∈ fs, f.support.get b = Slot.unsupported
  attained : slot ≠ Slot.unsupported →
    ∃ f ∈ fs, slot = Slot.numeralText (f.support.get b) ++ "+" ∧
      (∃ m, Slot.floor? (f.support.get b) = some m ∧
        ∀ g ∈ fs, ∀ n, Slot.floor? (g.support.get b) = some n → n ≤ m) ∧
      ∃ x, Slot.number? (f.support.get b) = some x ∧
        ∀ g ∈ fs, ∀ y, Slot.number? (g.support.get b) = some y → y ≤ x

variable {fs : List Feature} {b : Browser}

theorem minimumVersions_eq_unsupported_iff (hr : ∀ f ∈ fs, Slot.IsRegular (f.support.get b)) :
    (minimumVersions fs).get b = Slot.unsupported ↔
      ∀ f ∈ fs, f.support.get b = Slot.unsupported := by
  rw [get_minimumVersions]
  constructor
  · intro h f hf
    by_contra hne
    obtain ⟨n, -, hn, -⟩ := (hr f hf).exists_floor? hne
    cases hl : largest? (floors fs b) with
    | some m =>
      rw [hl] at h
      exact Slot.ofFloor?_ne_unsupported m h
    | none =>
      have hm : Magnitude.finite n ∈ floors fs b := mem_floors.2 ⟨f, hf, hn⟩
      rw [largest?_eq_none_iff.1 hl] at hm
      cases hm
  · intro h
    have hnil : floors fs b = [] := by
      rw [List.eq_nil_iff_forall_not_mem]
      intro n hn
      obtain ⟨f, hf, hfn⟩ := mem_floors.1 hn
      rw [h f hf, Slot.floor?_unsupported] at hfn
      cases hfn
    rw [hnil]
    rfl

theorem isMinimum_minimumVersions (hr : ∀ f ∈ fs, Slot.IsRegular (f.support.get b)) :
    IsMinimum fs b ((minimumVersions fs).get b) := by
  refine ⟨minimumVersions_eq_unsupported_iff hr, ?_⟩
  intro hne
  rw [get_minimumVersions] at hne ⊢
  cases hl : largest? (floors fs b) with
  | none =>
    rw [hl] at hne
    exact absurd rfl hne
  | some m =>
    obtain ⟨hm, hle⟩ := largest?_eq_some_iff.1 hl
    obtain ⟨f, hf, hfm⟩ := mem_floors.1 hm
    have hfs : f.support.get b ≠ Slot.unsupported := by
      intro hu
      rw [hu, Slot.floor?_unsupported] at hfm
      cases hfm
    obtain ⟨k, hk, hfk, hfx, hfp⟩ := (hr f hf).exists_floor? hfs
    obtain rfl : m = .finite k := Option.some.inj (hfm.symm.trans hfk)
    refine ⟨f, hf, hfp, ⟨_, hfm, ?_⟩, _, hfx, ?_⟩
    · intro g hg n hn
      exact hle n (mem_floors.2 ⟨g, hg, hn⟩)
    · intro g hg y hy
      have hgs : g.support.get b ≠ Slot.unsupported := by
        intro hu
        rw [hu, Slot.number?_unsupported] at hy
        cases hy
      obtain ⟨l, hl, hgl, hgx, -⟩ := (hr g hg).exists_floor? hgs
      obtain rfl : y = (shortest l).number := Option.some.inj (hy.symm.trans hgx)
      have hlk : Magnitude.finite l ≤ .finite k := hle _ (mem_floors.2 ⟨g, hg, hgl⟩)
      exact Decimal.number_shortest_le hl hk (Magnitude.finite_le_finite.1 hlk)

theorem Summary.of_legacy_unsupported (hne : fs ≠ [])
    (h : ∀ f ∈ fs, f.support.legacy = Slot.unsupported) :
    (ofFeatures fs).allFeaturesLegacyCompatible = false ∧
      (ofFeatures fs).modernOnlyFeatures = (ofFeatures fs).totalFeatures := by
  have hu : ∀ f ∈ fs, Slot.isUnsupported f.support.legacy = true := fun f hf => beq_iff_eq.2 (h f hf)
  constructor
  · obtain ⟨f, hf⟩ := List.exists_mem_of_ne_nil fs hne
    rw [ofFeatures, List.all_eq_false]
    exact ⟨f, hf, by rw [hu f hf]; exact Bool.false_ne_true⟩
  · rw [ofFeatures, List.countP_eq_length]
    intro f hf
    rw [isModernOnly, hu f hf, Bool.true_or]

/-- Over catalogued features a minimum version is `No` if none of them has support, and else the
largest of their floors as the catalogue writes it. The summary agrees with the slot of the legacy
browser. -/
theorem minimumVersions_catalogued (h : ∀ f ∈ fs, f ∈ Catalogue.all) :
    (∀ b, IsMinimum fs b ((minimumVersions fs).get b)) ∧
    (fs ≠ [] → (minimumVersions fs).ie = Slot.unsupported →
      (Summary.ofFeatures fs).allFeaturesLegacyCompatible = false ∧
        (Summary.ofFeatures fs).modernOnlyFeatures = (Summary.ofFeatures fs).totalFeatures) ∧
    (fs ≠ [] → (Summary.ofFeatures fs).allFeaturesLegacyCompatible = true →
      (minimumVersions fs).ie ≠ Slot.unsupported) := by
  have hr (b : Browser) : ∀ f ∈ fs, Slot.IsRegular (f.support.get b) :=
    fun f hf => Slot.isRegular_catalogue (h f hf) b
  have hl (hne : fs ≠ []) (hie : (minimumVersions fs).ie = Slot.unsupported) :=
    Summary.of_legacy_unsupported hne
      ((minimumVersions_eq_unsupported_iff (hr .internetExplorer)).1 hie)
  refine ⟨fun b => isMinimum_minimumVersions (hr b), hl, ?_⟩
  intro hne ht hie
  rw [(hl hne hie).1] at ht
  cases ht

theorem minimumVersions_catalogued_fields :
    let keys := ["arrow-functions", "let", "classes", "class-fields", "private-class-fields"]
    let fs := Catalogue.all.filter fun f => keys.contains f.key
    (∀ f ∈ fs, f ∈ Catalogue.all) ∧
      fs.map (·.support.safari) = ["10+", "10+", "9+", "14+", "14.1+"] ∧
      minimumVersions fs = ⟨"74+", "90+", "14.1+", "79+", "11+"⟩ ∧
      IsMinimum fs .safari "14.1+" := by
  intro keys fs
  have hfs : ∀ f ∈ fs, f ∈ Catalogue.all := fun f hf => List.mem_of_mem_filter hf
  have hv : minimumVersions fs = ⟨"74+", "90+", "14.1+", "79+", "11+"⟩ := by decide +kernel
  have hm := (minimumVersions_catalogued hfs).1 .safari
  rw [hv] at hm
  exact ⟨hfs, by decide +kernel, hv, hm⟩

example : minimumVersions [] = .ofFn fun _ => Slot.unsupported := rfl

end ScriptFeatures
