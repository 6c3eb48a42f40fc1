import Mathlib.Data.List.Forall2
import Mathlib.Data.List.Nodup
import UriExpansion.Catalog.Loading

/-!
Loading a catalog. The entries of a catalog that loads are made of its settings one by
one, and the first settings that cannot be added decide why it does not load.
-/

namespace UriExpansion

namespace Catalog

variable {catalog extended : Catalog} {first : Settings} {settings before after : List Settings}

theorem get?_eq_some_iff {name : String} {entry : CatalogEntry} : catalog.get? name = some entry ↔
    entry ∈ catalog.entries ∧ entry.name = name := by
  constructor
  · intro found
    exact ⟨List.mem_of_find?_eq_some found, by simpa using List.find?_some found⟩
  · rintro ⟨membership, rfl⟩
    cases found : catalog.get? entry.name with
    | none =>
        exact absurd (List.mem_map_of_mem membership) ((get?_eq_none_iff _ _).mp found)
    | some other =>
        have otherIn := List.mem_of_find?_eq_some found
        have sameName : other.name = entry.name := by simpa using List.find?_some found
        rw [List.inj_on_of_nodup_map catalog.distinct otherIn membership sameName]

theorem add_eq_ok (added : catalog.add first = .ok extended) :
    ∃ entry, CatalogEntry.ofSettings first = .ok entry ∧
      extended.entries = catalog.entries ++ [entry] := by
  revert added
  fun_cases add catalog first with
  | case1 => exact nofun
  | case2 entry made isNew =>
      rintro ⟨⟩
      exact ⟨entry, made, rfl⟩
  | case3 => exact nofun

theorem add_of_faulty {error : TemplateError}
    (faulty : Template.read first.template = .error error) :
    catalog.add first = .error (.invalidTemplate first.name error) := by
  simp only [add, CatalogEntry.ofSettings, faulty]

theorem addAll_append (catalog : Catalog) (before after : List Settings) :
    catalog.addAll (before ++ after) = (catalog.addAll before).bind (·.addAll after) := by
  fun_induction addAll catalog before with
  | case1 => rfl
  | case2 catalog first rest error refused => simp only [List.cons_append, addAll, refused]; rfl
  | case3 catalog first rest extended added inductionHypothesis =>
      simp only [List.cons_append, addAll, added, inductionHypothesis]

/-- Settings that are added make one entry each, behind those that are there. -/
theorem entries_of_addAll (added : catalog.addAll settings = .ok extended) :
    ∃ entries, List.Forall₂ (fun settings entry => CatalogEntry.ofSettings settings = .ok entry)
        settings entries ∧ extended.entries = catalog.entries ++ entries := by
  revert added
  fun_induction addAll catalog settings with
  | case1 catalog =>
      rintro ⟨⟩
      exact ⟨[], .nil, (List.append_nil _).symm⟩
  | case2 => exact nofun
  | case3 catalog first rest next addedFirst inductionHypothesis =>
      intro added
      obtain ⟨entry, made, nextEntries⟩ := add_eq_ok addedFirst
      obtain ⟨entries, madeRest, extendedEntries⟩ := inductionHypothesis added
      refine ⟨entry :: entries, .cons made madeRest, ?_⟩
      rw [extendedEntries, nextEntries, List.append_assoc, List.singleton_append]

/-- The entries of a catalog that loads are those that its settings make, in order. -/
theorem entries_of_ofSettings (loaded : ofSettings settings = .ok catalog) :
    List.Forall₂ (fun settings entry => CatalogEntry.ofSettings settings = .ok entry)
      settings catalog.entries := by
  obtain ⟨entries, made, catalogEntries⟩ := entries_of_addAll loaded
  rw [catalogEntries]
  exact made

theorem map_ofSettings (loaded : ofSettings settings = .ok catalog) :
    settings.map CatalogEntry.ofSettings = catalog.entries.map .ok := by
  rw [← List.forall₂_eq_eq_eq, List.forall₂_map_left_iff, List.forall₂_map_right_iff]
  exact entries_of_ofSettings loaded

theorem mem_entries_iff (loaded : ofSettings settings = .ok catalog) {entry : CatalogEntry} :
    entry ∈ catalog.entries ↔ ∃ first ∈ settings, CatalogEntry.ofSettings first = .ok entry := by
  rw [← List.mem_map, map_ofSettings loaded]
  exact (List.mem_map_of_injective fun _ _ => Except.ok.inj).symm

end Catalog

end UriExpansion
