import Mathlib.Data.List.Induction
import UriExpansion.Proofs.Catalog.Loading

/-!
Building a catalog is all or nothing. It succeeds exactly if every template can be read and
no alias occurs twice, and then the catalog holds what the settings tell, in their order.
Otherwise the first settings that cannot be added behind those in front of them decide the
error, and a template that cannot be read comes before an alias that is taken.
-/

namespace UriExpansion

namespace Settings

/-- Whether settings cannot be added behind earlier ones. -/
def Offends (earlier : List Settings) (first : Settings) : Prop :=
  (∃ error, Template.read first.template = .error error) ∨
    first.name ∈ earlier.map Settings.name

/-- The first settings of a list that cannot be added, with those in front of them and
those behind them. -/
structure IsFirstOffence (settings before : List Settings) (first : Settings)
    (after : List Settings) : Prop where
  split : settings = before ++ first :: after
  offends : first.Offends before
  least : ∀ earlier other between, before = earlier ++ other :: between → ¬ other.Offends earlier

/-- The error for settings that cannot be added: that of their template, if it cannot be
read, whatever their alias is. -/
inductive RefusedAs (first : Settings) : CatalogError → Prop
  | invalidTemplate {error : TemplateError} : Template.read first.template = .error error →
      RefusedAs first (.invalidTemplate first.name error)
  | duplicateAlias {template : Template} : Template.read first.template = .ok template →
      RefusedAs first (.duplicateAlias first.name)

/-- What an error says of the settings that it is for, and what is behind it. -/
inductive IsToldOf (first : Settings) (error : CatalogError) : Prop
  | invalidTemplate {cause : TemplateError} : Template.read first.template = .error cause →
      error.message = "Invalid template for alias '" ++ first.name ++ "'" →
      error.causes = [cause.message] → error.templateError? = some cause → IsToldOf first error
  | duplicateAlias {template : Template} : Template.read first.template = .ok template →
      error.message = "Duplicate alias: " ++ first.name →
      error.causes = [] → error.templateError? = none → IsToldOf first error

theorem RefusedAs.isToldOf {first : Settings} {error : CatalogError}
    (refusedAs : first.RefusedAs error) : first.IsToldOf error := by
  cases refusedAs with
  | invalidTemplate notRead => exact .invalidTemplate notRead rfl rfl rfl
  | duplicateAlias isRead => exact .duplicateAlias isRead rfl rfl rfl

/-- Whether all settings of a list can be added one after the other. -/
structure AreSound (settings : List Settings) : Prop where
  readable : ∀ first ∈ settings, ∃ template, Template.read first.template = .ok template
  distinct : (settings.map Settings.name).Nodup

theorem not_offends_iff {earlier : List Settings} {first : Settings} :
    ¬ first.Offends earlier ↔
      (∃ template, Template.read first.template = .ok template) ∧
        first.name ∉ earlier.map Settings.name := by
  cases outcome : Template.read first.template <;> simp [Offends, outcome]

theorem exists_refusedAs (first : Settings) : ∃ error, first.RefusedAs error := by
  cases outcome : Template.read first.template with
  | error cause => exact ⟨_, .invalidTemplate outcome⟩
  | ok template => exact ⟨_, .duplicateAlias outcome⟩

theorem areSound_nil : AreSound [] :=
  ⟨nofun, .nil⟩

theorem areSound_concat_iff {earlier : List Settings} {last : Settings} :
    AreSound (earlier ++ [last]) ↔ AreSound earlier ∧ ¬ last.Offends earlier := by
  rw [not_offends_iff]
  constructor
  · rintro ⟨readable, distinct⟩
    obtain ⟨earlierReadable, lastReadable⟩ := List.forall_mem_append.mp readable
    rw [List.map_append, List.map_singleton, ← List.concat_eq_append, List.nodup_concat]
      at distinct
    exact ⟨⟨earlierReadable, distinct.2⟩, lastReadable last List.mem_cons_self, distinct.1⟩
  · rintro ⟨⟨earlierReadable, distinct⟩, lastReadable, fresh⟩
    refine ⟨List.forall_mem_append.mpr ⟨earlierReadable, ?_⟩, ?_⟩
    · rw [List.forall_mem_singleton]
      exact lastReadable
    · rw [List.map_append, List.map_singleton, ← List.concat_eq_append, List.nodup_concat]
      exact ⟨fresh, distinct⟩

theorem AreSound.perm {settings permuted : List Settings} (sound : AreSound settings)
    (permutation : permuted.Perm settings) : AreSound permuted where
  readable first membership := sound.readable first (permutation.mem_iff.mp membership)
  distinct := (permutation.map Settings.name).nodup_iff.mpr sound.distinct

/-- A list is sound if no place in it offends. -/
theorem areSound_iff {settings : List Settings} :
    AreSound settings ↔
      ∀ before first after, settings = before ++ first :: after → ¬ first.Offends before := by
  induction settings using List.reverseRecOn with
  | nil => simp [areSound_nil]
  | append_singleton earlier last inductionHypothesis =>
      rw [areSound_concat_iff, inductionHypothesis]
      constructor
      · rintro ⟨noneEarlier, notLast⟩ before first after split
        rcases List.eq_nil_or_concat' after with rfl | ⟨start, end', rfl⟩
        · obtain ⟨rfl, same⟩ := List.append_inj' split rfl
          cases same
          exact notLast
        · rw [← List.cons_append, ← List.append_assoc] at split
          exact noneEarlier before first start (List.append_inj_left' split rfl)
      · intro nowhere
        refine ⟨fun before first after split => ?_, nowhere earlier last [] rfl⟩
        apply nowhere before first (after ++ [last])
        rw [split, List.append_assoc, List.cons_append]

theorem isFirstOffence_iff {settings before after : List Settings} {first : Settings} :
    IsFirstOffence settings before first after ↔
      settings = before ++ first :: after ∧ AreSound before ∧ first.Offends before := by
  constructor
  · rintro ⟨split, offends, least⟩
    exact ⟨split, areSound_iff.mpr least, offends⟩
  · rintro ⟨split, sound, offends⟩
    exact ⟨split, offends, areSound_iff.mp sound⟩

end Settings

/-- What an entry takes over from the settings that it is made of. -/
structure CatalogEntry.IsMadeOf (entry : CatalogEntry) (settings : Settings) : Prop where
  name : entry.name = settings.name
  description : entry.description = settings.description
  fallback? : entry.fallback? = settings.fallback?
  defaults : entry.defaults = settings.defaults
  template : Template.read settings.template = .ok entry.template

theorem CatalogEntry.ofSettings_eq_ok_iff {entry : CatalogEntry} {settings : Settings} :
    ofSettings settings = .ok entry ↔ entry.IsMadeOf settings := by
  unfold ofSettings
  cases outcome : Template.read settings.template with
  | error error =>
      refine ⟨nofun, fun made => ?_⟩
      have isRead := made.template
      rw [outcome] at isRead
      cases isRead
  | ok template =>
      constructor
      · rintro ⟨⟩
        exact ⟨rfl, rfl, rfl, rfl, outcome⟩
      · rintro ⟨name, description, fallback?, defaults, isRead⟩
        cases outcome.symm.trans isRead
        cases entry
        simp_all

namespace Catalog

open Settings

variable {catalog : Catalog} {settings earlier : List Settings} {first last : Settings}
  {error : CatalogError}

theorem add_of_taken {template : Template} (isRead : Template.read first.template = .ok template)
    (taken : first.name ∈ catalog.entries.map CatalogEntry.name) :
    catalog.add first = .error (.duplicateAlias first.name) := by
  have known : ¬ catalog.get? first.name = none :=
    fun isNew => (get?_eq_none_iff _ _).mp isNew taken
  simp only [add, CatalogEntry.ofSettings, isRead, dif_neg known]

theorem add_of_fresh {template : Template} (isRead : Template.read first.template = .ok template)
    (fresh : first.name ∉ catalog.entries.map CatalogEntry.name) :
    ∃ extended, catalog.add first = .ok extended := by
  have isNew : catalog.get? first.name = none := (get?_eq_none_iff _ _).mpr fresh
  simp only [add, CatalogEntry.ofSettings, isRead, dif_pos isNew]
  exact ⟨_, rfl⟩

/-- Settings are refused exactly if they offend against those that the catalog is made of. -/
theorem add_eq_error_iff
    (sameNames : catalog.entries.map CatalogEntry.name = earlier.map Settings.name) :
    catalog.add first = .error error ↔ first.Offends earlier ∧ first.RefusedAs error := by
  cases outcome : Template.read first.template with
  | error cause =>
      rw [add_of_faulty outcome]
      constructor
      · rintro ⟨⟩
        exact ⟨.inl ⟨cause, outcome⟩, .invalidTemplate outcome⟩
      · rintro ⟨-, refusedAs⟩
        cases refusedAs with
        | invalidTemplate notRead =>
            cases outcome.symm.trans notRead
            rfl
        | duplicateAlias isRead => cases outcome.symm.trans isRead
  | ok template =>
      by_cases taken : first.name ∈ catalog.entries.map CatalogEntry.name
      · rw [add_of_taken outcome taken]
        constructor
        · rintro ⟨⟩
          exact ⟨.inr (sameNames ▸ taken), .duplicateAlias outcome⟩
        · rintro ⟨-, refusedAs⟩
          cases refusedAs with
          | invalidTemplate notRead => cases outcome.symm.trans notRead
          | duplicateAlias _ => rfl
      · obtain ⟨extended, added⟩ := add_of_fresh outcome taken
        have noOffence : ¬ first.Offends earlier :=
          not_offends_iff.mpr ⟨⟨template, outcome⟩, sameNames ▸ taken⟩
        rw [added]
        exact ⟨nofun, fun refused => absurd refused.1 noOffence⟩

theorem exists_add_iff
    (sameNames : catalog.entries.map CatalogEntry.name = earlier.map Settings.name) :
    (∃ extended, catalog.add first = .ok extended) ↔ ¬ first.Offends earlier := by
  constructor
  · rintro ⟨extended, added⟩ offends
    obtain ⟨error, refusedAs⟩ := first.exists_refusedAs
    rw [(add_eq_error_iff sameNames).mpr ⟨offends, refusedAs⟩] at added
    cases added
  · intro noOffence
    obtain ⟨⟨template, isRead⟩, fresh⟩ := not_offends_iff.mp noOffence
    exact add_of_fresh isRead (sameNames ▸ fresh)

theorem map_name_entries (loaded : ofSettings settings = .ok catalog) :
    catalog.entries.map CatalogEntry.name = settings.map Settings.name := by
  rw [eq_comm, ← List.forall₂_eq_eq_eq, List.forall₂_map_left_iff, List.forall₂_map_right_iff]
  exact (entries_of_ofSettings loaded).imp fun _ _ made =>
    (CatalogEntry.ofSettings_eq_ok_iff.mp made).name.symm

theorem ofSettings_concat (earlier : List Settings) (last : Settings) :
    ofSettings (earlier ++ [last]) = (ofSettings earlier).bind (·.add last) := by
  rw [ofSettings, addAll_append]
  cases outcome : empty.addAll earlier with
  | error error => simp [ofSettings, outcome, Except.bind]
  | ok catalog =>
      simp only [ofSettings, outcome, Except.bind, addAll]
      cases catalog.add last <;> rfl

/-- All settings are added if none of them offends. -/
theorem exists_ofSettings_iff :
    (∃ catalog, ofSettings settings = .ok catalog) ↔ AreSound settings := by
  induction settings using List.reverseRecOn with
  | nil => exact ⟨fun _ => areSound_nil, fun _ => ⟨empty, rfl⟩⟩
  | append_singleton earlier last inductionHypothesis =>
      rw [areSound_concat_iff, ← inductionHypothesis, ofSettings_concat]
      cases outcome : ofSettings earlier with
      | error error => simp [Except.bind]
      | ok catalog =>
          have added : (∃ extended, catalog.add last = .ok extended) ↔ ¬ last.Offends earlier :=
            exists_add_iff (map_name_entries outcome)
          simpa [Except.bind] using added

/-- The first settings that offend decide the error. -/
theorem ofSettings_eq_error_iff :
    ofSettings settings = .error error ↔
      ∃ before first after, IsFirstOffence settings before first after ∧
        first.RefusedAs error := by
  constructor
  · induction settings using List.reverseRecOn with
    | nil => exact nofun
    | append_singleton earlier last inductionHypothesis =>
        intro refused
        rw [ofSettings_concat] at refused
        cases outcome : ofSettings earlier with
        | error other =>
            rw [outcome] at refused inductionHypothesis
            obtain ⟨before, first, after, offence, refusedAs⟩ := inductionHypothesis refused
            obtain ⟨split, sound, offends⟩ := isFirstOffence_iff.mp offence
            refine ⟨before, first, after ++ [last], isFirstOffence_iff.mpr ⟨?_, sound, offends⟩,
              refusedAs⟩
            rw [split, List.append_assoc, List.cons_append]
        | ok catalog =>
            rw [outcome] at refused
            obtain ⟨offends, refusedAs⟩ := (add_eq_error_iff (map_name_entries outcome)).mp refused
            have sound := exists_ofSettings_iff.mp ⟨catalog, outcome⟩
            exact ⟨earlier, last, [], isFirstOffence_iff.mpr ⟨rfl, sound, offends⟩, refusedAs⟩
  · rintro ⟨before, first, after, offence, refusedAs⟩
    obtain ⟨rfl, sound, offends⟩ := isFirstOffence_iff.mp offence
    obtain ⟨catalog, loaded⟩ := exists_ofSettings_iff.mpr sound
    have refused := (add_eq_error_iff (map_name_entries loaded)).mpr ⟨offends, refusedAs⟩
    rw [ofSettings] at loaded
    simp only [ofSettings, addAll_append, loaded, Except.bind, addAll, refused]

/-- What a catalog that is made of settings tells of them. -/
structure IsMadeOf (catalog : Catalog) (settings : List Settings) : Prop where
  size : catalog.size = settings.length
  entries : List.Forall₂ (fun settings entry => CatalogEntry.IsMadeOf entry settings)
    settings catalog.entries
  found : ∀ name entry, catalog.get? name = some entry ↔
    entry ∈ catalog.entries ∧ entry.name = name
  notFound : ∀ name, catalog.get? name = none ↔ name ∉ settings.map Settings.name

theorem isMadeOf_of_ofSettings (loaded : ofSettings settings = .ok catalog) :
    catalog.IsMadeOf settings where
  size := (entries_of_ofSettings loaded).length_eq.symm
  entries := (entries_of_ofSettings loaded).imp fun _ _ =>
    CatalogEntry.ofSettings_eq_ok_iff.mp
  found _ _ := get?_eq_some_iff
  notFound name := by rw [get?_eq_none_iff, map_name_entries loaded]

/-- The order of the settings does not show in what is found under an alias. -/
theorem get?_of_perm {permuted : List Settings} (permutation : permuted.Perm settings)
    (loaded : ofSettings settings = .ok catalog) :
    ∃ other, ofSettings permuted = .ok other ∧ ∀ name, other.get? name = catalog.get? name := by
  have sound := (exists_ofSettings_iff.mp ⟨catalog, loaded⟩).perm permutation
  obtain ⟨other, otherLoaded⟩ := exists_ofSettings_iff.mpr sound
  refine ⟨other, otherLoaded, fun name => Option.ext fun entry => ?_⟩
  rw [get?_eq_some_iff, get?_eq_some_iff, mem_entries_iff otherLoaded, mem_entries_iff loaded]
  simp only [permutation.mem_iff]

/-- Settings make a catalog exactly if all of them can be added. The catalog keeps them in
their order and finds each under its alias, in whatever order they come; otherwise the first
settings that cannot be added decide the error, by their template if it cannot be read. -/
theorem ofSettings_all_or_nothing (settings : List Settings) :
    ((∃ catalog, ofSettings settings = .ok catalog) ↔ AreSound settings) ∧
    (∀ catalog, ofSettings settings = .ok catalog → catalog.IsMadeOf settings ∧
      ∀ permuted : List Settings, permuted.Perm settings →
        ∃ other, ofSettings permuted = .ok other ∧
          ∀ name, other.get? name = catalog.get? name) ∧
    (∀ error, ofSettings settings = .error error ↔
      ∃ before first after, IsFirstOffence settings before first after ∧
        first.RefusedAs error) ∧
    ∀ (first : Settings) (error : CatalogError), first.RefusedAs error → first.IsToldOf error :=
  ⟨exists_ofSettings_iff,
    fun _ loaded => ⟨isMadeOf_of_ofSettings loaded, fun _ permutation =>
      get?_of_perm permutation loaded⟩,
    fun _ => ofSettings_eq_error_iff, fun _ _ => RefusedAs.isToldOf⟩

/-- Two aliases in both orders, and a text that is no template under an alias that is taken. -/
theorem ofSettings_all_or_nothing_both_faults :
    (∃ catalog other,
      ofSettings [⟨"a", "", "/\x7bx\x7d", none, .empty⟩, ⟨"b", "", "", none, .empty⟩] =
        .ok catalog ∧
      ofSettings [⟨"b", "", "", none, .empty⟩, ⟨"a", "", "/\x7bx\x7d", none, .empty⟩] =
        .ok other ∧
      catalog.size = 2 ∧ other.get? "a" = catalog.get? "a") ∧
    ofSettings [⟨"a", "", "/\x7bx\x7d", none, .empty⟩, ⟨"a", "", "\x7b", none, .empty⟩,
      ⟨"a", "", "", none, .empty⟩] = .error (.invalidTemplate "a" ⟨0, "\x7b", .unterminated⟩) := by
  have readX : Template.read "/\x7bx\x7d" = .ok ⟨[.literal "/", .expression ⟨.simple,
      [⟨"x", .plain⟩], List.cons_ne_nil _ _⟩]⟩ := by decide
  have readEmpty : Template.read "" = .ok ⟨[]⟩ := by decide
  have unterminated : Template.read "\x7b" = .error ⟨0, "\x7b", .unterminated⟩ := by
    decide
  constructor
  · have both : AreSound [⟨"a", "", "/\x7bx\x7d", none, .empty⟩, ⟨"b", "", "", none, .empty⟩] :=
      ⟨by simp [readX, readEmpty], by decide⟩
    obtain ⟨loads, keeps, -, -⟩ := ofSettings_all_or_nothing _
    obtain ⟨catalog, loaded⟩ := loads.mpr both
    obtain ⟨made, permutable⟩ := keeps catalog loaded
    obtain ⟨other, otherLoaded, sameFound⟩ := permutable _ (List.Perm.swap _ _ _)
    exact ⟨catalog, other, loaded, otherLoaded, made.size, sameFound "a"⟩
  · obtain ⟨-, -, refused, -⟩ := ofSettings_all_or_nothing _
    refine (refused _).mpr ⟨[⟨"a", "", "/\x7bx\x7d", none, .empty⟩],
      ⟨"a", "", "\x7b", none, .empty⟩, [⟨"a", "", "", none, .empty⟩], ?_,
      .invalidTemplate unterminated⟩
    exact isFirstOffence_iff.mpr
      ⟨rfl, ⟨by simp [readX], by decide⟩, .inl ⟨_, unterminated⟩⟩

end Catalog

end UriExpansion
