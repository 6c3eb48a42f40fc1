import UriExpansion.Catalog.Settings
import UriExpansion.Template.Reading

/-!
Catalogs of templates. Every entry has a template that could be read and an alias of its
own, and the entries keep the order of the settings that they are made of.
-/

namespace UriExpansion

/-- A template with its alias and what a request may leave to it. -/
structure CatalogEntry where
  name : String
  description : String
  template : Template
  fallback? : Option String
  defaults : Variables
  deriving DecidableEq, Repr

structure Catalog where
  entries : List CatalogEntry
  distinct : (entries.map CatalogEntry.name).Nodup
  deriving DecidableEq, Repr

inductive CatalogError where
  | invalidTemplate (name : String) (error : TemplateError)
  | duplicateAlias (name : String)
  | invalidYaml
  | unreadable (path reason : String)
  /-- The file at a path was read but makes no catalog. -/
  | notLoaded (path : String) (error : CatalogError)
  deriving DecidableEq, Repr

namespace CatalogError

def message : CatalogError → String
  | invalidTemplate name _ => "Invalid template for alias '" ++ name ++ "'"
  | duplicateAlias name => "Duplicate alias: " ++ name
  | invalidYaml => "Invalid yaml configuration"
  | unreadable path _ => "Could not read template catalog '" ++ path ++ "'"
  | notLoaded path _ => "Could not load template catalog '" ++ path ++ "'"

/-- The messages of what is behind an error, the nearest one first. The reason why a
file cannot be read is not among them. -/
def causes : CatalogError → List String
  | invalidTemplate _ error => [error.message]
  | notLoaded _ error => error.message :: error.causes
  | _ => []

/-- Why a file cannot be read. -/
def reason? : CatalogError → Option String
  | unreadable _ reason => some reason
  | _ => none

/-- The template error that is behind all others. -/
def templateError? : CatalogError → Option TemplateError
  | invalidTemplate _ error => some error
  | notLoaded _ error => error.templateError?
  | _ => none

end CatalogError

/-- The entry for settings whose template can be read. -/
def CatalogEntry.ofSettings (settings : Settings) : Except CatalogError CatalogEntry :=
  match Template.read settings.template with
  | .error error => .error (.invalidTemplate settings.name error)
  | .ok template =>
      .ok {
        name := settings.name
        description := settings.description
        template
        fallback? := settings.fallback?
        defaults := settings.defaults }

namespace Catalog

def empty : Catalog :=
  ⟨[], .nil⟩

def get? (catalog : Catalog) (name : String) : Option CatalogEntry :=
  catalog.entries.find? (·.name = name)

def size (catalog : Catalog) : Nat :=
  catalog.entries.length

def isEmpty (catalog : Catalog) : Bool :=
  catalog.entries.isEmpty

theorem get?_eq_none_iff (catalog : Catalog) (name : String) :
    catalog.get? name = none ↔ name ∉ catalog.entries.map CatalogEntry.name := by
  simp [get?, List.find?_eq_none]

def push (catalog : Catalog) (entry : CatalogEntry) (isNew : catalog.get? entry.name = none) :
    Catalog where
  entries := catalog.entries ++ [entry]
  distinct := by
    rw [List.map_append, List.nodup_append]
    refine ⟨catalog.distinct, by simp, fun name earlier other last => ?_⟩
    rw [List.map_cons, List.map_nil, List.mem_singleton] at last
    exact fun same =>
      (get?_eq_none_iff catalog entry.name).mp isNew (last ▸ same ▸ earlier)

def add (catalog : Catalog) (settings : Settings) : Except CatalogError Catalog :=
  match CatalogEntry.ofSettings settings with
  | .error error => .error error
  | .ok entry =>
      if isNew : catalog.get? entry.name = none then .ok (catalog.push entry isNew)
      else .error (.duplicateAlias entry.name)

def addAll (catalog : Catalog) : List Settings → Except CatalogError Catalog
  | [] => .ok catalog
  | settings :: rest =>
      match catalog.add settings with
      | .error error => .error error
      | .ok extended => extended.addAll rest

def ofSettings (settings : List Settings) : Except CatalogError Catalog :=
  empty.addAll settings

end Catalog

end UriExpansion
