import UriExpansion.Catalog.Basic
import UriExpansion.Catalog.YamlForm

/-!
Catalogs from YAML texts and from files.
-/

namespace UriExpansion.Catalog

def ofYaml (text : String) : Except CatalogError Catalog :=
  match Settings.listOfYaml? text with
  | none => .error .invalidYaml
  | some settings => ofSettings settings

/-- The file that holds the catalog if no other is named. -/
def defaultPath : String :=
  "templates.yml"

/-- The catalog in the file at a path, of which the content is given or the reason why it
cannot be read. -/
def ofFile (path : String) (content : Except String String) : Except CatalogError Catalog :=
  match content with
  | .error reason => .error (.unreadable path reason)
  | .ok content =>
      match ofYaml content with
      | .error error => .error (.notLoaded path error)
      | .ok catalog => .ok catalog

end UriExpansion.Catalog
