import FacetedSearch.Catalog
import FacetedSearch.Request

/-!
# Compiling options

The way from supplied options to a request. The schema of the collection gives their
settings, the contributions of its facets are appended in order, and the controls are copied.
-/

namespace FacetedSearch

/-- The version of the compiler. -/
def version : String := "0.1.0"

/-- The query of the settings of a collection. -/
def Collection.query (collection : Collection) (configuration : Configuration)
    (settings : Settings) : BooleanQuery :=
  .concat (collection.facets.map (·.contribution settings configuration))

/-- The request of the settings of a collection. -/
def Collection.request (collection : Collection) (configuration : Configuration)
    (settings : Settings) : Request where
  collection
  index := configuration.indexName collection
  query := collection.query configuration settings
  controls := .ofSettings settings

/-- The request of a set of supplied options, or why there is none. -/
def compile (configuration : Configuration) (collection : Collection) (options : OptionSet) :
    Except SearchError Request :=
  (collection.schema.settings options).map (collection.request configuration)

end FacetedSearch
