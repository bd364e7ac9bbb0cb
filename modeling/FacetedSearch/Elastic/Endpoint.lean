import FacetedSearch.Failure
import FacetedSearch.Json.Literal
import FacetedSearch.Settings

/-!
# `FacetedSearch.Elastic.Endpoint`: where Elasticsearch answers

A deployment is read from a text. The address of its engine is the
configured one without the slashes at its end. Without a configured
address there is no engine to ask.
-/

set_option autoImplicit false

namespace FacetedSearch

/-- An address without the slashes at its end. -/
def trimSlashes (url : String) : String :=
  String.ofList (url.toList.reverse.dropWhile (· = '/')).reverse

namespace Deployment

/-- Reads a deployment from a JSON value. -/
def ofJson? (j : Json) : Option Deployment := do
  let standard : Deployment := {}
  let ms ← j.record? ["elastic_url", "request_timeout_ms", "default_index", "compiler"] 0
  return {
    engineUrl := ← Json.optional? ms "elastic_url" (Json.nullable? Json.string?) none
    requestTimeout :=
      ← Json.optional? ms "request_timeout_ms" Json.uint64? standard.requestTimeout
    defaultIndex := ← Json.optional? ms "default_index" Json.string? standard.defaultIndex
    settings := ← Json.optional? ms "compiler" Settings.ofJson? standard.settings }

/-- The members of a deployment that a text may give once. -/
def shape : Json.Shape :=
  .record [("elastic_url", .any), ("request_timeout_ms", .any), ("default_index", .any),
    ("compiler", .record [("free_text_fields", .any), ("exclusion_field", .any),
      ("facet_agg_suffix", .any), ("facet_size", .any)])]

/-- Reads a deployment from a JSON text. -/
def parse? (s : String) : Option Deployment := (Json.parseFor? shape s).bind ofJson?

/-- The address of the engine. -/
def engineAddress (d : Deployment) : Except Failure String :=
  match d.engineUrl with
  | some url => .ok (trimSlashes url)
  | none => .error (.unavailable "no elastic_url configured")

end Deployment

end FacetedSearch
