import Swimlane.Json.Raw
import Swimlane.Service.Endpoint

/-!
# The outline of the service

A description of all endpoints for a program that wants to use them, in the form of OpenAPI.

- `Service.Endpoint.outline`: the description of one endpoint.
- `Service.outline`: the whole description of a service with a title, and `Service.outlineFront` for
  its front.
-/

namespace Swimlane.Service

/-- The words that an endpoint is named by. -/
def Endpoint.words : Endpoint → List String
  | describe => ["api", "syntax"]
  | parse => ["api", "parse"]
  | draw => ["api", "diagram"]
  | current => ["api", "session"]
  | edit => ["api", "session", "source"]
  | dismiss => ["api", "session", "dismiss", "error"]

/-- A name that differs from those of all other endpoints: its words, its path and its method. -/
def Endpoint.uniqueName (e : Endpoint) : String :=
  let path := e.path.map fun c => if c = '/' then '_' else c
  String.intercalate "_" e.words ++ path ++ "_" ++ e.method.map Char.toLower

/-- An object with one member. -/
def single (key : String) (v : Json) : Json := .obj [(key, v)]

/-- A mention of a type of data. -/
def mention (name : String) : Json := single "$ref" (.str ("#/components/schemas/" ++ name))

/-- Data of a type that is sent as JSON. -/
def content (type : Json) : Json := single "application/json" (single "schema" type)

/-- A response with data of a type. -/
def outlineOfResponse (description : String) (type : Json) : Json :=
  .obj [("description", .str description), ("content", content type)]

/-- The description of an endpoint. -/
def Endpoint.outline (e : Endpoint) : Json :=
  let good := ("200", outlineOfResponse "Successful Response" (.obj []))
  let refused := ("422", outlineOfResponse "Validation Error" (mention "HTTPValidationError"))
  .obj ([("summary", .str (String.intercalate " " (e.words.map String.capitalize))),
    ("operationId", .str e.uniqueName),
    ("responses", .obj (if e.takesText then [good, refused] else [good]))] ++
    if e.takesText then
      [("requestBody", .obj [("content", content (mention "SourcePayload")),
        ("required", .bool true)])]
    else [])

/-- A type of data, with a title. -/
def type (name title : String) (more : List (String × Json)) : Json :=
  .obj ([("type", .str name), ("title", .str title)] ++ more)

/-- A list of items, with a title. -/
def listType (title : String) (items : Json) : Json := type "array" title [("items", items)]

/-- The types of data that the endpoints mention. -/
def types : List (String × Json) :=
  [("HTTPValidationError", type "object" "HTTPValidationError"
      [("properties", single "detail" (listType "Detail" (mention "ValidationError")))]),
    ("SourcePayload", type "object" "SourcePayload"
      [("properties", single "text" (type "string" "Text" [("default", .str "")]))]),
    ("ValidationError", type "object" "ValidationError"
      [("properties", .obj [
          ("loc", listType "Location" (single "anyOf" (.arr [
            single "type" (.str "string"), single "type" (.str "integer")]))),
          ("msg", type "string" "Message" []),
          ("type", type "string" "Error Type" [])]),
        ("required", .strings ["loc", "msg", "type"])])]

/-- The version of the form of a description. -/
def outlineForm : String := "3.1.0"

/-- What stands in front of a description, up to the title. -/
def outlineFront (title : Text.Raw) : Json.Raw :=
  .obj [(.whole "openapi", .text (.whole outlineForm)),
    (.whole "info", .obj [(.whole "title", .text title)])]

/-- The description of a service with a title. -/
def outline (title : String) : Json :=
  .obj [("openapi", .str outlineForm),
    ("info", .obj [("title", .str title), ("version", .str "0.1.0")]),
    ("paths", .obj (Endpoint.all.map fun e =>
      (e.path, single (String.map Char.toLower e.method) e.outline))),
    ("components", single "schemas" (.obj types))]

end Swimlane.Service
