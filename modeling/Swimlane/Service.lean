import Swimlane.Document.Payload
import Swimlane.Json.Reader
import Swimlane.Service.Address
import Swimlane.Service.Body
import Swimlane.Service.Outline
import Swimlane.Service.State
import Swimlane.Settings.Basic

/-!
# The service

A service answers requests about one session. What a request asks for is told by its method and
path, and the text that it is about comes as a member of a JSON object. The text may be torn. Then it
is taken like any other, but nothing can be sent that has one of its halves in it.

- `Service.Request`, `Service.Response`: what comes in and goes out.
- `Service.Site`: what a service is set up with.
- `Service.Call`: a request that was understood, and `Service.Request.call`.
- `Service.Breakdown`: why there is no response at all.
- `Service.answer`: what comes of a call, with the state after it.
- `Service.respond`, `Service.run`: the same for a request and for a sequence of requests.
- `Settings.site`, `Settings.state`: the service that settings ask for, and its first state.
-/

namespace Swimlane

namespace Service

/-- A request; one without a body has an empty one. -/
structure Request where
  method : String
  target : String
  contentType : String
  body : List UInt8
  deriving DecidableEq, Repr

/-- A response. -/
structure Response where
  status : Nat
  body : Json

/-- What a service is set up with. -/
structure Site where
  title : Text.Raw
  layout : Layout Float

/-- A request that was understood. -/
inductive Call where
  | outline
  | describe
  | parse (text : Text.Raw)
  | draw (text : Text.Raw)
  | current
  | edit (text : Text.Raw)
  | dismiss
  deriving DecidableEq, Repr

/-- A call of an endpoint about a text. -/
def Endpoint.call (text : Text.Raw) : Endpoint → Call
  | describe => .describe
  | parse => .parse text
  | draw => .draw text
  | current => .current
  | edit => .edit text
  | dismiss => .dismiss

/-- Why a request does not call for data. A body is refused with the value that is wrong, if any. -/
inductive Refusal where
  | noSuchPath
  | otherMethod
  | page
  | unreadableBody
  | badBody (issues : List Issue) (wrong : Json.Raw)

/-- Why there is no response at all, or none that holds data. Halves of characters break down data
and what is told about a request in different ways. -/
inductive Breakdown where
  | address (fault : Address.Fault)
  | noBody
  | page
  | notFinite
  | torn
  | tornDetail (halves : Text.Halves)
  deriving DecidableEq, Repr

/-- The wording of a breakdown. -/
def Breakdown.message : Breakdown → String
  | address fault => fault.message
  | noBody => "Expecting value: line 1 column 1 (char 0)"
  | page => "Expecting value: line 2 column 5 (char 5)"
  | notFinite => "Out of range float values are not JSON compliant"
  | torn => "str is not valid UTF-8: surrogates not allowed"
  | tornDetail halves => halves.message

/-- Whether a type of content is JSON. -/
def isJson (contentType : String) : Bool :=
  let kind := Text.lower (Text.trim (contentType.toList.takeWhile (· ≠ ';')))
  let subtype := (kind.dropWhile (· ≠ '/')).drop 1
  kind.takeWhile (· ≠ '/') = "application".toList && !subtype.contains '/' &&
    (subtype = "json".toList || "+json".toList.isSuffixOf subtype)

/-- The value in a body, none if there is no body. A body that is not sent as JSON is no object. -/
def bodyValue (r : Request) : Except Refusal (Option Json.Raw) :=
  if r.body.isEmpty then .ok none
  else if !isJson r.contentType then .ok (some (.text (.whole "")))
  else
    match bodyText? r.body with
    | none => .error .unreadableBody
    | some text =>
      match Json.read text with
      | .ok v => .ok (some v)
      | .error e =>
        if e.fault.isLimit then .error .unreadableBody
        else .error (.badBody [⟨.notJson, [.key "body", .index (e.offset text)]⟩] .null)

/-- The text in a body, which is empty if the body does not name one. -/
def namedText : Option Json.Raw → Checked Text.Raw
  | none => .good (.whole "")
  | some (.text text) => .good text
  | some _ => .fault .notString

/-- The text that a request is about. -/
def textOf (r : Request) : Except Refusal Text.Raw := do
  let v ← bodyValue r
  let (found, wrong) : Checked Text.Raw × Json.Raw := match v with
    | none => (.fault .missing, .null)
    | some (.obj m) =>
      let named := Json.Raw.field? m "text"
      ((namedText named).under (.key "text"), named.getD .null)
    | some v => (.fault .noAttributes, v)
  match found.under (.key "body") with
  | .good text => .ok text
  | .bad issues => .error (.badBody issues wrong)

/-- What a request calls for by a route. A page is no call. -/
def Call.ofRequest (route : Route) (r : Request) : Except Refusal Call :=
  if route.method ≠ r.method then .error .otherMethod
  else
    match route with
    | .outline => .ok .outline
    | .page => .error .page
    | .endpoint e => if e.takesText then (textOf r).map e.call else .ok (e.call (.whole ""))

/-- A response with a detail. -/
def detail (status : Nat) (v : Json) : Response := ⟨status, .obj [("detail", v)]⟩

/-- A step to a part of a value, as it is told. -/
def stepReport : PathStep → Json.Raw
  | .key name => .text (.whole name)
  | .index i => .int i

/-- An issue with the value that is wrong, as it is told. -/
def issueReport (wrong : Json.Raw) (i : Issue) : Json.Raw :=
  .obj [(.whole "type", .text (.whole i.fault.code)), (.whole "loc", .arr (i.path.map stepReport)),
    (.whole "msg", .text (.whole i.fault.message)), (.whole "input", wrong)]

/-- What keeps a text on one line from being written as bytes, if there is a half in it. -/
def tornDetail? (v : Json.Raw) : Option Breakdown :=
  (Text.firstHalves? (v.pieces Json.named)).map .tornDetail

/-- The response to a request that does not call for data. One that would have to tell a double that
is not finite, or a half of a character, cannot be sent. -/
def Refusal.response : Refusal → Except Breakdown Response
  | noSuchPath => .ok (detail 404 (.str "Not Found"))
  | otherMethod => .ok (detail 405 (.str "Method Not Allowed"))
  | page => .error .page
  | unreadableBody => .ok (detail 400 (.str "There was an error parsing the body"))
  | badBody issues wrong =>
    if !wrong.isFinite then .error .notFinite
    else
      match tornDetail? (.obj [(.whole "detail", .arr (issues.map (issueReport wrong)))]) with
      | some breakdown => .error breakdown
      | none => .ok (detail 422 (.arr (issues.map Issue.payload)))

/-- The description of the notation. -/
def description : Json :=
  .obj [("keywords", .strings (Notation.Keyword.all.map Notation.Keyword.text)),
    ("comment_prefix", .str (String.ofList [Notation.commentMark])),
    ("task_markers", .strings Notation.taskMarkers),
    ("arrows", .obj (Notation.Arrow.all.map fun a =>
      (String.ofList a.text, .str a.kind.name))),
    ("line_styles", .obj (ConnectionKind.all.map fun k => (k.name, .str k.lineStyle)))]

/-- A document as JSON, with the identifiers that are declared more than once. -/
def documentBody (d : Document) : Json :=
  .obj (d.members ++ [("duplicate_element_ids", .strings d.duplicateIds)])

/-- A good response. Doubles that are not finite cannot be sent, and are null. -/
def good (v : Json) : Response := ⟨200, v.finite⟩

/-- What comes of sending a value. It breaks down if there is a half of a character in it. -/
def send (isTorn : Bool) (v : Json) : Except Breakdown Response :=
  if isTorn then .error .torn else .ok (good v)

/-- What comes of sending the outline of a service with a title. -/
def sendOutline (title : Text.Raw) : Except Breakdown Response :=
  match tornDetail? (outlineFront title) with
  | some breakdown => .error breakdown
  | none => .ok (good (outline title.written))

/-- What comes of showing the session. -/
def State.shown (s : State) : Except Breakdown Response := send s.isTorn s.session.payload

/-- What comes of a call, and the state after it. A text that was taken stays even if the session
cannot be shown. -/
def answer (site : Site) (s : State) : Call → Except Breakdown Response × State
  | .outline => (sendOutline site.title, s)
  | .describe => (.ok (good description), s)
  | .parse text =>
    let body := documentBody (Notation.read text)
    (send (text.tears body) body, s)
  | .draw text =>
    match site.layout.draw text with
    | .ok d => (send (text.tears d.payload) d.payload, s)
    | .error e => (.ok (detail 422 (.str e.message)), s)
  | .current => (s.shown, s)
  | .edit text => let s := s.update site.layout text; (s.shown, s)
  | .dismiss => let s := s.dismiss; (s.shown, s)

/-- What a request calls for, or why it calls for no data. -/
def Request.call (r : Request) (path : String) : Except Refusal Call :=
  match Route.find? path with
  | none => .error .noSuchPath
  | some route => Call.ofRequest route r

/-- What comes of a request, and the state after it. -/
def respond (site : Site) (s : State) (r : Request) : Except Breakdown Response × State :=
  match pathOf r.target with
  | .error fault => (.error (.address fault), s)
  | .ok path =>
    if r.method = "HEAD" then (.error .noBody, s)
    else
      match r.call path with
      | .ok call => answer site s call
      | .error refusal => (refusal.response, s)

/-- What comes of a sequence of requests, and the state after them. A request that breaks down does
not stop the service. -/
def run (site : Site) (s : State) : List Request → List (Except Breakdown Response) × State
  | [] => ([], s)
  | r :: rest =>
    let (outcome, s) := respond site s r
    let (outcomes, s) := run site s rest
    (outcome :: outcomes, s)

end Service

namespace Settings

/-- The service that settings ask for. -/
def site (settings : Settings Float) (solver : Layered.Config Float → Solver Float) :
    Service.Site :=
  ⟨settings.presentation.title, settings.layout solver⟩

/-- The first state of a service: the initial text, if there is one, is taken at once. -/
def state (settings : Settings Float) (layout : Layout Float) : Service.State :=
  let text := settings.presentation.initialSource
  if text.isEmpty then .fresh else .update layout .fresh text

end Settings

end Swimlane
