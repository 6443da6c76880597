import ServiceHealth.Api.MediaType
import ServiceHealth.Fleet.Basic
import ServiceHealth.Meter.Page
import ServiceHealth.Net.Uri
import ServiceHealth.Probe.Header
import ServiceHealth.Text.Pieces
import ServiceHealth.Text.Utf8
import ServiceHealth.Wire.Health

/-!
# The HTTP interface

Readers ask for reports, records and metrics; instances register, change their metadata and leave.
An answer in JSON says whether the request succeeded and carries either data or an error text.

The path selects a resource and the method what is done with it. A path without a resource is
answered 404, a resource that does not know the method 405; both without a body. `HEAD` is answered
like `GET`, without the body.
-/
namespace ServiceHealth.Api

structure Request where
  method : String
  uri : String
  contentType : Option String
  body : List UInt8

/-- The body of an answer. -/
inductive Body where
  | empty
  | json (v : Json)
  | text (s : String)

structure Response where
  status : Nat
  contentType : Option String
  allow : Option String
  body : Body

namespace Response

def ofJson (status : Nat) (v : Json) : Response := ⟨status, some "application/json", none, .json v⟩

/-- A success with data. -/
def ofData (status : Nat) (data : Json) : Response :=
  ofJson status (.ofMembers [("success", .bool true), ("data", data)])

def ofError (status : Nat) (text : String) : Response :=
  ofJson status (.ofMembers [("success", .bool false), ("error", .ofText text)])

/-- The path leads nowhere. -/
def noResource : Response := ⟨404, none, none, .empty⟩

/-- The resource knows other methods. -/
def otherMethod (allow : String) : Response := ⟨405, none, some allow, .empty⟩

def ofPage (page : String) : Response :=
  ⟨200, some "text/plain; version=0.0.4", none, .text page⟩

/-- A part of the path is not well-formed. -/
def illFormed (part : String) : Response :=
  ⟨400, some "text/plain; charset=utf-8", none,
    .text ("Invalid URL: Invalid UTF-8 in " ++ Json.ticked part)⟩

def withoutBody (r : Response) : Response := { r with body := .empty }

def isSuccess (r : Response) : Bool := 200 ≤ r.status && r.status < 300

end Response

/-- Why a body is refused. -/
inductive BodyFault where
  | notJson
  | tooLong
  | undecoded (fault : Json.Fault)

def BodyFault.message : BodyFault → String
  | .notJson => "Expected request with `Content-Type: application/json`"
  | .tooLong => "Failed to buffer the request body: length limit exceeded"
  | .undecoded .malformed => "Failed to parse the request body as JSON"
  | .undecoded (.content path cause) =>
      "Failed to deserialize the JSON body into the target type: " ++
        (if path.isEmpty then "" else Json.pathText path ++ ": ") ++ cause.message

/-- The longest body, in bytes. -/
def maxBodyLength : Nat := 2 * 1024 * 1024

/-- The value that the body of a request begins with. -/
def Request.decodeBody {α : Type} (r : Request) (d : Json.Decoder α) : Except BodyFault α :=
  if !(r.contentType.map MediaType.isJson).getD false then .error .notJson
  else if maxBodyLength < r.body.length then .error .tooLong
  else (Json.decodeFirst d (Text.decodeUtf8 r.body)).mapError .undecoded

/-- What a path leads to. The parts of a path that name something are not decoded yet. -/
inductive Resource where
  | status
  | serviceStatus (name : List Char)
  | instances
  | record (id : List Char)
  | recordMetadata (id : List Char)
  | deregistration (id : List Char)
  | report (id : List Char)
  | services
  | serviceInstances (name : List Char)
  | healthyInstances (name : List Char)
  | serviceMetadata (name : List Char)
  | metrics
  deriving DecidableEq

def segments (path : List Char) : List (List Char) := Text.pieces (· = '/') path

/-- The resource of a path. A name at the end may not be empty, one in the middle may. -/
def Resource.ofPath? (path : List Char) : Option Resource :=
  match segments path with
  | [] :: rest =>
      match rest.map String.ofList, rest with
      | ["status"], _ => some .status
      | ["status", _], [_, name] => if name.isEmpty then none else some (.serviceStatus name)
      | ["instances"], _ => some .instances
      | ["instances", _], [_, id] => if id.isEmpty then none else some (.record id)
      | ["instances", _, "metadata"], [_, id, _] => some (.recordMetadata id)
      | ["instances", _, "deregister"], [_, id, _] => some (.deregistration id)
      | ["reports", _], [_, id] => if id.isEmpty then none else some (.report id)
      | ["services"], _ => some .services
      | ["services", _, "instances"], [_, name, _] => some (.serviceInstances name)
      | ["services", _, "instances", "healthy"], [_, name, _, _] => some (.healthyInstances name)
      | ["services", _, "metadata"], [_, name, _] => some (.serviceMetadata name)
      | ["metrics"], _ => some .metrics
      | _, _ => none
  | _ => none

/-- What a resource can be asked for. -/
inductive Method where
  | get
  | post
  | put
  | delete
  deriving DecidableEq, Repr

def Resource.method : Resource → Method
  | .instances | .deregistration _ => .post
  | .recordMetadata _ => .put
  | .report _ => .delete
  | _ => .get

def Method.names : Method → List String
  | .get => ["GET", "HEAD"]
  | .post => ["POST"]
  | .put => ["PUT"]
  | .delete => ["DELETE"]

/-- An answer together with the fleet after it. -/
abbrev Handled := Response × Fleet

/-- Decodes the id in a path. -/
def withId (id : List Char) (f : Fleet) (handle : String → Handled) : Handled :=
  match Text.percentDecode? id with
  | some id => handle id
  | none => (.illFormed "service_id", f)

/-- Decodes the service name in a path. -/
def withName (name : List Char) (f : Fleet) (data : String → Json) : Handled :=
  match Text.percentDecode? name with
  | some name => (.ofData 200 (data name), f)
  | none => (.illFormed "service_name", f)

/-- Answers a failed call. Lookups that found nothing are counted. -/
def failure (resource : String) (e : Error) (f : Fleet) : Handled :=
  if e.isNotFound then (.ofError 404 e.message, f.meter (·.recordNotFound resource))
  else (.ofError 400 e.message, f)

def recordAnswer (status : Nat) (result : Except Error Instance × Fleet) : Handled :=
  match result with
  | (.ok i, f) => (.ofData status i.toJson, f)
  | (.error e, f) => failure "instance" e f

def reportAnswer (result : Except Error Report × Fleet) : Handled :=
  match result with
  | (.ok r, f) => (.ofData 200 r.toJson, f)
  | (.error e, f) => failure "report" e f

def listJson {α : Type} (encode : α → Json) (xs : List α) : Json := .array (xs.map encode)

/-- Carries out what a resource is there for. -/
def serve (now : Timestamp) (request : Request) (f : Fleet) : Resource → Handled
  | .status => (.ofData 200 (listJson Report.toJson f.board.all), f)
  | .serviceStatus name => withName name f fun n => listJson Report.toJson (f.board.ofService n)
  | .instances =>
      match request.decodeBody Registration.decoder with
      | .ok r => recordAnswer 201 (f.register now r)
      | .error fault => (.ofError 400 fault.message, f)
  | .record id => withId id f fun id => recordAnswer 200 (f.catalog.get id, f)
  | .recordMetadata id =>
      withId id f fun id =>
        match request.decodeBody Metadata.decoder with
        | .ok m => recordAnswer 200 (f.updateMetadata id m.toList)
        | .error fault => (.ofError 400 fault.message, f)
  | .deregistration id => withId id f fun id => recordAnswer 200 (f.deregister now id)
  | .report id => withId id f fun id => reportAnswer (f.purge id)
  | .services => (.ofData 200 (listJson Json.ofText f.catalog.serviceNames), f)
  | .serviceInstances name =>
      withName name f fun n => listJson Instance.toJson (f.catalog.ofService n)
  | .healthyInstances name =>
      withName name f fun n => listJson Instance.toJson (f.healthyInstances n)
  | .serviceMetadata name => withName name f fun n => (f.catalog.summary now n).toJson
  | .metrics =>
      match f.meters with
      | some m => (.ofPage m.page, f)
      | none => (.ofError 404 "metrics are disabled", f)

def answer (now : Timestamp) (request : Request) (path : List Char) (f : Fleet) : Handled :=
  match Resource.ofPath? path with
  | none => (.noResource, f)
  | some resource =>
      if resource.method.names.contains request.method then
        let (response, f) := serve now request f resource
        (if request.method = "HEAD" then response.withoutBody else response, f)
      else (.otherMethod (",".intercalate resource.method.names), f)

/-- Answers a request. There is no answer if the request line names no method or no target. -/
def handle (now : Timestamp) (request : Request) (f : Fleet) : Option Handled :=
  if !(request.method.toList.all Probe.Header.isTokenChar && !request.method.isEmpty) then none
  else (Net.Uri.path? request.uri).map fun path => answer now request path f

end ServiceHealth.Api
