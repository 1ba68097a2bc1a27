import NodeWatch.Plugin.Registry
import NodeWatch.Stats

/-!
# The status over HTTP

Three resources can be read: `/healthz` says that the agent lives, `/conditions` gives the statistics
of the exported conditions, `/crds` the custom resources of all plugins. Any other path is unknown,
and any method but GET and HEAD is refused.
-/

namespace NodeWatch.Status

open Json Plugin

structure Response where
  status : Nat
  contentType : Option String := none
  /-- The methods that would be allowed, where another one was used. -/
  allow : Option String := none
  /-- The length of the content in bytes, also where only the head is sent. -/
  length : Nat := 0
  body : String := ""
  deriving DecidableEq, Repr

def Response.ok (contentType content : String) : Response :=
  { status := 200, contentType := some contentType, length := content.utf8ByteSize, body := content }

def Response.notFound : Response :=
  { status := 404 }

def Response.methodNotAllowed : Response :=
  { status := 405, allow := some "GET,HEAD" }

/-- The response without its content. -/
def Response.head (r : Response) : Response :=
  { r with body := "" }

/-- The custom resources of all plugins in the order of their names; those of one name stay in the
order in which their plugins were registered. -/
def crds (registry : Registry) : List Crd :=
  registry.crds.mergeSort fun a b => a.name ≤ b.name

def jsonType : String := "application/json"

/-- The content of a path, with its type. -/
def content? (stats : Stats) (registry : Registry) (path : String) : Option (String × String) :=
  match path with
  | "/healthz" => some ("text/plain; charset=utf-8", "ok")
  | "/conditions" => some (jsonType, stats.snapshot.toJson)
  | "/crds" => some (jsonType, (Value.list ((crds registry).map Crd.toValue)).toText)
  | _ => none

/-- The response to a request. -/
def respond (stats : Stats) (registry : Registry) (method path : String) : Response :=
  match content? stats registry path with
  | none => .notFound
  | some (contentType, content) =>
    let response := Response.ok contentType content
    if method = "GET" then response
    else if method = "HEAD" then response.head
    else .methodNotAllowed

/-- The address to serve the status on is in use. -/
structure BindError where
  address : String
  deriving DecidableEq, Repr

def BindError.message (e : BindError) : String :=
  s!"failed to bind status API to `{e.address}`: Address already in use (os error 98)"

end NodeWatch.Status
