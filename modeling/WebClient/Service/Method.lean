import WebClient.Converter.Registry
import WebClient.Http.Response
import WebClient.Service.Parameter

/-!
# Methods of a service

A method knows everything that a call needs: how to turn arguments into a
request, and how to turn the answer into a value.
-/

namespace WebClient

/-- A method of a service, ready to be called. -/
structure ServiceMethod where
  service : String
  name : String
  method : Method
  path : Template
  headers : List (String × String)
  bodyKind : Option BodyKind
  parameters : List Parameter
  responseType : TypeName
  responseConverter : ResponseConverter
  /-- The method answers later. -/
  asynchronous : Bool

namespace ServiceMethod

/-- The number of arguments of a call. -/
def arity (m : ServiceMethod) : Nat := m.parameters.length

/-- The draft that arguments contribute to. -/
def startDraft (m : ServiceMethod) (boundary : String) (base : Url) : Draft :=
  let start := (Draft.start m.method base m.path).withBodyKind m.bodyKind boundary
  { start with headers := m.headers }

/-- Let each parameter contribute for its argument. -/
def applyAll : List Parameter → List Json.Value → Draft → Except Error Draft
  | p :: ps, a :: as, d => do applyAll ps as (← (p.handling a).run d)
  | _, _, d => .ok d

/-- The request of a call; a multipart body has the given boundary. -/
def buildRequest (m : ServiceMethod) (boundary : String) (base : Url)
    (arguments : List Json.Value) : Except Error Request :=
  if arguments.length ≠ m.arity then
    .error (.invalidRequest (.wrongArity m.service m.name m.arity arguments.length))
  else do
    let draft ← applyAll m.parameters arguments (m.startDraft boundary base)
    draft.build

/-- The value of an answer. -/
def decode (m : ServiceMethod) (response : Response) : Except Error Json.Value := do
  let response ← response.errorForStatus
  m.responseConverter.convert response.body m.responseType

/-- Number the lines of roles. -/
def listRoles : Nat → List Parameter → String
  | _, [] => ""
  | index, p :: rest => s!"    #{index} {p.role.text}\n" ++ listRoles (index + 1) rest

/-- The lines that list a method. -/
def listing (m : ServiceMethod) : String :=
  let mode := if m.asynchronous then "async " else ""
  let headers := m.headers.map fun (name, value) => s!"    header {name}: {value}\n"
  let kind := match m.bodyKind with
    | some kind => s!"    {kind.text}\n"
    | none => ""
  s!"{mode}fn {m.name} -> {m.responseType.text}\n    {m.method.name} {m.path.text}\n" ++
    String.join headers ++ kind ++ listRoles 0 m.parameters

/-- The parts of a method that are shown. -/
def shown (m : ServiceMethod) : Dump :=
  .record "ServiceMethodDescriptor"
    [("service", .text m.service), ("name", .text m.name), ("method", .word m.method.title),
      ("path", .tuple "PathTemplate" [.text m.path.text]),
      ("headers", .list (m.headers.map fun (name, value) => .pair (.text name) (.text value))),
      ("body_kind", .option (m.bodyKind.map fun kind => .word kind.title)),
      ("parameters", .list (m.parameters.map Parameter.shown)),
      ("response_type", .tuple "TypeName" [.text m.responseType.text]),
      ("asynchronous", .bool m.asynchronous)]
    false

end ServiceMethod

end WebClient
