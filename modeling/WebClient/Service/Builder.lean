import WebClient.Service.Method

/-!
# Building methods

A method is put together step by step.  A step that contradicts an earlier one
is refused and changes nothing; `MethodBuilder.build` checks that the steps
taken make a method.
-/

namespace WebClient

/-- A method in the making. -/
structure MethodBuilder where
  service : String
  name : String
  arity : Nat
  http : Option (Method × Template)
  headers : List (String × String)
  bodyKind : Option BodyKind
  /-- The parameters so far, each with its place. -/
  parameters : List (Nat × Parameter)
  response : Option (TypeName × ResponseConverter)
  asynchronous : Bool

/-- A step of building a method; when it fails, what it did before stands. -/
abbrev Configure := ExceptT ConfigError (StateM MethodBuilder)

/-- Reject a declaration for a cause without a place. -/
def Configure.reject {α : Type} (cause : ConfigCause) : Configure α := throw (.of cause)

namespace MethodBuilder

/-- A method of which nothing is known but its names and its number of arguments. -/
def start (service name : String) (arity : Nat) : MethodBuilder :=
  ⟨service, name, arity, none, [], none, [], none, false⟩

/-! ## Steps -/

/-- Set the verb and the path, once. -/
def setHttp (method : Method) (path : Template) : Configure Unit := do
  match (← get).http with
  | some (existing, _) => Configure.reject (.duplicateHttpMethod existing method)
  | none => modify fun b => { b with http := some (method, path) }

/-- Add a header that every request has. -/
def addHeader (name value : String) : Configure Unit :=
  modify fun b => { b with headers := b.headers ++ [(name, value)] }

/-- Set the kind of body; it may be set again, but not to another kind. -/
def setBodyKind (kind : BodyKind) : Configure Unit := do
  match (← get).bodyKind with
  | some first =>
      if first ≠ kind then Configure.reject (.conflictingBody first kind)
  | none => modify fun b => { b with bodyKind := some kind }

/-- Let the method answer later. -/
def setAsynchronous : Configure Unit := modify fun b => { b with asynchronous := true }

/-- Set the parameter at a place, once. -/
def setParameter (index : Nat) (p : Parameter) : Configure Unit := do
  let b ← get
  if b.arity ≤ index then
    throw ((ConfigError.of (.parameterOutOfRange index b.arity)).atParameter index)
  if (b.parameters.lookup index).isSome then
    throw ((ConfigError.of (.duplicateParameter index)).atParameter index)
  set { b with parameters := b.parameters ++ [(index, p)] }

/-- Set the type of the answer and its converter, once. -/
def setResponse (type : TypeName) (converter : Converter) : Configure Unit := do
  match converter.asResponse? with
  | none => Configure.reject (.wrongConverter .responseBody (some converter.capability))
  | some converter =>
      if (← get).response.isSome then Configure.reject .duplicateResponseConverter
      modify fun b => { b with response := some (type, converter) }

/-! ## Checks -/

/-- The error of a parameter. -/
def errorAt (index : Nat) (cause : ConfigCause) : ConfigError :=
  (ConfigError.of cause).atParameter index

/-- The parameters of the places from one on, as many as are wanted. -/
def collectParameters (known : List (Nat × Parameter)) (index : Nat) :
    Nat → Except ConfigError (List Parameter)
  | 0 => .ok []
  | count + 1 =>
      match known.lookup index with
      | none => .error (errorAt index (.missingParameterHandler index))
      | some p => (collectParameters known (index + 1) count).map (p :: ·)

/-- Agree on one kind of body, from left to right; at most one parameter is a raw
body. -/
def resolveBodyKind (kind : Option BodyKind) (rawSeen : Bool) (index : Nat) :
    List Parameter → Except ConfigError (Option BodyKind)
  | [] => .ok kind
  | p :: rest =>
      match p.bodyKind? with
      | none => resolveBodyKind kind rawSeen (index + 1) rest
      | some own =>
          if own = .raw && rawSeen then .error (errorAt index .duplicateBody)
          else
            match kind with
            | some first =>
                if first = own then
                  resolveBodyKind kind (rawSeen || own = .raw) (index + 1) rest
                else .error (errorAt index (.conflictingBody first own))
            | none => resolveBodyKind (some own) (rawSeen || own = .raw) (index + 1) rest

/-- The places of the URL parameters. -/
def urlIndices (index : Nat) : List Role → List Nat
  | [] => []
  | role :: rest =>
      if role = .url then index :: urlIndices (index + 1) rest else urlIndices (index + 1) rest

/-- A URL parameter takes the place of the path: there is one exactly when the
path is empty. -/
def checkUrl (roles : List Role) (path : Template) : Except ConfigError Unit :=
  match urlIndices 0 roles with
  | _ :: second :: _ => .error (errorAt second .duplicateUrl)
  | [index] =>
      if path.isEmpty then .ok () else .error (errorAt index (.urlWithPath path.text))
  | [] => if path.isEmpty then .error (.of .emptyPath) else .ok ()

/-- Bind the names of the path to the path parameters, from left to right; answer
with the bound names. -/
def bindNames (placeholders : List String) (bound : List String) (index : Nat) :
    List Role → Except ConfigError (List String)
  | [] => .ok bound
  | .path name _ :: rest =>
      if bound.contains name then .error (errorAt index (.duplicatePlaceholder name))
      else if !placeholders.contains name then
        .error (errorAt index (.unknownPlaceholder name))
      else bindNames placeholders (bound ++ [name]) (index + 1) rest
  | _ :: rest => bindNames placeholders bound (index + 1) rest

/-- Every name of the path has exactly one path parameter, and every path
parameter has a name of the path. -/
def checkPlaceholders (roles : List Role) (path : Template) : Except ConfigError Unit := do
  let bound ← bindNames path.placeholders [] 0 roles
  match path.placeholders.find? fun name => !bound.contains name with
  | some name => throw (.of (.unresolvedPlaceholder name))
  | none => return ()

/-- The method that the steps make, or the first check that fails. -/
def finish (b : MethodBuilder) : Except ConfigError ServiceMethod := do
  match b.http with
  | none => throw (.of .missingHttpMethod)
  | some (method, path) =>
      let parameters ← collectParameters b.parameters 0 b.arity
      let roles := parameters.map Parameter.role
      let bodyKind ← resolveBodyKind b.bodyKind false 0 parameters
      checkUrl roles path
      checkPlaceholders roles path
      match b.response with
      | none => throw (.of .missingResponseConverter)
      | some (responseType, responseConverter) =>
          return {
            service := b.service
            name := b.name
            method := method
            path := path
            headers := b.headers
            bodyKind := bodyKind
            parameters := parameters
            responseType := responseType
            responseConverter := responseConverter
            asynchronous := b.asynchronous }

/-- The method that the steps make; an error names the method. -/
def build (b : MethodBuilder) : Except ConfigError ServiceMethod :=
  b.finish.mapError (ConfigError.inMethod b.service b.name)

end MethodBuilder

end WebClient
