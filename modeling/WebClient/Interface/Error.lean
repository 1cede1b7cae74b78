import WebClient.Text.Quoted

/-!
# Errors of interfaces

Why no client can be made of an interface.
-/

namespace WebClient

/-- Why no client can be made of an interface. -/
inductive InterfaceError where
  /-- The text cannot be read as tokens. -/
  | unreadable
  /-- The tokens are not what they should be. -/
  | malformed
  | unknownSetting
  | unknownOption
  | valueOption
  | routeFormat
  | unknownVerb (verb : String)
  | genericTrait
  | notMethod
  | hasBody
  | genericMethod
  | notShared
  | notResult
  | asynchronousDeferred
  | notDeferred
  | notAsynchronous
  | unnamedParameter
  | unmatchedParameter (placeholders : List String)
  | severalUnmatched
  deriving DecidableEq, Repr

namespace InterfaceError

/-- The text of an error. -/
def message : InterfaceError → String
  | .unreadable => "cannot read the tokens"
  | .malformed => "unexpected token"
  | .unknownSetting => "unsupported service attribute, expected `name = \"...\"`"
  | .unknownOption => "unsupported option"
  | .valueOption => "expected `#[attr]` or `#[attr(...)]`"
  | .routeFormat => "expected format: \"METHOD /path\" (e.g., \"GET /users/\x7bid\x7d\")"
  | .unknownVerb verb =>
      "unsupported HTTP method: " ++ verb ++
        ". Supported: GET, POST, PUT, DELETE, PATCH, HEAD, OPTIONS"
  | .genericTrait => "generic service traits are not supported"
  | .notMethod => "service traits may only declare methods"
  | .hasBody => "service methods cannot have a default body"
  | .genericMethod => "generic service methods are not supported"
  | .notShared => "service methods must take `&self`"
  | .notResult => "service methods must return `rivet::Result<T>`"
  | .asynchronousDeferred => "methods returning `Deferred` must not be `async fn`"
  | .notDeferred => "`#[asynchronous]` methods must return `Result<Deferred<T>>`"
  | .notAsynchronous => "service methods must be `async fn`, or return `Result<Deferred<T>>`"
  | .unnamedParameter => "service parameters must be plain identifiers"
  | .unmatchedParameter placeholders =>
      "parameter does not match any path placeholder (available: [" ++
        ", ".intercalate (placeholders.map Text.quoted) ++
        "]) and this method takes no body. Add #[query] or another explicit attribute."
  | .severalUnmatched =>
      "multiple unannotated parameters found. Only one body parameter is allowed. " ++
        "Add explicit attributes to disambiguate."

end InterfaceError

end WebClient
