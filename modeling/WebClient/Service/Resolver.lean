import WebClient.Directive.Registry
import WebClient.Journal
import WebClient.Service.Declaration
import WebClient.Service.Definition

/-!
# Resolving declarations

A resolver turns a declared service into methods that can be called.  It lets
the handlers of the directives build each method, the directives of the method
first and those of the parameters from left to right, and stops at the first
error, which then names the service, the method and the parameter.
-/

namespace WebClient

/-- The handlers and converters that declarations are resolved with. -/
structure ServiceResolver where
  handlers : HandlerRegistry
  converters : ConverterRegistry

namespace ServiceResolver

/-- The standard handlers and converters. -/
def standard : ServiceResolver := ⟨.standard, .standard⟩

/-- Add a handler for a variant that has none. -/
def withHandler (handler : DirectiveHandler) (r : ServiceResolver) :
    Except ConfigError ServiceResolver :=
  (r.handlers.register handler).map fun handlers => { r with handlers := handlers }

/-- Add a factory of converters. -/
def addFactory (factory : ConverterFactory) (r : ServiceResolver) : ServiceResolver :=
  { r with converters := r.converters.addFactory factory }

/-- The converter that a directive asks for, where it stands on a type. -/
def converterFor (r : ServiceResolver) (d : Directive) (type : Option TypeName) :
    Except ConfigError (Option Converter) :=
  match d.capability?, type with
  | some capability, some type => (r.converters.resolve type capability).map some
  | _, _ => .ok none

/-- Carry out one directive. -/
def apply (r : ServiceResolver) (declaredOn : Target) (type : Option TypeName)
    (index : Option Nat) (d : Directive) : Configure Unit := do
  match r.handlers.get? d.variant with
  | none => Configure.reject (.unknownDirective d.variant)
  | some handler =>
      if d.target ≠ declaredOn then
        Configure.reject (.misplacedDirective d.variant declaredOn)
      else
        match r.converterFor d type with
        | .ok converter => handler.handle d converter index
        | .error e => throw e

/-- Carry out the directives of a method. -/
def applyToMethod (r : ServiceResolver) : List Directive → Configure Unit
  | [] => pure ()
  | d :: rest => do
      r.apply .method none none d
      applyToMethod r rest

/-- Carry out the directives of one parameter; an error names the parameter. -/
def applyToParameter (r : ServiceResolver) (type : TypeName) (index : Nat) :
    List Directive → Configure Unit
  | [] => pure ()
  | d :: rest => do
      (r.apply .parameter type index d).adapt (ConfigError.atParameter index)
      applyToParameter r type index rest

/-- Carry out the directives of the parameters from a place on. -/
def applyToParameters (r : ServiceResolver) (index : Nat) :
    List ParameterDeclaration → Configure Unit
  | [] => pure ()
  | p :: rest => do
      r.applyToParameter p.type index p.directives
      applyToParameters r (index + 1) rest

/-- The steps that build a declared method. -/
def configure (r : ServiceResolver) (declaration : MethodDeclaration) : Configure Unit := do
  r.applyToMethod declaration.directives
  r.applyToParameters 0 declaration.parameters
  match r.converters.resolve declaration.returns .responseBody with
  | .ok converter => MethodBuilder.setResponse declaration.returns converter
  | .error e => throw e

/-- Resolve one method; an error names the service and the method. -/
def resolveMethod (r : ServiceResolver) (service : String) (declaration : MethodDeclaration) :
    Except ConfigError ServiceMethod :=
  let start :=
    MethodBuilder.start service declaration.name declaration.parameters.length
  let result := match (r.configure declaration).run start with
    | (.ok (), built) => built.build
    | (.error e, _) => .error e
  result.mapError (ConfigError.inMethod service declaration.name)

/-- Resolve methods in order, up to the first error. -/
def resolveMethods (r : ServiceResolver) (service : String) :
    List MethodDeclaration → Except ConfigError (List ServiceMethod)
  | [] => .ok []
  | m :: rest => do
      let first ← r.resolveMethod service m
      return first :: (← resolveMethods r service rest)

/-- Resolve a declared service at a base URL. -/
def resolve (r : ServiceResolver) (declaration : ServiceDeclaration) (base : Url) :
    Except ConfigError ServiceDefinition := do
  let methods ← r.resolveMethods declaration.name declaration.methods
  return ⟨declaration.name, base, methods⟩

/-! ## What is reported -/

/-- The report of a resolved method. -/
def methodEvent (m : ServiceMethod) : Event where
  level := .debug
  message := "resolved method"
  fields := [("service", .text m.service), ("method", .text m.name),
    ("http_method", .text m.method.name), ("path", .text m.path.text),
    ("asynchronous", .truth m.asynchronous)]

/-- The reports of the methods up to the first error. -/
def methodEvents (r : ServiceResolver) (service : String) : List MethodDeclaration → List Event
  | [] => []
  | m :: rest =>
      match r.resolveMethod service m with
      | .ok method => methodEvent method :: methodEvents r service rest
      | .error _ => []

/-- What resolving a service reports. -/
def journal (r : ServiceResolver) (declaration : ServiceDeclaration) (base : Url) :
    List Event :=
  r.methodEvents declaration.name declaration.methods ++
    match r.resolve declaration base with
    | .ok _ =>
        [⟨.debug, "resolved service",
          [("service", .text declaration.name), ("methods", .number declaration.methods.length),
            ("base_url", .text base.text)]⟩]
    | .error _ => []

end ServiceResolver

end WebClient
