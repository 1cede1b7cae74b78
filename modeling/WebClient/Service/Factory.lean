import WebClient.Service.Generator
import WebClient.Service.Resolver

/-!
# Making clients from declarations

A factory puts a base URL, a way to carry requests, a resolver and a generator
together, and turns declared services into clients.  Its settings may be left
out one by one, all but the base URL.
-/

namespace WebClient

/-- The parts of a factory of converters, of handlers and of both together. -/
def ConverterRegistry.shown (registry : ConverterRegistry) : Dump :=
  .record "ConverterRegistry"
    [("factories", .list (registry.factories.map (·.shown))),
      ("fallback", .option (registry.fallback.map (·.shown)))]
    true

/-- The parts of a registry of handlers. -/
def HandlerRegistry.shown (registry : HandlerRegistry) : Dump :=
  .record "HandlerRegistry"
    [("handlers", .table (registry.handlers.map fun h =>
        (.tuple "Variant" [.text h.variant], h.shown)))]
    true

/-- The parts of a resolver. -/
def ServiceResolver.shown (r : ServiceResolver) : Dump :=
  .record "ServiceResolver"
    [("handlers", r.handlers.shown), ("converters", r.converters.shown)] true

/-- Turns declared services into clients. -/
structure ServiceFactory (σ : Type) where
  base : Url
  client : HttpClient σ
  resolver : ServiceResolver
  generator : Generator

namespace ServiceFactory

variable {σ : Type}

/-- Resolve a declared service. -/
def resolve (f : ServiceFactory σ) (declaration : ServiceDeclaration) :
    Except Error ServiceDefinition :=
  (f.resolver.resolve declaration f.base).mapError .configuration

/-- Make the client of a declared service. -/
def generate (f : ServiceFactory σ) (declaration : ServiceDeclaration) :
    Action σ (Except Error (ServiceClient σ)) := do
  Action.report (f.resolver.journal declaration f.base)
  match f.resolve declaration with
  | .error e => return .error e
  | .ok definition =>
      match ← f.generator.generate definition f.client with
      | .error e => return .error e
      | .ok service =>
          Action.report [⟨.debug, "created service",
            [("service", .text service.name), ("base_url", .text f.base.text)]⟩]
          return .ok service

/-- The parts of a factory that are shown. -/
def shown (f : ServiceFactory σ) : Dump :=
  .record "Rivet"
    [("base_url", .text f.base.text), ("resolver", f.resolver.shown),
      ("generator", f.generator.shown)]
    false

end ServiceFactory

/-- The settings that a factory is made from. -/
structure FactorySettings (σ : Type) where
  base : Option String
  client : Option (HttpClient σ)
  converterFactories : List ConverterFactory
  resolver : Option ServiceResolver
  generator : Option Generator
  cacheDirectory : Option (List String)
  /-- Write no listings. -/
  withoutCache : Bool

namespace FactorySettings

variable {σ : Type}

/-- No settings. -/
def none : FactorySettings σ := ⟨.none, .none, [], .none, .none, .none, false⟩

/-- The generator that the settings ask for; a cache directory counts only where
no generator is given. -/
def chooseGenerator (s : FactorySettings σ) (standardDirectory : List String) : Generator :=
  match s.generator, s.withoutCache with
  | some generator, _ => generator
  | .none, true => .withoutCache
  | .none, false => ⟨some (s.cacheDirectory.getD standardDirectory)⟩

/-- The factory of the settings, with a client and a cache directory to fall back
on. -/
def build (s : FactorySettings σ) (standardClient : HttpClient σ)
    (standardDirectory : List String) : Except Error (ServiceFactory σ) := do
  match s.base with
  | .none => throw (.configuration (.of .missingBaseUrl))
  | some text =>
      let base ← (Url.parse? text).mapError .invalidUrl
      let resolver := s.converterFactories.foldl (fun r f => r.addFactory f)
        (s.resolver.getD .standard)
      return {
        base := base
        client := s.client.getD standardClient
        resolver := resolver
        generator := s.chooseGenerator standardDirectory }

/-- The parts of settings. -/
def shown (s : FactorySettings σ) : Dump :=
  .record "RivetBuilder"
    [("base_url", .option (s.base.map .text)), ("client", .bool s.client.isSome),
      ("converter_factories", .list (s.converterFactories.map (·.shown))),
      ("resolver", .option (s.resolver.map ServiceResolver.shown)),
      ("generator", .option (s.generator.map Generator.shown)),
      ("cache_dir", .option (s.cacheDirectory.map fun path => .text (Generator.pathText path))),
      ("without_cache", .bool s.withoutCache)]
    true

end FactorySettings

end WebClient
