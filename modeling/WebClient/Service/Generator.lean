import WebClient.Service.Emitter

/-!
# Generating clients

A generator makes the client of a resolved service.  With a cache directory it
first writes the listing of the service there; when that fails, no client is
made.
-/

namespace WebClient

/-- Makes clients of services. -/
structure Generator where
  /-- The directory that listings are written to. -/
  cacheDirectory : Option (List String)
  deriving DecidableEq, Repr

namespace Generator

/-- The generator that writes no listings. -/
def withoutCache : Generator := ⟨none⟩

/-- The character may stand in the name of a file. -/
def isFileChar (c : Char) : Bool := c.isAlphanum || c = '_' || c = '-' || c = '.'

/-- The name of the file that the listing of a service is written to. -/
def fileName (service : String) : String :=
  String.ofList (service.toList.map (fun c => if isFileChar c then c else '_') ++ ".rivet".toList)

/-- The text of a path. -/
def pathText (path : List String) : String := "/".intercalate path

/-- Write a listing to its file. -/
def writeListing (directory : List String) (service listing : String) (disk : Disk) :
    Except Error Unit × Disk :=
  let (outcome, after) := disk.store directory (fileName service) listing
  (outcome.mapError .cache, after)

/-- Write the listing of a service, if there is a cache directory. -/
def cacheListing {σ : Type} (g : Generator) (definition : ServiceDefinition) :
    Action σ (Except Error Unit) :=
  match g.cacheDirectory with
  | none => pure (.ok ())
  | some directory =>
      match Emitter.listing.drive definition none with
      | .error e => pure (.error e)
      | .ok listing => do
          let (outcome, disk) := writeListing directory definition.name listing (← get).disk
          modify fun s => { s with disk := disk }
          match outcome with
          | .error e => return .error e
          | .ok () =>
              let path := pathText (directory ++ [fileName definition.name])
              Action.report [⟨.debug, "wrote listing",
                [("service", .text definition.name), ("path", .text path)]⟩]
              return .ok ()

/-- Make the client of a service. -/
def generate {σ : Type} (g : Generator) (definition : ServiceDefinition)
    (client : HttpClient σ) : Action σ (Except Error (ServiceClient σ)) := do
  match ← g.cacheListing definition with
  | .error e => return .error e
  | .ok () =>
      match (Emitter.client client).drive definition .none with
      | .error e => return .error e
      | .ok service =>
          Action.report [⟨.debug, "generated service",
            [("service", .text definition.name),
              ("methods", .number definition.methods.length)]⟩]
          return .ok service

/-- The parts of a generator. -/
def shown (g : Generator) : Dump :=
  .record "Generator"
    [("cache_dir", .option (g.cacheDirectory.map fun path => .text (pathText path)))] true

end Generator

end WebClient
