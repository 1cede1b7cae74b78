import WebClient.Service.Client

/-!
# Emitters

An emitter visits a resolved service: its start, then its methods in order, then
its end, where it hands out what it has made.  The listing and the client of a
service are both made this way.
-/

namespace WebClient

/-- Visits a service and makes something of it; `τ` is what it has so far. -/
structure Emitter (τ α : Type) where
  start : ServiceDefinition → τ → Except Error τ
  method : ServiceMethod → τ → Except Error τ
  finish : τ → Except Error α

namespace Emitter

variable {τ α : Type}

/-- Visit methods in order, up to the first error. -/
def visitAll (e : Emitter τ α) : List ServiceMethod → τ → Except Error τ
  | [], state => .ok state
  | m :: rest, state => do e.visitAll rest (← e.method m state)

/-- Visit a service from start to end, up to the first error. -/
def drive (e : Emitter τ α) (definition : ServiceDefinition) (state : τ) : Except Error α := do
  let started ← e.start definition state
  let visited ← e.visitAll definition.methods started
  e.finish visited

/-- Makes the listing of a service; what it has so far is the listing, once a
service is started. -/
def listing : Emitter (Option String) String where
  start definition _ := .ok (some s!"service {definition.name} @ {definition.base.text}\n")
  method m state :=
    match state with
    | some text => .ok (some (text ++ "\n" ++ m.listing))
    | none => .error (.invalidRequest .noService)
  finish state :=
    match state with
    | some text => .ok text
    | none => .error (.invalidRequest .noService)

end Emitter

/-- What is known so far of a client in the making. -/
structure ClientParts where
  service : Option (String × Url)
  methods : List ServiceMethod

/-- Nothing is known yet. -/
def ClientParts.none : ClientParts := ⟨.none, []⟩

/-- The parts that are shown of a client in the making, before a service is
started. -/
def ClientParts.shown (parts : ClientParts) : Dump :=
  .record "ProxyEmitter"
    [("service", .option (parts.service.map fun (name, base) =>
        .pair (.text name) (.text base.text))),
      ("methods", .nat parts.methods.length)]
    false

/-- Makes a client of a service; starting a service drops what went before. -/
def Emitter.client {σ : Type} (client : HttpClient σ) :
    Emitter ClientParts (ServiceClient σ) where
  start definition _ := .ok ⟨some (definition.name, definition.base), []⟩
  method m parts := .ok { parts with methods := parts.methods ++ [m] }
  finish parts :=
    match parts.service with
    | some (name, base) => .ok ⟨name, base, client, parts.methods⟩
    | none => .error (.invalidRequest .noService)

end WebClient
