import WebClient.Disk
import WebClient.Journal

/-!
# Sessions

Calls work on a session: the state of whatever carries requests, the files, and
the journal, which only grows.
-/

namespace WebClient

/-- What calls work on. -/
structure Session (σ : Type) where
  /-- The state of whatever carries requests. -/
  transport : σ
  disk : Disk
  journal : List Event

/-- A computation on a session. -/
abbrev Action (σ α : Type) := StateM (Session σ) α

/-- Add entries to the journal. -/
def Action.report {σ : Type} (events : List Event) : Action σ Unit :=
  modify fun s => { s with journal := s.journal ++ events }

/-- Work on the state of whatever carries requests. -/
def Action.onTransport {σ α : Type} (f : σ → α × σ) : Action σ α :=
  modifyGet fun s =>
    let (a, transport) := f s.transport
    (a, { s with transport := transport })

end WebClient
