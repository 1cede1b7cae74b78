import WebClient.Client.Layer
import WebClient.Client.Transport

/-!
# Layered clients

A client made of a configuration and layers around the transport.  Layers are
put around each other in the order in which they are added, the first one
outermost; the standard logging sits directly around the transport.
-/

namespace WebClient

/-- A client in the making. -/
structure ClientBuilder (σ : Type) where
  config : ClientConfig := {}
  layers : List (Layer σ) := []
  /-- Log directly around the transport. -/
  standardLayers : Bool := false

/-- A client with layers around its transport. -/
structure LayeredClient (σ : Type) where
  config : ClientConfig
  carrier : Carrier σ
  /-- Every layer lets requests through. -/
  admits : Bool

namespace LayeredClient

/-- The client as one that calls can use; it does nothing before its answer is
waited for. -/
def client {σ : Type} (c : LayeredClient σ) : HttpClient σ := .ofCarrier c.carrier

/-- The parts of a client that are shown. -/
def shown {σ : Type} (c : LayeredClient σ) : Dump :=
  .record "HyperClient" [("config", c.config.shown)] false

end LayeredClient

namespace ClientBuilder

variable {σ : Type}

/-- Add a layer inside the others. -/
def addLayer (layer : Layer σ) (b : ClientBuilder σ) : ClientBuilder σ :=
  { b with layers := b.layers ++ [layer] }

/-- Change the configuration. -/
def withConfig (f : ClientConfig → ClientConfig) (b : ClientBuilder σ) : ClientBuilder σ :=
  { b with config := f b.config }

/-- The carrier below the added layers. -/
def core (b : ClientBuilder σ) (network : WireRequest → Action σ (Except Error Response)) :
    Carrier σ :=
  let transport := Transport.carrier b.config network
  if b.standardLayers then (Layer.logging .standard).wrap transport else transport

/-- The client over a network. -/
def build (b : ClientBuilder σ) (network : WireRequest → Action σ (Except Error Response)) :
    LayeredClient σ where
  config := b.config
  carrier := Layer.wrapAll b.layers (b.core network)
  admits := b.layers.all Layer.admits

/-- The parts of a client in the making. -/
def shown (b : ClientBuilder σ) : Dump :=
  .record "HyperClientBuilder"
    [("config", .record "ClientConfigBuilder" [("config", b.config.shown)] true),
      ("layers", .nat b.layers.length), ("default_layers", .bool b.standardLayers)]
    true

end ClientBuilder

end WebClient
