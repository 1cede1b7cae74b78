import WebClient.Client.Config
import WebClient.Json.Access

/-!
# Settings of a client as documents

A change of a setting is written down as a JSON object that names the setting.
-/

namespace WebClient.ClientConfig

open Json (Value)

/-- The configuration after the change that an object describes. -/
def change? (config : ClientConfig) (v : Value) : Option ClientConfig := do
  let ms := v.nat? "ms"
  match ← v.text? "set" with
  | "timeout" => return { config with timeout := ← ms }
  | "connect_timeout" => return { config with connectTimeout := ← ms }
  | "pool_idle_timeout" => return { config with poolIdleTimeout := ← ms }
  | "pool_idle_per_host" => return { config with poolIdlePerHost := ← v.nat? "n" }
  | "user_agent" => return { config with userAgent := v.text? "value" }
  | "default_header" => return config.addDefaultHeader (← v.text? "name") (← v.text? "value")
  | _ => none

/-- The configuration that the changes of a list lead to. -/
def ofJson? (changes : List Value) : Option ClientConfig := changes.foldlM change? {}

end WebClient.ClientConfig
