import WebClient.Dump
import WebClient.Text.Ascii

/-!
# Configuration of a client

Times are in milliseconds.  The configured headers stand in for what a request
does not have itself.
-/

namespace WebClient

/-- The settings of a client. -/
structure ClientConfig where
  timeout : Nat := 30000
  connectTimeout : Nat := 10000
  poolIdlePerHost : Nat := 32
  poolIdleTimeout : Nat := 90000
  userAgent : Option String := some "rivet/0.1.0"
  defaultHeaders : List (String × String) := []
  deriving DecidableEq, Repr, Inhabited

namespace ClientConfig

/-- Add a header for requests that do not have it. -/
def addDefaultHeader (name value : String) (config : ClientConfig) : ClientConfig :=
  { config with defaultHeaders := config.defaultHeaders ++ [(name, value)] }

/-- The configured headers: the agent first. -/
def headers (config : ClientConfig) : List (String × String) :=
  (config.userAgent.map fun agent => ("User-Agent", agent)).toList ++ config.defaultHeaders

/-- The configured headers whose names a request does not have. -/
def missingHeaders (config : ClientConfig) (present : List (String × String)) :
    List (String × String) :=
  config.headers.filter fun (name, _) =>
    !present.any fun (other, _) => Text.sameIgnoringCase other name

/-- The text of a time: seconds from one second on, with as many decimals as it
needs. -/
def showTime (ms : Nat) : String :=
  if ms = 0 then "0ns"
  else if ms < 1000 then s!"{ms}ms"
  else
    let decimals := (toString (1000 + ms % 1000)).toList.drop 1
    let kept := Text.dropTrailing (· = '0') decimals
    let fraction := if kept.isEmpty then "" else String.ofList ('.' :: kept)
    s!"{ms / 1000}{fraction}s"

/-- The parts of a configuration. -/
def shown (config : ClientConfig) : Dump :=
  .record "ClientConfig"
    [("timeout", .word (showTime config.timeout)),
      ("connect_timeout", .word (showTime config.connectTimeout)),
      ("pool_idle_per_host", .nat config.poolIdlePerHost),
      ("pool_idle_timeout", .word (showTime config.poolIdleTimeout)),
      ("user_agent", .option (config.userAgent.map .text)),
      ("default_headers",
        .list (config.defaultHeaders.map fun (name, value) => .pair (.text name) (.text value)))]
    true

end ClientConfig

end WebClient
