import TypeGuard.Text.Lowercase

namespace TypeGuard.Log

structure Config where
  /-- The service that logs, named when logging starts. -/
  service : String := "act"
  filter : String := "info"
  json : Bool := false
  showTarget : Bool := true
deriving Repr, DecidableEq

/-- Whether the text of a variable turns JSON lines on. -/
def asksForJson (text : String) : Bool :=
  Text.lowercase text == "true" || text == "1"

/-- Settings from variables; one that is not set leaves its default in place. -/
def Config.ofLookup (lookup : String → Option String) : Config :=
  let unset : Config := {}
  { unset with
    service := (lookup "ACT_SERVICE_NAME").getD unset.service
    filter := ((lookup "ACT_LOG_LEVEL").or (lookup "RUST_LOG")).getD unset.filter
    json := ((lookup "ACT_JSON_LOGS").map asksForJson).getD unset.json }

end TypeGuard.Log
