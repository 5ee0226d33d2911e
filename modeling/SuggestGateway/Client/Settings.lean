import SuggestGateway.Json.Value
import SuggestGateway.Number.Literal
/-!
# Client settings

Where the search service is, the token to show it, and how long to wait for it, as the
environment gives them. An empty value counts as unset. The timeout is read as a number
literal; an unset or unreadable one, or one at most zero, is ten seconds. Any other reading
stays, and a NaN is not at most zero: the timeout is positive unless the setting reads as NaN.
-/
namespace SuggestGateway

abbrev Environment := List (String × String)

namespace Environment

/-- The value of a variable, unless it is unset or empty. -/
def setting? (env : Environment) (name : String) : Option String :=
  match Entries.get? env name with
  | some v => if v.isEmpty then none else some v
  | none => none

def apiRoot (env : Environment) : String :=
  (env.setting? "SEARCH_API_ROOT").getD "http://localhost:9200"

def apiToken (env : Environment) : Option String := env.setting? "SEARCH_API_TOKEN"

/-- The timeout used when none is configured or the configured one is unusable. -/
def defaultTimeout : Binary64 := Binary64.ofDecimal false 10 0

def timeout (env : Environment) : Binary64 :=
  match env.setting? "SEARCH_API_TIMEOUT" with
  | none => defaultTimeout
  | some raw =>
    match Binary64.ofLiteral? raw with
    | none => defaultTimeout
    | some x => if x.isNonPositive then defaultTimeout else x

end Environment

end SuggestGateway
