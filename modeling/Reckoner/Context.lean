import Reckoner.Text.Ranges
import Reckoner.Unit.Rates
import Reckoner.Value.Basic

/-!
# Contexts

What the host provides for an evaluation: the earlier results, the external
argument, exchange rates, the clock, the default zone and its environment
variables.
-/

namespace Reckoner

/-- What the host provides. -/
structure Context where
  /-- The earlier results, oldest first. -/
  history : List Value
  /-- The external argument. -/
  argument : Option String
  rates : RateTable
  now : Instant
  zone : Zone
  /-- The host's environment variables. -/
  env : List (String × String)

namespace Context

/-- A context with a clock and nothing else. -/
def ofClock (now : Instant) (zone : Zone) : Context :=
  { history := [], argument := none, rates := .empty, now, zone, env := [] }

/-- The context with an external argument: the first of the given texts that
is not blank, without the blanks around it. -/
def withArgument (ctx : Context) (candidates : List (Option String)) : Context :=
  { ctx with
    argument := ((candidates.filterMap id).map Text.trim).find? (!·.isEmpty) }

/-- The value of an environment variable. -/
def envText? (ctx : Context) (name : String) : Option String := ctx.env.lookup name

end Context

end Reckoner
