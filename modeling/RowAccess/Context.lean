import RowAccess.Principal
import RowAccess.Suppression
/-!
# Contexts

A context belongs to one unit of work: who it is done for, what is suppressed meanwhile, and the tenant
it was switched to.
-/

namespace RowAccess

/-- The context of a unit of work. -/
structure Context where
  session : Session
  suppression : Suppression
  /-- The tenant that this context was switched to. -/
  localTenant : Option String

namespace Context

/-- The context of a session at the start of its work. -/
def start (session : Session) : Context := ⟨session, .idle, none⟩

/-- A context for work that is done beside the work of this one: for the same caller and the same local
tenant, with nothing suppressed. -/
def fork (c : Context) : Context := ⟨c.session, .idle, c.localTenant⟩

/-- Whether a concern is suppressed. -/
def isSuppressed (c : Context) (concern : Concern) : Bool := c.suppression.isSuppressed concern

/-- Suppresses a concern. -/
def enable (c : Context) (concern : Concern) : Context :=
  { c with suppression := c.suppression.enable concern }

/-- Ends a suppression of a concern. -/
def disable (c : Context) (concern : Concern) : Context :=
  { c with suppression := c.suppression.disable concern }

/-- Ends all suppression. -/
def clearSuppression (c : Context) : Context := { c with suppression := c.suppression.clear }

/-- Switches the context to a tenant, or back to none. -/
def withLocalTenant (c : Context) (tenant : Option String) : Context :=
  { c with localTenant := tenant }

end Context

end RowAccess
