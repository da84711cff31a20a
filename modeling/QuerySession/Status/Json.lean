import QuerySession.Json.Parser
import QuerySession.Status

/-!
# Statuses in JSON

A status, and a class of statuses, is written as its name.
-/

namespace QuerySession

/-- A status as a text. -/
def Status.render (s : Status) : String := (Json.ofString s.name).render

/-- The status that a text names. -/
def Status.parse? (text : String) : Option Status :=
  ((Json.parse? text).bind Json.tag?).bind Status.ofName?

/-- A class as a text. -/
def Status.Class.render (c : Class) : String := (Json.ofString c.name).render

/-- The class that a text names. -/
def Status.Class.parse? (text : String) : Option Class :=
  ((Json.parse? text).bind Json.tag?).bind Class.ofName?

end QuerySession
