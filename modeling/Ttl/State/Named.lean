import Ttl.Lib.Text
import Ttl.State.Session

/-!
# Named sessions

What `Session` and its `Target` in `src/state/session.rs` hold beside what tracing reads: the names that the user gave
for the target, and the time of the start.
-/

namespace Ttl

/-- `Session` with the names of its target. -/
structure NamedSession extends Session where
  /-- `target.original`: what the user asked for. -/
  original : List Char
  /-- `target.aliases`: other names of the same address. -/
  aliases : List (List Char)
  /-- Date and time of the start, in nanoseconds. -/
  started_at : ℤ

/-- `display_name` of the target. -/
def NamedSession.displayName (s : NamedSession) : List Char :=
  if s.aliases.isEmpty then s.original
  else s.original ++ " (+".toList ++ Text.nat s.aliases.length ++ " more)".toList

end Ttl
