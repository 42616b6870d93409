import LocatorHealing.Files.Tree
import LocatorHealing.Session.Basic

set_option autoImplicit false
set_option relaxedAutoImplicit false

/-!
The whole state of a run: the clocks, what was logged and done so far, the sessions, the files, what
launcher and workers keep, and the state of the world outside.
-/

namespace LocatorHealing

structure World (ε τ : Type) where
  clock : τ
  /-- The wall clock's reading, as it stands in audit entries. -/
  timestamp : String
  level : Level
  log : List (Level × String)
  trace : List (TraceEntry τ)
  sessions : String → Session ε τ
  files : FileTree
  environment : Variables
  /-- The result of the last authentication of the launcher. -/
  launched : Option AuthResult
  /-- The warnings that instrumentation has given. -/
  warned : List String
  /-- Files that were encoded, by path and time of modification, the last used in front. -/
  encoded : List ((String × Int) × String)
  outside : ε
  /-- Whether sleeps are those of a system, which takes none beyond its bounds. -/
  boundsSleep : Bool := false

end LocatorHealing
