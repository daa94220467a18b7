/-!
# Settings

What a user can set. `Settings.Layer` says where the values come from.

## Main definitions

* `Settings` — the settings of a server.
-/

namespace JavaLens

/-- How the server presents itself. -/
structure Settings.Server where
  /-- The name told to the editor. -/
  name : String
deriving DecidableEq, Repr, Inhabited

/-- What the server publishes. -/
structure Settings.Diagnostics where
  /-- The source that every diagnostic names. -/
  source : String
  /-- Whether warnings are published beside errors. -/
  publishWarnings : Bool
deriving DecidableEq, Repr, Inhabited

/-- What the server logs. -/
structure Settings.Logging where
  /-- The filter that log lines pass. -/
  filter : String
deriving DecidableEq, Repr, Inhabited

/-- The settings of a server. -/
structure Settings where
  server : Settings.Server
  diagnostics : Settings.Diagnostics
  logging : Settings.Logging
deriving DecidableEq, Repr, Inhabited

end JavaLens
