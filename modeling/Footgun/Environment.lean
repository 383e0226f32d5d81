/-! # Environments

The environment variables that a run sees. -/

namespace Footgun

/-- Environment variables with their values. -/
abbrev Environment :=
  List (String × String)

end Footgun
