/-!
The web frameworks a project can be built with.
-/
namespace Survey

/-- A web framework; `auto` leaves it to detection. -/
inductive Framework where
  | auto | nextApp | nextPages | nuxt | svelteKit | remix
  deriving DecidableEq

namespace Framework

def all : List Framework :=
  [.auto, .nextApp, .nextPages, .nuxt, .svelteKit, .remix]

def name : Framework → String
  | .auto => "auto"
  | .nextApp => "nextjs-app"
  | .nextPages => "nextjs-pages"
  | .nuxt => "nuxt"
  | .svelteKit => "sveltekit"
  | .remix => "remix"

def ofName? (name : String) : Option Framework :=
  all.find? (·.name == name)

end Framework

end Survey
