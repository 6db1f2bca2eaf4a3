import ServerTree.App.Registry

/-!
# What an application may use

The methods, kinds, levels and settings that a tree is written with, as one mapping.
-/

namespace ServerTree

/-- The tags of the kinds that satisfy `p`, sorted. -/
def kindTags (p : Kind → Bool) : Value :=
  .ofTexts (Text.sorted ((Kind.all.filter p).map Kind.tag))

/-- The methods, the kinds of response and configuration nodes, the levels, the methods that
cross-origin requests may use, and the settings of an application that is not configured. -/
def catalogue : Value :=
  .ofFields
    [("methods", .ofTexts httpMethods),
      ("response", kindTags Kind.isResponse),
      ("config", kindTags Kind.isConfig),
      ("levels", .ofFields (levelNumbers.map fun e => (e.1, Value.int e.2))),
      ("cors", .ofTexts defaultCorsMethods),
      ("app", .ofFields (AppConfig.fields {}))]

end ServerTree
