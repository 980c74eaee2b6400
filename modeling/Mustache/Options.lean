/-!
# Options of a render

The extensions that are put behind logical names, and how deeply partials may include one another.
-/

namespace Mustache

/-- The options of a render. -/
structure Options where
  /-- The extension of templates and partials. -/
  partialExtension : String := "mustache"
  /-- The extension of context documents. -/
  contextExtension : String := "json"
  /-- The greatest number of partials in a chain of partials that include one another. -/
  maxPartialDepth : Nat := 64
deriving DecidableEq, Repr

end Mustache
