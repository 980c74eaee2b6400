import Mustache.Json.Reader
import Mustache.Render.Workload
/-!
# Rendering

A `Renderer` renders a template against a context. The result is the text written, or a failure with
the text written before it. The context can be given as a value, as JSON text, or, together with the
template, by name.
-/

namespace Mustache

/-- Walks on to the end of the template, or to the first error. -/
def Walk.run (r : Renderer) (w : Walk) : Except RenderFailure String :=
  match _h : w.step r with
  | .ok (some next) => next.run r
  | .ok none => .ok w.output
  | .error failure => .error failure
termination_by w.workload r.options.maxPartialDepth
decreasing_by exact Walk.step_decreases _h

namespace Renderer

/-- Renders a template against a context. -/
def render (r : Renderer) (template : String) (context : Value) : Except RenderFailure String :=
  (Walk.start template context).run r

/-- Renders a template against a context given as JSON text. -/
def renderJson (r : Renderer) (template context : String) : Except RenderFailure String := do
  let context ← (Json.parse context).mapError fun e => .early (.json e)
  r.render template context

/-- Loads a text by name. -/
def load (r : Renderer) (name extension : String) : Except RenderFailure String :=
  (r.loader name extension).mapError fun e => .early (.load e)

/-- Loads a template and a context document, the template first, and renders one against the
other. -/
def renderFiles (r : Renderer) (view context : String) : Except RenderFailure String := do
  let template ← r.load view r.options.partialExtension
  let context ← r.load context r.options.contextExtension
  r.renderJson template context

end Renderer

end Mustache
