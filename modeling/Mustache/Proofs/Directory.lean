import Mustache.Proofs.ErrorClass
import Mustache.Proofs.Termination
/-!
# Texts in memory and files in a directory

A loader answers a name and an extension, and the two kinds of loaders do so under the same key: a
`Store` looks the file name up as it is, and `Loader.ofDirectory` reads the path that it has below the
directory. So a render from a store and a render from a directory that holds the same texts go the
same way, and stop at the same place if they fail.

* `Files.Holds files directory s`: what can be read below the directory are the texts of the store.
* `LoadError.below`: an error of the store as the directory has it. The path has the directory in
  front, and the cause, which a store does not know, is what reading the file has given.
* `Walk.asked?`: the name that the next step asks the loader for.
* `render_ofDirectory`: the renders come to the same, if all names that are asked for are plain paths.

A path that is not plain is what the two loaders may disagree on: no store resolves `./a` or `b/../a`.
-/

namespace Mustache

/-! ### Paths below a directory -/

/-- A path without empty segments, single dots and double dots. In particular it does not start with a
slash. -/
def IsPlainPath (path : String) : Prop :=
  ∀ segment ∈ path.toList.splitOn '/', segment ≠ [] ∧ segment ≠ ['.'] ∧ segment ≠ ['.', '.']

instance (path : String) : Decidable (IsPlainPath path) :=
  inferInstanceAs (Decidable (∀ segment ∈ path.toList.splitOn '/',
    segment ≠ [] ∧ segment ≠ ['.'] ∧ segment ≠ ['.', '.']))

theorem IsPlainPath.not_isAbsolute {path : String} (h : IsPlainPath path) :
    isAbsolute path = false := by
  unfold isAbsolute
  match hpath : path.toList with
  | [] => rfl
  | c :: cs =>
    -- Before a slash at the start there would be an empty segment.
    by_cases hc : c = '/'
    · subst hc
      have hsegment : [] ∈ path.toList.splitOn '/' := by
        rw [hpath, List.splitOn_eq_splitOnP, List.splitOnP_cons_eq_if_modifyHead, if_pos (by simp)]
        exact List.mem_cons_self
      exact absurd rfl (h [] hsegment).1
    · simp [hc]

/-- Below a directory a path has the directory in front. -/
theorem exists_joinPath (directory : String) :
    ∃ front, (front = directory ∨ front = directory ++ "/") ∧
      ∀ path, isAbsolute path = false → joinPath directory path = front ++ path := by
  by_cases hempty : directory.isEmpty = true
  · obtain rfl := String.isEmpty_iff.mp hempty
    refine ⟨"", .inl rfl, fun path hpath => ?_⟩
    rw [joinPath, hempty, Bool.or_true, if_pos rfl, String.empty_append]
  · by_cases hslash : (directory.toList.getLast? == some '/') = true
    · refine ⟨directory, .inl rfl, fun path hpath => ?_⟩
      simp [joinPath, hpath, hempty, hslash]
    · refine ⟨directory ++ "/", .inr rfl, fun path hpath => ?_⟩
      simp [joinPath, hpath, hempty, hslash]

/-- Different paths below a directory stay different. -/
theorem joinPath_inj {directory path path' : String} (hpath : isAbsolute path = false)
    (hpath' : isAbsolute path' = false) :
    joinPath directory path = joinPath directory path' ↔ path = path' := by
  obtain ⟨front, -, hfront⟩ := exists_joinPath directory
  rw [hfront path hpath, hfront path' hpath', String.append_right_inj]

/-! ### The same texts -/

/-- The directory holds the texts of the store as files, and no other file under a plain path. -/
structure Files.Holds (files : Files) (directory : String) (s : Store) : Prop where
  /-- Each text can be read. -/
  present : ∀ key text, s.get? key = some text → files (joinPath directory key) = .ok text.toUTF8
  /-- Nothing else can be read. -/
  absent : ∀ key, IsPlainPath key → s.get? key = none →
    ∃ cause, files (joinPath directory key) = .error cause

/-- The texts of a store as the only files below a directory. -/
def Store.filesBelow (s : Store) (directory : String) : Files := fun path =>
  match s.entries.find? fun entry => joinPath directory entry.1 == path with
  | some entry => .ok entry.2.toUTF8
  | none => .error .notFound

theorem find?_joinPath (directory : String) {key : String} (hkey : isAbsolute key = false)
    {entries : List (String × String)} (h : ∀ entry ∈ entries, IsPlainPath entry.1) :
    (entries.find? fun entry => joinPath directory entry.1 == joinPath directory key).map Prod.snd =
      entries.lookup key := by
  induction entries with
  | nil => rfl
  | cons entry entries ih =>
    obtain ⟨key', text⟩ := entry
    obtain ⟨hkey', hentries⟩ := List.forall_mem_cons.mp h
    have hjoin : joinPath directory key' = joinPath directory key ↔ key' = key :=
      joinPath_inj (IsPlainPath.not_isAbsolute hkey') hkey
    by_cases heq : key' = key
    · subst heq
      simp
    · have hne : (joinPath directory key' == joinPath directory key) = false :=
        beq_eq_false_iff_ne.mpr fun hpath => heq (hjoin.mp hpath)
      rw [List.find?_cons, hne, List.lookup_cons, beq_eq_false_iff_ne.mpr (Ne.symm heq)]
      exact ih hentries

/-- **Every set of texts under plain paths can be held by a directory.** -/
theorem Store.holds_filesBelow {s : Store} (directory : String)
    (h : ∀ entry ∈ s.entries, IsPlainPath entry.1) : (s.filesBelow directory).Holds directory s where
  present key text htext := by
    obtain ⟨before, behind, hentries, -⟩ := List.lookup_eq_some_iff.mp htext
    have hkey : IsPlainPath key :=
      h (key, text) (hentries ▸ List.mem_append_right before List.mem_cons_self)
    rw [get?, ← find?_joinPath directory hkey.not_isAbsolute h] at htext
    obtain ⟨entry, hfind, rfl⟩ := Option.map_eq_some_iff.mp htext
    rw [filesBelow, hfind]
  absent key hkey hnone := by
    rw [get?, ← find?_joinPath directory hkey.not_isAbsolute h,
      Option.map_eq_none_iff] at hnone
    exact ⟨.notFound, by rw [filesBelow, hnone]⟩

/-! ### Errors below a directory -/

/-- An error of a store as it is below a directory. -/
def LoadError.below (files : Files) (directory : String) : LoadError → LoadError
  | cannotOpen path _ =>
    cannotOpen (joinPath directory path) (match files (joinPath directory path) with
      | .error cause => some cause
      | .ok _ => none)
  | e => e

/-- An error of a render from a store as it is below a directory. Only what cannot be loaded is
different there. -/
def RenderError.below (files : Files) (directory : String) : RenderError → RenderError
  | load e => load (e.below files directory)
  | e => e

/-- A failure of a render from a store as it is below a directory. What has been written is the
same. -/
def RenderFailure.below (files : Files) (directory : String) (f : RenderFailure) : RenderFailure :=
  ⟨f.output, f.error.below files directory⟩

variable {files : Files} {directory : String} {s : Store} {options : Options}

theorem RenderError.below_of_kind {e : RenderError} (h : e.kind ≠ .resource) :
    e.below files directory = e := by
  cases e <;> first | rfl | exact absurd rfl h

/-- A file that holds a text is loaded as the text. -/
theorem Loader.ofDirectory_eq_ok {name extension text : String}
    (h : files (pathFor directory name extension) = .ok text.toUTF8) :
    Loader.ofDirectory files directory name extension = .ok text := by
  simp only [ofDirectory, h, Text.Utf8.decode_toUTF8]

/-- **Both loaders answer a plain path in the same way.** -/
theorem Files.Holds.load_eq (h : files.Holds directory s) {name extension : String}
    (hplain : IsPlainPath (fileName name extension)) :
    Loader.ofDirectory files directory name extension =
      (s.loader name extension).mapError (LoadError.below files directory) := by
  cases hkey : s.get? (fileName name extension) with
  | some text =>
    rw [Loader.ofDirectory_eq_ok (h.present _ _ hkey)]
    simp only [Store.loader, hkey, mapError_ok]
  | none =>
    obtain ⟨cause, hcause⟩ := h.absent _ hplain hkey
    simp only [Loader.ofDirectory, pathFor, hcause, Store.loader, hkey, mapError_error,
      LoadError.below]

/-! ### What a step asks for -/

namespace Walk

variable {r r' : Renderer} {w w' : Walk} {m : Marker} {reference file : String} {d : Nat}
  {tail : List Node}

/-- The name that the next step asks the loader for, if it comes so far. -/
def asked? (r : Renderer) (w : Walk) : Option String :=
  match w.tape.rest with
  | ⟨.marker m, depth⟩ :: ⟨.text reference, _⟩ :: ⟨.marker .close, _⟩ :: _ =>
    if m.opensPartial then
      Except.toOption do
        checkReference reference
        let file ← w.partialFile m (PartialReference.parse reference).file
        r.checkDepth file (depth + 1)
        return file
    else none
  | _ => none

/-- A partial that may come in is asked for. -/
theorem AtTag.asked?_eq (hm : m.opensPartial) (h : w.AtTag m reference d tail)
    (hreference : checkReference reference = .ok ())
    (hfile : w.partialFile m (PartialReference.parse reference).file = .ok file)
    (hdepth : r.checkDepth file (d + 1) = .ok ()) : w.asked? r = some file := by
  obtain ⟨d₂, d₃, hrest⟩ := h
  rw [Marker.closing_of_opensPartial hm] at hrest
  simp only [asked?, hrest, if_pos hm, hreference, hfile, ok_bind, hdepth]
  rfl

end Walk

/-- A renderer that loads from the store. -/
def Store.renderer (s : Store) (options : Options) : Renderer := ⟨s.loader, options⟩

/-- A renderer that loads from the files below the directory. -/
def Files.renderer (files : Files) (directory : String) (options : Options) : Renderer :=
  ⟨.ofDirectory files directory, options⟩

@[simp] theorem Store.options_renderer (s : Store) (options : Options) :
    (s.renderer options).options = options := rfl

@[simp] theorem Files.options_renderer (files : Files) (directory : String) (options : Options) :
    (files.renderer directory options).options = options := rfl

/-- A partial below the directory is the one in the store, or fails in the way that it fails
there. -/
theorem Files.Holds.partialTokens_eq (h : files.Holds directory s) {file : String}
    (hplain : IsPlainPath (fileName file options.partialExtension)) (parameters : List String) :
    (files.renderer directory options).partialTokens file parameters =
      ((s.renderer options).partialTokens file parameters).mapError
        (RenderError.below files directory) := by
  have hload : (files.renderer directory options).loader file options.partialExtension =
      ((s.renderer options).loader file options.partialExtension).mapError
        (LoadError.below files directory) := h.load_eq hplain
  simp only [Renderer.partialTokens, Files.options_renderer, Store.options_renderer, hload]
  cases (s.renderer options).loader file options.partialExtension with
  | error e => rfl
  | ok text =>
    -- What is wrong with the parameters has nothing to do with the loader.
    cases htable : BindingTable.parse parameters with
    | ok table => rfl
    | error e =>
      have he : e.below files directory = e :=
        RenderError.below_of_kind (by rw [BindingTable.kind_of_bindAll htable]; decide)
      simp [he]

namespace Walk

variable {w : Walk} {m : Marker} {reference : String} {d : Nat} {tail : List Node}

/-- The next step asks the loader for a plain path, if it asks for any. -/
def AsksPlain (r : Renderer) (w : Walk) : Prop :=
  ∀ file ∈ w.asked? r, IsPlainPath (fileName file r.options.partialExtension)

theorem AtTag.included_renderer (h : files.Holds directory s)
    (hplain : w.AsksPlain (s.renderer options)) (hm : m.opensPartial) (htag : w.AtTag m reference d tail)
    (hreference : checkReference reference = .ok ()) :
    w.included (files.renderer directory options) m d reference =
      (w.included (s.renderer options) m d reference).mapError
        (RenderError.below files directory) := by
  simp only [included_eq]
  cases hfile : w.partialFile m (PartialReference.parse reference).file with
  | error e =>
    have he : e.below files directory = e := by
      refine RenderError.below_of_kind ?_
      obtain ⟨-, hkind | hkind⟩ := kind_of_partialFile hfile <;> rw [hkind] <;> decide
    simp [he]
  | ok file =>
    cases hdepth : (s.renderer options).checkDepth file (d + 1) with
    | error e =>
      have he : e.below files directory = e :=
        RenderError.below_of_kind (by rw [Renderer.kind_of_checkDepth hdepth]; decide)
      have hdepth' : (files.renderer directory options).checkDepth file (d + 1) = .error e := hdepth
      simp [hdepth, hdepth', he]
    | ok u =>
      have hdepth' : (files.renderer directory options).checkDepth file (d + 1) = .ok u := hdepth
      have hpath : IsPlainPath (fileName file options.partialExtension) :=
        hplain file (htag.asked?_eq hm hreference hfile hdepth)
      rw [ok_bind, ok_bind, hdepth', hdepth, ok_bind, ok_bind, h.partialTokens_eq hpath]
      cases (s.renderer options).partialTokens file (PartialReference.parse reference).parameters
      <;> rfl

/-- **One step**: below the directory it goes on to the same walk, or fails in the way that it fails
there. -/
theorem step_renderer (h : files.Holds directory s) (hplain : w.AsksPlain (s.renderer options))
    (hspaced : Spaced (Node.tokens w.tape.rest)) :
    w.step (files.renderer directory options) =
      (w.step (s.renderer options)).mapError (RenderFailure.below files directory) := by
  by_cases htag : ∃ m reference d tail, m.opensPartial ∧ w.AtTag m reference d tail ∧
      checkReference reference = .ok ()
  · obtain ⟨m, reference, d, tail, hm, htag, hreference⟩ := htag
    rw [step_partial hm htag, step_partial hm htag, hreference,
      htag.included_renderer h hplain hm hreference]
    cases w.included (s.renderer options) m d reference <;> rfl
  -- Without such a tag, the loader has no part in the step and in its failure.
  · have hstep : w.step (files.renderer directory options) = w.step (s.renderer options) :=
      step_congr hspaced fun hm hat hreference =>
        absurd ⟨_, _, _, _, hm, hat, hreference⟩ htag
    rw [hstep]
    cases hf : w.step (s.renderer options) with
    | ok next? => rfl
    | error f =>
      have hkind : f.error.kind ≠ .resource := by
        intro hkind
        obtain ⟨m, reference, d, tail, hm, hat, hreference, -⟩ :=
          (halt_of_failure hspaced hf).exists_partial (by rw [hkind]; decide)
        exact htag ⟨m, reference, d, tail, hm, hat, hreference⟩
      have he : f.below files directory = f := by
        rw [RenderFailure.below, RenderError.below_of_kind hkind]
      rw [mapError_error, he]

/-- **A whole run.** -/
theorem run_renderer (h : files.Holds directory s) {template : String} {context : Value}
    (hw : Reaches (s.renderer options) (start template context) w)
    (hplain : ∀ u, Reaches (s.renderer options) w u → u.AsksPlain (s.renderer options)) :
    w.run (files.renderer directory options) =
      (w.run (s.renderer options)).mapError (RenderFailure.below files directory) := by
  -- The run from the store leads, and that below the directory follows it step by step.
  induction w using run.induct (s.renderer options) with
  | case1 w next hnext ih =>
    have hstep := step_renderer h (hplain w (.refl w)) (spaced_rest_of_reaches hw)
    rw [hnext] at hstep
    rw [run_of_next hnext, run_of_next hstep]
    exact ih (hw.tail hnext) fun u hu => hplain u (.head hnext hu)
  | case2 w hend =>
    have hstep := step_renderer h (hplain w (.refl w)) (spaced_rest_of_reaches hw)
    rw [hend] at hstep
    rw [run_of_end hend, run_of_end hstep]
    rfl
  | case3 w f hf =>
    have hstep := step_renderer h (hplain w (.refl w)) (spaced_rest_of_reaches hw)
    rw [hf] at hstep
    rw [run_of_failure hf, run_of_failure hstep]
    rfl

end Walk

/-! ### Renders -/

/-- A render of the template asks the loader for plain paths only. -/
def Renderer.AsksPlain (r : Renderer) (template : String) (context : Value) : Prop :=
  ∀ w, Walk.Reaches r (Walk.start template context) w → w.AsksPlain r

/-- A render of the view asks the loader for plain paths only: for the view, for the context document
if there is the view, and for what the template includes if both are there. -/
structure Renderer.FilesPlain (r : Renderer) (view context : String) : Prop where
  /-- The view. -/
  ofView : IsPlainPath (fileName view r.options.partialExtension)
  /-- The context document. -/
  ofContext : ∀ template, r.loader view r.options.partialExtension = .ok template →
    IsPlainPath (fileName context r.options.contextExtension)
  /-- The partials. -/
  ofPartials : ∀ template document value, r.loader view r.options.partialExtension = .ok template →
    r.loader context r.options.contextExtension = .ok document →
    Json.parse document = .ok value → r.AsksPlain template value

theorem Renderer.load_eq_ok_iff {r : Renderer} {name extension text : String} :
    r.load name extension = .ok text ↔ r.loader name extension = .ok text := by
  unfold load
  cases r.loader name extension <;> simp

theorem render_renderer (h : files.Holds directory s) {template : String} {context : Value}
    (hplain : (s.renderer options).AsksPlain template context) :
    (files.renderer directory options).render template context =
      ((s.renderer options).render template context).mapError (.below files directory) :=
  Walk.run_renderer h (.refl _) hplain

/-- What is loaded by itself fails before anything is written. -/
theorem load_renderer (h : files.Holds directory s) {name extension : String}
    (hplain : IsPlainPath (fileName name extension)) :
    (files.renderer directory options).load name extension =
      ((s.renderer options).load name extension).mapError (.below files directory) := by
  have hload : (files.renderer directory options).loader name extension =
      ((s.renderer options).loader name extension).mapError (.below files directory) :=
    h.load_eq hplain
  rw [Renderer.load, Renderer.load, hload]
  cases (s.renderer options).loader name extension <;> rfl

theorem renderJson_renderer (h : files.Holds directory s) {template document : String}
    (hplain : ∀ value, Json.parse document = .ok value →
      (s.renderer options).AsksPlain template value) :
    (files.renderer directory options).renderJson template document =
      ((s.renderer options).renderJson template document).mapError (.below files directory) := by
  unfold Renderer.renderJson
  cases hdocument : Json.parse document with
  | error e => rfl
  | ok value => exact render_renderer h (hplain value hdocument)

theorem renderFiles_renderer (h : files.Holds directory s) {view context : String}
    (hplain : (s.renderer options).FilesPlain view context) :
    (files.renderer directory options).renderFiles view context =
      ((s.renderer options).renderFiles view context).mapError (.below files directory) := by
  have hview : (files.renderer directory options).load view options.partialExtension =
      ((s.renderer options).load view options.partialExtension).mapError
        (.below files directory) := load_renderer h hplain.ofView
  simp only [Renderer.renderFiles, Files.options_renderer, Store.options_renderer]
  rw [hview]
  cases htemplate : (s.renderer options).load view options.partialExtension with
  | error f => rfl
  | ok template =>
    rw [Renderer.load_eq_ok_iff] at htemplate
    have hcontext : (files.renderer directory options).load context options.contextExtension =
        ((s.renderer options).load context options.contextExtension).mapError
          (.below files directory) := load_renderer h (hplain.ofContext template htemplate)
    rw [mapError_ok, ok_bind, ok_bind, hcontext]
    cases hdocument : (s.renderer options).load context options.contextExtension with
    | error f => rfl
    | ok document =>
      rw [Renderer.load_eq_ok_iff] at hdocument
      exact renderJson_renderer h fun value =>
        hplain.ofPartials template document value htemplate hdocument

/-- **A directory is as good as a store that holds the same texts.** If all that is asked for are plain
paths, a render from the one and a render from the other write the same, and both succeed or fail at
the same place for the same reason. Only what cannot be loaded is told in other words: the path has the
directory in front, and it comes with the cause that reading the file has given. -/
theorem render_ofDirectory (h : files.Holds directory s) (options : Options) :
    (∀ template context, (s.renderer options).AsksPlain template context →
      (files.renderer directory options).render template context =
        ((s.renderer options).render template context).mapError (.below files directory)) ∧
      (∀ view context, (s.renderer options).FilesPlain view context →
        (files.renderer directory options).renderFiles view context =
          ((s.renderer options).renderFiles view context).mapError (.below files directory)) ∧
      ∀ path, IsPlainPath path →
        joinPath directory path = directory ++ path ∨
          joinPath directory path = directory ++ "/" ++ path := by
  refine ⟨fun template context => render_renderer h, fun view context => renderFiles_renderer h,
    fun path hpath => ?_⟩
  obtain ⟨front, hfront, hjoin⟩ := exists_joinPath directory
  rw [hjoin path hpath.not_isAbsolute]
  exact hfront.imp (fun heq => by rw [heq]) fun heq => by rw [heq]

/-! ### A view with one partial missing -/

/-- A view that includes a partial that is there, and one that is not. -/
def halfThere : String := "\x7b\x7b>p\x7d\x7d\x7b\x7b>x\x7d\x7d"

/-- The view, a context document, and the partial that is there. -/
def halfStore : Store := ⟨[("v.mustache", halfThere), ("c.json", "\x7b\x7d"), ("p.mustache", "P")]⟩

theorem holds_halfStore : (halfStore.filesBelow ".").Holds "." halfStore :=
  Store.holds_filesBelow "." (by decide +kernel)

theorem render_halfThere : (halfStore.renderer {}).render halfThere (.object []) =
    .error ⟨"P", .load (.cannotOpen "x.mustache" none)⟩ :=
  Walk.run_eq_error_of_after (n := 4) (by decide +kernel)

theorem load_halfThere : (halfStore.renderer {}).loader "v" "mustache" = .ok halfThere := by
  decide +kernel

theorem load_halfContext : (halfStore.renderer {}).loader "c" "json" = .ok "\x7b\x7d" := by
  decide +kernel

theorem asksPlain_halfThere : (halfStore.renderer {}).AsksPlain halfThere (.object []) := by
  intro w hw file hfile
  obtain ⟨n, hn⟩ := Walk.exists_after_of_reaches hw
  -- There are four steps before the walk fails, and two of the walks ask for a partial.
  have hnone : (Walk.start halfThere (.object [])).after (halfStore.renderer {}) 5 = none := by
    rw [← Option.isNone_iff_eq_none]
    decide +kernel
  have hasked : ∀ n < 5, ∀ file ∈ (((Walk.start halfThere (.object [])).after
      (halfStore.renderer {}) n).bind (Walk.asked? (halfStore.renderer {}))).toList,
      IsPlainPath (fileName file "mustache") := by
    decide +kernel
  refine hasked n (Walk.lt_of_after_eq_none hn hnone) file ?_
  rw [hn, Option.bind_some, Option.mem_toList]
  exact hfile

theorem filesPlain_halfThere : (halfStore.renderer {}).FilesPlain "v" "c" where
  ofView := by decide +kernel
  ofContext _ _ := by decide +kernel
  ofPartials template document value htemplate hdocument hvalue := by
    obtain rfl := Except.ok.inj (htemplate.symm.trans load_halfThere)
    obtain rfl := Except.ok.inj (hdocument.symm.trans load_halfContext)
    obtain rfl := Except.ok.inj (hvalue.symm.trans Json.parse_emptyObject)
    exact asksPlain_halfThere

theorem renderFiles_halfStore : (halfStore.renderer {}).renderFiles "v" "c" =
    .error ⟨"P", .load (.cannotOpen "x.mustache" none)⟩ := by
  have hview : (halfStore.renderer {}).load "v" "mustache" = .ok halfThere :=
    Renderer.load_eq_ok_iff.mpr load_halfThere
  have hcontext : (halfStore.renderer {}).load "c" "json" = .ok "\x7b\x7d" :=
    Renderer.load_eq_ok_iff.mpr load_halfContext
  simp only [Renderer.renderFiles, Store.options_renderer, hview, hcontext, ok_bind,
    Renderer.renderJson, Json.parse_emptyObject, mapError_ok]
  exact render_halfThere

/-- Both kinds of renders of the view stop at the partial that is missing. -/
theorem renderFiles_halfThere :
    let r := (halfStore.filesBelow ".").renderer "." {}
    (halfStore.filesBelow ".").Holds "." halfStore ∧
      r.render halfThere (.object []) =
        .error ⟨"P", .load (.cannotOpen "./x.mustache" (some .notFound))⟩ ∧
      r.renderFiles "v" "c" =
        .error ⟨"P", .load (.cannotOpen "./x.mustache" (some .notFound))⟩ := by
  have hbelow : RenderFailure.below (halfStore.filesBelow ".") "."
      ⟨"P", .load (.cannotOpen "x.mustache" none)⟩ =
      ⟨"P", .load (.cannotOpen "./x.mustache" (some .notFound))⟩ := by
    decide +kernel
  obtain ⟨hrender, hfiles, -⟩ := render_ofDirectory holds_halfStore {}
  refine ⟨holds_halfStore, ?_, ?_⟩
  · rw [hrender halfThere (.object []) asksPlain_halfThere, render_halfThere, mapError_error, hbelow]
  · rw [hfiles "v" "c" filesPlain_halfThere, renderFiles_halfStore, mapError_error, hbelow]

/-- A failure with the directory in front of the path, and no other cause than before. -/
def RenderFailure.inFront (directory : String) (f : RenderFailure) : RenderFailure :=
  ⟨f.output, match f.error with
    | .load (.cannotOpen path cause) => .load (.cannotOpen (joinPath directory path) cause)
    | e => e⟩

/-- More than the path is different below a directory, since a store knows no cause. -/
theorem not_only_path : ¬ ∀ files directory s options template context,
    Files.Holds files directory s → (s.renderer options).AsksPlain template context →
      (files.renderer directory options).render template context =
        ((s.renderer options).render template context).mapError (.inFront directory) := by
  intro h
  have heq := h _ "." halfStore {} halfThere (.object []) holds_halfStore asksPlain_halfThere
  have hfiles : ((halfStore.filesBelow ".").renderer "." {}).render halfThere (.object []) =
      .error ⟨"P", .load (.cannotOpen "./x.mustache" (some .notFound))⟩ :=
    Walk.run_eq_error_of_after (n := 4) (by decide +kernel)
  rw [hfiles, render_halfThere] at heq
  exact absurd heq (by decide +kernel)

end Mustache
