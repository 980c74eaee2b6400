import Mustache.Command.Run
import Mustache.Proofs.CommandLine
import Mustache.Proofs.Directory
/-!
# The ways to ask for a render

A template and its context can be given by name or as they are, and the context by the path of its
file, too. Each of these commands loads and parses in an order of its own and has its own words for
what goes wrong. What it writes to its output and its exit code are those of one and the same render.

* `HasContext files r view context text`: the context that is chosen for a view has this text.
* `Outcome.Tells`: an outcome has the output of a render, and its exit code says whether it succeeds.
* `tells_runRender`: what becomes of a render, whichever way it is asked for.
* `entry_paths_agree`: the same for the arguments of the commands, and for measurements.

The path of a context file is relative to the working directory, and not to the directory of the view
(`not_context_file_in_base`).
-/

namespace Mustache

variable {files : Files} {r : Renderer} {source : Source} {view : View} {context : ContextChoice}

/-! ### Files that hold texts -/

theorem Source.loader_renderer (h : source.renderer files = .ok r) :
    r.loader = Loader.ofDirectory files source.base := by
  obtain ⟨options, -, hr⟩ := Walk.bind_eq_ok_iff.mp h
  rw [← Except.ok.inj hr]

theorem Files.readText_eq_ok {path text : String} (h : files path = .ok text.toUTF8) :
    files.readText path = .ok text := by
  rw [readText, h, ok_bind, Text.Utf8.decode_toUTF8]
  rfl

/-- The path of a JSON document ends as its name does. -/
theorem exists_pathFor_json (directory name : String) :
    ∃ front, (pathFor directory name "json").toList = front ++ ".json".toList := by
  have hname : fileName name "json" = name ++ ".json" := String.append_assoc
  unfold pathFor joinPath
  rw [hname]
  split
  · exact ⟨name.toList, by simp⟩
  · split
    · exact ⟨directory.toList ++ name.toList, by simp⟩
    · exact ⟨directory.toList ++ ['/'] ++ name.toList, by simp⟩

/-- Such a path is not that of a YAML document. -/
theorem isYaml_pathFor (directory name : String) : isYaml (pathFor directory name "json") = false := by
  obtain ⟨front, hpath⟩ := exists_pathFor_json directory name
  have hreverse : (pathFor directory name "json").toList.reverse =
      'n' :: 'o' :: 's' :: 'j' :: '.' :: front.reverse := by
    rw [hpath, List.reverse_append]
    rfl
  have hextension : extension? (pathFor directory name "json") = none ∨
      extension? (pathFor directory name "json") = some "json" := by
    unfold extension?
    rw [hreverse]
    -- A name that is nothing but the extension has none.
    exact ite_eq_or_eq _ _ _
  obtain hextension | hextension := hextension <;> rw [isYaml, hextension] <;> rfl

theorem pathFor_ne_empty (directory name : String) : pathFor directory name "json" ≠ "" := by
  obtain ⟨front, hpath⟩ := exists_pathFor_json directory name
  intro hempty
  simp [hempty] at hpath

/-! ### What an outcome tells of a render -/

/-- The output is that of the render, and the exit code says whether the render succeeds. -/
structure Outcome.Tells (o : Outcome) (result : Except RenderFailure String) : Prop where
  /-- What is written, complete or up to the error. -/
  output : ∀ time, o.output time = written result
  /-- Zero for success, and one for an error. -/
  exitCode : o.exitCode = if result.isOk then 0 else 1

namespace Command

theorem tells_rendered (view : View) (result : Except RenderFailure String) :
    (rendered view result).Tells result := by
  cases result with
  | ok text => exact ⟨fun _ => rfl, rfl⟩
  | error f => exact ⟨fun _ => rfl, rfl⟩

theorem tells_renderView {template : String} (hview : view.template r = .ok template)
    (value : Value) : (renderView r view value).Tells (r.render template value) := by
  rw [renderView, hview]
  exact tells_rendered view _

theorem template_named_eq_ok_iff {name template : String} :
    (View.named name).template r = .ok template ↔
      r.loader name r.options.partialExtension = .ok template := by
  rw [View.template]
  cases r.loader name r.options.partialExtension <;> simp

/-- The context that is chosen for a view has the text. -/
inductive HasContext (files : Files) (r : Renderer) : View → ContextChoice → String → Prop where
  /-- For a template that is given itself, the text is given itself. -/
  | inline (template text : String) : HasContext files r (.inline template) (.document text) text
  /-- For a template with a name, it is loaded as the template is. -/
  | named (view : String) {name text : String}
    (h : r.loader name r.options.contextExtension = .ok text) :
    HasContext files r (.named view) (.document name) text
  /-- It is read from a file. -/
  | file (view : View) {path text : String} (h : files.readText path = .ok text)
    (hjson : isYaml path = false) : HasContext files r view (.file path) text
  /-- No context is an object without fields. -/
  | empty (view : View) : HasContext files r view .empty "\x7b\x7d"

/-- **Whichever way a render is asked for, it is the same render.** -/
theorem tells_runRender {template text : String} (hview : view.template r = .ok template)
    (hcontext : HasContext files r view context text) :
    (runRender files r view context).Tells (r.renderJson template text) := by
  cases hcontext with
  | inline template' text =>
    obtain rfl := Except.ok.inj hview
    exact tells_rendered _ _
  | @named view name text h =>
    have hload : r.load view r.options.partialExtension = .ok template := by
      rw [Renderer.load_eq_ok_iff]
      exact template_named_eq_ok_iff.mp hview
    have hfiles : r.renderFiles view name = r.renderJson template text := by
      rw [Renderer.renderFiles, hload, ok_bind, Renderer.load_eq_ok_iff.mpr h, ok_bind]
    exact hfiles ▸ tells_rendered _ _
  | @file view path text h hjson =>
    have hread : readContext files path = (Json.parse text).mapError (.contextFileJson path) := by
      rw [readContext, h, mapError_ok, ok_bind, hjson, if_neg Bool.false_ne_true]
    rw [runRender, hread, Renderer.renderJson]
    cases Json.parse text with
    | error e => exact ⟨fun _ => rfl, rfl⟩
    | ok value => exact tells_renderView hview value
  | empty view =>
    rw [Renderer.renderJson, Json.parse_emptyObject]
    exact tells_renderView hview _

/-- The name of the context document as a choice of the context. -/
def contextOf (context? : Option String) : ContextChoice :=
  context?.elim .empty .document

/-- A measurement reads the same context, with its own words for what goes wrong. -/
theorem runBench_eq {name template text : String} {context? : Option String} (n : Nat)
    (hview : r.loader name r.options.partialExtension = .ok template)
    (hcontext : HasContext files r (.named name) (contextOf context?) text) :
    ∃ syntaxError : Json.Error → CommandError, runBench r name context? n = do
      let value ← (Json.parse text).mapError syntaxError
      let output ← (r.render template value).mapError fun f => .measuredRender name f.error
      return .timing n name output.utf8ByteSize := by
  have htemplate : (View.named name).template r = .ok template :=
    template_named_eq_ok_iff.mpr hview
  cases context? with
  | none =>
    cases hcontext with
    | empty =>
      refine ⟨.contextSyntax "", ?_⟩
      rw [runBench, htemplate, Json.parse_emptyObject]
      rfl
  | some document =>
    cases hcontext with
    | named _ h =>
      refine ⟨.contextSyntax document, ?_⟩
      simp only [runBench, htemplate, ok_bind, loadContext, h, mapError_ok]

/-- **A measurement succeeds exactly if the render does**, and counts the bytes of its output. -/
theorem ofExcept_runBench {name template text : String} {context? : Option String} (n : Nat)
    (hview : r.loader name r.options.partialExtension = .ok template)
    (hcontext : HasContext files r (.named name) (contextOf context?) text) :
    (∀ output, r.renderJson template text = .ok output →
        runBench r name context? n = .ok (.timing n name output.utf8ByteSize)) ∧
      ∀ f, r.renderJson template text = .error f → ∃ e, runBench r name context? n = .error e := by
  obtain ⟨syntaxError, hbench⟩ := runBench_eq n hview hcontext
  rw [hbench, Renderer.renderJson]
  cases Json.parse text with
  | error e =>
    refine ⟨fun output h => ?_, fun f _ => ⟨_, rfl⟩⟩
    cases h
  | ok value =>
    simp only [mapError_ok, ok_bind]
    cases r.render template value with
    | error f =>
      refine ⟨fun output h => ?_, fun f _ => ⟨_, rfl⟩⟩
      cases h
    | ok output =>
      refine ⟨fun output' h => ?_, fun f h => ?_⟩
      · obtain rfl := Except.ok.inj h
        rfl
      · cases h

/-! ### Arguments -/

variable {settings : List (Setting × String)} {template text directory : String}

theorem runArguments_render (hsettings : IsSourceChoice settings)
    (hr : (sourceOf settings).renderer files = .ok r)
    (hview : (viewText view).toList.head? ≠ some '-')
    (hcontext : ∀ text ∈ contextText? context, text.toList.head? ≠ some '-')
    (hpath : ∀ path, context = .file path → path ≠ "") :
    runArguments files (renderArguments view context settings) = runRender files r view context := by
  rw [runArguments, ofArguments?_render hsettings hview hcontext hpath]
  simp only [run, hr]

theorem runArguments_bench {name runs : String} {context? : Option String} {n : Nat}
    (hsettings : IsSourceChoice settings) (hr : (sourceOf settings).renderer files = .ok r)
    (hview : name.toList.head? ≠ some '-')
    (hcontext : ∀ text ∈ context?, text.toList.head? ≠ some '-')
    (hruns : runs? runs = some n) (hn : n ≠ 0) :
    runArguments files (benchArguments name context? runs settings) =
      .ofExcept (runBench r name context? n) := by
  rw [runArguments, ofArguments?_bench hsettings hview hcontext hruns hn]
  simp only [run, if_neg hn, hr]
  rfl

theorem tells_runArguments (hsettings : IsSourceChoice settings)
    (hr : (sourceOf settings).renderer files = .ok r)
    (hviewPlain : (viewText view).toList.head? ≠ some '-')
    (hcontextPlain : ∀ text ∈ contextText? context, text.toList.head? ≠ some '-')
    (hpath : ∀ path, context = .file path → path ≠ "")
    (hview : view.template r = .ok template) (hcontext : HasContext files r view context text) :
    (runArguments files (renderArguments view context settings)).Tells
      (r.renderJson template text) := by
  rw [runArguments_render hsettings hr hviewPlain hcontextPlain hpath]
  exact tells_runRender hview hcontext

/-- A measurement and the render that it measures. -/
theorem bench_agrees {name runs : String} {context? : Option String} {n : Nat}
    (hsettings : IsSourceChoice settings) (hr : (sourceOf settings).renderer files = .ok r)
    (hname : name.toList.head? ≠ some '-')
    (hplain : ∀ text ∈ context?, text.toList.head? ≠ some '-')
    (hview : r.loader name r.options.partialExtension = .ok template)
    (hcontext : HasContext files r (.named name) (contextOf context?) text)
    (hruns : runs? runs = some n) (hn : n ≠ 0) :
    ((runArguments files (benchArguments name context? runs settings)).exitCode = 0 ↔
        (runArguments files (renderArguments (.named name) (contextOf context?) settings)).exitCode =
          0) ∧
      ∀ output, runArguments files (renderArguments (.named name) (contextOf context?) settings) =
          .success (.text output) →
        runArguments files (benchArguments name context? runs settings) =
          .success (.timing n name output.utf8ByteSize) := by
  have hbench := runArguments_bench hsettings hr hname hplain hruns hn
  have hrender : runArguments files (renderArguments (.named name) (contextOf context?) settings) =
      runRender files r (.named name) (contextOf context?) := by
    refine runArguments_render hsettings hr hname ?_ ?_ <;> cases context?
    · nofun
    · exact hplain
    · nofun
    · nofun
  have htells := tells_runRender (template_named_eq_ok_iff.mpr hview) hcontext
  obtain ⟨hok, herror⟩ := ofExcept_runBench n hview hcontext
  rw [hbench, hrender]
  -- Both exit codes follow from what becomes of the render.
  cases hresult : r.renderJson template text with
  | error f =>
    obtain ⟨e, he⟩ := herror f hresult
    have hcode : (runRender files r (.named name) (contextOf context?)).exitCode = 1 := by
      rw [htells.exitCode, hresult]
      rfl
    rw [he, hcode]
    refine ⟨Iff.rfl, fun output houtput => ?_⟩
    rw [houtput] at hcode
    exact absurd hcode Nat.zero_ne_one
  | ok output =>
    have hcode : (runRender files r (.named name) (contextOf context?)).exitCode = 0 := by
      rw [htells.exitCode, hresult]
      rfl
    rw [hok output hresult, hcode]
    refine ⟨Iff.rfl, fun output' houtput => ?_⟩
    -- What the render has written is its output.
    have hwritten := htells.output ""
    rw [houtput, hresult] at hwritten
    obtain rfl : output' = output := hwritten
    rfl

/-- **All ways to ask for a render agree.** Given are options of the source, with the view and the
context document in their directory, and the path of the document.

* By name and by text, with the context by name, by text or by its path, the program writes what the
  render writes, complete or up to its error, and nothing if the context is not JSON. It exits with
  zero if the render succeeds, and with one otherwise.
* Without a context it does the same as for an object without fields.
* A measurement exits with zero exactly if the render by name does, and counts the bytes of its
  output. -/
theorem entry_paths_agree {view context : String} (hsettings : IsSourceChoice settings)
    (hr : (sourceOf settings).renderer files = .ok r) (hjson : r.options.contextExtension = "json")
    (hview : files (pathFor (sourceOf settings).base view r.options.partialExtension) =
      .ok template.toUTF8)
    (hcontext : files (pathFor (sourceOf settings).base context "json") = .ok text.toUTF8)
    (hpath : files (pathFor directory context "json") = .ok text.toUTF8)
    (hplain : ∀ argument ∈ [view, context, template, text, pathFor directory context "json"],
      argument.toList.head? ≠ some '-') :
    (∀ p ∈ [(View.named view, ContextChoice.document context), (.inline template, .document text),
        (.named view, .file (pathFor directory context "json")),
        (.inline template, .file (pathFor directory context "json"))],
      (runArguments files (renderArguments p.1 p.2 settings)).Tells (r.renderJson template text)) ∧
      (∀ v ∈ [View.named view, .inline template],
        (runArguments files (renderArguments v .empty settings)).Tells
          (r.renderJson template "\x7b\x7d")) ∧
      ∀ context? ∈ [some context, none], ∀ runs n, runs? runs = some n → 1 ≤ n →
        ((runArguments files (benchArguments view context? runs settings)).exitCode = 0 ↔
          (runArguments files
            (renderArguments (.named view) (contextOf context?) settings)).exitCode = 0) ∧
        ∀ output, runArguments files (renderArguments (.named view) (contextOf context?) settings) =
            .success (.text output) →
          runArguments files (benchArguments view context? runs settings) =
            .success (.timing n view output.utf8ByteSize) := by
  simp only [List.forall_mem_cons, List.not_mem_nil, false_imp_iff, implies_true, and_true] at hplain
  obtain ⟨hviewPlain, hcontextPlain, htemplatePlain, htextPlain, hpathPlain⟩ := hplain
  have hloader := Source.loader_renderer hr
  have hload : r.loader view r.options.partialExtension = .ok template := by
    rw [hloader]
    exact Loader.ofDirectory_eq_ok hview
  have hdocument : r.loader context r.options.contextExtension = .ok text := by
    rw [hloader, hjson]
    exact Loader.ofDirectory_eq_ok hcontext
  have hnamed : (View.named view).template r = .ok template := template_named_eq_ok_iff.mpr hload
  have hfile (v : View) : HasContext files r v (.file (pathFor directory context "json")) text :=
    .file v (Files.readText_eq_ok hpath) (isYaml_pathFor directory context)
  have hpathPlain : ∀ text ∈ contextText? (.file (pathFor directory context "json")),
      text.toList.head? ≠ some '-' := by
    rintro text ⟨⟩
    exact hpathPlain
  have hne (path : String) (h : ContextChoice.file (pathFor directory context "json") = .file path) :
      path ≠ "" := by
    obtain rfl := ContextChoice.file.inj h
    exact pathFor_ne_empty directory context
  refine ⟨?_, ?_, fun context? hmem runs n hruns hn => ?_⟩
  · simp only [List.forall_mem_cons, List.not_mem_nil, false_imp_iff, implies_true, and_true]
    refine ⟨?_, ?_, ?_, ?_⟩
    · exact tells_runArguments hsettings hr hviewPlain (by rintro _ ⟨⟩; exact hcontextPlain) nofun
        hnamed (.named view hdocument)
    · exact tells_runArguments hsettings hr htemplatePlain (by rintro _ ⟨⟩; exact htextPlain) nofun
        rfl (.inline template text)
    · exact tells_runArguments hsettings hr hviewPlain hpathPlain hne hnamed (hfile _)
    · exact tells_runArguments hsettings hr htemplatePlain hpathPlain hne rfl (hfile _)
  · simp only [List.forall_mem_cons, List.not_mem_nil, false_imp_iff, implies_true, and_true]
    exact ⟨tells_runArguments hsettings hr hviewPlain nofun nofun hnamed (.empty _),
      tells_runArguments hsettings hr htemplatePlain nofun nofun rfl (.empty _)⟩
  · have hn : n ≠ 0 := Nat.pos_iff_ne_zero.mp hn
    simp only [List.mem_cons, List.not_mem_nil, or_false] at hmem
    obtain rfl | rfl := hmem
    · exact bench_agrees hsettings hr hviewPlain (by rintro _ ⟨⟩; exact hcontextPlain) hload
        (.named view hdocument) hruns hn
    · exact bench_agrees hsettings hr hviewPlain nofun hload (.empty _) hruns hn

/-! ### A directory below the working directory -/

/-- The view and the context document, in a directory below the working directory. -/
def filesInSub : Files :=
  (Store.mk [("v.mustache", "é"), ("c.json", "\x7b\x7d")]).filesBelow "sub"

/-- The option that names the directory. -/
def baseSub : List (Setting × String) := [(.base, "sub")]

theorem isSourceChoice_baseSub : IsSourceChoice baseSub where
  nodup := by decide
  known := by decide
  plain := by decide +kernel
  accepted := by decide +kernel

theorem renderer_baseSub :
    (sourceOf baseSub).renderer filesInSub = .ok (filesInSub.renderer "sub" {}) := rfl

theorem view_inSub : filesInSub (pathFor "sub" "v" "mustache") = .ok "é".toUTF8 := rfl

theorem context_inSub : filesInSub (pathFor "sub" "c" "json") = .ok "\x7b\x7d".toUTF8 := rfl

theorem renderJson_inSub :
    (filesInSub.renderer "sub" {}).renderJson "é" "\x7b\x7d" = .ok "é" := by
  rw [Renderer.renderJson, Json.parse_emptyObject]
  exact Walk.run_eq_of_after (n := 1) (by decide +kernel)

/-- With the path of the context document given as it is from the working directory, a render of the
text and a measurement of the view succeed as the render by names does. -/
theorem outcomes_inSub :
    (∀ time, (runArguments filesInSub
        ["render", "--inline", "é", "--context-file", "sub/c.json", "--base", "sub"]).output time =
        "é") ∧
      (runArguments filesInSub ["render", "v", "c", "--base", "sub"]).exitCode = 0 ∧
      (runArguments filesInSub ["bench", "v", "c", "--runs", "3", "--base", "sub"]).exitCode = 0 := by
  have hplain : ∀ argument ∈ ["v", "c", "é", "\x7b\x7d", pathFor "sub" "c" "json"],
      argument.toList.head? ≠ some '-' := by
    decide +kernel
  obtain ⟨hrenders, -, hbench⟩ := entry_paths_agree isSourceChoice_baseSub renderer_baseSub rfl
    view_inSub context_inSub context_inSub hplain
  have hinline := (hrenders (.inline "é", .file (pathFor "sub" "c" "json")) (by simp)).output
  have hnamed := (hrenders (.named "v", .document "c") (by simp)).exitCode
  rw [renderJson_inSub] at hinline hnamed
  exact ⟨hinline, hnamed,
    (hbench (some "c") (by simp) "3" 3 (by decide +kernel) (by decide)).1.mpr hnamed⟩

/-- The path of a context file is not relative to the directory of the view. -/
theorem not_context_file_in_base :
    ¬ ∀ (files : Files) (settings : List (Setting × String)) (r : Renderer)
        (view context template text : String), IsSourceChoice settings →
      (sourceOf settings).renderer files = .ok r → r.options.contextExtension = "json" →
      files (pathFor (sourceOf settings).base view r.options.partialExtension) =
        .ok template.toUTF8 →
      files (pathFor (sourceOf settings).base context "json") = .ok text.toUTF8 →
      (∀ argument ∈ [view, context, template, text, fileName context "json"],
        argument.toList.head? ≠ some '-') →
      (runArguments files
          (renderArguments (.named view) (.file (fileName context "json")) settings)).exitCode =
        (runArguments files (renderArguments (.named view) (.document context) settings)).exitCode := by
  intro h
  have heq := h filesInSub baseSub _ "v" "c" "é" "\x7b\x7d" isSourceChoice_baseSub renderer_baseSub
    rfl view_inSub context_inSub (by decide +kernel)
  have hfile : (runArguments filesInSub
      (renderArguments (.named "v") (.file (fileName "c" "json")) baseSub)).exitCode = 1 := by
    decide +kernel
  have hview : (View.named "v").template (filesInSub.renderer "sub" {}) = .ok "é" :=
    template_named_eq_ok_iff.mpr (Loader.ofDirectory_eq_ok view_inSub)
  have hcontext : HasContext filesInSub (filesInSub.renderer "sub" {}) (.named "v") (.document "c")
      "\x7b\x7d" := .named "v" (Loader.ofDirectory_eq_ok context_inSub)
  have hpath : ∀ path, ContextChoice.document "c" = .file path → path ≠ "" := nofun
  have hdocument := (tells_runArguments isSourceChoice_baseSub renderer_baseSub (by decide)
    (by rintro _ ⟨⟩; decide) hpath hview hcontext).exitCode
  rw [renderJson_inSub] at hdocument
  rw [hfile, hdocument] at heq
  exact absurd heq (by decide)

end Command

end Mustache
