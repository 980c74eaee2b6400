import Mustache.Command.Arguments
import Mustache.Proofs.Run
/-!
# Arguments as they are written

Arguments are read one after another, and each has its effect on what has been read before. This file
says what that effect is for each kind of argument, so that the command that some arguments make comes
out by going through them from the left.

* `readArguments_plain`, `readArguments_inline`, `readArguments_setting`: one equation for each kind
  of argument that a command takes.
* `spell settings` writes options with their values, and `readArguments_spell` reads them back.
* `ofArguments?_render`, `ofArguments?_bench`: the command that comes of it.
-/

namespace Mustache.Command

/-! ### One argument after another -/

section

variable {kind : Kind} {a : Arguments} {argument value : String} {setting : Setting}
  {rest : List String}

theorem readArguments_plain (h : Shape.of argument = .plain)
    (hroom : a.positional.length < kind.arity) :
    readArguments kind a (argument :: rest) =
      readArguments kind { a with positional := a.positional ++ [argument] } rest := by
  rw [readArguments, h]
  simp only [Arguments.addPositional, if_pos hroom, ok_bind]

theorem readArguments_inline (hkind : kind ≠ .bench) (ha : a.inline = false) :
    readArguments kind a ("--inline" :: rest) =
      readArguments kind { a with inline := true } rest := by
  have hshape : Shape.of "--inline" = .long "inline" none := by decide +kernel
  rw [readArguments, hshape]
  simp [Arguments.addInline, hkind, ha]

/-- The name of an option with a value. -/
def Setting.name : Setting → String
  | base => "base"
  | extension => "ext"
  | config => "config"
  | contextFile => "context-file"
  | runs => "runs"

/-- The argument that announces the value of an option. -/
def Setting.flag (setting : Setting) : String := "--" ++ setting.name

theorem Shape.of_flag (setting : Setting) : Shape.of setting.flag = .long setting.name none := by
  cases setting <;> decide +kernel

theorem readArguments_setting (hkind : Setting.ofName? kind setting.name = some setting)
    (hvalue : Shape.of value = .plain) (hnew : a.get? setting = none)
    (haccepts : setting.accepts value = true) :
    readArguments kind a (setting.flag :: value :: rest) =
      readArguments kind { a with settings := a.settings ++ [(setting, value)] } rest := by
  have hadd : a.addSetting setting value =
      .ok { a with settings := a.settings ++ [(setting, value)] } := by
    simp [Arguments.addSetting, hnew, haccepts]
  rw [readArguments, Shape.of_flag]
  cases setting <;> simp_all [Setting.name]

/-! ### Options with values -/

/-- Options as they are written, each with its value behind it. -/
def spell (settings : List (Setting × String)) : List String :=
  settings.flatMap fun s => [s.1.flag, s.2]

/-- A command takes the options: it has each of them, none is given twice, and the values are accepted
and cannot be taken for options. -/
structure Takes (kind : Kind) (settings : List (Setting × String)) : Prop where
  /-- None is given twice. -/
  nodup : (settings.map Prod.fst).Nodup
  /-- The command has the options. -/
  known : ∀ s ∈ settings, Setting.ofName? kind s.1.name = some s.1
  /-- The values do not look like options. -/
  plain : ∀ s ∈ settings, Shape.of s.2 = .plain
  /-- The values are accepted. -/
  accepted : ∀ s ∈ settings, s.1.accepts s.2 = true

/-- **What is written is read back.** -/
theorem readArguments_spell {settings : List (Setting × String)} (h : Takes kind settings)
    (hnew : ∀ s ∈ settings, a.get? s.1 = none) :
    readArguments kind a (spell settings) =
      .ok { a with settings := a.settings ++ settings } := by
  induction settings generalizing a with
  | nil => simp [spell, readArguments]
  | cons s settings ih =>
    obtain ⟨hs, hnodup⟩ := List.nodup_cons.mp h.nodup
    obtain ⟨hknown, hknowns⟩ := List.forall_mem_cons.mp h.known
    obtain ⟨hplain, hplains⟩ := List.forall_mem_cons.mp h.plain
    obtain ⟨haccepts, haccepted⟩ := List.forall_mem_cons.mp h.accepted
    obtain ⟨hnew, hnews⟩ := List.forall_mem_cons.mp hnew
    -- The first option is read, and the others go on from there.
    have hspell : spell (s :: settings) = s.1.flag :: s.2 :: spell settings := rfl
    rw [hspell, readArguments_setting hknown hplain hnew haccepts,
      ih ⟨hnodup, hknowns, hplains, haccepted⟩, List.append_assoc]
    · rfl
    · -- The option that has just been read is none of those to come.
      intro s' hs'
      have hne : s'.1 ≠ s.1 := fun heq => hs (heq ▸ List.mem_map_of_mem hs')
      have hold : a.settings.lookup s'.1 = none := hnews s' hs'
      have hlast : [s].lookup s'.1 = none := by
        rw [List.lookup_cons, beq_eq_false_iff_ne.mpr hne]
        rfl
      exact (List.lookup_append ..).trans (by rw [hold, hlast]; rfl)

end

/-! ### Commands -/

/-- The options say where templates come from. These are the options that a listing of tokens takes,
and all other commands take them, too. -/
def IsSourceChoice (settings : List (Setting × String)) : Prop := Takes .tokens settings

/-- The source that the options stand for. -/
def sourceOf (settings : List (Setting × String)) : Source :=
  ({ settings } : Arguments).source

/-- The arguments for a view. -/
def viewArguments : View → List String
  | .named name => [name]
  | .inline text => ["--inline", text]

/-- The positional argument for a context, if there is one. -/
def contextArguments : ContextChoice → List String
  | .document text => [text]
  | _ => []

/-- The option for a context, if there is one. -/
def contextSettings : ContextChoice → List (Setting × String)
  | .file path => [(.contextFile, path)]
  | _ => []

/-- The arguments for a render. -/
def renderArguments (view : View) (context : ContextChoice) (settings : List (Setting × String)) :
    List String :=
  "render" :: viewArguments view ++ contextArguments context ++
    spell (contextSettings context ++ settings)

/-- The arguments for a measurement. -/
def benchArguments (view : String) (context? : Option String) (runs : String)
    (settings : List (Setting × String)) : List String :=
  "bench" :: view :: context?.toList ++ spell ((.runs, runs) :: settings)

example (template path base : String) :
    renderArguments (.inline template) (.file path) [(.base, base)] =
      ["render", "--inline", template, "--context-file", path, "--base", base] := rfl

/-- The text of a view, as its argument. -/
def viewText : View → String
  | .named name => name
  | .inline text => text

/-- Whether a view is given itself. -/
def isInline : View → Bool
  | .named _ => false
  | .inline _ => true

/-- The text of a context, as its argument. -/
def contextText? : ContextChoice → Option String
  | .empty => none
  | .document text => some text
  | .file path => some path

variable {settings : List (Setting × String)} {view : View} {context : ContextChoice}

/-- What does not begin with a dash is no option. -/
theorem Shape.of_eq_plain {argument : String} (h : argument.toList.head? ≠ some '-') :
    Shape.of argument = .plain := by
  unfold Shape.of
  match hchars : argument.toList with
  | [] => rfl
  | c :: cs =>
    rw [hchars, List.head?_cons, ne_eq, Option.some.injEq] at h
    unfold Shape.ofChars
    split <;> simp_all

theorem IsSourceChoice.takes (h : IsSourceChoice settings) (kind : Kind) : Takes kind settings where
  nodup := h.nodup
  known s hs := by
    have hknown := h.known s hs
    generalize s.1 = setting at hknown
    cases setting <;> first | rfl | exact absurd hknown (by decide)
  plain := h.plain
  accepted := h.accepted

theorem IsSourceChoice.ne (h : IsSourceChoice settings) {s : Setting × String} (hs : s ∈ settings) :
    s.1 ≠ .contextFile ∧ s.1 ≠ .runs := by
  have hknown := h.known s hs
  generalize s.1 = setting at hknown
  cases setting <;> first | decide | exact absurd hknown (by decide)

/-- The options of a render with those about its context in front. -/
theorem IsSourceChoice.takes_render (h : IsSourceChoice settings)
    (hplain : ∀ text ∈ contextText? context, text.toList.head? ≠ some '-')
    (hpath : ∀ path, context = .file path → path ≠ "") :
    Takes .render (contextSettings context ++ settings) := by
  cases context with
  | empty | document text => exact h.takes .render
  | file path =>
    have hpath : path.isEmpty = false := by simpa using hpath path rfl
    refine ⟨List.nodup_cons.mpr ⟨?_, h.nodup⟩, List.forall_mem_cons.mpr ⟨rfl, (h.takes .render).known⟩,
      List.forall_mem_cons.mpr ⟨Shape.of_eq_plain (hplain path rfl), h.plain⟩,
      List.forall_mem_cons.mpr ⟨?_, h.accepted⟩⟩
    · rw [List.mem_map]
      rintro ⟨s, hs, heq⟩
      exact (h.ne hs).1 heq
    · simp [Setting.accepts, hpath]

/-- The kind of a command comes first. -/
theorem readCommand_kind {word : String} {kind : Kind} (hshape : Shape.of word = .plain)
    (hhelp : word ≠ "help") (hkind : Kind.ofString? word = some kind) (rest : List String) :
    readCommand (word :: rest) = readArguments kind {} rest >>= ofParts kind := by
  rw [readCommand, hshape]
  simp [hhelp, hkind]

theorem readArguments_view (hview : (viewText view).toList.head? ≠ some '-')
    (rest : List String) : readArguments .render {} (viewArguments view ++ rest) =
      readArguments .render { positional := [viewText view], inline := isInline view } rest := by
  have hshape := Shape.of_eq_plain hview
  cases view with
  | named name => exact readArguments_plain hshape (by decide)
  | inline text =>
    refine (readArguments_inline (by decide) rfl).trans ?_
    exact readArguments_plain hshape Nat.two_pos

theorem readArguments_context {a : Arguments} (ha : a.positional.length = 1)
    (hcontext : ∀ text ∈ contextText? context, text.toList.head? ≠ some '-')
    (rest : List String) : readArguments .render a (contextArguments context ++ rest) =
      readArguments .render
        { a with positional := a.positional ++ contextArguments context } rest := by
  cases context with
  | empty | file path => simp [contextArguments]
  | document text =>
    have hshape := Shape.of_eq_plain (hcontext text rfl)
    exact readArguments_plain hshape (ha ▸ Nat.one_lt_two)

theorem IsSourceChoice.lookup_eq_none (h : IsSourceChoice settings) :
    settings.lookup .contextFile = none := by
  rw [List.lookup_eq_none_iff]
  exact fun s hs => bne_iff_ne.mpr (h.ne hs).1.symm

theorem ofParts_render (h : IsSourceChoice settings) :
    ofParts .render ⟨viewText view :: contextArguments context, isInline view,
      contextSettings context ++ settings⟩ = .ok (.render (sourceOf settings) view context) := by
  have hview (positional : List String) (settings : List (Setting × String)) :
      Arguments.view ⟨positional, isInline view, settings⟩ (viewText view) = view := by
    cases view <;> rfl
  cases context with
  | empty | document text =>
    have hget (positional : List String) :
        Arguments.get? ⟨positional, isInline view, settings⟩ .contextFile = none :=
      h.lookup_eq_none
    simp only [ofParts, contextArguments, contextSettings, List.nil_append, List.head?_cons,
      List.head?_nil, hget, hview]
    rfl
  | file path =>
    have hget (positional : List String) :
        Arguments.get? ⟨positional, isInline view, (.contextFile, path) :: settings⟩ .contextFile =
          some path := rfl
    simp only [ofParts, contextArguments, contextSettings, List.singleton_append, List.head?_nil,
      hget, hview]
    rfl

/-- **The arguments of a render make the render.** -/
theorem ofArguments?_render (h : IsSourceChoice settings)
    (hview : (viewText view).toList.head? ≠ some '-')
    (hcontext : ∀ text ∈ contextText? context, text.toList.head? ≠ some '-')
    (hpath : ∀ path, context = .file path → path ≠ "") :
    ofArguments? (renderArguments view context settings) =
      some (.render (sourceOf settings) view context) := by
  have hkind (rest : List String) :
      readCommand ("render" :: rest) = readArguments .render {} rest >>= ofParts .render :=
    readCommand_kind (by decide +kernel) (by decide) rfl rest
  have hread : readCommand (renderArguments view context settings) =
      ofParts .render ⟨viewText view :: contextArguments context, isInline view,
        contextSettings context ++ settings⟩ := by
    rw [renderArguments, List.cons_append, List.cons_append, hkind, List.append_assoc,
      readArguments_view hview, readArguments_context rfl hcontext,
      readArguments_spell (h.takes_render hcontext hpath) (fun _ _ => rfl), ok_bind]
    rfl
  rw [ofArguments?, hread, ofParts_render h]

/-- A number of runs that is not zero does not begin with a dash. -/
theorem head_ne_of_runs? {runs : String} {n : Nat} (h : runs? runs = some n) (hn : n ≠ 0) :
    runs.toList.head? ≠ some '-' := by
  intro hhead
  obtain ⟨cs, hchars⟩ := List.head?_eq_some_iff.mp hhead
  have hzero : (Text.number? 10 cs).filter (· = 0) = some n := by
    rw [runs?, hchars] at h
    exact h
  rw [Option.filter_eq_some_iff] at hzero
  exact hn (of_decide_eq_true hzero.2)

theorem IsSourceChoice.takes_bench (h : IsSourceChoice settings) {runs : String} {n : Nat}
    (hruns : runs? runs = some n) (hn : n ≠ 0) : Takes .bench ((.runs, runs) :: settings) := by
  have hshape := Shape.of_eq_plain (head_ne_of_runs? hruns hn)
  refine ⟨List.nodup_cons.mpr ⟨?_, h.nodup⟩, List.forall_mem_cons.mpr ⟨rfl, (h.takes .bench).known⟩,
    List.forall_mem_cons.mpr ⟨hshape, h.plain⟩, List.forall_mem_cons.mpr ⟨?_, h.accepted⟩⟩
  · rw [List.mem_map]
    rintro ⟨s, hs, heq⟩
    exact (h.ne hs).2 heq
  · simp [Setting.accepts, hruns]

/-- **The arguments of a measurement make the measurement.** -/
theorem ofArguments?_bench {view runs : String} {context? : Option String} {n : Nat}
    (h : IsSourceChoice settings) (hview : view.toList.head? ≠ some '-')
    (hcontext : ∀ text ∈ context?, text.toList.head? ≠ some '-')
    (hruns : runs? runs = some n) (hn : n ≠ 0) :
    ofArguments? (benchArguments view context? runs settings) =
      some (.bench (sourceOf settings) view context? n) := by
  have hkind (rest : List String) :
      readCommand ("bench" :: rest) = readArguments .bench {} rest >>= ofParts .bench :=
    readCommand_kind (by decide +kernel) (by decide) rfl rest
  have hread : readArguments .bench {} (view :: context?.toList ++ spell ((.runs, runs) :: settings)) =
      .ok ⟨view :: context?.toList, false, (.runs, runs) :: settings⟩ := by
    have htakes := h.takes_bench hruns hn
    rw [List.cons_append, readArguments_plain (Shape.of_eq_plain hview) (by decide)]
    cases context? with
    | none => exact readArguments_spell htakes fun _ _ => rfl
    | some text =>
      have hroom : ([view] : List String).length < Kind.bench.arity := Nat.one_lt_two
      rw [Option.toList_some, List.singleton_append]
      refine (readArguments_plain (Shape.of_eq_plain (hcontext text rfl)) hroom).trans ?_
      exact readArguments_spell htakes fun _ _ => rfl
  have hparts : ofParts .bench ⟨view :: context?.toList, false, (.runs, runs) :: settings⟩ =
      .ok (.bench (sourceOf settings) view context? n) := by
    have hget : Arguments.get? ⟨view :: context?.toList, false, (.runs, runs) :: settings⟩ .runs =
        some runs := rfl
    simp only [ofParts, hget, Option.bind_some, hruns, Option.getD_some, Option.head?_toList]
    rfl
  rw [ofArguments?, benchArguments, List.cons_append, hkind, hread, ok_bind, hparts]

end Mustache.Command
