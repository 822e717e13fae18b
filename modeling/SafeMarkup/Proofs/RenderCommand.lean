import Mathlib.Tactic.Set
import SafeMarkup.Proofs.BuiltConfig
import SafeMarkup.Proofs.Results
import SafeMarkup.Proofs.TwoForms

/-!
# How rendering a template file ends

A command line can ask for the template in one file to be rendered with the values in another.  The
files hold any bytes, so much can be wrong: either is no text, the values are no JSON object, the
template cannot be read, or one of its fields has no value or no text.  All this ends with an exit
code, with nothing printed and with a message.  Three faults do not: a number that does not fit
where a field puts it, an integer of the values that is too long to be read, and half of a surrogate
pair in the document, which cannot be printed.

* `Words.read_append` — the options of the program in front of a command.
* `renderFiles`, `HoldsLongInteger` — what comes of the two files; `renderFile_eq` says that a run
  does just that.
* `RenderEnd`, `renderEnd_renderFile` — the ways in which rendering ends, by what comes of the
  files.
* **`runCommandLine_render`** — when a run ends with the document, when with a message, and when it
  does not end with an exit code.
-/

namespace SafeMarkup

/-! ## Words -/

namespace Words

variable {known : List OptionForm} {word : String} {rest : List String}

/-- An option in front of words does not change what is read of them. -/
lemma map_withOption_append {front : List String} {given : List GivenOption}
    {name value : String}
    (happend : ∀ {given}, read known false front = .ok ⟨given, []⟩ →
      read known false (front ++ word :: rest) = .ok ⟨given, word :: rest⟩)
    (h : (read known false front).map (withOption name value) = .ok ⟨given, []⟩) :
    (read known false (front ++ word :: rest)).map (withOption name value)
      = .ok ⟨given, word :: rest⟩ := by
  obtain ⟨⟨more, positional⟩, hread, hwords⟩ := exists_of_map_eq_ok h
  obtain ⟨rfl, rfl⟩ := Words.mk.inj hwords
  rw [happend hread]
  rfl

/-- Behind words that are all options, and their values, a word that is no option is the first
positional one. -/
lemma read_append (hword : isOption word = false) : ∀ {front : List String}
    {given : List GivenOption}, read known false front = .ok ⟨given, []⟩ →
      read known false (front ++ word :: rest) = .ok ⟨given, word :: rest⟩
  | [], given, h => by
      have hend : word ≠ "--" := by
        rintro rfl
        exact absurd hword (by decide)
      obtain rfl : [] = given := (Words.mk.inj (Except.ok.inj h)).1
      rw [List.nil_append, read, if_neg hend, if_neg (by simp [hword])]
      rfl
  | w :: front, given, h => by
      rw [List.cons_append, read]
      rw [read] at h
      by_cases hend : w = "--"
      · rw [if_pos hend] at h ⊢
        obtain ⟨rfl, rfl⟩ := Words.mk.inj (Except.ok.inj h)
        rfl
      rw [if_neg hend] at h ⊢
      by_cases hoption : isOption w = true
      · rw [if_pos hoption] at h ⊢
        dsimp only at h ⊢
        cases hfind : known.find? fun o => o.name = (splitAttached w).1 with
        | none =>
            rw [hfind] at h
            exact absurd h (by simp)
        | some o =>
            rw [hfind] at h
            dsimp only at h ⊢
            split_ifs at h ⊢ with htakes
            · -- the value is attached to the option, or is the next word
              cases hattached : (splitAttached w).2 with
              | some value =>
                  rw [hattached] at h
                  exact map_withOption_append (read_append hword) h
              | none =>
                  rw [hattached] at h
                  cases front with
                  | nil => exact absurd h (by simp)
                  | cons value front => exact map_withOption_append (read_append hword) h
            · exact map_withOption_append (read_append hword) h
      · rw [if_neg hoption, if_neg (by simp)] at h
        exact absurd (Words.mk.inj (Except.ok.inj h)).2 (by simp)
  termination_by front => front.length

end Words

section

variable {tree : FileTree} {cwd : Location} {config : Config} {template values : InputFile}

/-- The configuration of a run has been checked. -/
lemma check_of_configure {options : ProgramOptions}
    (h : configure tree cwd options = .ok config) : config.toSettings.check = .ok config := by
  have hbuild : buildConfig tree cwd "." options.overrides = .ok config := by
    unfold configure at h
    split at h
    · next built hbuilt => rw [hbuilt, Except.ok.inj h]
    · exact absurd h (by simp)
    · exact absurd h (by simp)
    · exact absurd h (by simp)
  exact check_of_buildConfig hbuild

/-! ## What comes of the files -/

/-- What the template in a file comes to with the values in another, if both can be read. -/
def renderFiles (config : Config) (template values : InputFile) :
    Except Stop (Except DocumentError CodeText) := do
  let members ← readMembers (some values)
  let text ← template.text
  return renderForms config.toSettings text members

/-- An integer of the values that is too long to be read. -/
def HoldsLongInteger (values : InputFile) (e : LongInteger) : Prop :=
  ∃ text, values.text = .ok text ∧ Json.parse text = .error (.longInteger e)

/-- A stop that ends a run with an exit code. -/
def Stop.HasExit (stop : Stop) : Prop := ∀ crash, stop ≠ .crash crash

lemma hasExit_usage (error : CommandLineError) : (Stop.usage error).HasExit := by
  simp [Stop.HasExit]

lemma hasExit_failure (reports : List String) (reason : String) :
    (Stop.failure reports reason).HasExit := by
  simp [Stop.HasExit]

/-- A file that is no text ends a run with an exit code. -/
lemma hasExit_of_text {file : InputFile} {stop : Stop} (h : file.text = .error stop) :
    stop.HasExit := by
  unfold InputFile.text at h
  split at h
  · exact absurd h (by simp)
  · rw [← Except.error.inj h]
    exact hasExit_failure _ _

/-- Values that cannot be read end a run with an exit code, save where an integer is too long. -/
lemma readMembers_error {stop : Stop} (h : readMembers (some values) = .error stop) :
    stop.HasExit ∨ ∃ e, HoldsLongInteger values e ∧ stop = .crash (.longInteger e) := by
  rw [readMembers] at h
  cases htext : values.text with
  | error early =>
      rw [htext] at h
      rw [← Except.error.inj h]
      exact Or.inl (hasExit_of_text htext)
  | ok text =>
      rw [htext] at h
      simp only [bind, Except.bind, readObject] at h
      cases hparse : Json.parse text with
      | ok document =>
          rw [hparse] at h
          left
          cases document with
          | object members => exact absurd h (by simp)
          | _ =>
              rw [← Except.error.inj h]
              exact hasExit_usage _
      | error failure =>
          rw [hparse] at h
          cases failure with
          | longInteger e =>
              rw [← Except.error.inj h]
              exact Or.inr ⟨e, ⟨text, htext, hparse⟩, rfl⟩
          | malformed fault line column position =>
              rw [← Except.error.inj h]
              exact Or.inl (hasExit_usage _)

lemma readMembers_of_holdsLongInteger {e : LongInteger} (h : HoldsLongInteger values e) :
    readMembers (some values) = .error (.crash (.longInteger e)) := by
  obtain ⟨text, htext, hparse⟩ := h
  simp only [readMembers, htext, bind, Except.bind, readObject, hparse]

/-- **How reading the files can fail**: with an exit code, or with an integer that is too long. -/
lemma renderFiles_error {stop : Stop} (h : renderFiles config template values = .error stop) :
    stop.HasExit ∨ ∃ e, HoldsLongInteger values e ∧ stop = .crash (.longInteger e) := by
  rw [renderFiles] at h
  cases hmembers : readMembers (some values) with
  | error early =>
      rw [hmembers] at h
      rw [← Except.error.inj h]
      exact readMembers_error hmembers
  | ok members =>
      rw [hmembers] at h
      cases htext : template.text with
      | error early =>
          rw [htext] at h
          rw [← Except.error.inj h]
          exact Or.inl (hasExit_of_text htext)
      | ok text =>
          rw [htext] at h
          exact absurd h (by simp [bind, Except.bind, pure, Except.pure])

lemma renderFiles_of_holdsLongInteger {e : LongInteger} (h : HoldsLongInteger values e) :
    renderFiles config template values = .error (.crash (.longInteger e)) := by
  rw [renderFiles, readMembers_of_holdsLongInteger h]
  rfl

lemma renderFiles_eq_longInteger_iff {e : LongInteger} :
    renderFiles config template values = .error (.crash (.longInteger e))
      ↔ HoldsLongInteger values e := by
  refine ⟨fun h => ?_, renderFiles_of_holdsLongInteger⟩
  rcases renderFiles_error h with hexit | ⟨e', hlong, hsame⟩
  · exact absurd rfl (hexit _)
  · rwa [Crash.longInteger.inj (Stop.crash.inj hsame)]

/-- Only a number that does not fit makes a template end a run without an exit code. -/
lemma stopFor_cases (reports : List String) (template : InputFile) (error : DocumentError) :
    (stopFor reports template error).HasExit ∧
        (∀ e, error = .field (.format e) → e.isOverflow = false) ∨
      ∃ e, error = .field (.format e) ∧ e.isOverflow = true ∧
        stopFor reports template error = .crash (.format e) := by
  by_cases hformat : ∃ e, error = .field (.format e)
  · obtain ⟨e, rfl⟩ := hformat
    cases he : e.isOverflow with
    | true => exact Or.inr ⟨e, rfl, he, by simp [stopFor, he]⟩
    | false =>
        left
        refine ⟨by simp [stopFor, he, Stop.HasExit], fun e' h => ?_⟩
        obtain rfl := FieldError.format.inj (DocumentError.field.inj h)
        exact he
  · left
    refine ⟨?_, fun e h => absurd ⟨e, h⟩ hformat⟩
    cases error with
    | field fault =>
        cases fault with
        | format e => exact absurd ⟨e, rfl⟩ hformat
        | unknownConversion conversion => exact hasExit_failure _ _
    | _ => exact hasExit_failure _ _

/-- **Rendering a file** does what the template comes to: it prints the document, or stops for the
error. -/
lemma renderFile_eq (hcheck : config.toSettings.check = .ok config) (verbose : Bool)
    (template values : InputFile) :
    ∃ reports, renderFile config verbose template (some values) =
      (renderFiles config template values).bind fun result =>
        match result with
        | .ok document => Outcome.print reports document
        | .error error => .error (stopFor reports template error) := by
  rw [renderFile, renderFiles]
  cases readMembers (some values) with
  | error stop => exact ⟨[], rfl⟩
  | ok members =>
      cases template.text with
      | error stop => exact ⟨[], rfl⟩
      | ok text =>
          have hfault := Json.addTemplate_namedValues_fault_eq members (.start config) text
          simp only [bind, Except.bind, pure, Except.pure, renderForms, renderTemplate,
            startWith_of_check hcheck]
          generalize addTemplate (Json.namedValues .first members) (.start config) text = x
            at hfault ⊢
          generalize addTemplate (Json.namedValues .second members) (.start config) text = y
            at hfault ⊢
          obtain ⟨first, fault⟩ := x
          obtain ⟨second, fault'⟩ := y
          obtain rfl : fault = fault' := hfault
          refine ⟨reportLines verbose first.log second.log, ?_⟩
          cases fault <;> rfl

/-- The number that does not fit is an integer of the object. -/
lemma renderTemplate_overflow (hcheck : config.toSettings.check = .ok config) {e : FormatError}
    {text : String} {standIn : StandIn} {members : List (CodeText × Json)}
    (h : renderTemplate config.toSettings text (Json.namedValues standIn members)
      = .error (.field (.format e))) (he : e.isOverflow = true) :
    ∃ name n, (name, Json.integer n) ∈ members ∧ NoCharacter n := by
  rw [renderTemplate, startWith_of_check hcheck] at h
  cases hadd : addTemplate (Json.namedValues standIn members) (.start config) text with
  | mk after fault =>
      simp only [bind, Except.bind, hadd] at h
      cases fault with
      | none => exact absurd h (by simp)
      | some error =>
          obtain rfl := Except.error.inj h
          exact Json.addTemplate_namedValues_overflow hadd he

/-- The number that does not fit is an integer of the file. -/
lemma renderFiles_overflow (hcheck : config.toSettings.check = .ok config) {e : FormatError}
    (h : renderFiles config template values = .ok (.error (.field (.format e))))
    (he : e.isOverflow = true) : ∃ members name n, readMembers (some values) = .ok members ∧
      (name, Json.integer n) ∈ members ∧ NoCharacter n := by
  obtain ⟨members, hmembers, h⟩ := exists_of_bind_eq_ok h
  obtain ⟨text, -, h⟩ := exists_of_bind_eq_ok h
  have hrender : renderForms config.toSettings text members = .error (.field (.format e)) :=
    Except.ok.inj h
  obtain ⟨standIn, hform⟩ := exists_of_renderForms_eq_error hrender
  obtain ⟨name, n, hnumber⟩ := renderTemplate_overflow hcheck hform he
  exact ⟨members, name, n, hmembers, hnumber⟩

/-! ## Messages -/

lemma errorLine_eq (reason : String) :
    errorLine reason = "Error: " ++ withoutControlSequences reason := by
  have hno : .char escapeChar ∉ CodeText.ofString "Error: " := by decide
  rw [errorLine, withoutControlSequences, CodeText.ofString_append,
    dropControlSequences_append _ hno, CodeText.form_append, CodeText.form_ofString]
  rfl

/-- A run that has not done what it was asked for: its exit code says so, nothing is printed, and
the last message is an error. -/
structure Outcome.Failed (outcome : Outcome) : Prop where
  exitCode : outcome.exitCode ≠ 0
  output : outcome.output = ""
  message : ∃ reports reason, outcome.messages = reports ++ ["Error: " ++ reason]

/-- A stop with an exit code ends a run with an error. -/
lemma Stop.HasExit.failed {stop : Stop} (h : stop.HasExit) :
    ∃ outcome, Outcome.ofRun (.error stop) = .ok outcome ∧ outcome.Failed := by
  cases stop with
  | crash crash => exact absurd rfl (h crash)
  | usage error =>
      exact ⟨_, rfl, by simp, rfl, [], withoutControlSequences error.message, by
        rw [List.nil_append, ← errorLine_eq]⟩
  | failure reports reason =>
      exact ⟨_, rfl, by simp, rfl, reports, withoutControlSequences reason, by
        rw [← errorLine_eq]⟩

/-! ## The ways in which rendering ends -/

/-- The ways in which rendering ends, by what comes of the files. -/
inductive RenderEnd : Except Stop (Except DocumentError CodeText) → Except Crash Outcome → Prop
  | printed {document : CodeText} {text : String}
      (htext : dropControlSequences document = .ofString text) (reports : List String) :
      RenderEnd (.ok (.ok document)) (.ok ⟨0, text, reports⟩)
  /-- The files cannot be read, which is reported with a message. -/
  | unreadable {stop : Stop} {outcome : Outcome} (hexit : stop.HasExit) (hfailed : outcome.Failed) :
      RenderEnd (.error stop) (.ok outcome)
  /-- The template has no document, which is reported with a message. -/
  | noDocument {error : DocumentError} {outcome : Outcome}
      (hfits : ∀ e, error = .field (.format e) → e.isOverflow = false) (hfailed : outcome.Failed) :
      RenderEnd (.ok (.error error)) (.ok outcome)
  | longInteger (e : LongInteger) :
      RenderEnd (.error (.crash (.longInteger e))) (.error (.longInteger e))
  | overflow {e : FormatError} (he : e.isOverflow = true) :
      RenderEnd (.ok (.error (.field (.format e)))) (.error (.format e))
  | surrogate {document : CodeText} {fault : SurrogateFault}
      (hfault : CodeText.surrogateFault? (dropControlSequences document) = some fault) :
      RenderEnd (.ok (.ok document)) (.error (.surrogate fault))

/-- A document is printed, or cannot be encoded. -/
lemma renderEnd_print (reports : List String) (document : CodeText) :
    RenderEnd (.ok (.ok document)) (Outcome.ofRun (Outcome.print reports document)) := by
  rw [Outcome.print]
  cases hfault : CodeText.surrogateFault? (dropControlSequences document) with
  | none =>
      obtain ⟨text, htext⟩ :=
        CodeText.isWhole_iff.mp (CodeText.surrogateFault?_eq_none_iff.mp hfault)
      have hend : RenderEnd (.ok (.ok document)) (.ok ⟨0, text, reports⟩) := .printed htext reports
      rwa [← CodeText.form_ofString (s := text) .first, ← htext] at hend
  | some fault => exact .surrogate hfault

lemma renderEnd_renderFile (hcheck : config.toSettings.check = .ok config) (verbose : Bool)
    (template values : InputFile) : RenderEnd (renderFiles config template values)
      (Outcome.ofRun (renderFile config verbose template (some values))) := by
  obtain ⟨reports, hfile⟩ := renderFile_eq hcheck verbose template values
  rw [hfile]
  cases hfiles : renderFiles config template values with
  | error stop =>
      rcases renderFiles_error hfiles with hexit | ⟨e, -, rfl⟩
      · obtain ⟨outcome, houtcome, hfailed⟩ := hexit.failed
        rw [Except.bind, houtcome]
        exact .unreadable hexit hfailed
      · exact .longInteger e
  | ok result =>
      cases result with
      | ok document => exact renderEnd_print reports document
      | error error =>
          change RenderEnd _ (Outcome.ofRun (.error (stopFor reports template error)))
          rcases stopFor_cases reports template error with ⟨hexit, hfits⟩ | ⟨e, rfl, he, hstop⟩
          · obtain ⟨outcome, houtcome, hfailed⟩ := hexit.failed
            rw [houtcome]
            exact .noDocument hfits hfailed
          · rw [hstop]
            exact .overflow he

namespace RenderEnd

variable {files : Except Stop (Except DocumentError CodeText)} {ended : Except Crash Outcome}
  {document : CodeText}

/-- What is in characters can be encoded. -/
lemma surrogateFault?_ne_some {text : String} (fault : SurrogateFault)
    (htext : dropControlSequences document = .ofString text) :
    CodeText.surrogateFault? (dropControlSequences document) ≠ some fault := by
  have hnone := CodeText.surrogateFault?_eq_none_iff.mpr (CodeText.isWhole_iff.mpr ⟨text, htext⟩)
  simp [hnone]

lemma eq_ok_of_printed (h : RenderEnd (.ok (.ok document)) ended) {text : String}
    (htext : dropControlSequences document = .ofString text) :
    ∃ reports, ended = .ok ⟨0, text, reports⟩ := by
  cases h with
  | printed hother reports =>
      obtain rfl := CodeText.ofString_inj (htext.symm.trans hother)
      exact ⟨reports, rfl⟩
  | surrogate hfault => exact absurd hfault (surrogateFault?_ne_some _ htext)

lemma failed {outcome : Outcome} (h : RenderEnd files (.ok outcome))
    (hno : ∀ document, files ≠ .ok (.ok document)) : outcome.Failed := by
  cases h with
  | printed _ reports => exact absurd rfl (hno _)
  | unreadable _ hfailed => exact hfailed
  | noDocument _ hfailed => exact hfailed

/-- **The ways in which rendering ends without an exit code.** -/
lemma eq_error_iff (h : RenderEnd files ended) (crash : Crash) : ended = .error crash ↔
    (∃ e, files = .error (.crash (.longInteger e)) ∧ crash = .longInteger e) ∨
      (∃ e, files = .ok (.error (.field (.format e))) ∧ e.isOverflow = true ∧ crash = .format e) ∨
      ∃ document fault, files = .ok (.ok document) ∧
        CodeText.surrogateFault? (dropControlSequences document) = some fault ∧
        crash = .surrogate fault := by
  constructor
  · rintro rfl
    cases h with
    | longInteger e => exact Or.inl ⟨e, rfl, rfl⟩
    | overflow he => exact Or.inr (Or.inl ⟨_, rfl, he, rfl⟩)
    | surrogate hfault => exact Or.inr (Or.inr ⟨_, _, rfl, hfault, rfl⟩)
  · rintro (⟨e, rfl, rfl⟩ | ⟨e, rfl, he, rfl⟩ | ⟨document, fault, rfl, hfault, rfl⟩)
    · cases h with
      | unreadable hexit _ => exact absurd rfl (hexit _)
      | longInteger => rfl
    · cases h with
      | noDocument hfits _ => exact absurd (hfits e rfl) (by simp [he])
      | overflow => rfl
    · cases h with
      | printed htext _ => exact absurd hfault (surrogateFault?_ne_some _ htext)
      | surrogate hother => rw [Option.some.inj (hother.symm.trans hfault)]

end RenderEnd

/-! ## The command line -/

variable {front : List String} {given : List GivenOption} {templatePath valuesPath : String}

/-- The words behind the command name the two files. -/
lemma read_renderWords (hword : Words.isOption templatePath = false) :
    Words.read CommandName.render.options true [templatePath, "--values", valuesPath]
      = .ok ⟨[⟨"--values", valuesPath⟩], [templatePath]⟩ := by
  have hend : templatePath ≠ "--" := by
    rintro rfl
    exact absurd hword (by decide)
  have hvalues : Words.read CommandName.render.options true ["--values", valuesPath]
      = .ok ⟨[⟨"--values", valuesPath⟩], []⟩ := rfl
  rw [Words.read, if_neg hend, if_neg (by simp [hword]), if_pos rfl, hvalues]
  rfl

/-- A command line that asks for a template to be rendered is run by rendering the files. -/
lemma runCommandLine_eq_renderFile
    (hfront : Words.read ProgramOptions.forms false front = .ok ⟨given, []⟩)
    (hplain : ∀ o ∈ given, o.name ≠ "--version" ∧ o.name ≠ "--help")
    (hconfig : configure tree cwd (.ofWords ⟨given, []⟩) = .ok config)
    (hword : Words.isOption templatePath = false)
    (hvalues : openInput tree cwd "--values" valuesPath = .ok values)
    (htemplate : openInput tree cwd "TEMPLATE" templatePath = .ok template) :
    ∃ verbose, runCommandLine tree cwd (front ++ ["render", templatePath, "--values", valuesPath])
      = Outcome.ofRun (renderFile config verbose template (some values)) := by
  set words := [templatePath, "--values", valuesPath] with hwords
  have hargs : Words.read ProgramOptions.forms false (front ++ "render" :: words)
      = .ok ⟨given, "render" :: words⟩ := Words.read_append (by decide) hfront
  have hnone : given.find? (fun o => o.name = "--version" || o.name = helpOption.name) = none := by
    refine List.find?_eq_none.mpr fun o ho => ?_
    obtain ⟨hversion, hhelp⟩ := hplain o ho
    simp [hversion, helpOption, hhelp]
  have hrequest : Command.read tree cwd .render words
      = .ok (.run (.render template (some values))) := by
    have hgiven : (⟨[⟨"--values", valuesPath⟩], [templatePath]⟩ : Words).value? "--values"
        = some valuesPath := rfl
    have hasked : (⟨[⟨"--values", valuesPath⟩], [templatePath]⟩ : Words).has helpOption.name
        = false := rfl
    rw [Command.read, hwords, read_renderWords hword]
    simp only [bind, Except.bind, Except.mapError, hasked, Command.ofWords, hgiven, hvalues,
      Except.map, Command.requireWord, htemplate, Command.refuseMore]
    rfl
  have hconfigure : configure tree cwd (.ofWords ⟨given, "render" :: words⟩) = .ok config := hconfig
  have hempty : (front ++ "render" :: words).isEmpty = false := by simp
  refine ⟨(ProgramOptions.ofWords ⟨given, []⟩).verbose, congrArg Outcome.ofRun ?_⟩
  have hrun : perform tree cwd (front ++ "render" :: words)
      = performCommand tree cwd (.ofWords ⟨given, "render" :: words⟩) ("render" :: words) := by
    rw [perform, hempty, hargs]
    simp only [bind, Except.bind, Except.mapError, hnone]
    rfl
  have hname : CommandName.ofWord? "render" = some .render := rfl
  rw [hrun, performCommand, hname]
  simp only [hconfigure, hrequest, bind, Except.bind]
  rfl

/-- **How rendering a template file ends.**  Under a configuration that has been accepted, with
options of the program in front of the command or without:

The files come to a document, and the document without its control sequences, which is the document
itself if there is no escape character in it, is text in characters: the run ends with this text and
with the exit code 0.  They come to no document, and the run ends with an exit code: then that says
so, nothing is printed, and the last message is an error.

A run ends without an exit code exactly if the values hold an integer that is too long to be read,
if a field puts a number where it does not fit, or if the document holds half of a surrogate pair.
A number that does not fit is an integer of the values that is no character code.  Where no string
of the values holds half of a surrogate pair, and no integer is the code of one, the document is
rendered from these values, and is text in characters. -/
theorem runCommandLine_render
    (hfront : Words.read ProgramOptions.forms false front = .ok ⟨given, []⟩)
    (hplain : ∀ o ∈ given, o.name ≠ "--version" ∧ o.name ≠ "--help")
    (hconfig : configure tree cwd (.ofWords ⟨given, []⟩) = .ok config)
    (hword : Words.isOption templatePath = false)
    (hvalues : openInput tree cwd "--values" valuesPath = .ok values)
    (htemplate : openInput tree cwd "TEMPLATE" templatePath = .ok template) :
    let run := runCommandLine tree cwd (front ++ ["render", templatePath, "--values", valuesPath])
    (∀ document text, renderFiles config template values = .ok (.ok document) →
      dropControlSequences document = .ofString text → ∃ reports, run = .ok ⟨0, text, reports⟩) ∧
    (∀ text, renderFiles config template values = .ok (.ok (.ofString text)) →
      escapeChar ∉ text.toList → ∃ reports, run = .ok ⟨0, text, reports⟩) ∧
    ((∀ document, renderFiles config template values ≠ .ok (.ok document)) →
      ∀ outcome, run = .ok outcome → outcome.exitCode ≠ 0 ∧ outcome.output = "" ∧
        ∃ reports reason, outcome.messages = reports ++ ["Error: " ++ reason]) ∧
    (∀ crash, run = .error crash ↔
      (∃ e, HoldsLongInteger values e ∧ crash = .longInteger e) ∨
        (∃ e, renderFiles config template values = .ok (.error (.field (.format e))) ∧
          e.isOverflow = true ∧ crash = .format e) ∨
        ∃ document fault, renderFiles config template values = .ok (.ok document) ∧
          CodeText.surrogateFault? (dropControlSequences document) = some fault ∧
          crash = .surrogate fault) ∧
    (∀ e, renderFiles config template values = .ok (.error (.field (.format e))) →
      e.isOverflow = true → ∃ members name n, readMembers (some values) = .ok members ∧
        (name, Json.integer n) ∈ members ∧ (n < 0 ∨ 0x110000 ≤ n)) ∧
    ∀ members text, readMembers (some values) = .ok members → template.text = .ok text →
      Json.isWhole (.object members) = true → renderFiles config template values =
        .ok ((renderTemplate config.toSettings text (Json.namedValues .first members)).map
          .ofString) := by
  intro run
  have hcheck := check_of_configure hconfig
  obtain ⟨verbose, hrun⟩ :=
    runCommandLine_eq_renderFile hfront hplain hconfig hword hvalues htemplate
  have hend : RenderEnd (renderFiles config template values) run := by
    have hfile := renderEnd_renderFile hcheck verbose template values
    rwa [← hrun] at hfile
  refine ⟨fun document text hdocument htext => ?_, fun text hdocument hno => ?_,
    fun hno outcome houtcome => ?_, fun crash => ?_,
    fun e h he => renderFiles_overflow hcheck h he, fun members text hmembers htext hwhole => ?_⟩
  · rw [hdocument] at hend
    exact hend.eq_ok_of_printed htext
  · rw [hdocument] at hend
    exact hend.eq_ok_of_printed (dropControlSequences_ofString hno)
  · rw [houtcome] at hend
    have hfailed := hend.failed hno
    exact ⟨hfailed.exitCode, hfailed.output, hfailed.message⟩
  · simp only [hend.eq_error_iff, renderFiles_eq_longInteger_iff]
  · rw [renderFiles, hmembers, htext]
    exact congrArg Except.ok (renderForms_of_isWhole config.toSettings text hwhole)

end

/-! ## Runs that end, and runs that do not -/

/-- A directory with a template that lays a number out as a character, and with that number. -/
def characterFiles (number : String) : FileTree :=
  (FileTree.empty.add ["t.html"] (.file (asciiBytes "<p>\x7bx:c\x7d"))).add ["v.json"]
    (.file (asciiBytes ("\x7b\"x\": " ++ number ++ "\x7d")))

/-- A character code is laid out as its character.  The number behind the last one ends the run
without an exit code, and so does the code of half of a surrogate pair. -/
theorem runCommandLine_render_of_character :
    let run (number : String) := runCommandLine (characterFiles number) []
      (["--verbose"] ++ ["render", "t.html", "--values", "v.json"])
    let template : InputFile := ⟨"t.html", asciiBytes "<p>\x7bx:c\x7d"⟩
    let values (number : String) : InputFile :=
      ⟨"v.json", asciiBytes ("\x7b\"x\": " ++ number ++ "\x7d")⟩
    (renderFiles .default template (values "65") = .ok (.ok (.ofString "<p>A")) ∧
      ∃ reports, run "65" = .ok ⟨0, "<p>A", reports⟩) ∧
    (∃ e, renderFiles .default template (values "1114112") = .ok (.error (.field (.format e))) ∧
      e.isOverflow = true ∧ run "1114112" = .error (.format e)) ∧
    ∃ fault : SurrogateFault, fault.start = 3 ∧ run "55296" = .error (.surrogate fault) := by
  intro run template values
  have hfront : Words.read ProgramOptions.forms false ["--verbose"]
      = .ok ⟨[⟨"--verbose", ""⟩], []⟩ := by decide +kernel
  have hplain : ∀ o ∈ [(⟨"--verbose", ""⟩ : GivenOption)],
      o.name ≠ "--version" ∧ o.name ≠ "--help" := by simp
  have hword : Words.isOption "t.html" = false := by decide +kernel
  have hconfig : ∀ number, configure (characterFiles number) []
      (.ofWords ⟨[⟨"--verbose", ""⟩], []⟩) = .ok .default := fun _ => rfl
  have hvalues : ∀ number, openInput (characterFiles number) [] "--values" "v.json"
      = .ok (values number) := fun _ => rfl
  have htemplate : ∀ number, openInput (characterFiles number) [] "TEMPLATE" "t.html"
      = .ok template := fun _ => rfl
  refine ⟨?_, ?_, ?_⟩
  · obtain ⟨-, hprints, -⟩ := runCommandLine_render hfront hplain (hconfig "65") hword
      (hvalues "65") (htemplate "65")
    have hdocument : renderFiles .default template (values "65")
        = .ok (.ok (.ofString "<p>A")) := by decide +kernel
    exact ⟨hdocument, hprints "<p>A" hdocument (by decide)⟩
  · obtain ⟨-, -, -, hcrashes, -⟩ := runCommandLine_render hfront hplain (hconfig "1114112") hword
      (hvalues "1114112") (htemplate "1114112")
    have hfiles : renderFiles .default template (values "1114112")
        = .ok (.error (.field (.format .notACharacter))) := by decide +kernel
    exact ⟨_, hfiles, rfl, (hcrashes _).mpr (Or.inr (Or.inl ⟨_, hfiles, rfl, rfl⟩))⟩
  · obtain ⟨-, -, -, hcrashes, -⟩ := runCommandLine_render hfront hplain (hconfig "55296") hword
      (hvalues "55296") (htemplate "55296")
    have hfiles : renderFiles .default template (values "55296")
        = .ok (.ok (CodeText.ofString "<p>" ++ [.half 0])) := by decide +kernel
    have hfault : CodeText.surrogateFault?
        (dropControlSequences (CodeText.ofString "<p>" ++ [.half 0])) = some ⟨3, 1, .half 0⟩ := by
      decide +kernel
    exact ⟨_, rfl, (hcrashes _).mpr (Or.inr (Or.inr ⟨_, _, hfiles, hfault, rfl⟩))⟩

/-- A number that is no character code ends a run without an exit code, where a message for the
template is due. -/
theorem runCommandLine_crashes_of_noCharacter :
    let run := runCommandLine (characterFiles "1114112") []
      ["render", "t.html", "--values", "v.json"]
    run = .error (.format .notACharacter) ∧ ∀ outcome, run ≠ .ok outcome := by
  intro run
  have hrun : run = .error (.format .notACharacter) := by decide +kernel
  refine ⟨hrun, fun outcome houtcome => ?_⟩
  exact absurd (hrun.symm.trans houtcome) (by simp)

end SafeMarkup
