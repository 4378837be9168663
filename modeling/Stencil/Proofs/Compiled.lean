import Stencil.Compiled
import Stencil.Proofs.Template.Dealing
/-!
# Compiled templates

A compiled template holds the expression that its template becomes under a dictionary and
the program that this expression is compiled to. Parsing gives fields whenever a match has
one capture for each slot.
-/
namespace Stencil

namespace Compiled

/-- What is compiled is the expression of the template under a dictionary. -/
structure IsBuiltFrom (compiled : Compiled) (dictionary : Dictionary) : Prop where
  expression : compiled.template.expression dictionary compiled.options = .ok compiled.expression
  program : Regex.Program.compile compiled.expression.toList compiled.options.caseInsensitive
    compiled.options.sizeLimit = .ok compiled.program

theorem eq_ok_of_mapError {ε ε' α : Type} {outcome : Except ε α} {f : ε → ε'} {value : α}
    (h : outcome.mapError f = .ok value) : outcome = .ok value := by
  cases outcome with
  | error fault => cases h
  | ok found =>
    cases h
    rfl

/-- Compiling reads the template, writes its expression and compiles that. The first of these that
fails is what fails. -/
theorem outcome_compile_eq (pattern : String) (dictionary : Dictionary) (options : Options) :
    (compile pattern dictionary options).outcome =
      match (Template.read dictionary pattern).outcome with
      | .error fault => .error (.template fault)
      | .ok template =>
        match template.expression dictionary options with
        | .error missing => .error (.missingFragment missing.name)
        | .ok expression =>
          ((Regex.Program.compile expression.toList options.caseInsensitive
            options.sizeLimit).mapError Failure.expression).map
              fun program => ⟨template, expression, program, options⟩ := by
  cases read : (Template.read dictionary pattern).outcome with
  | error fault =>
    have read' : ((Template.read dictionary pattern).mapFault Failure.template).outcome =
        .error (.template fault) := congrArg (Except.mapError _) read
    rw [compile, Logged.emit_bind, Logged.bind_of_error _ read']
  | ok template =>
    have read' : ((Template.read dictionary pattern).mapFault Failure.template).outcome =
        .ok template := congrArg (Except.mapError _) read
    rw [compile, Logged.emit_bind, Logged.bind_of_ok _ read']
    dsimp only
    cases template.expression dictionary options with
    | error missing => rfl
    | ok expression =>
      have written : (Logged.quiet ((Except.ok expression : Except MissingFragment String).mapError
          fun missing => Failure.missingFragment missing.name)).outcome = .ok expression := rfl
      rw [Logged.bind_of_ok _ written]
      dsimp only
      cases Regex.Program.compile expression.toList options.caseInsensitive options.sizeLimit with
      | error fault => rfl
      | ok program =>
        change (if program.groupCount ≠ template.groupCount then _ else _ :
          Logged Failure Compiled).outcome = _
        split <;> rfl

/-- Compiling succeeds where each of its steps does. -/
theorem outcome_compile {pattern : String} {dictionary : Dictionary} {options : Options}
    {compiled : Compiled} : (compile pattern dictionary options).outcome = .ok compiled ↔
      (Template.read dictionary pattern).outcome = .ok compiled.template ∧
        compiled.options = options ∧ compiled.IsBuiltFrom dictionary := by
  rw [outcome_compile_eq]
  constructor
  · intro h
    split at h
    · cases h
    · rename_i template read
      split at h
      · cases h
      · rename_i expression written
        obtain ⟨program, made, rfl⟩ := Regex.map_eq_ok h
        exact ⟨read, rfl, written, eq_ok_of_mapError made⟩
  · intro holds
    rcases holds with ⟨read, rfl, written, program⟩
    simp only [read, written, program]
    rfl

/-- Once a template is read and its expression is written, the rest is up to the expression. -/
theorem outcome_compile_of_written {pattern : String} {dictionary : Dictionary}
    {options : Options} {template : Template} {expression : String}
    (read : (Template.read dictionary pattern).outcome = .ok template)
    (written : template.expression dictionary options = .ok expression) :
    (compile pattern dictionary options).outcome =
      ((Regex.Program.compile expression.toList options.caseInsensitive
        options.sizeLimit).mapError Failure.expression).map
          fun program => ⟨template, expression, program, options⟩ := by
  rw [outcome_compile_eq, read]
  dsimp only
  rw [written]

/-- A pattern that is read alike under two dictionaries, and then written alike, is compiled
alike. -/
theorem compile_congr {pattern : String} {first second : Dictionary} {options : Options}
    (same : Template.read first pattern = Template.read second pattern)
    (written : ∀ template, (Template.read first pattern).outcome = .ok template →
      template.expression first options = template.expression second options) :
    compile pattern first options = compile pattern second options := by
  rw [compile, compile, ← same]
  apply bind_congr
  intro _
  apply Logged.bind_congr_of_ok
  intro template found
  rw [written template (eq_ok_of_mapError found)]

/-- What is logged on the way to a compiled template. -/
theorem log_compile {pattern : String} {dictionary : Dictionary} {options : Options}
    {compiled : Compiled} (h : (compile pattern dictionary options).outcome = .ok compiled) :
    (compile pattern dictionary options).log =
      .compiling pattern :: ((Template.read dictionary pattern).log ++
        .compiled compiled.expression compiled.template.groupCount ::
          if compiled.program.groupCount ≠ compiled.template.groupCount then
            [.groupsDiffer compiled.template.groupCount compiled.program.groupCount]
          else []) := by
  obtain ⟨read, rfl, written, program⟩ := outcome_compile.mp h
  have read' : ((Template.read dictionary pattern).mapFault Failure.template).outcome =
      .ok compiled.template := congrArg (Except.mapError _) read
  have written' : (Logged.quiet ((compiled.template.expression dictionary
      compiled.options).mapError fun missing => Failure.missingFragment missing.name)).outcome =
        .ok compiled.expression := congrArg (Except.mapError _) written
  have program' : (Logged.quiet ((Regex.Program.compile compiled.expression.toList
      compiled.options.caseInsensitive compiled.options.sizeLimit).mapError
        Failure.expression)).outcome = .ok compiled.program := congrArg (Except.mapError _) program
  rw [compile, Logged.emit_bind, Logged.bind_of_ok _ read', Logged.bind_of_ok _ written',
    Logged.bind_of_ok _ program', Logged.emit_bind]
  by_cases differ : compiled.program.groupCount ≠ compiled.template.groupCount
  · rw [if_pos differ, if_pos differ]
    rfl
  · rw [if_neg differ, if_neg differ]
    rfl

/-- Parsing reads the captures of a match as fields and adds no failures to those. -/
theorem outcome_parse (compiled : Compiled) (input : String) :
    (compiled.parse input).outcome =
      match compiled.captures? input with
      | none => .error .noMatch
      | some captures =>
        (compiled.template.extract captures).outcome.mapError .captureShortage := by
  rw [parse, captures]
  cases compiled.captures? input with
  | none => rfl
  | some captures =>
    change (((compiled.template.extract captures).mapFault Failure.captureShortage >>=
      fun fields => _) : Logged Failure (Fields String)).outcome = _
    cases extracted : (compiled.template.extract captures).outcome with
    | error shortage =>
      have failed := congrArg (Except.mapError Failure.captureShortage) extracted
      rw [Logged.bind_of_error _ failed]
      exact failed.symm
    | ok fields =>
      have read := congrArg (Except.mapError Failure.captureShortage) extracted
      rw [Logged.bind_of_ok _ read]
      exact read.symm

theorem outcome_parseAll (compiled : Compiled) (input : String) :
    (compiled.parseAll input).outcome =
      match compiled.captures? input with
      | none => .error .noMatch
      | some captures =>
        (compiled.template.extractAll captures).outcome.mapError .captureShortage := by
  rw [parseAll, captures]
  cases compiled.captures? input <;> rfl

variable {compiled : Compiled} {input : String}

/-- Without a match there is no other failure. -/
theorem parse_of_no_match (missing : compiled.captures? input = none) :
    (compiled.parse input).outcome = .error .noMatch := by
  rw [outcome_parse, missing]

theorem captures?_of_no_match (h : (compiled.parse input).outcome = .error .noMatch) :
    compiled.captures? input = none := by
  cases found : compiled.captures? input with
  | none => rfl
  | some captures =>
    rw [outcome_parse, found] at h
    dsimp only at h
    cases extracted : (compiled.template.extract captures).outcome with
    | error shortage =>
      rw [extracted] at h
      cases h
    | ok fields =>
      rw [extracted] at h
      cases h

/-- A match with one capture for each slot gives fields. -/
theorem parse_of_captures {captures : List (Option String)}
    (found : compiled.captures? input = some captures)
    (count : captures.length = compiled.template.groupCount) :
    (compiled.parse input).outcome =
      .ok (Fields.ofReadings (compiled.template.readings true captures)) := by
  rw [outcome_parse, found]
  exact congrArg (Except.mapError _) (Template.outcome_extract count)

theorem parseAll_of_captures {captures : List (Option String)}
    (found : compiled.captures? input = some captures)
    (count : captures.length = compiled.template.groupCount) :
    (compiled.parseAll input).outcome =
      .ok (Fields.allOfReadings (compiled.template.readings true captures)) := by
  rw [outcome_parseAll, found]
  exact congrArg (Except.mapError _) (Template.outcome_extractAll count)

end Compiled

end Stencil
