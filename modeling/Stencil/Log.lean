/-!
# Logged computations

What a computation logs is a value: the entries, oldest first, stand beside the
outcome, and entries logged before a failure are kept.
-/
namespace Stencil

inductive Level where
  | trace | debug | warn
deriving DecidableEq

namespace Level

def name : Level → String
  | .trace => "TRACE"
  | .debug => "DEBUG"
  | .warn => "WARN"

end Level

/-- The value of one field of a log entry. -/
inductive Detail where
  | text (value : String)
  | number (value : Nat)
deriving DecidableEq

/-- What can be logged. The first group opens a named stretch of work, the second
reports something that happened inside one. -/
inductive Entry where
  | compiling (pattern : String)
  | scanning (pattern : String)
  | parsing (inputLength : Nat)
  | acceptedPlaceholder (name : String)
  | foundOptional (start stop : Nat)
  | compiled (expression : String) (groups : Nat)
  | groupsDiffer (expected found : Nat)
  | skippedOptional (groups : Nat)
  | extracted (fields : Nat)
deriving DecidableEq

namespace Entry

def opensWork : Entry → Bool
  | .compiling _ | .scanning _ | .parsing _ => true
  | _ => false

def level : Entry → Level
  | .acceptedPlaceholder _ | .foundOptional _ _ | .skippedOptional _ => .trace
  | .groupsDiffer _ _ => .warn
  | _ => .debug

/-- The name of the work that is opened, or the sentence that is reported. -/
def title : Entry → String
  | .compiling _ => "with_options"
  | .scanning _ => "scan"
  | .parsing _ => "parse"
  | .acceptedPlaceholder _ => "placeholder"
  | .foundOptional _ _ => "optional span"
  | .compiled _ _ => "compiled template"
  | .groupsDiffer _ _ => "partials do not contribute exactly one capture group each"
  | .skippedOptional _ => "skipping unmatched optional span"
  | .extracted _ => "extracted fields"

def details : Entry → List (String × Detail)
  | .compiling pattern => [("pattern", .text pattern)]
  | .scanning pattern => [("pattern", .text pattern)]
  | .parsing inputLength => [("input_len", .number inputLength)]
  | .acceptedPlaceholder name => [("name", .text name)]
  | .foundOptional start stop => [("start", .number start), ("end", .number stop)]
  | .compiled expression groups => [("expression", .text expression), ("groups", .number groups)]
  | .groupsDiffer expected found => [("expected", .number expected), ("found", .number found)]
  | .skippedOptional groups => [("groups", .number groups)]
  | .extracted fields => [("fields", .number fields)]

end Entry

/-- An outcome together with everything logged on the way to it. -/
structure Logged (ε α : Type) where
  log : List Entry
  outcome : Except ε α

namespace Logged

variable {ε ε' α β : Type}

protected def pure (value : α) : Logged ε α :=
  ⟨[], .ok value⟩

/-- A failure keeps its log and ends the computation. -/
protected def bind (first : Logged ε α) (next : α → Logged ε β) : Logged ε β :=
  match first.outcome with
  | .error fault => ⟨first.log, .error fault⟩
  | .ok value =>
    let second := next value
    ⟨first.log ++ second.log, second.outcome⟩

instance : Monad (Logged ε) where
  pure := Logged.pure
  bind := Logged.bind

def fail (fault : ε) : Logged ε α :=
  ⟨[], .error fault⟩

def emit (entry : Entry) : Logged ε Unit :=
  ⟨[entry], .ok ()⟩

/-- An outcome that logs nothing. -/
def quiet (outcome : Except ε α) : Logged ε α :=
  ⟨[], outcome⟩

def mapFault (f : ε → ε') (computation : Logged ε α) : Logged ε' α :=
  ⟨computation.log, computation.outcome.mapError f⟩

@[simp] theorem outcome_pure (value : α) : (pure value : Logged ε α).outcome = .ok value := rfl

@[simp] theorem log_pure (value : α) : (pure value : Logged ε α).log = [] := rfl

@[simp] theorem emit_bind (entry : Entry) (next : Unit → Logged ε β) :
    (emit entry >>= next : Logged ε β) = ⟨entry :: (next ()).log, (next ()).outcome⟩ := rfl

theorem bind_of_ok {first : Logged ε α} {value : α} (next : α → Logged ε β)
    (h : first.outcome = .ok value) :
    (first >>= next) = ⟨first.log ++ (next value).log, (next value).outcome⟩ := by
  change Logged.bind first next = _
  simp [Logged.bind, h]

theorem bind_of_error {first : Logged ε α} {fault : ε} (next : α → Logged ε β)
    (h : first.outcome = .error fault) :
    (first >>= next) = ⟨first.log, .error fault⟩ := by
  change Logged.bind first next = _
  simp [Logged.bind, h]

/-- What follows matters only for the value that the first stage gives. -/
theorem bind_congr_of_ok {first : Logged ε α} {next next' : α → Logged ε β}
    (same : ∀ value, first.outcome = .ok value → next value = next' value) :
    first >>= next = first >>= next' := by
  cases h : first.outcome with
  | error fault => rw [bind_of_error next h, bind_of_error next' h]
  | ok value => rw [bind_of_ok next h, bind_of_ok next' h, same value h]

/-- A computation in two stages succeeds exactly when both stages do. -/
theorem outcome_bind_eq_ok {first : Logged ε α} {next : α → Logged ε β} {result : β} :
    (first >>= next).outcome = .ok result ↔
      ∃ value, first.outcome = .ok value ∧ (next value).outcome = .ok result := by
  cases h : first.outcome with
  | error fault => simp [bind_of_error next h]
  | ok value => simp [bind_of_ok next h]

/-- A computation in two stages fails as the first of them that does. -/
theorem outcome_bind_eq_error {first : Logged ε α} {next : α → Logged ε β} {fault : ε} :
    (first >>= next).outcome = .error fault ↔
      first.outcome = .error fault ∨
        ∃ value, first.outcome = .ok value ∧ (next value).outcome = .error fault := by
  cases h : first.outcome with
  | error fault => simp [bind_of_error next h]
  | ok value => simp [bind_of_ok next h]

theorem outcome_map (computation : Logged ε α) (f : α → β) :
    (computation >>= fun value => pure (f value)).outcome = computation.outcome.map f := by
  obtain ⟨log, outcome⟩ := computation
  cases outcome <;> rfl

theorem log_map (computation : Logged ε α) (f : α → β) :
    (computation >>= fun value => pure (f value)).log = computation.log := by
  cases h : computation.outcome with
  | error fault => rw [bind_of_error _ h]
  | ok value => rw [bind_of_ok _ h, log_pure, List.append_nil]

instance : LawfulMonad (Logged ε) := LawfulMonad.mk' _
  (fun x => by
    obtain ⟨log, outcome⟩ := x
    cases outcome <;> simp [Functor.map, Logged.bind, Logged.pure])
  (fun _ _ => rfl)
  (fun x f g => by
    obtain ⟨log, outcome⟩ := x
    cases outcome with
    | error fault => rfl
    | ok value =>
      change Logged.bind (Logged.bind _ f) g = Logged.bind _ fun x => Logged.bind (f x) g
      cases h : (f value).outcome <;> simp [Logged.bind, h])

end Logged

end Stencil
