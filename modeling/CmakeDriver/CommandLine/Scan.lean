import CmakeDriver.CommandLine.Token
import CmakeDriver.CommandLine.Usage

/-!
# Scanning the options of one scope

Arguments are scanned from the left, up to the first word that is no option's value, a lone `--`,
or the end. An option that takes a value stays open until the next argument gives it one, and its
value is held back until the next argument is known to belong to the scope: only then is it
settled. So an argument that the scope does not know is reported before a fault of the option in
front of it.

Results:
* `close_nothing`: nothing is left to close where no option is pending.
* `settle_eq_ok`: what is settled is added at the end.
-/

namespace CmakeDriver

namespace CommandLine

/-- The option in front of the next argument, if it is not settled yet. -/
inductive Pending where
  | nothing
  /-- The next argument may be its value. -/
  | waiting (option : Opt)
  /-- Its value is known. -/
  | held (option : Opt) (value : String)
  deriving DecidableEq, Repr

/-- Where the options of a scope end. -/
inductive Stop where
  | finished
  /-- Behind a lone `--`. -/
  | escaped (rest : List String)
  /-- At a word that is no option's value. -/
  | word (text : String) (rest : List String)
  deriving DecidableEq, Repr

/-- Adds the setting that an option makes of a value. Only some options may be given again. -/
def settle (settled : List Setting) (o : Opt) (value : String) :
    Except UsageError (List Setting) :=
  if !o.mayRepeat && settled.any (fun s => s.option = o) then .error (.repeated o)
  else
    match Setting.ofValue o value with
    | .error reason => .error (.invalidValue o value reason)
    | .ok s => .ok (settled ++ [s])

/-- Settles the pending option. -/
def Pending.close (settled : List Setting) : Pending → Except UsageError (List Setting)
  | nothing => .ok settled
  | waiting o => .error (.missingValue o)
  | held o value => settle settled o value

theorem close_nothing (settled : List Setting) : Pending.nothing.close settled = .ok settled := rfl

/-- The question that a long name asks. -/
def Scope.longQuestion? (scope : Scope) (name : String) : Option Question :=
  if name = "help" then some .help
  else if name = "version" ∧ scope = .top then some .version
  else none

/-- The question that a letter asks. -/
def Scope.shortQuestion? (scope : Scope) (letter : Char) : Option Question :=
  if letter = 'h' then some .help
  else if letter = 'V' ∧ scope = .top then some .version
  else none

/-- The page of help of a scope. -/
def Scope.page : Scope → Page
  | top => .top
  | configure => .configure
  | build => .build
  | doctor => .doctor

/-- The answer to a question. -/
def Question.answer (scope : Scope) : Question → Refusal
  | help => .help scope.page
  | version => .version

/-- Answers a question once the pending option is settled. -/
def ask (scope : Scope) (settled : List Setting) (pending : Pending) (q : Question) : Refusal :=
  match pending.close settled with
  | .error e => .usage e
  | .ok _ => q.answer scope

/-- What a long option does: it leaves the settings and the option that is pending behind it. -/
def readLong (scope : Scope) (settled : List Setting) (pending : Pending) (name : String)
    (value : Option String) : Except Refusal (List Setting × Pending) :=
  match scope.longOption? name, scope.longQuestion? name, value with
  | some o, _, some v =>
    if o.takesValue then do
      let settled ← (pending.close settled).mapError .usage
      let settled ← (settle settled o v).mapError .usage
      pure (settled, .nothing)
    else .error (.usage (.unexpectedValue o.display v))
  | some o, _, none => do
    let settled ← (pending.close settled).mapError .usage
    if o.takesValue then pure (settled, .waiting o)
    else do
      let settled ← (settle settled o "").mapError .usage
      pure (settled, .nothing)
  | none, some q, some v => .error (.usage (.unexpectedValue q.display v))
  | none, some q, none => .error (ask scope settled pending q)
  | none, none, _ => .error (.usage (.unknownArgument ("--" ++ name)))

/-- Scans the options of a scope. -/
def scan (scope : Scope) (settled : List Setting) (pending : Pending) :
    List String → Except Refusal (List Setting × Pending × Stop)
  | [] => .ok (settled, pending, .finished)
  | argument :: rest =>
    match Token.ofString argument with
    | .escape => .ok (settled, pending, .escaped rest)
    | .long name value => do
      let (settled, pending) ← readLong scope settled pending name value
      scan scope settled pending rest
    | .short letter =>
      match scope.shortQuestion? letter with
      | some q => .error (ask scope settled pending q)
      | none => .error (.usage (.unknownArgument ("-" ++ letter.toString)))
    | .word text =>
      match pending with
      | .waiting o => scan scope settled (.held o text) rest
      | pending => .ok (settled, pending, .word text rest)

theorem settle_eq_ok {settled after : List Setting} {o : Opt} {value : String}
    (h : settle settled o value = .ok after) :
    ∃ s, Setting.ofValue o value = .ok s ∧ after = settled ++ [s] := by
  unfold settle at h
  split at h
  · exact absurd h (by simp)
  · cases hv : Setting.ofValue o value with
    | error e => rw [hv] at h; exact absurd h (by simp)
    | ok s =>
      rw [hv] at h
      exact ⟨s, rfl, (Except.ok.inj h).symm⟩

end CommandLine

end CmakeDriver
