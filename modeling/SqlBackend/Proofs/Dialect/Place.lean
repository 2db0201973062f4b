import SqlBackend.Proofs.Dialect.Readable

/-!
# The places where an error carries its code

A `CodePlace` is one of the places where a driver may put the code of an error: on the first argument,
as the first argument, or in an attribute of the error. A place may hold anything, and only what it
`Holds` counts: an integer, or in an attribute of the error a text as well, but never a truth value.
The code of an error is the one in the first place that holds one, unless the error is a failure of the
operating system, which has no code whatever it carries.
-/

namespace SqlBackend

/-- The value that a code is found as. -/
def Code.value : Code → Value
  | .number n => .int n
  | .word s => .text s

theorem Code.value_ne_bool (code : Code) (b : Bool) : code.value ≠ .bool b := by
  cases code <;> simp [value]

theorem Code.ofValue?_eq_some_iff {value : Value} {code : Code} :
    ofValue? value = some code ↔ value = code.value := by
  cases code <;> cases value <;> simp [ofValue?, Code.value]

/-- A place where an error may carry its code. -/
inductive CodePlace where
  /-- The attribute `code` of the first argument. -/
  | onArgument
  /-- The first argument itself. -/
  | argument
  /-- An attribute of the error. -/
  | onError (name : String)

namespace CodePlace

/-- The places in the order in which they count. -/
def all : List CodePlace :=
  [.onArgument, .argument, .onError "errno", .onError "sqlite_errorcode", .onError "code"]

/-- What an error has in a place. -/
def value? : CodePlace → DriverError → Option Value
  | .onArgument, error => error.args.head?.bind fun first => first.attribute? "code"
  | .argument, error => error.args.head?
  | .onError name, error => error.attributes.lookup name

/-- Whether a code counts in a place: a number does everywhere, a word only in an attribute of the
error. -/
def Admits : CodePlace → Code → Prop
  | _, .number _ => True
  | .onError _, .word _ => True
  | _, .word _ => False

/-- Whether a code is in a place where it counts. -/
def Holds (place : CodePlace) (error : DriverError) (code : Code) : Prop :=
  place.value? error = some code.value ∧ place.Admits code

/-- The code that a value is in a place. -/
def read? : CodePlace → Value → Option Code
  | .onError _ => Code.ofValue?
  | _ => Code.ofInteger?

/-- The code in a place, if there is one that counts. -/
def code? (place : CodePlace) (error : DriverError) : Option Code :=
  (place.value? error).bind place.read?

variable {place : CodePlace} {error : DriverError} {code : Code}

theorem read?_eq_some_iff {value : Value} :
    place.read? value = some code ↔ value = code.value ∧ place.Admits code := by
  cases place with
  | onError name =>
      have hadmits : (onError name).Admits code := by
        cases code <;> trivial
      rw [read?, Code.ofValue?_eq_some_iff, and_iff_left hadmits]
  | onArgument | argument =>
      cases code <;> cases value <;> simp [read?, Code.ofInteger?, Code.value, Admits]

theorem code?_eq_some_iff : place.code? error = some code ↔ place.Holds error code := by
  rw [code?, Holds, Option.bind_eq_some_iff]
  constructor
  · rintro ⟨value, hvalue, hread⟩
    obtain ⟨rfl, hadmits⟩ := read?_eq_some_iff.mp hread
    exact ⟨hvalue, hadmits⟩
  · rintro ⟨hvalue, hadmits⟩
    exact ⟨code.value, hvalue, read?_eq_some_iff.mpr ⟨rfl, hadmits⟩⟩

theorem code?_eq_none_iff : place.code? error = none ↔ ∀ code, ¬ place.Holds error code := by
  rw [Option.eq_none_iff_forall_ne_some]
  simp only [ne_eq, code?_eq_some_iff]

/-- The places of an error depend on the first of its arguments only, and on its attributes. -/
theorem code?_congr {other : DriverError} (hargs : other.args.head? = error.args.head?)
    (hattributes : other.attributes = error.attributes) (place : CodePlace) :
    place.code? other = place.code? error := by
  cases place <;> simp only [code?, value?, hargs, hattributes]

end CodePlace

section

variable {error : DriverError}

/-- The code of an error that is no failure of the operating system is looked for place by place. -/
theorem nativeErrorCode_raised (h : error.severity ≠ .system) :
    nativeErrorCode (.raised error) = .ok (CodePlace.all.findSome? fun place => place.code? error) := by
  have hsystem : (Value.raised error).isSystemError = false := by
    simpa [Value.isSystemError] using h
  have hattribute : attributeCode? (.raised error) =
      [CodePlace.onError "errno", .onError "sqlite_errorcode", .onError "code"].findSome?
        fun place => place.code? error := rfl
  have hplaces : CodePlace.all.findSome? (fun place => place.code? error) =
      (error.args.head?.bind argumentCode? <|> attributeCode? (.raised error)) := by
    rw [hattribute, CodePlace.all, List.findSome?_cons, List.findSome?_cons]
    cases hhead : error.args.head? with
    | none => simp [CodePlace.code?, CodePlace.value?, hhead]
    | some first =>
        have hon : CodePlace.onArgument.code? error =
            (first.attribute? "code").bind Code.ofInteger? := by
          rw [CodePlace.code?, CodePlace.value?, hhead]
          rfl
        have hself : CodePlace.argument.code? error = Code.ofInteger? first := by
          rw [CodePlace.code?, CodePlace.value?, hhead]
          rfl
        rw [hon, hself, Option.bind_some, argumentCode?]
        cases (first.attribute? "code").bind Code.ofInteger? with
        | some code => rfl
        | none =>
            cases Code.ofInteger? first with
            | some code => rfl
            | none => rfl
  rw [hplaces, nativeErrorCode]
  show (if (Value.raised error).isSystemError = true then _ else _) = _
  rw [hsystem]
  rfl

end

namespace Dialect

/-- What has no code is of no kind. -/
theorem unclassified_of_no_code {value : Value} (h : nativeErrorCode value = .ok none)
    (d : Dialect) (kind : ErrorKind) :
    d.classify value = .ok none ∧ d.classifyMatches value kind = .ok false := by
  have hcode : d.nativeCode value = .ok none := by
    unfold nativeCode
    rw [h]
    split
    · rfl
    · rfl
  constructor
  · rw [classify_of_nativeCode hcode]
    simp [lists_none]
  · rw [classifyMatches_of_nativeCode hcode, lists_none]

end Dialect

/-- A failure of the operating system has no code. Any other error has the code in the first of the
places that holds one, and none exactly if no place does. It is never a truth value, and the arguments
after the first do not matter for it. Failures of the operating system and truth values are of no kind
in any dialect. -/
theorem code_is_in_first_place (error : DriverError) :
    (error.severity = .system → nativeErrorCode (.raised error) = .ok none) ∧
    (error.severity ≠ .system →
      (∀ code, nativeErrorCode (.raised error) = .ok (some code) ↔
        ∃ before place after, CodePlace.all = before ++ place :: after ∧
          place.Holds error code ∧ ∀ other ∈ before, ∀ code, ¬ other.Holds error code) ∧
      (nativeErrorCode (.raised error) = .ok none ↔
        ∀ place ∈ CodePlace.all, ∀ code, ¬ place.Holds error code)) ∧
    (∃ found, nativeErrorCode (.raised error) = .ok found ∧
      ∀ code, found = some code → ∀ b, code.value ≠ .bool b) ∧
    (∀ other : DriverError, other.severity = error.severity →
      other.attributes = error.attributes → other.args.head? = error.args.head? →
        nativeErrorCode (.raised other) = nativeErrorCode (.raised error)) ∧
    ∀ (d : Dialect) (kind : ErrorKind),
      (error.severity = .system → d.classify (.raised error) = .ok none ∧
        d.classifyMatches (.raised error) kind = .ok false) ∧
      ∀ b, d.classify (.bool b) = .ok none ∧ d.classifyMatches (.bool b) kind = .ok false := by
  have hsystem {error : DriverError} (h : error.severity = .system) :
      nativeErrorCode (.raised error) = .ok none :=
    nativeErrorCode_of_isSystemError (by simpa [Value.isSystemError] using h)
  refine ⟨hsystem, fun hother => ⟨fun code => ?_, ?_⟩, ?_, ?_, fun d kind => ⟨?_, ?_⟩⟩
  · rw [nativeErrorCode_raised hother, Except.ok.injEq, List.findSome?_eq_some_iff]
    simp only [CodePlace.code?_eq_some_iff, CodePlace.code?_eq_none_iff]
  · rw [nativeErrorCode_raised hother, Except.ok.injEq, List.findSome?_eq_none_iff]
    simp only [CodePlace.code?_eq_none_iff]
  · have hreadable : (Value.raised error).HasReadableArguments :=
      Value.hasReadableArguments_of_ne_object fun _ => by simp
    obtain ⟨found, hfound⟩ := exists_nativeErrorCode hreadable
    exact ⟨found, hfound, fun code _ b => code.value_ne_bool b⟩
  · intro other hseverity hattributes hargs
    by_cases h : error.severity = .system
    · rw [hsystem h, hsystem (hseverity.trans h)]
    · rw [nativeErrorCode_raised h, nativeErrorCode_raised (hseverity ▸ h)]
      simp only [CodePlace.code?_congr hargs hattributes]
  · intro h
    exact Dialect.unclassified_of_no_code (hsystem h) d kind
  · intro b
    exact Dialect.unclassified_of_no_code (nativeErrorCode_bool b) d kind

/-- An error with something in every place, but no number on or in its first argument and a truth value
for its number. -/
def crowdedError : DriverError where
  severity := .interrupt
  tag := "crowded"
  args := [.raised ⟨.ordinary, "inner", [.int 1], [("code", .bool true)]⟩, .int 1062]
  attributes := [("code", .int 7), ("errno", .bool false), ("sqlite_errorcode", .text "2067")]

/-- A failure of the operating system that carries the code of a row that exists already. -/
def brokenPipe : DriverError where
  severity := .system
  tag := "pipe"
  args := [.int 1, .text "not permitted"]
  attributes := [("errno", .int 1), ("strerror", .text "not permitted")]

theorem code_is_in_first_place_of_crowdedError :
    nativeErrorCode (.raised crowdedError) = .ok (some (.word "2067")) ∧
      nativeErrorCode (.raised { crowdedError with args := crowdedError.args.take 1 }) =
        nativeErrorCode (.raised crowdedError) ∧
      nativeErrorCode (.raised brokenPipe) = .ok none ∧
      Dialect.oracle.classify (.raised brokenPipe) = .ok none := by
  obtain ⟨-, hplaces, -, hargs, -⟩ := code_is_in_first_place crowdedError
  obtain ⟨hsystem, -, -, -, hkinds⟩ := code_is_in_first_place brokenPipe
  refine ⟨((hplaces (by decide)).1 (.word "2067")).mpr ?_, hargs _ rfl rfl rfl, hsystem rfl,
    ((hkinds .oracle .duplicateRow).1 rfl).1⟩
  refine ⟨[.onArgument, .argument, .onError "errno"], .onError "sqlite_errorcode",
    [.onError "code"], rfl, ⟨rfl, trivial⟩, ?_⟩
  intro other hother
  rw [← CodePlace.code?_eq_none_iff]
  revert other
  simp only [List.forall_mem_cons]
  exact ⟨rfl, rfl, rfl, List.forall_mem_nil _⟩

end SqlBackend
