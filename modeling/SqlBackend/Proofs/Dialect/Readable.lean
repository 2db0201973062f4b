import SqlBackend.Proofs.Dialect.Classification

/-!
# Errors that can be classified

A value is classified by its code, and the first place to look for a code is the first of the value's
arguments. So its arguments, if it has any, have to be such that a first one can be taken: a list, a
text, or what counts as nothing. `Value.HasReadableArguments` asks for this, and it is all that is asked
for. Errors of drivers have it, since their arguments are a list, and so has everything else but an
object, which may have anything for an attribute.
-/

namespace SqlBackend

namespace Value

/-- Whether a value is a sequence of others, which has a first one unless it is empty. -/
def isSequence : Value → Bool
  | .list _ => true
  | .text _ => true
  | _ => false

/-- Whether a first one of these arguments can be taken, or they count as none. -/
def isReadable (arguments : Value) : Bool := arguments.isSequence || !arguments.truthy

/-- The arguments of the value, if it has any, can be read. -/
def HasReadableArguments (value : Value) : Prop :=
  ∀ arguments, value.attribute? "args" = some arguments → arguments.isReadable = true

/-- Objects are the only values whose arguments may be unreadable. -/
theorem hasReadableArguments_of_ne_object {value : Value}
    (h : ∀ attributes, value ≠ .object attributes) : value.HasReadableArguments := by
  intro arguments hargs
  cases value with
  | raised error =>
      obtain rfl : Value.list error.args = arguments := Option.some.inj hargs
      rfl
  | object attributes => exact absurd rfl (h attributes)
  | _ => cases hargs

end Value

/-- What an attempt to read unreadable arguments ends with. -/
def Fault.IsUnreadable (fault : Fault) : Prop := fault = .wrongType ∨ fault = .missingEntry

theorem firstArgument_of_not_truthy {arguments : Value} (h : arguments.truthy = false) :
    firstArgument arguments = .ok none := by
  unfold firstArgument
  split
  · next items =>
      have hempty : items = [] := by simpa [Value.truthy] using h
      rw [hempty]
      rfl
  · next s =>
      have hempty : s = "" := by simpa [Value.truthy] using h
      rw [hempty]
      rfl
  · rfl
  · cases h
  · rw [if_neg (by simp [h])]

theorem exists_firstArgument {arguments : Value} (h : arguments.isReadable = true) :
    ∃ first, firstArgument arguments = .ok first := by
  cases htruthy : arguments.truthy with
  | false => exact ⟨none, firstArgument_of_not_truthy htruthy⟩
  | true =>
      have hsequence : arguments.isSequence = true := by
        simpa [Value.isReadable, htruthy] using h
      cases arguments with
      | list items => exact ⟨_, rfl⟩
      | text s => exact ⟨_, rfl⟩
      | _ => cases hsequence

theorem firstArgument_of_not_readable {arguments : Value} (h : arguments.isReadable = false) :
    ∃ fault : Fault, fault.IsUnreadable ∧ firstArgument arguments = .error fault := by
  obtain ⟨hsequence, htruthy⟩ : arguments.isSequence = false ∧ arguments.truthy = true := by
    simpa [Value.isReadable] using h
  unfold firstArgument
  split
  · cases hsequence
  · cases hsequence
  · cases htruthy
  · exact ⟨_, .inr rfl, rfl⟩
  · exact ⟨_, .inl rfl, if_pos htruthy⟩

variable {value : Value}

theorem exists_nativeErrorCode (h : value.HasReadableArguments) :
    ∃ code, nativeErrorCode value = .ok code := by
  have hfirst : ∃ first, firstArgument ((value.attribute? "args").getD (.list [])) = .ok first := by
    cases hargs : value.attribute? "args" with
    | none => exact ⟨_, rfl⟩
    | some arguments => exact exists_firstArgument (h arguments hargs)
  obtain ⟨first, hfirst⟩ := hfirst
  unfold nativeErrorCode
  split
  · exact ⟨_, rfl⟩
  · rw [hfirst]
    split
    · exact ⟨_, rfl⟩
    · exact ⟨_, rfl⟩

theorem nativeErrorCode_of_not_readable (h : ¬ value.HasReadableArguments) :
    ∃ fault : Fault, fault.IsUnreadable ∧ nativeErrorCode value = .error fault := by
  obtain ⟨attributes, rfl⟩ : ∃ attributes, value = .object attributes := by
    by_contra hobject
    exact h (Value.hasReadableArguments_of_ne_object fun attributes hvalue =>
      hobject ⟨attributes, hvalue⟩)
  simp only [Value.HasReadableArguments, not_forall, Bool.not_eq_true] at h
  obtain ⟨arguments, hargs, hunreadable⟩ := h
  obtain ⟨fault, hfault, hfirst⟩ := firstArgument_of_not_readable hunreadable
  refine ⟨fault, hfault, ?_⟩
  show (firstArgument (((Value.object attributes).attribute? "args").getD (.list [])) >>= _) = _
  rw [hargs, Option.getD_some, hfirst]
  rfl

namespace Dialect

variable (d : Dialect)

theorem exists_nativeCode (h : value.HasReadableArguments) :
    ∃ code, d.nativeCode value = .ok code := by
  obtain ⟨code, hcode⟩ := exists_nativeErrorCode h
  unfold nativeCode
  rw [hcode]
  split
  · exact ⟨_, rfl⟩
  · exact ⟨_, rfl⟩

variable {fault : Fault}

theorem nativeCode_of_error (h : nativeErrorCode value = .error fault) :
    d.nativeCode value = .error fault := by
  unfold nativeCode
  rw [h]
  split
  · rfl
  · rfl

theorem classify_of_error (h : d.nativeCode value = .error fault) :
    d.classify value = .error fault := by
  rw [classify, h]
  rfl

/-- Without a code of its own, no kind asks what code the value has. -/
theorem classifyMatches_of_error (h : d.nativeCode value = .error fault) (kind : ErrorKind) :
    d.classifyMatches value kind =
      if d.errorCodes.has kind then .error fault else .ok false := by
  rw [classifyMatches, Table.has, h]
  cases d.errorCodes.get? kind with
  | none => rfl
  | some code => rfl

/-- Every dialect classifies every value whose arguments can be read, so every value that is no object.
The others it refuses, except that a value is never of a kind that the dialect has no code for. -/
theorem classification_fails_iff_unreadable (value : Value) :
    (value.HasReadableArguments → ∀ (d : Dialect) (kind : ErrorKind),
      (∃ code, d.nativeCode value = .ok code) ∧ (∃ kind?, d.classify value = .ok kind?) ∧
        ∃ answer, d.classifyMatches value kind = .ok answer) ∧
    (¬ value.HasReadableArguments → ∃ fault : Fault, fault.IsUnreadable ∧ ∀ d : Dialect,
      d.nativeCode value = .error fault ∧ d.classify value = .error fault ∧
        ∀ kind, d.classifyMatches value kind =
          if d.errorCodes.has kind then .error fault else .ok false) ∧
    ((∀ attributes, value ≠ .object attributes) → value.HasReadableArguments) := by
  refine ⟨?_, ?_, Value.hasReadableArguments_of_ne_object⟩
  · intro h d kind
    obtain ⟨code, hcode⟩ := d.exists_nativeCode h
    exact ⟨⟨code, hcode⟩, ⟨_, classify_of_nativeCode hcode⟩,
      ⟨_, classifyMatches_of_nativeCode hcode kind⟩⟩
  · intro h
    obtain ⟨fault, hfault, herror⟩ := nativeErrorCode_of_not_readable h
    refine ⟨fault, hfault, fun d => ?_⟩
    have hcode := d.nativeCode_of_error herror
    exact ⟨hcode, d.classify_of_error hcode, d.classifyMatches_of_error hcode⟩

/-- An object that carries a code twice, on the first of its arguments and as an attribute. -/
def codedObject : Value :=
  .object [("errno", .int 1062), ("args", .list [.object [("code", .int 1)], .null])]

theorem classification_of_codedObject :
    codedObject.HasReadableArguments ∧
      ∃ kind?, Dialect.oracle.classify codedObject = .ok kind? ∧ kind? = some .duplicateRow := by
  have hreadable : codedObject.HasReadableArguments := by
    rintro arguments ⟨⟩
    rfl
  obtain ⟨-, ⟨kind?, hkind⟩, -⟩ :=
    (classification_fails_iff_unreadable codedObject).1 hreadable .oracle .duplicateRow
  refine ⟨hreadable, kind?, hkind, ?_⟩
  have hcomputed : Dialect.oracle.classify codedObject = .ok (some .duplicateRow) := rfl
  rw [hcomputed] at hkind
  exact (Except.ok.inj hkind).symm

/-- An object with a number in place of its arguments. -/
def numberedObject : Value := .object [("args", .int 5)]

/-- An object may be refused instead of having no kind. -/
theorem classification_fails_on_numberedObject :
    Dialect.mysql.nativeCode numberedObject = .error .wrongType ∧
      Dialect.mysql.classify numberedObject = .error .wrongType ∧
      Dialect.mysql.classifyMatches numberedObject .duplicateRow = .error .wrongType :=
  ⟨rfl, rfl, rfl⟩

end Dialect

end SqlBackend
