import SqlBackend.Proofs.Flush.Confirmation
import SqlBackend.Proofs.Numeric.Range
import SqlBackend.Proofs.Pool.Config
import SqlBackend.Settings.Source

/-!
# The two gates of a wait

A wait comes in as an argument of a flusher or as a setting, and either place looks at it on its own.
Both let the same numbers through, the spans of time. A number that is none is refused as a bad wait by
the flusher, unless it is an integer beyond the range of floating-point numbers: that one does not get
as far as the check. A flusher made from validated settings has its wait from there, so that nothing is
left to be refused.
-/

namespace SqlBackend

open SqlBackend.Numeric

namespace Value

/-- A span of time: a number of seconds that is finite as a floating-point number and not negative. -/
def IsSpan : Value → Prop
  | .bool _ => True
  | .int i => 0 ≤ i ∧ i.natAbs < Binary64.overflowThreshold
  | .float x => x.isFinite = true ∧ x.isNegative = false
  | _ => False

/-- An integer that is beyond the range of floating-point numbers. -/
def IsBeyondRange : Value → Prop
  | .int i => Binary64.overflowThreshold ≤ i.natAbs
  | _ => False

theorem IsSpan.not_isBeyondRange {w : Value} (h : w.IsSpan) : ¬ w.IsBeyondRange := by
  cases w with
  | int i => exact Nat.not_le_of_lt h.2
  | _ => exact id

end Value

namespace Flush

variable {w : Value} {x : Binary64}

theorem secondsOf_of_isBeyondRange (h : w.IsBeyondRange) : secondsOf w = .error .waitBeyondRange := by
  cases w with
  | int i => rw [secondsOf, (Binary64.ofInt?_eq_none_iff i).mpr h, Fault.unlessSome]
  | _ => exact h.elim

/-- Every other number is a number of seconds, and these tell whether it is a span. -/
theorem exists_secondsOf (number : w.amount?.isSome = true) (h : ¬ w.IsBeyondRange) :
    ∃ x, secondsOf w = .ok x ∧ (w.IsSpan ↔ x.isFinite = true ∧ x.isNegative = false) := by
  cases w with
  | bool b =>
      have hspan : (Binary64.ofRatio false b.toNat 1).isFinite = true ∧
          (Binary64.ofRatio false b.toNat 1).isNegative = false := by
        cases b <;> decide +kernel
      exact ⟨.ofRatio false b.toNat 1, rfl, by simp [Value.IsSpan, hspan]⟩
  | int i =>
      cases hrounded : Binary64.ofInt? i with
      | none => exact absurd ((Binary64.ofInt?_eq_none_iff i).mp hrounded) h
      | some x =>
          obtain ⟨hfinite, hsign⟩ := Binary64.sign_of_ofInt? hrounded
          refine ⟨x, by rw [secondsOf, hrounded, Fault.unlessSome], ?_⟩
          have hrange := Nat.lt_of_not_le h
          simp [Value.IsSpan, hfinite, hsign, hrange]
  | float x => exact ⟨x, rfl, Iff.rfl⟩
  | _ => cases number

theorem ofValue_of_secondsOf (h : secondsOf w = .ok x) :
    Wait.ofValue w =
      if x.isFinite && !x.isNegative then .ok ⟨w, x⟩ else .error (.badWait w) := by
  rw [Wait.ofValue, h]
  rfl

theorem ofValue_of_isBeyondRange (h : w.IsBeyondRange) :
    Wait.ofValue w = .error .waitBeyondRange := by
  rw [Wait.ofValue, secondsOf_of_isBeyondRange h]
  rfl

/-- The field of the settings begins with the same number of seconds. -/
theorem real_of_secondsOf (h : secondsOf w = .ok x) : Field.real w = .ok x := by
  cases w with
  | bool b =>
      cases h
      rfl
  | int i =>
      rw [secondsOf] at h
      rw [Field.real]
      cases hrounded : Binary64.ofInt? i with
      | none =>
          rw [hrounded] at h
          cases h
      | some y =>
          rw [hrounded] at h
          cases h
          rfl
  | float y =>
      cases h
      rfl
  | _ => cases h

theorem seconds_of_isBeyondRange (h : w.IsBeyondRange) : Field.seconds w = .error .notReal := by
  cases w with
  | int i =>
      rw [Field.seconds, Field.real, (Binary64.ofInt?_eq_none_iff i).mpr h]
      rfl
  | _ => exact h.elim

/-- The flusher takes a number exactly if it is a span. -/
theorem exists_ofValue_iff (number : w.amount?.isSome = true) :
    (∃ wait, Wait.ofValue w = .ok wait) ↔ w.IsSpan := by
  by_cases h : w.IsBeyondRange
  · have hspan : ¬ w.IsSpan := fun hspan => hspan.not_isBeyondRange h
    simp [ofValue_of_isBeyondRange h, hspan]
  · obtain ⟨x, hseconds, hspan⟩ := exists_secondsOf number h
    rw [ofValue_of_secondsOf hseconds, hspan]
    split_ifs with hcheck <;> simpa using hcheck

theorem exists_seconds_of_real (h : Field.real w = .ok x) :
    (∃ span, Field.seconds w = .ok span) ↔ x.isFinite = true ∧ x.isNegative = false := by
  rw [Field.seconds, h]
  show (∃ span, (if finite : x.isFinite = true then
    if sign : x.isNegative = false then _ else _ else _) = _) ↔ _
  by_cases hfinite : x.isFinite = true
  · by_cases hsign : x.isNegative = false <;> simp [hfinite, hsign]
  · simp [hfinite]

/-- The field of the settings takes a number exactly if it is a span. -/
theorem exists_seconds_iff (number : w.amount?.isSome = true) :
    (∃ span, Field.seconds w = .ok span) ↔ w.IsSpan := by
  by_cases h : w.IsBeyondRange
  · have hspan : ¬ w.IsSpan := fun hspan => hspan.not_isBeyondRange h
    simp [seconds_of_isBeyondRange h, hspan]
  · obtain ⟨x, hseconds, hspan⟩ := exists_secondsOf number h
    rw [exists_seconds_of_real (real_of_secondsOf hseconds), hspan]

end Flush

theorem Checked.ofField_eq_valid_iff {α : Type} {name : String} {result : Except Problem α} {a : α} :
    ofField name result = .valid a ↔ result = .ok a := by
  cases result <;> simp [ofField]

namespace Settings

variable {given other : Setting → Option Value}

/-- Of two sources that differ in the wait only, one of them accepted, the other is accepted exactly
if its wait is. -/
theorem exists_check_iff (hsame : ∀ x, x ≠ .fallbackWait → given x = other x)
    (accepted : ∃ s, check other = .valid s) :
    (∃ s, check given = .valid s) ↔
      ∃ span, checkSetting given .fallbackWait threeSeconds Field.seconds = .valid span := by
  obtain ⟨s, hs⟩ := accepted
  obtain ⟨g, -, hfront, -, -⟩ := Checked.seq_eq_valid_iff.mp hs
  have hsetting : ∀ {α : Type} {x : Setting}, x ≠ .fallbackWait →
      ∀ (default : α) (rule : Value → Except Problem α),
        checkSetting other x default rule = checkSetting given x default rule := by
    intro α x hx default rule
    rw [checkSetting, checkSetting, hsame x hx]
  constructor
  · rintro ⟨t, ht⟩
    obtain ⟨-, span, -, hspan, -⟩ := Checked.seq_eq_valid_iff.mp ht
    exact ⟨span, hspan⟩
  · rintro ⟨span, hspan⟩
    refine ⟨g span, Checked.seq_eq_valid_iff.mpr ⟨g, span, ?_, hspan, rfl⟩⟩
    rw [← hfront]
    simp only [hsetting, ne_eq, reduceCtorEq, not_false_eq_true]

theorem lower_fallbackWait : Text.lower Setting.fallbackWait.name = Setting.fallbackWait.name := by
  decide +kernel

theorem given?_fallbackWait (env : Environment) (w : Value) :
    given? env [(Setting.fallbackWait.name, w)] .fallbackWait = some w := by
  simp [given?, argument?, lower_fallbackWait]

theorem given?_of_ne (env : Environment) (w : Value) {x : Setting} (hx : x ≠ .fallbackWait) :
    given? env [(Setting.fallbackWait.name, w)] x = given? env [] x := by
  have hname : Setting.fallbackWait.name ≠ x.name := by
    intro hname
    have hfound := Setting.ofName?_name x
    rw [← hname, Setting.ofName?_name, Option.some.injEq] at hfound
    exact hx hfound.symm
  simp [given?, argument?, lower_fallbackWait, hname]

theorem ofArguments_wait (env : Environment) (w : Value) :
    ofArguments env [(Setting.fallbackWait.name, w)] =
      (check (given? env [(Setting.fallbackWait.name, w)])).toExcept := by
  have hknown : unknownArguments [(Setting.fallbackWait.name, w)] = [] := by
    simp [unknownArguments, lower_fallbackWait, Setting.ofName?_name]
  rw [ofArguments, hknown]
  rfl

/-- Settings that are accepted with some wait are accepted with just the waits that are spans. -/
theorem exists_ofArguments_iff {env : Environment} {w : Value} (number : w.amount?.isSome = true)
    (others : ∃ other s, ofArguments env [(Setting.fallbackWait.name, other)] = .ok s) :
    (∃ s, ofArguments env [(Setting.fallbackWait.name, w)] = .ok s) ↔ w.IsSpan := by
  obtain ⟨other, s, hs⟩ := others
  rw [ofArguments_wait, Checked.toExcept_eq_ok_iff] at hs
  have hsame : ∀ x, x ≠ .fallbackWait → given? env [(Setting.fallbackWait.name, w)] x =
      given? env [(Setting.fallbackWait.name, other)] x := by
    intro x hx
    rw [given?_of_ne env w hx, given?_of_ne env other hx]
  simp only [ofArguments_wait, Checked.toExcept_eq_ok_iff]
  rw [exists_check_iff hsame ⟨s, hs⟩, checkSetting, given?_fallbackWait]
  simp only [Checked.ofField_eq_valid_iff]
  exact Flush.exists_seconds_iff number

end Settings

namespace Flusher

open SqlBackend.Action SqlBackend.Flush

variable {d : Dialect} {w : Value}

theorem ofWait_eq (d : Dialect) (w : Value) :
    ofWait d w = (Wait.ofValue w).map fun wait => ⟨d, .supplied, wait⟩ := rfl

theorem ofValue_loose (s : Settings) :
    Wait.ofValue s.loose.fallbackWait =
      .ok ⟨.float s.fallbackWait.amount, s.fallbackWait.amount⟩ := by
  show Wait.ofValue (.float s.fallbackWait.amount) = _
  rw [ofValue_of_secondsOf (x := s.fallbackWait.amount) rfl]
  simp [s.fallbackWait.isFinite, s.fallbackWait.not_negative]

/-- A flusher from validated settings is made as soon as its pool configuration is. -/
theorem ofSettings_loose (d : Dialect) (s : Settings) (overrides : Table String Value) :
    ofSettings d s.loose overrides = (fun config => ⟨d, .configured config,
      ⟨.float s.fallbackWait.amount, s.fallbackWait.amount⟩⟩) <$>
        Pool.buildConfig d s.loose overrides := by
  rw [ofSettings, ofValue_loose, map_eq_pure_bind]
  rfl

/-- Making one fails as building the pool configuration does, and in no other way. -/
theorem run_ofSettings_loose (d : Dialect) (s : Settings) (overrides : Table String Value)
    (script : Script) (world : World) :
    let made := run (ofSettings d s.loose overrides) script world
    let built := run (Pool.buildConfig d s.loose overrides) script world
    made.2 = built.2 ∧ ∀ fault, made.1 = .error fault ↔ built.1 = .error fault := by
  simp only [ofSettings_loose, map_eq_pure_bind]
  rw [run_bind]
  rcases run (Pool.buildConfig d s.loose overrides) script world with ⟨config | fault, later⟩
  · simp
  · simp

/-- Every number is a span, beyond range or a bad wait. -/
theorem ofWait_of_not_isBeyondRange (number : w.amount?.isSome = true) (h : ¬ w.IsBeyondRange) :
    (∃ wait, ofWait d w = .ok ⟨d, .supplied, wait⟩) ∨ ofWait d w = .error (.badWait w) := by
  obtain ⟨x, hseconds, -⟩ := exists_secondsOf number h
  rw [ofWait_eq, ofValue_of_secondsOf hseconds]
  split_ifs
  · exact .inl ⟨_, rfl⟩
  · exact .inr rfl

theorem ofWait_of_isBeyondRange (h : w.IsBeyondRange) : ofWait d w = .error .waitBeyondRange := by
  rw [ofWait_eq, ofValue_of_isBeyondRange h]
  rfl

theorem exists_ofWait_iff (number : w.amount?.isSome = true) :
    (∃ f, ofWait d w = .ok f) ↔ w.IsSpan := by
  rw [← exists_ofValue_iff number, ofWait_eq]
  cases Wait.ofValue w with
  | ok wait => simp [Except.map]
  | error fault => simp [Except.map]

/-- The numbers that a flusher takes for a wait are those that the settings take in an environment with
which nothing else is the matter. Others are refused as bad waits, unless they are beyond range, and
before anything is called. A flusher from validated settings fails only as its pool configuration
does. -/
theorem wait_gates_agree (d : Dialect) {w : Value} (number : w.amount?.isSome = true)
    {env : Environment}
    (others : ∃ other s, Settings.ofArguments env [("flush_fallback_wait", other)] = .ok s) :
    ((∃ f, ofWait d w = .ok f) ↔
      ∃ s, Settings.ofArguments env [("flush_fallback_wait", w)] = .ok s) ∧
    ((∃ f, ofWait d w = .ok f) ↔ w.IsSpan) ∧
    (∀ fault, ofWait d w = .error fault → ¬ w.IsBeyondRange → fault = .badWait w) ∧
    (w.IsBeyondRange → ofWait d w = .error .waitBeyondRange) ∧
    (∀ fault, ofWait d w = .error fault → ∀ script world,
      run (ofExcept (ofWait d w) >>= flush) script world = (.error fault, world)) ∧
    ∀ (s : Settings) (overrides : Table String Value) (script : Script) (world : World),
      let made := run (ofSettings d s.loose overrides) script world
      let built := run (Pool.buildConfig d s.loose overrides) script world
      made.2 = built.2 ∧ ∀ fault, made.1 = .error fault ↔ built.1 = .error fault := by
  refine ⟨?_, exists_ofWait_iff number, ?_, ofWait_of_isBeyondRange, ?_, ?_⟩
  · rw [exists_ofWait_iff number]
    exact (Settings.exists_ofArguments_iff number others).symm
  · intro fault hfault hrange
    obtain ⟨wait, hwait⟩ | hbad := ofWait_of_not_isBeyondRange (d := d) number hrange
    · rw [hwait] at hfault
      cases hfault
    · rw [hbad] at hfault
      cases hfault
      rfl
  · intro fault hfault script world
    rw [hfault]
    rfl
  · exact run_ofSettings_loose d

/-- The negative zero is accepted by both gates, and what is less than nothing by neither. -/
theorem wait_gates_agree_at_zero :
    (∃ f, ofWait .mysql (.float (.zero true)) = .ok f) ∧
      (∃ s, Settings.ofArguments .empty
        [("flush_fallback_wait", .float (.zero true))] = .ok s) ∧
      (¬ ∃ f, ofWait .mysql (.int (-1)) = .ok f) ∧
      ¬ ∃ s, Settings.ofArguments .empty [("flush_fallback_wait", .int (-1))] = .ok s := by
  have others : ∃ other s, Settings.ofArguments .empty [("flush_fallback_wait", other)] = .ok s :=
    ⟨.bool true, _, rfl⟩
  obtain ⟨hzero, hspan, -⟩ := wait_gates_agree .mysql (w := .float (.zero true)) rfl others
  obtain ⟨hdebt, hnone, -⟩ := wait_gates_agree .mysql (w := .int (-1)) rfl others
  have haccepted : ∃ f, ofWait .mysql (.float (.zero true)) = .ok f := hspan.mpr ⟨rfl, rfl⟩
  have hrefused : ¬ ∃ f, ofWait .mysql (.int (-1)) = .ok f := by
    rw [hnone]
    simp [Value.IsSpan]
  exact ⟨haccepted, hzero.mp haccepted, hrefused, hdebt.not.mp hrefused⟩

/-- An integer that is less than nothing and beyond the range of floating-point numbers. -/
def hugeDebt : Value := .int (-(10 ^ 400))

theorem hugeDebt_is_no_badWait :
    ofWait .mysql hugeDebt = .error .waitBeyondRange ∧
      ∀ given, Fault.waitBeyondRange ≠ .badWait given := by
  have hrange : hugeDebt.IsBeyondRange := by
    show Binary64.overflowThreshold ≤ (-(10 ^ 400) : Int).natAbs
    decide +kernel
  exact ⟨ofWait_of_isBeyondRange hrange, fun given h => by cases h⟩

end Flusher

end SqlBackend
