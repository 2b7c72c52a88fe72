import BuildChronicle.Log.Record

/-!
# Attempts

An attempt writes log records on its way and then succeeds with a result or fails. What it
wrote before failing stays written. Attempts are plain values: the records are listed and
not yet written anywhere, so no threshold can influence how an attempt goes on.
-/

namespace BuildChronicle

/-- The records written on the way, and how it ended. -/
structure Attempt (ε α : Type) where
  /-- The records in order. -/
  records : List Record
  /-- The result, or why there is none. -/
  outcome : Except ε α

namespace Attempt

variable {ε α β : Type}

/-- Succeed without writing anything. -/
def succeed (result : α) : Attempt ε α := ⟨[], .ok result⟩

/-- Fail without writing anything. -/
def fail (error : ε) : Attempt ε α := ⟨[], .error error⟩

/-- Write a record. -/
def note (record : Record) : Attempt ε Unit := ⟨[record], .ok ()⟩

/-- Take an outcome as it is. -/
def ofExcept (outcome : Except ε α) : Attempt ε α := ⟨[], outcome⟩

/-- Go on after a success; a failure ends the attempt. -/
def andThen (attempt : Attempt ε α) (next : α → Attempt ε β) : Attempt ε β :=
  match attempt.outcome with
  | .ok result => ⟨attempt.records ++ (next result).records, (next result).outcome⟩
  | .error error => ⟨attempt.records, .error error⟩

instance : Monad (Attempt ε) where
  pure := succeed
  bind := andThen

/-- The same attempt with errors of another kind. -/
def mapError {δ : Type} (change : ε → δ) (attempt : Attempt ε α) : Attempt δ α :=
  ⟨attempt.records, match attempt.outcome with
    | .ok result => .ok result
    | .error error => .error (change error)⟩

@[simp] theorem pure_eq (result : α) : (pure result : Attempt ε α) = ⟨[], .ok result⟩ := rfl

@[simp] theorem succeed_bind (result : α) (next : α → Attempt ε β) :
    (succeed result >>= next) = next result := rfl

@[simp] theorem fail_bind (error : ε) (next : α → Attempt ε β) :
    (fail error >>= next) = fail error := rfl

end Attempt

end BuildChronicle
