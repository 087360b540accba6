/-
Module: SchemaProjection.Notice
Purpose: Notices, the record that a run leaves behind in the order in which things happened, and
  traced computations, which have an outcome and the notices given up to it. A refusal keeps the
  notices that were given before it.
Imports: SchemaProjection.Kind, SchemaProjection.Fault
Main exports: Notice, Notice.line, Traced, Traced.notify, Traced.ofExcept
-/
import SchemaProjection.Kind
import SchemaProjection.Fault

namespace SchemaProjection

/-- What a run may report. -/
inductive Notice where
  /-- A container is about to be projected. -/
  | projecting (kind : Kind) (name : String) (properties : Nat)
  /-- The null union of an array property of an entity was left out. -/
  | suppressed (property : String)
  /-- A model is complete. -/
  | built (containers : Nat)
deriving DecidableEq, Repr, Inhabited

namespace Notice

/-- The channel on which a notice is given. -/
def channel : Notice → String
  | .projecting _ _ _ | .suppressed _ => "shapecast.projector"
  | .built _ => "shapecast.model"

/-- The text of a notice. -/
def message : Notice → String
  | .projecting kind name properties =>
      "Projecting " ++ kind.text ++ " '" ++ name ++ "' with " ++ toString properties ++
        " properties"
  | .suppressed property =>
      "Entity array property '" ++ property ++ "' is nullable but emitted without null union"
  | .built containers => "Built model with " ++ toString containers ++ " containers"

/-- The line that a notice takes in the record. -/
def line (notice : Notice) : String := "DEBUG " ++ notice.channel ++ ": " ++ notice.message

end Notice

/-- A computation with its outcome and the notices that it gave. -/
structure Traced (α : Type) where
  notices : List Notice
  outcome : Except Fault α

namespace Traced

variable {α β : Type}

/-- A value, without a notice. -/
protected def pure (value : α) : Traced α := ⟨[], .ok value⟩

/-- Go on from a value; the notices follow one another, and a refusal ends the run. -/
protected def bind (first : Traced α) (next : α → Traced β) : Traced β :=
  match first.outcome with
  | .ok value => ⟨first.notices ++ (next value).notices, (next value).outcome⟩
  | .error fault => ⟨first.notices, .error fault⟩

instance : Monad Traced where
  pure := Traced.pure
  bind := Traced.bind

/-- Give one notice. -/
def notify (notice : Notice) : Traced Unit := ⟨[notice], .ok ()⟩

/-- An outcome that comes without a notice. -/
def ofExcept (outcome : Except Fault α) : Traced α := ⟨[], outcome⟩

@[simp] theorem pure_eq (value : α) : (pure value : Traced α) = ⟨[], .ok value⟩ := rfl

@[simp] theorem ok_bind (notices : List Notice) (value : α) (next : α → Traced β) :
    (⟨notices, .ok value⟩ : Traced α) >>= next =
      ⟨notices ++ (next value).notices, (next value).outcome⟩ := rfl

end Traced

end SchemaProjection
