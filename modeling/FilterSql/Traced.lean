import FilterSql.Event

/-!
# `FilterSql.Traced`: results together with their events

Computations that may fail and that log. The events that came before
a failure are kept, so what is logged does not depend on whether the
work succeeds in the end.

* `Traced` is a lawful monad: the events of the parts come in order,
  and nothing is done after a failure.
-/

set_option autoImplicit false

namespace FilterSql

/-- An outcome and the events up to it. -/
structure Traced (ε α : Type) where
  events : List Event
  outcome : Except ε α

namespace Traced

variable {ε α β : Type}

/-- Success without events. -/
protected def pure (a : α) : Traced ε α :=
  ⟨[], .ok a⟩

/-- Goes on with the result, if there is one. -/
protected def bind (x : Traced ε α) (f : α → Traced ε β) : Traced ε β :=
  match x.outcome with
  | .error e => ⟨x.events, .error e⟩
  | .ok a =>
    let y := f a
    ⟨x.events ++ y.events, y.outcome⟩

instance : Monad (Traced ε) where
  pure := Traced.pure
  bind := Traced.bind

/-- Failure without events. -/
def fail (e : ε) : Traced ε α :=
  ⟨[], .error e⟩

/-- One event and nothing else. -/
def emit (event : Event) : Traced ε Unit :=
  ⟨[event], .ok ()⟩

/-- An outcome without events. -/
def ofExcept (outcome : Except ε α) : Traced ε α :=
  ⟨[], outcome⟩

instance : LawfulMonad (Traced ε) := LawfulMonad.mk' (Traced ε)
  (by
    intro α x
    rcases x with ⟨events, e | a⟩ <;>
      simp [Functor.map, Traced.bind, Traced.pure])
  (by intro α β x f; simp [bind, pure, Traced.bind, Traced.pure])
  (by
    intro α β γ x f g
    rcases x with ⟨events, e | a⟩
    · simp [bind, Traced.bind]
    · cases h : (f a).outcome <;> simp [bind, Traced.bind, h])

end Traced

end FilterSql
