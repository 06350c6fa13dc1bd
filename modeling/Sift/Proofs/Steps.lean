import Mathlib.Data.List.Forall2

/-!
# Steps that may fail

How a step that may fail goes on: a value is handed on, and a fault ends what follows.

* `bind_eq_ok`: a sequence of two steps succeeds exactly when both do; `bind_congr_ok`: what follows
  matters only where the first step succeeds.
* `Succeeds`: a run that gives a value; `succeeds_bind_iff`: two steps that are needed both.
* `Agree`: two runs that end alike, `Agree.bind` and `Agree.mapM` for runs put together;
  `Agree.eq_iff`, `Agree.self_iff`: in equal values, and in values with a property.
-/

namespace Sift

universe u v w

variable {ε : Type u} {α β : Type v}

@[simp] theorem ok_bind (a : α) (f : α → Except ε β) : (Except.ok a >>= f) = f a := rfl

@[simp] theorem error_bind (e : ε) (f : α → Except ε β) :
    (Except.error e >>= f) = Except.error e := rfl

@[simp] theorem pure_eq_ok (a : α) : (pure a : Except ε α) = .ok a := rfl

@[simp] theorem bind_ok (x : Except ε α) : (x >>= fun a => Except.ok a) = x := by
  cases x <;> rfl

/-- A sequence of two steps gives a value exactly if the first gives one from which the second gives
that value. -/
theorem bind_eq_ok {x : Except ε α} {f : α → Except ε β} {b : β} :
    x >>= f = .ok b ↔ ∃ a, x = .ok a ∧ f a = .ok b := by
  cases x with
  | error e => simp
  | ok a => simp

/-- **What follows a step** matters only at what the step gives. -/
theorem bind_congr_ok {x : Except ε α} {f g : α → Except ε β} (h : ∀ a, x = .ok a → f a = g a) :
    x >>= f = x >>= g := by
  cases x with
  | error e => rfl
  | ok a => exact h a rfl

/-! ### Success -/

/-- A run that gives a value. -/
def Succeeds (x : Except ε α) : Prop := ∃ a, x = .ok a

@[simp] theorem succeeds_ok (a : α) : Succeeds (.ok a : Except ε α) := ⟨a, rfl⟩

@[simp] theorem not_succeeds_error (e : ε) : ¬ Succeeds (.error e : Except ε α) := by
  rintro ⟨a, ha⟩
  cases ha

/-- A last step that only changes the value does not matter to success. -/
theorem succeeds_bind_ok {x : Except ε α} {f : α → β} :
    Succeeds (x >>= fun a => .ok (f a)) ↔ Succeeds x := by
  cases x <;> simp

/-- **Two steps that are needed both**, where the second does not depend on what the first gives. -/
theorem succeeds_bind_iff {x : Except ε α} {f : α → Except ε β} {p : Prop}
    (h : ∀ a, Succeeds (f a) ↔ p) : Succeeds (x >>= f) ↔ Succeeds x ∧ p := by
  cases x with
  | error e => simp
  | ok a => simp [h]

/-! ### Two runs -/

/-- Two runs that end alike: in related values, or in the same fault. -/
inductive Agree (R : α → β → Prop) : Except ε α → Except ε β → Prop where
  | ok {a : α} {b : β} (h : R a b) : Agree R (.ok a) (.ok b)
  | error (e : ε) : Agree R (.error e) (.error e)

namespace Agree

variable {γ δ : Type v} {R : α → β → Prop} {S : γ → δ → Prop}

/-- Runs that end alike go on alike, if from related values they do. -/
theorem bind {x : Except ε α} {y : Except ε β} {f : α → Except ε γ} {g : β → Except ε δ}
    (h : Agree R x y) (next : ∀ a b, R a b → Agree S (f a) (g b)) :
    Agree S (x >>= f) (y >>= g) := by
  cases h with
  | ok h => exact next _ _ h
  | error e => exact .error e

/-- Two runs that end like a third end alike. -/
theorem comp {T : α → γ → Prop} {U : γ → β → Prop} {x : Except ε α} {y : Except ε γ}
    {z : Except ε β} (h : Agree T x y) (h' : Agree U y z) (both : ∀ a c b, T a c → U c b → R a b) :
    Agree R x z := by
  cases h with
  | ok h => cases h' with
    | ok h' => exact .ok (both _ _ _ h h')
  | error e => cases h' with
    | error => exact .error e

/-- Which of two runs comes first does not matter. -/
theorem symm {x : Except ε α} {y : Except ε β} (h : Agree R x y) :
    Agree (fun b a => R a b) y x := by
  cases h with
  | ok h => exact .ok h
  | error e => exact .error e

theorem rel {a : α} {b : β} (h : Agree R (.ok a : Except ε α) (.ok b)) : R a b := by
  cases h with
  | ok h => exact h

/-- Two runs end alike in equal values exactly if they are equal. -/
theorem eq_iff {x y : Except ε α} : Agree Eq x y ↔ x = y := by
  refine ⟨fun h => ?_, ?_⟩
  · cases h with
    | ok h => rw [h]
    | error e => rfl
  · rintro rfl
    cases x with
    | ok a => exact .ok rfl
    | error e => exact .error e

/-- A run ends like itself in equal values with a property exactly if its value has it. -/
theorem self_iff {P : α → Prop} {x : Except ε α} :
    Agree (fun a b => a = b ∧ P a) x x ↔ ∀ a, x = .ok a → P a := by
  constructor
  · rintro h a rfl
    exact h.rel.2
  · intro h
    cases x with
    | ok a => exact .ok ⟨rfl, h a rfl⟩
    | error e => exact .error e

/-- Of two runs that end alike, both succeed or none does. -/
theorem isOk_iff {x : Except ε α} {y : Except ε β} (h : Agree R x y) :
    (∃ a, x = .ok a) ↔ ∃ b, y = .ok b := by
  cases h with
  | ok h => exact ⟨fun _ => ⟨_, rfl⟩, fun _ => ⟨_, rfl⟩⟩
  | error e => simp

/-- Runs over related lists end alike, item by item. -/
theorem mapM {ι κ : Type w} {T : ι → κ → Prop} {f : ι → Except ε α} {g : κ → Except ε β}
    {xs : List ι} {ys : List κ} (h : List.Forall₂ T xs ys)
    (each : ∀ x y, T x y → Agree R (f x) (g y)) :
    Agree (List.Forall₂ R) (xs.mapM f) (ys.mapM g) := by
  induction h with
  | nil => exact .ok .nil
  | cons hxy _ ih =>
    rw [List.mapM_cons, List.mapM_cons]
    exact (each _ _ hxy).bind fun a b hab => ih.bind fun as bs h => .ok (.cons hab h)

end Agree

end Sift
