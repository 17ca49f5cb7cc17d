import Mathlib.Data.List.Forall2
import SubordinateIds.Proofs.Acts

/-
  Pairs — two acts run side by side

  Some properties are about two runs: about what the second one may differ in from the
  first, and what it may not. `Paired R V x y` says this of two acts. Run from sessions
  that `R` relates, they fail with one fault or give values that `V` relates, and in both
  cases they leave sessions that `R` relates.

  There is one rule here for each way in which acts are put together. With these rules a
  pair of acts is taken apart step by step, and only the steps that tell the two runs
  apart need a proof of their own.
-/

namespace SubordinateIds

variable {ε ε' α β γ δ : Type}

/-- Two results agree: they are one failure, or values that belong together. -/
inductive Agree (V : α → β → Prop) : Except ε α → Except ε β → Prop where
  | error (e : ε) : Agree V (.error e) (.error e)
  | ok {a : α} {b : β} (values : V a b) : Agree V (.ok a) (.ok b)

namespace Agree

variable {V : α → β → Prop} {W : α → β → Prop} {x : Except ε α} {y : Except ε β}

theorem refl (x : Except ε α) : Agree Eq x x := by
  cases x with
  | error e => exact .error e
  | ok a => exact .ok rfl

theorem eq {x y : Except ε α} (h : Agree Eq x y) : x = y := by
  cases h with
  | error e => rfl
  | ok values => rw [values]

theorem mono (h : Agree V x y) (weaker : ∀ a b, x = .ok a → V a b → W a b) : Agree W x y := by
  cases h with
  | error e => exact .error e
  | ok values => exact .ok (weaker _ _ rfl values)

theorem map_eq {f : α → γ} {g : β → γ} (h : Agree V x y) (same : ∀ a b, V a b → f a = g b) :
    x.map f = y.map g := by
  cases h with
  | error e => rfl
  | ok values => exact congrArg Except.ok (same _ _ values)

theorem mapError (h : Agree V x y) (f : ε → ε') : Agree V (x.mapError f) (y.mapError f) := by
  cases h with
  | error e => exact .error (f e)
  | ok values => exact .ok values

end Agree

/-- From related sessions the two acts come to results that agree, in related sessions. -/
def Paired (R : Session → Session → Prop) (V : α → β → Prop) (x : Act ε α) (y : Act ε β) : Prop :=
  ∀ s t, R s t → Agree V (x.run s).1 (y.run t).1 ∧ R (x.run s).2 (y.run t).2

namespace Paired

variable {R : Session → Session → Prop} {V : α → β → Prop} {W : γ → δ → Prop}

theorem pure {a : α} {b : β} (values : V a b) : Paired R V (pure a : Act ε α) (pure b) := by
  intro s t related
  exact ⟨.ok values, related⟩

theorem throw (e : ε) : Paired R V (throw e : Act ε α) (throw e) := by
  intro s t related
  exact ⟨.error e, related⟩

theorem settle {x : Except ε α} {y : Except ε β} (agree : Agree V x y) :
    Paired R V (Session.settle x) (Session.settle y) := by
  intro s t related
  exact ⟨agree, related⟩

theorem bind {x : Act ε α} {y : Act ε β} {f : α → Act ε γ} {g : β → Act ε δ}
    (first : Paired R V x y) (rest : ∀ a b, V a b → Paired R W (f a) (g b)) :
    Paired R W (x >>= f) (y >>= g) := by
  intro s t related
  obtain ⟨agree, left⟩ := first s t related
  rw [Act.run_bind, Act.run_bind]
  generalize x.run s = p at agree left
  generalize y.run t = q at agree left
  obtain ⟨r, u⟩ := p
  obtain ⟨r', v⟩ := q
  cases agree with
  | error e => exact ⟨.error e, left⟩
  | ok values => exact rest _ _ values u v left

theorem adapt {x : Act ε α} {y : Act ε β} (h : Paired R V x y) (f : ε → ε') :
    Paired R V (x.adapt f : Act ε' α) (y.adapt f) := by
  intro s t related
  obtain ⟨agree, left⟩ := h s t related
  exact ⟨agree.mapError f, left⟩

theorem report {events : List Event} (told : ∀ s t, R s t → R (s.told events) (t.told events)) :
    Paired R Eq (Session.report events : Act ε Unit) (Session.report events) := by
  intro s t related
  exact ⟨.ok rfl, told s t related⟩

/-- The machines need not be equal, as long as they are to a view of them. -/
theorem machineNow {κ : Type} (view : Machine → κ)
    (same : ∀ s t, R s t → view s.machine = view t.machine) :
    Paired R (fun m m' => view m = view m') (Session.machineNow : Act ε Machine)
      Session.machineNow := by
  intro s t related
  exact ⟨.ok (same s t related), related⟩

/-- Whether the trace is kept may differ, as long as it is known how. -/
theorem isVerbose {B : Bool → Bool → Prop}
    (verbose : ∀ s t, R s t → B s.journal.verbose t.journal.verbose) :
    Paired R B (Session.isVerbose : Act ε Bool) Session.isVerbose := by
  intro s t related
  exact ⟨.ok (verbose s t related), related⟩

theorem mapM {ι : Type} {f : ι → Act ε α} {g : ι → Act ε β} (each : ∀ i, Paired R V (f i) (g i))
    (is : List ι) : Paired R (List.Forall₂ V) (is.mapM f) (is.mapM g) := by
  induction is with
  | nil =>
    rw [List.mapM_nil, List.mapM_nil]
    exact .pure .nil
  | cons i is ih =>
    rw [List.mapM_cons, List.mapM_cons]
    refine .bind (each i) fun a b first => ?_
    refine .bind ih fun as bs others => ?_
    exact .pure (.cons first others)

end Paired

end SubordinateIds
