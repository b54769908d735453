import Assay.Host.Plan

/-!
# Outcomes of plans

A plan has an outcome for every way in which the host can reply. `Every P` says that all of them
satisfy `P`. It is about the plan alone, so it is proved by following the plan, and it carries over
to each handler and each state of it (`Every.run`).
-/

namespace Assay.Host.Plan

variable {α β σ : Type} {P Q : α → Prop}

/-- Whether all outcomes of a plan satisfy a predicate. -/
def Every (P : α → Prop) : Plan α → Prop
  | .done a => P a
  | .ask _ next => ∀ reply, (next reply).Every P

/-- A plan without requests has its result as its only outcome. -/
@[simp]
theorem every_done {a : α} : (Plan.done a).Every P ↔ P a := Iff.rfl

/-- A result is the only outcome of itself. -/
@[simp]
theorem every_pure {a : α} : (pure a : Plan α).Every P ↔ P a := Iff.rfl

/-- The outcomes of two plans are those of the second from each outcome of the first. -/
theorem every_bind {p : Plan α} {f : α → Plan β} {R : β → Prop} :
    (p >>= f).Every R ↔ p.Every fun a => (f a).Every R := by
  induction p with
  | done a => rfl
  | ask r next ih => exact forall_congr' ih

/-- The outcomes of a request are the replies to it. -/
@[simp]
theorem every_request {r : Request} {P : Reply r → Prop} :
    (request r).Every P ↔ ∀ reply, P reply := Iff.rfl

/-- A weaker predicate holds of all outcomes too. -/
theorem Every.mono {p : Plan α} (h : p.Every P) (hPQ : ∀ a, P a → Q a) : p.Every Q := by
  induction p with
  | done a => exact hPQ a h
  | ask r next ih => exact fun reply => ih reply (h reply)

/-- Two predicates that hold of all outcomes hold of them together. -/
theorem Every.and {p : Plan α} (h : p.Every P) (h' : p.Every Q) : p.Every fun a => P a ∧ Q a := by
  induction p with
  | done a => exact ⟨h, h'⟩
  | ask r next ih => exact fun reply => ih reply (h reply) (h' reply)

/-- What holds of everything holds of all outcomes. -/
theorem every_of_forall {p : Plan α} (h : ∀ a, P a) : p.Every P := by
  induction p with
  | done a => exact h a
  | ask r next ih => exact fun reply => ih reply

/-- One plan and then another that is followed only from outcomes of the first. -/
theorem Every.bind {p : Plan α} {f : α → Plan β} {R : β → Prop} (h : p.Every P)
    (hf : ∀ a, P a → (f a).Every R) : (p >>= f).Every R :=
  every_bind.2 (h.mono hf)

section Handled

variable {handle : Handler σ} {s : σ}

/-- A result is carried out without a change of the state. -/
@[simp]
theorem run_pure {a : α} : (pure a : Plan α).run handle s = (a, s) := rfl

/-- Two plans are carried out one after the other. -/
@[simp]
theorem run_bind {p : Plan α} {f : α → Plan β} :
    (p >>= f).run handle s = (f (p.run handle s).1).run handle (p.run handle s).2 := by
  induction p generalizing s with
  | done a => rfl
  | ask r next ih => exact ih _

end Handled

/-- What all outcomes satisfy, the outcome of a run satisfies. -/
theorem Every.run {p : Plan α} (h : p.Every P) (handle : Handler σ) (s : σ) :
    P (p.run handle s).1 := by
  induction p generalizing s with
  | done a => exact h
  | ask r next ih => exact ih (handle r s).1 (h _) _

/-- Taking the time changes no outcome, from whatever time it is taken. -/
theorem every_timedFrom {p : Plan α} (h : p.Every P) (time : Nat) :
    (p.timedFrom time).Every fun x => P x.1 := by
  induction p generalizing time with
  | done a => exact h
  | ask r next ih => exact fun reply => ih reply (h reply) _

/-- Taking the time changes no outcome. -/
theorem every_timed {p : Plan α} (h : p.Every P) : p.timed.Every fun x => P x.1 :=
  every_timedFrom h 0

end Assay.Host.Plan
