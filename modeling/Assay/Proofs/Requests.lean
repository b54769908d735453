import Assay.Proofs.Outcome
import Mathlib.Data.List.Forall2

/-!
# Requests of plans

What a plan asks of the host, as long as the host replies in a certain way. `Meets R P Q` says that
under replies as `R` allows them all requests of a plan satisfy `P` and its result satisfies `Q`. It
is proved by following the plan, and it carries over to what each handler is asked (`Meets.trace`).
Plans that run side by side come to a result each whatever the schedule is (`meets_sideBySide`).
-/

namespace Assay.Host.Plan

variable {α β σ : Type} {R : (r : Request) → Reply r → Prop} {P : Request → Prop} {Q : α → Prop}

/-- Under replies that `R` allows, all requests satisfy `P` and the result satisfies `Q`. -/
def Meets (R : (r : Request) → Reply r → Prop) (P : Request → Prop) (Q : α → Prop) :
    Plan α → Prop
  | .done a => Q a
  | .ask r next => P r ∧ ∀ reply, R r reply → (next reply).Meets R P Q

/-- All requests of a plan satisfy a predicate, whatever its result is. -/
abbrev Asks (R : (r : Request) → Reply r → Prop) (P : Request → Prop) (p : Plan α) : Prop :=
  p.Meets R P fun _ => True

/-- Replies of any kind. -/
def anyReply (r : Request) (_ : Reply r) : Prop := True

/-- A result asks for nothing. -/
@[simp]
theorem meets_pure {a : α} : (pure a : Plan α).Meets R P Q ↔ Q a := Iff.rfl

/-- A plan that is done asks for nothing. -/
@[simp]
theorem meets_done {a : α} : (Plan.done a).Meets R P Q ↔ Q a := Iff.rfl

/-- A request is all that its plan asks for, and the reply is what it results in. -/
theorem meets_request {r : Request} {Q : Reply r → Prop} (h : P r)
    (hQ : ∀ reply, R r reply → Q reply) : (request r).Meets R P Q :=
  ⟨h, hQ⟩

/-- A weaker predicate holds of the result too. -/
theorem Meets.mono {p : Plan α} {Q' : α → Prop} (h : p.Meets R P Q) (hQ : ∀ a, Q a → Q' a) :
    p.Meets R P Q' := by
  induction p with
  | done a => exact hQ a h
  | ask r next ih => exact ⟨h.1, fun reply hreply => ih reply (h.2 reply hreply)⟩

/-- One plan and then another that is followed from what the first results in. -/
theorem Meets.bind {p : Plan α} {f : α → Plan β} {S : β → Prop} (h : p.Meets R P Q)
    (hf : ∀ a, Q a → (f a).Meets R P S) : (p >>= f).Meets R P S := by
  induction p with
  | done a => exact hf a h
  | ask r next ih => exact ⟨h.1, fun reply hreply => ih reply (h.2 reply hreply)⟩

/-- One plan and then another that is followed from each result of the first. -/
theorem Asks.bind {p : Plan α} {f : α → Plan β} {S : β → Prop} (h : p.Asks R P)
    (hf : ∀ a, (f a).Meets R P S) : (p >>= f).Meets R P S :=
  Meets.bind h fun a _ => hf a

/-- Taking the time asks for nothing, from whatever time it is taken. -/
theorem Meets.timedFrom {p : Plan α} (h : p.Meets R P Q) (time : Nat) :
    (p.timedFrom time).Meets R P fun x => Q x.1 := by
  induction p generalizing time with
  | done a => exact h
  | ask r next ih => exact ⟨h.1, fun reply hreply => ih reply (h.2 reply hreply) _⟩

/-- Taking the time asks for nothing. -/
theorem Meets.timed {p : Plan α} (h : p.Meets R P Q) : p.timed.Meets R P fun x => Q x.1 :=
  h.timedFrom 0

section Several

variable {ι : Type} {S : ι → α → Prop} {is : List ι} {plans : List (Plan α)}

/-- Plans one after the other have a result each, in their order. -/
theorem meets_inTurn (h : List.Forall₂ (fun i p => p.Meets R P (S i)) is plans) :
    (inTurn plans).Meets R P (List.Forall₂ S is) := by
  induction h with
  | nil => exact .nil
  | cons hp _ ih => exact Meets.bind hp fun a ha => Meets.bind ih fun as has => .cons ha has

/-- A reply to one of several plans keeps what is known of each. -/
theorem meets_set (h : List.Forall₂ (fun i p => p.Meets R P (S i)) is plans) {n : Nat}
    {r : Request} {next : Reply r → Plan α} (hn : plans[n]? = some (.ask r next)) :
    P r ∧ ∀ reply, R r reply →
      List.Forall₂ (fun i p => p.Meets R P (S i)) is (plans.set n (next reply)) := by
  induction h generalizing n with
  | nil => simp at hn
  | cons hp hrest ih =>
    cases n with
    | zero =>
      rw [List.getElem?_cons_zero, Option.some.injEq] at hn
      subst hn
      exact ⟨hp.1, fun reply hreply => .cons (hp.2 reply hreply) hrest⟩
    | succ n =>
      rw [List.getElem?_cons_succ] at hn
      exact ⟨(ih hn).1, fun reply hreply => .cons hp ((ih hn).2 reply hreply)⟩

/-- The order in which plans make their requests has no say in what each of them asks for and
results in. -/
theorem meets_sideBySide (schedule : List Nat)
    (h : List.Forall₂ (fun i p => p.Meets R P (S i)) is plans) :
    (sideBySide schedule plans).Meets R P (List.Forall₂ S is) := by
  induction schedule generalizing plans with
  | nil => exact meets_inTurn h
  | cons n schedule ih =>
    rw [sideBySide]
    split
    · next r next hn =>
      obtain ⟨hr, hnext⟩ := meets_set h hn
      exact ⟨hr, fun reply hreply => ih (hnext reply hreply)⟩
    · exact ih h

/-- Three plans one after the other, taken two at a time in either way. -/
theorem bind_assoc {γ : Type} {p : Plan α} {f : α → Plan β} {g : β → Plan γ} :
    (p.bind f).bind g = p.bind fun a => (f a).bind g := by
  induction p with
  | done a => rfl
  | ask r next ih => exact congrArg (Plan.ask r) (funext ih)

/-- A plan without requests among others has no say in what those do. -/
theorem inTurn_of_done {k : Nat} {a : α} (h : plans[k]? = some (.done a)) :
    inTurn plans = (inTurn (plans.eraseIdx k)).bind fun as => .done (as.insertIdx k a) := by
  induction plans generalizing k with
  | nil => simp at h
  | cons p rest ih =>
    cases k with
    | zero =>
      rw [List.getElem?_cons_zero, Option.some.injEq] at h
      subst h
      rfl
    | succ k =>
      rw [List.getElem?_cons_succ] at h
      rw [List.eraseIdx_cons_succ, inTurn, ih h, inTurn, bind_assoc]
      congr 1
      funext a'
      rw [bind_assoc, bind_assoc]
      rfl

/-- A schedule without the turns of a plan; those behind it move up. -/
def withoutTurns (k : Nat) (schedule : List Nat) : List Nat :=
  schedule.filterMap fun i => if i = k then none else some (if i < k then i else i - 1)

/-- A plan without requests has no say in what the others do beside it, in the order that the
schedule has for them. -/
theorem sideBySide_of_done {k : Nat} {a : α} (schedule : List Nat)
    (h : plans[k]? = some (.done a)) :
    sideBySide schedule plans =
      (sideBySide (withoutTurns k schedule) (plans.eraseIdx k)).bind fun as =>
        .done (as.insertIdx k a) := by
  induction schedule generalizing plans with
  | nil => exact inTurn_of_done h
  | cons i schedule ih =>
    rw [sideBySide]
    by_cases hi : i = k
    · have hturns : withoutTurns k (i :: schedule) = withoutTurns k schedule := by
        simp [withoutTurns, hi]
      rw [hturns, hi, h]
      exact ih h
    -- the same plan has its turn at its new place
    · have hturns : withoutTurns k (i :: schedule) =
          (if i < k then i else i - 1) :: withoutTurns k schedule := by
        simp [withoutTurns, hi]
      have hplan : (plans.eraseIdx k)[if i < k then i else i - 1]? = plans[i]? := by
        split
        · next hlt => exact List.getElem?_eraseIdx_of_lt hlt
        · rw [List.getElem?_eraseIdx_of_ge (by omega), Nat.sub_add_cancel (by omega)]
      have hset (p : Plan α) : (plans.set i p).eraseIdx k =
          (plans.eraseIdx k).set (if i < k then i else i - 1) p := by
        split
        · next hlt => exact List.eraseIdx_set_gt hlt
        · exact List.eraseIdx_set_lt (by omega)
      rw [hturns, sideBySide, hplan]
      split
      · next r next _ =>
        refine congrArg (Plan.ask r) (funext fun reply => ?_)
        have hdone : (plans.set i (next reply))[k]? = some (.done a) := by
          rw [List.getElem?_set_ne hi, h]
        rw [ih hdone, hset]
      · exact ih h

end Several

/-- What is known of each of some results is known of all of them. -/
theorem forall_mem_of_forall₂ {ι : Type} {is : List ι} {as : List α}
    (h : List.Forall₂ (fun _ a => Q a) is as) : ∀ a ∈ as, Q a := by
  induction h with
  | nil => exact List.forall_mem_nil _
  | cons ha _ ih => exact List.forall_mem_cons.2 ⟨ha, ih⟩

/-- The outcomes of a plan are its results under replies of any kind. -/
theorem every_iff_meets {p : Plan α} : p.Every Q ↔ p.Meets anyReply (fun _ => True) Q := by
  induction p with
  | done a => exact Iff.rfl
  | ask r next ih =>
    refine ⟨fun h => ⟨trivial, fun reply _ => (ih reply).1 (h reply)⟩, fun h reply => ?_⟩
    exact (ih reply).2 (h.2 reply trivial)

/-- The requests that a handler is asked, in order. -/
def trace (handle : Handler σ) : Plan α → σ → List Request
  | .done _, _ => []
  | .ask r next, s => r :: (next (handle r s).1).trace handle (handle r s).2

section Handled

variable {handle : Handler σ} {s : σ}

/-- A result asks for nothing. -/
@[simp]
theorem trace_pure {a : α} : (pure a : Plan α).trace handle s = [] := rfl

/-- The requests of a plan come before those of the plan that follows it. -/
theorem trace_bind {p : Plan α} {f : α → Plan β} :
    (p >>= f).trace handle s =
      p.trace handle s ++ (f (p.run handle s).1).trace handle (p.run handle s).2 := by
  induction p generalizing s with
  | done a => rfl
  | ask r next ih =>
    change r :: (next _ >>= f).trace handle _ = r :: _ ++ _
    rw [ih]
    rfl

/-- The requests of each of several plans that are carried out one after the other. -/
def traces (handle : Handler σ) : List (Plan α) → σ → List (List Request)
  | [], _ => []
  | p :: rest, s => p.trace handle s :: traces handle rest (p.run handle s).2

/-- Plans one after the other have their requests one behind the other. -/
theorem trace_inTurn {plans : List (Plan α)} :
    (inTurn plans).trace handle s = (traces handle plans s).flatten := by
  induction plans generalizing s with
  | nil => rfl
  | cons p rest ih =>
    have hstep : inTurn (p :: rest) = p >>= fun a => inTurn rest >>= fun as => pure (a :: as) := rfl
    rw [hstep, trace_bind, trace_bind, trace_pure, List.append_nil, ih]
    rfl

end Handled

/-- What all requests of a plan satisfy, those of a run satisfy, and its result is as the plan's. -/
theorem Meets.trace {p : Plan α} (h : p.Meets R P Q) {handle : Handler σ}
    (hreply : ∀ r s, R r (handle r s).1) (s : σ) :
    (∀ r ∈ p.trace handle s, P r) ∧ Q (p.run handle s).1 := by
  induction p generalizing s with
  | done a => exact ⟨List.forall_mem_nil _, h⟩
  | ask r next ih =>
    obtain ⟨htrace, hresult⟩ := ih _ (h.2 _ (hreply r s)) (handle r s).2
    exact ⟨List.forall_mem_cons.2 ⟨h.1, htrace⟩, hresult⟩

/-! ## Requests in their order -/

/-- Under replies that `R` allows, the requests of a plan in their order and its result satisfy
`S`. -/
def Follows (R : (r : Request) → Reply r → Prop) :
    Plan α → (List Request → α → Prop) → Prop
  | .done a, S => S [] a
  | .ask r next, S => ∀ reply, R r reply → (next reply).Follows R fun log a => S (r :: log) a

/-- A weaker predicate holds of the requests and the result too. -/
theorem Follows.mono {p : Plan α} {S S' : List Request → α → Prop} (h : p.Follows R S)
    (hS : ∀ log a, S log a → S' log a) : p.Follows R S' := by
  induction p generalizing S S' with
  | done a => exact hS [] a h
  | ask r next ih => exact fun reply hr => ih reply (h reply hr) fun log => hS (r :: log)

/-- The requests of one plan come before those of the next. -/
theorem Follows.bind {p : Plan α} {f : α → Plan β} {S : List Request → α → Prop}
    {S' : List Request → β → Prop} (h : p.Follows R S)
    (hf : ∀ log a, S log a → (f a).Follows R fun more b => S' (log ++ more) b) :
    (p >>= f).Follows R S' := by
  induction p generalizing S S' with
  | done a => exact hf [] a h
  | ask r next ih => exact fun reply hr => ih reply (h reply hr) fun log => hf (r :: log)

/-- A plan that goes on in the same way after either of two plans. -/
theorem Follows.ite_bind {S : List Request → α → Prop} {S' : List Request → β → Prop} {c : Prop}
    [Decidable c] {p q : Plan α} {f : α → Plan β} (h : (if c then p else q).Follows R S)
    (hf : ∀ log a, S log a → (f a).Follows R fun more b => S' (log ++ more) b) :
    (if c then p >>= f else q >>= f).Follows R S' := by
  by_cases hc : c
  · rw [if_pos hc] at h ⊢
    exact h.bind hf
  · rw [if_neg hc] at h ⊢
    exact h.bind hf

/-- What the requests and the result of a plan satisfy, those of a run satisfy. -/
theorem Follows.trace {p : Plan α} {S : List Request → α → Prop} (h : p.Follows R S)
    {handle : Handler σ} (hreply : ∀ r s, R r (handle r s).1) (s : σ) :
    S (p.trace handle s) (p.run handle s).1 := by
  induction p generalizing S s with
  | done a => exact h
  | ask r next ih => exact ih _ (h _ (hreply r s)) (handle r s).2

/-! ## What a plan can come to on a host -/

/-- A reply that a host gives to a request in some state. -/
def Gives (handle : Handler σ) (r : Request) (reply : Reply r) : Prop :=
  ∃ s, (handle r s).1 = reply

/-- A plan comes to a result if a host replies to each of its requests as it does in some state. What
else is asked for in between may have changed the state, so these are the results that the plan can
have beside others. -/
inductive Reaches (handle : Handler σ) : Plan α → α → Prop
  | done (a : α) : Reaches handle (.done a) a
  | ask {r : Request} {next : Reply r → Plan α} {a : α} (s : σ)
      (h : Reaches handle (next (handle r s).1) a) : Reaches handle (.ask r next) a

variable {handle : Handler σ}

/-- Under the replies of a host a plan has a result that it comes to on it. -/
theorem meets_reaches (p : Plan α) :
    p.Meets (Gives handle) (fun _ => True) fun a => p.Reaches handle a := by
  induction p with
  | done a => exact .done a
  | ask r next ih =>
    refine ⟨trivial, ?_⟩
    rintro _ ⟨s, rfl⟩
    exact (ih _).mono fun a ha => .ask s ha

/-- What is known of the result under replies that a host keeps to is known of all that a plan comes
to on it. -/
theorem Meets.of_reaches {p : Plan α} {a : α} (h : p.Meets R P Q)
    (hreply : ∀ r s, R r (handle r s).1) (ha : p.Reaches handle a) : Q a := by
  induction ha with
  | done a => exact h
  | ask s _ ih => exact ih (h.2 _ (hreply _ s))

/-- The result of a run is one that the plan comes to on its host. -/
theorem reaches_run (p : Plan α) (s : σ) : p.Reaches handle (p.run handle s).1 :=
  ((meets_reaches p).trace (fun _ s => ⟨s, rfl⟩) s).2

/-- On a host whose replies depend on the requests alone, a plan comes to one result. -/
theorem Reaches.eq_of_stateless {p : Plan α} {a b : α}
    (h : ∀ r s s', (handle r s).1 = (handle r s').1) (ha : p.Reaches handle a)
    (hb : p.Reaches handle b) : a = b := by
  induction ha with
  | done a =>
    cases hb
    rfl
  | ask s _ ih =>
    cases hb with
    | ask s' hb =>
      rw [h _ s' s] at hb
      exact ih hb

end Assay.Host.Plan
