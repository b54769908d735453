import Assay.Proofs.Registration
import Assay.Proofs.Requests
import Mathlib.Data.Set.Insert
import Mathlib.Logic.Relation

/-!
# Whose a workspace is

Calls that make workspaces, give them back and clean them up may run side by side, each request of
one being a step of the whole. A workspace is in the hands of a call from its making until it is
registered, and from its being taken out of the registry until it is found gone or registered again.
At every time each workspace on the disk is registered or in such hands (`no_workspace_escapes`), so
none is left that nobody would remove.

A workspace is known here by the components of its path, as in the registry.
-/

namespace Assay.Workspace

open Host Plan

/-! ## The registry -/

/-- What is registered when a path was entered. -/
theorem mem_map_insert {r : Registry} {p : Path} {d : List Path.Component} :
    d ∈ (r.insert p).map Path.components ↔ d = p.components ∨ d ∈ r.map Path.components := by
  induction r with
  | nil => simp [Registry.insert]
  | cons q rest ih =>
    rw [Registry.insert]
    split
    · simp
    · next heq =>
      rw [List.map_cons, List.mem_cons, Path.compare_eq_eq.1 heq]
      exact ⟨.inr, fun h => h.elim .inl id⟩
    · rw [List.map_cons, List.mem_cons, ih, List.map_cons, List.mem_cons]
      exact or_left_comm

/-- What is registered when a path was struck off. -/
theorem mem_map_erase {r : Registry} {p : Path} {d : List Path.Component} :
    d ∈ (r.erase p).map Path.components ↔ d ≠ p.components ∧ d ∈ r.map Path.components := by
  simp only [List.mem_map, Registry.erase, List.mem_filter, decide_eq_true_eq, ne_eq,
    Path.compare_eq_eq]
  constructor
  · rintro ⟨q, ⟨hq, hne⟩, rfl⟩
    exact ⟨fun h => hne h.symm, q, hq, rfl⟩
  · rintro ⟨hne, q, hq, rfl⟩
    exact ⟨q, ⟨hq, fun h => hne h.symm⟩, rfl⟩

/-- What was registered is taken out or stays. -/
theorem mem_map_take {r : Registry} {root : Option Path} {d : List Path.Component}
    (h : d ∈ r.map Path.components) :
    d ∈ (r.take root).1.map Path.components ∨ d ∈ (r.take root).2.map Path.components := by
  obtain ⟨p, hp, rfl⟩ := List.mem_map.1 h
  rw [Registry.take_eq]
  cases hsel : Registry.selects root p with
  | true => exact .inl (List.mem_map_of_mem (List.mem_filter.2 ⟨hp, hsel⟩))
  | false => exact .inr (List.mem_map_of_mem (List.mem_filter.2 ⟨hp, by simp [hsel]⟩))

/-! ## Steps -/

/-- What calls share: the workspaces that are on the disk, all that ever were made, and the
registry. -/
structure Shared where
  onDisk : Set (List Path.Component)
  made : Set (List Path.Component)
  registry : Registry

/-- A workspace is registered. -/
def Shared.Registered (w : Shared) (d : List Path.Component) : Prop :=
  d ∈ w.registry.map Path.components

/-- How a host may react to a request. A new directory has a name that was not used before; a
removal that says that nothing is left leaves nothing, and any removal may take other directories
with it; no other request makes or moves a workspace. -/
def Reacts (w : Shared) : (r : Request) → Reply r → Shared → Prop
  | .makeTemp _ _, .ok p, w' =>
    p.components ∉ w.made ∧ w' = { w with
      onDisk := insert p.components w.onDisk, made := insert p.components w.made }
  | .register p, _, w' => w' = { w with registry := w.registry.insert p }
  | .unregister p, _, w' => w' = { w with registry := w.registry.erase p }
  | .takeRegistered root, taken, w' =>
    taken = (w.registry.take root).1 ∧ w' = { w with registry := (w.registry.take root).2 }
  | .removeAll p, reply, w' => ∃ left, left ⊆ w.onDisk ∧
    (isGone reply = true → p.components ∉ left) ∧ w' = { w with onDisk := left }
  | _, _, w' => w' = w

/-- The workspaces in the hands of a call after a reply: those that it makes or takes out of the
registry come in, and those that it registers or finds gone go out. -/
def handsAfter (hands : Set (List Path.Component)) : (r : Request) → Reply r →
    Set (List Path.Component)
  | .makeTemp _ _, .ok p => insert p.components hands
  | .takeRegistered _, taken => hands ∪ {d | d ∈ taken.map Path.components}
  | .register p, _ => hands \ {p.components}
  | .removeAll p, reply => if isGone reply then hands \ {p.components} else hands
  | _, _ => hands

/-- What can be called. -/
inductive Operation where
  | create (root : Path) (template : String)
  | release (path : Path)
  | cleanup (root : Option Path)

/-- The plan of a call, without its result. -/
def Operation.plan : Operation → Plan Unit
  | .create root template => do
    let _ ← Workspace.create root template
    return ()
  | .release path => Workspace.release path
  | .cleanup root => do
    let _ ← Workspace.cleanup root
    return ()

/-- A call that is in flight or has ended: what is left of its plan, and what is in its hands. -/
structure Call where
  operation : Operation
  plan : Plan Unit
  hands : Set (List Path.Component)

/-- Calls that run side by side. -/
structure System where
  shared : Shared
  calls : List Call

/-- One step: a call begins, which must be about a workspace that was made if it is to give one back;
a call makes its next request; or directories vanish. -/
inductive Step : System → System → Prop
  | begins {w : Shared} {calls : List Call} (o : Operation)
      (h : ∀ p, o = .release p → p.components ∈ w.made) :
      Step ⟨w, calls⟩ ⟨w, calls ++ [⟨o, o.plan, ∅⟩]⟩
  | acts {w w' : Shared} {before after : List Call} {o : Operation} {r : Request}
      {next : Reply r → Plan Unit} {hands : Set (List Path.Component)} (reply : Reply r)
      (h : Reacts w r reply w') :
      Step ⟨w, before ++ ⟨o, .ask r next, hands⟩ :: after⟩
        ⟨w', before ++ ⟨o, next reply, handsAfter hands r reply⟩ :: after⟩
  | vanishes {w : Shared} {calls : List Call} {left : Set (List Path.Component)}
      (h : left ⊆ w.onDisk) : Step ⟨w, calls⟩ ⟨{ w with onDisk := left }, calls⟩

/-- What calls can come to from a start without workspaces. -/
def Reachable (s : System) : Prop :=
  Relation.ReflTransGen Step ⟨⟨∅, ∅, []⟩, []⟩ s

/-! ## What a call owes -/

/-- The workspaces of `about` that a call has found gone. -/
def goneAfter (about gone : Set (List Path.Component)) : (r : Request) → Reply r →
    Set (List Path.Component)
  | .removeAll p, reply => if isGone reply then gone ∪ ({p.components} ∩ about) else gone
  | _, _ => gone

/-- A plan that ends with nothing in its hands and strikes nothing off the registry but workspaces of
`about` that it has found gone. -/
def Owes (about : Set (List Path.Component)) :
    Plan Unit → Set (List Path.Component) → Set (List Path.Component) → Prop
  | .done _, hands, _ => hands = ∅
  | .ask r next, hands, gone =>
    (∀ p, r = .unregister p → p.components ∈ gone) ∧
      ∀ reply, Owes about (next reply) (handsAfter hands r reply) (goneAfter about gone r reply)

variable {about hands gone : Set (List Path.Component)}

/-- The requests of a removal, and what comes then. -/
theorem remove_bind {α : Type} (path : Path) (f : Bool → Plan α) :
    remove path >>= f = .ask (.removeAll path) fun first =>
      if isGone first then f true
      else .ask (.setPermission path .allAccess) fun _ =>
        .ask (.removeAll path) fun second => f (isGone second) := by
  change Plan.ask (.removeAll path) (fun first => Plan.bind
    (if isGone first then _ else _) f) = _
  congr 1
  funext first
  split
  · rfl
  · change Plan.ask (.setPermission path .allAccess) _ = _
    congr 1
    funext granted
    cases granted <;> rfl

/-- The removal of a directory, and what comes then. -/
theorem owes_remove {path : Path} {f : Bool → Plan Unit}
    (hgone : Owes about (f true) (hands \ {path.components})
      (gone ∪ ({path.components} ∩ about)))
    (hstays : Owes about (f false) hands gone) : Owes about (remove path >>= f) hands gone := by
  rw [remove_bind]
  refine ⟨fun _ h => Request.noConfusion h, fun first => ?_⟩
  rw [handsAfter, goneAfter]
  dsimp only
  cases isGone first with
  | true => exact hgone
  | false =>
    refine ⟨fun _ h => Request.noConfusion h, fun _ => ⟨fun _ h => Request.noConfusion h, fun second => ?_⟩⟩
    change Owes about (f (isGone second)) (if isGone second then _ else _)
      (if isGone second then _ else _)
    cases isGone second with
    | true => exact hgone
    | false => exact hstays

/-- Plans in a row, whichever two are put together first. -/
theorem seq_assoc {α β γ : Type} {p : Plan α} {f : α → Plan β} {g : β → Plan γ} :
    p >>= f >>= g = p >>= fun a => f a >>= g :=
  Plan.bind_assoc

/-- A plan and then nothing. -/
theorem seq_pure {α : Type} (p : Plan α) : p >>= pure = p := by
  induction p with
  | done a => rfl
  | ask r next ih => exact congrArg (Plan.ask r) (funext ih)

/-- Removing directories ends with nothing in the hands of a call that has no others there. -/
theorem owes_removeEach {paths : List Path} {k : Nat → Plan Unit}
    (hk : ∀ n gone, Owes about (k n) ∅ gone) (h : hands ⊆ {d | d ∈ paths.map Path.components}) :
    Owes about (removeEach paths >>= k) hands gone := by
  induction paths generalizing k hands gone with
  | nil =>
    obtain rfl : hands = ∅ := Set.subset_empty_iff.1 fun d hd => List.not_mem_nil (h hd)
    exact hk 0 gone
  | cons path rest ih =>
    have hrest : hands \ {path.components} ⊆ {d | d ∈ rest.map Path.components} := by
      rintro d ⟨hd, hne⟩
      exact (List.mem_cons.1 (h hd)).resolve_left hne
    rw [removeEach, seq_assoc]
    refine owes_remove ?_ ⟨fun _ h => Request.noConfusion h, fun _ => ih hk hrest⟩
    rw [if_pos rfl, seq_assoc]
    exact ih (fun n gone => hk (n + 1) gone) hrest

/-- A call ends with nothing in its hands, whatever the host replies to it. -/
theorem owes_plan (o : Operation) :
    Owes {d | ∃ p, o = .release p ∧ d = p.components} o.plan ∅ ∅ := by
  cases o with
  | create root template =>
    rw [Operation.plan, create]
    cases Template.parse? template with
    | none => rfl
    | some t =>
      refine ⟨fun _ h => Request.noConfusion h, fun made => ?_⟩
      cases made with
      | error reason => rfl
      | ok _ =>
        refine ⟨fun _ h => Request.noConfusion h, fun reply => ?_⟩
        cases reply with
        | error reason => rfl
        | ok path =>
          refine ⟨fun _ h => Request.noConfusion h, fun _ => ?_⟩
          change insert path.components ∅ \ {path.components} = (∅ : Set _)
          simp
  | release path =>
    rw [Operation.plan, release]
    refine owes_remove ⟨?_, fun _ => ?_⟩ rfl
    · rintro _ ⟨⟩
      exact .inr ⟨rfl, path, rfl, rfl⟩
    · exact Set.empty_sdiff _
  | cleanup root =>
    rw [Operation.plan, cleanup, seq_assoc]
    refine ⟨fun _ h => Request.noConfusion h, fun taken => owes_removeEach (fun _ _ => rfl) ?_⟩
    simp [handsAfter]

/-! ## What all steps keep -/

/-- No workspace that was made comes back to the disk, and none is forgotten. -/
def Shared.Evolves (w w' : Shared) : Prop :=
  w.made ⊆ w'.made ∧ ∀ d ∈ w.made, d ∈ w'.onDisk → d ∈ w.onDisk

/-- A host reacts so that no workspace that was made comes back. -/
theorem Reacts.evolves {w w' : Shared} {r : Request} {reply : Reply r} (h : Reacts w r reply w') :
    w.Evolves w' := by
  cases r with
  | makeTemp root t =>
    cases reply with
    | error reason =>
      obtain rfl : w' = w := h
      exact ⟨subset_rfl, fun _ _ hd => hd⟩
    | ok p =>
      obtain ⟨hnew, rfl⟩ := h
      refine ⟨Set.subset_insert _ _, fun d hd hd' => hd'.resolve_left ?_⟩
      rintro rfl
      exact hnew hd
  | removeAll p =>
    obtain ⟨left, hleft, -, rfl⟩ := h
    exact ⟨subset_rfl, fun _ _ hd => hleft hd⟩
  | takeRegistered root =>
    obtain ⟨-, rfl⟩ := h
    exact ⟨subset_rfl, fun _ _ hd => hd⟩
  | _ =>
    obtain rfl := h
    exact ⟨subset_rfl, fun _ _ hd => hd⟩

/-- A host reacts so that what is on the disk was made. -/
theorem Reacts.made {w w' : Shared} {r : Request} {reply : Reply r} (h : Reacts w r reply w')
    (hmade : w.onDisk ⊆ w.made) : w'.onDisk ⊆ w'.made := by
  cases r with
  | makeTemp root t =>
    cases reply with
    | error reason =>
      obtain rfl : w' = w := h
      exact hmade
    | ok p =>
      obtain ⟨-, rfl⟩ := h
      exact Set.insert_subset_insert hmade
  | removeAll p =>
    obtain ⟨left, hleft, -, rfl⟩ := h
    exact hleft.trans hmade
  | takeRegistered root =>
    obtain ⟨-, rfl⟩ := h
    exact hmade
  | _ =>
    obtain rfl := h
    exact hmade

/-- A call strikes nothing off the registry that is still on the disk, and ends with nothing in its
hands. -/
def Call.Sound (w : Shared) (c : Call) : Prop :=
  ∃ about gone, (∀ d ∈ about, d ∈ w.made) ∧ (∀ d ∈ gone, d ∈ w.made ∧ d ∉ w.onDisk) ∧
    Owes about c.plan c.hands gone

/-- The steps of others do not touch what a call owes. -/
theorem Call.Sound.evolves {w w' : Shared} {c : Call} (h : c.Sound w) (hw : w.Evolves w') :
    c.Sound w' := by
  obtain ⟨about, gone, habout, hgone, howes⟩ := h
  exact ⟨about, gone, fun d hd => hw.1 (habout d hd),
    fun d hd => ⟨hw.1 (hgone d hd).1, fun hd' => (hgone d hd).2 (hw.2 d (hgone d hd).1 hd')⟩, howes⟩

/-- Its own steps do not either. -/
theorem Call.Sound.acts {w w' : Shared} {o : Operation} {r : Request}
    {next : Reply r → Plan Unit} {hands : Set (List Path.Component)} {reply : Reply r}
    (h : Call.Sound w ⟨o, .ask r next, hands⟩) (hr : Reacts w r reply w') :
    Call.Sound w' ⟨o, next reply, handsAfter hands r reply⟩ := by
  obtain ⟨about, gone, habout, hgone, -, hnext⟩ := h
  have hw := hr.evolves
  refine ⟨about, goneAfter about gone r reply, fun d hd => hw.1 (habout d hd), ?_, hnext reply⟩
  have hold : ∀ d ∈ gone, d ∈ w'.made ∧ d ∉ w'.onDisk := fun d hd =>
    ⟨hw.1 (hgone d hd).1, fun hd' => (hgone d hd).2 (hw.2 d (hgone d hd).1 hd')⟩
  cases r with
  | removeAll p =>
    obtain ⟨left, -, hremoved, rfl⟩ := hr
    rw [goneAfter]
    split
    · next hisGone =>
      rintro d (hd | ⟨rfl, hd⟩)
      · exact hold d hd
      · exact ⟨habout _ hd, hremoved hisGone⟩
    · exact hold
  | _ => exact hold

/-- What a step of a call leaves on the disk is registered or in its hands if it was, or had been in
those of another. -/
theorem Reacts.owned {w w' : Shared} {r : Request} {reply : Reply r} {d : List Path.Component}
    {others : Prop} (h : Reacts w r reply w')
    (hstruck : ∀ p, r = .unregister p → p.components ∉ w.onDisk)
    (howned : d ∈ w.onDisk → w.Registered d ∨ d ∈ hands ∨ others) (hd : d ∈ w'.onDisk) :
    w'.Registered d ∨ d ∈ handsAfter hands r reply ∨ others := by
  cases r with
  | makeTemp root t =>
    cases reply with
    | error reason =>
      obtain rfl : w' = w := h
      exact howned hd
    | ok p =>
      obtain ⟨-, rfl⟩ := h
      obtain rfl | hd := hd
      · exact .inr (.inl (Set.mem_insert _ _))
      · exact (howned hd).imp_right (Or.imp_left (Set.mem_insert_of_mem _))
  | register p =>
    obtain rfl := h
    by_cases hp : d = p.components
    · exact .inl (mem_map_insert.2 (.inl hp))
    · exact (howned hd).imp (fun hreg => mem_map_insert.2 (.inr hreg))
        (Or.imp_left fun hhand => ⟨hhand, hp⟩)
  | unregister p =>
    obtain rfl := h
    have hp : d ≠ p.components := fun hp => hstruck p rfl (hp ▸ hd)
    exact (howned hd).imp_left fun hreg => mem_map_erase.2 ⟨hp, hreg⟩
  | takeRegistered root =>
    obtain ⟨rfl, rfl⟩ := h
    obtain hreg | hhand | hother := howned hd
    · exact (mem_map_take hreg).elim (fun htaken => .inr (.inl (.inr htaken))) .inl
    · exact .inr (.inl (.inl hhand))
    · exact .inr (.inr hother)
  | removeAll p =>
    obtain ⟨left, hleft, hremoved, rfl⟩ := h
    refine (howned (hleft hd)).imp_right (Or.imp_left fun hhand => ?_)
    rw [handsAfter]
    split
    · next hisGone => exact ⟨hhand, fun hp => hremoved hisGone (hp ▸ hd)⟩
    · exact hhand
  | _ =>
    obtain rfl := h
    exact howned hd

/-- Whether a request puts workspaces into the hands of a call. -/
def Gathers : Request → Prop
  | .makeTemp _ _ => True
  | .takeRegistered _ => True
  | _ => False

/-- A call that gives a workspace back has none in its hands and gathers none. -/
def Call.EmptyHanded (c : Call) : Prop :=
  ∀ p, c.operation = .release p → c.hands = ∅ ∧ c.plan.Asks anyReply fun r => ¬Gathers r

/-- Giving a workspace back gathers none. -/
theorem asks_release (path : Path) : (release path).Asks anyReply fun r => ¬Gathers r := by
  rw [release, remove_bind]
  refine ⟨id, fun first _ => ?_⟩
  dsimp only
  split
  · exact ⟨id, fun _ _ => trivial⟩
  · refine ⟨id, fun _ _ => ⟨id, fun second _ => ?_⟩⟩
    dsimp only
    split
    · exact ⟨id, fun _ _ => trivial⟩
    · trivial

/-- What gathers nothing puts nothing into empty hands. -/
theorem handsAfter_empty {r : Request} (h : ¬Gathers r) (reply : Reply r) :
    handsAfter ∅ r reply = ∅ := by
  cases r with
  | makeTemp root t => exact absurd trivial h
  | takeRegistered root => exact absurd trivial h
  | register p => exact Set.empty_sdiff _
  | removeAll p =>
    rw [handsAfter]
    split
    · exact Set.empty_sdiff _
    · rfl
  | _ => rfl

/-- A step of a call that gives a workspace back puts none into its hands. -/
theorem Call.EmptyHanded.acts {o : Operation} {r : Request} {next : Reply r → Plan Unit}
    (h : Call.EmptyHanded ⟨o, .ask r next, hands⟩) (reply : Reply r) :
    Call.EmptyHanded ⟨o, next reply, handsAfter hands r reply⟩ := by
  intro p ho
  obtain ⟨hhands, hr, hnext⟩ := h p ho
  obtain rfl : hands = ∅ := hhands
  exact ⟨handsAfter_empty hr reply, hnext reply trivial⟩

/-- What holds at every time. -/
structure Invariant (s : System) : Prop where
  made : s.shared.onDisk ⊆ s.shared.made
  owned : ∀ d ∈ s.shared.onDisk, s.shared.Registered d ∨ ∃ c ∈ s.calls, d ∈ c.hands
  sound : ∀ c ∈ s.calls, c.Sound s.shared
  emptyHanded : ∀ c ∈ s.calls, c.EmptyHanded

/-- A step keeps what holds at every time. -/
theorem Invariant.step {s s' : System} (hs : Invariant s) (h : Step s s') : Invariant s' := by
  cases h with
  | begins o hmade =>
    refine ⟨hs.made, fun d hd => (hs.owned d hd).imp_right ?_, fun c hc => ?_, fun c hc => ?_⟩
    · rintro ⟨c, hc, hhand⟩
      exact ⟨c, List.mem_append_left _ hc, hhand⟩
    · obtain hc | hc := List.mem_append.1 hc
      · exact hs.sound c hc
      · obtain rfl := List.mem_singleton.1 hc
        refine ⟨_, ∅, ?_, fun d hd => hd.elim, owes_plan o⟩
        rintro d ⟨p, ho, rfl⟩
        exact hmade p ho
    · obtain hc | hc := List.mem_append.1 hc
      · exact hs.emptyHanded c hc
      · obtain rfl := List.mem_singleton.1 hc
        rintro p ho
        obtain rfl : o = .release p := ho
        exact ⟨rfl, asks_release p⟩
  | @acts w w' before after o r next hands reply hr =>
    have hcall : Call.Sound w ⟨o, .ask r next, hands⟩ := hs.sound _ (by simp)
    have hstruck : ∀ p, r = .unregister p → p.components ∉ w.onDisk := by
      obtain ⟨about, gone, -, hgone, howes, -⟩ := hcall
      exact fun p hp => (hgone _ (howes p hp)).2
    refine ⟨hr.made hs.made, fun d hd => ?_, fun c hc => ?_, fun c hc => ?_⟩
    · have howned : d ∈ w.onDisk → w.Registered d ∨ d ∈ hands ∨
          ∃ c ∈ before ++ after, d ∈ c.hands := by
        intro hd
        refine (hs.owned d hd).imp_right ?_
        rintro ⟨c, hc, hhand⟩
        obtain hc | hc := List.mem_append.1 hc
        · exact .inr ⟨c, List.mem_append_left _ hc, hhand⟩
        · obtain rfl | hc := List.mem_cons.1 hc
          · exact .inl hhand
          · exact .inr ⟨c, List.mem_append_right _ hc, hhand⟩
      refine (hr.owned hstruck howned hd).imp_right ?_
      rintro (hhand | ⟨c, hc, hhand⟩)
      · exact ⟨_, List.mem_append_right _ List.mem_cons_self, hhand⟩
      · refine ⟨c, ?_, hhand⟩
        exact (List.mem_append.1 hc).elim (List.mem_append_left _) fun hc =>
          List.mem_append_right _ (List.mem_cons_of_mem _ hc)
    · obtain hc | hc := List.mem_append.1 hc
      · exact (hs.sound c (List.mem_append_left _ hc)).evolves hr.evolves
      · obtain rfl | hc := List.mem_cons.1 hc
        · exact hcall.acts hr
        · exact (hs.sound c (List.mem_append_right _ (List.mem_cons_of_mem _ hc))).evolves
            hr.evolves
    · obtain hc | hc := List.mem_append.1 hc
      · exact hs.emptyHanded c (List.mem_append_left _ hc)
      · obtain rfl | hc := List.mem_cons.1 hc
        · exact (hs.emptyHanded _ (by simp)).acts reply
        · exact hs.emptyHanded c (List.mem_append_right _ (List.mem_cons_of_mem _ hc))
  | vanishes hleft =>
    exact ⟨hleft.trans hs.made, fun d hd => hs.owned d (hleft hd),
      fun c hc => (hs.sound c hc).evolves ⟨subset_rfl, fun _ _ hd => hleft hd⟩, hs.emptyHanded⟩

/-- At every time that calls can come to, it holds. -/
theorem Reachable.invariant {s : System} (h : Reachable s) : Invariant s := by
  induction h with
  | refl =>
    exact ⟨Set.empty_subset _, fun _ hd => hd.elim, List.forall_mem_nil _, List.forall_mem_nil _⟩
  | tail _ hstep ih => exact ih.step hstep

/-! ## A cleanup alone -/

/-- A plan is carried out while nothing else is called, with its requests and their replies.
Directories may vanish meanwhile. -/
inductive Alone {α : Type} :
    Plan α → Shared → List ((r : Request) × Reply r) → Shared → Prop
  | done (a : α) (w : Shared) : Alone (.done a) w [] w
  | acts {w w₁ w₂ : Shared} {r : Request} {next : Reply r → Plan α} {reply : Reply r}
      {log : List ((r : Request) × Reply r)} (h : Reacts w r reply w₁)
      (hrest : Alone (next reply) w₁ log w₂) : Alone (.ask r next) w (⟨r, reply⟩ :: log) w₂
  | vanishes {p : Plan α} {w w' : Shared} {left : Set (List Path.Component)}
      {log : List ((r : Request) × Reply r)} (h : left ⊆ w.onDisk)
      (hrest : Alone p { w with onDisk := left } log w') : Alone p w log w'

/-- All attempts to remove a workspace failed, and there was one. -/
def Failed (log : List ((r : Request) × Reply r)) (d : List Path.Component) : Prop :=
  (∃ p reply, ⟨.removeAll p, reply⟩ ∈ log ∧ p.components = d) ∧
    ∀ p reply, ⟨.removeAll p, reply⟩ ∈ log → p.components = d → isGone reply = false

section Alone

variable {α : Type} {p : Plan α} {w w' : Shared} {log : List ((r : Request) × Reply r)}

/-- A plan that is carried out alone makes its first request, and then goes on. -/
theorem Alone.exists_of_ask {r : Request} {next : Reply r → Plan α}
    (h : Alone (.ask r next) w log w') :
    ∃ left reply w₁ rest, Reacts { w with onDisk := left } r reply w₁ ∧
      Alone (next reply) w₁ rest w' ∧ log = ⟨r, reply⟩ :: rest := by
  generalize hplan : Plan.ask r next = plan at h
  induction h with
  | done a w => cases hplan
  | acts h hrest _ =>
    cases hplan
    exact ⟨_, _, _, _, h, hrest, rfl⟩
  | vanishes _ _ ih => exact ih hplan

/-- No workspace that was made comes back while a plan is carried out. -/
theorem Alone.evolves (h : Alone p w log w') : w.Evolves w' := by
  induction h with
  | done a w => exact ⟨subset_rfl, fun _ _ hd => hd⟩
  | acts h _ ih =>
    have hw := h.evolves
    exact ⟨hw.1.trans ih.1, fun d hd hd' => hw.2 d hd (ih.2 d (hw.1 hd) hd')⟩
  | vanishes hleft _ ih => exact ⟨ih.1, fun d hd hd' => hleft (ih.2 d hd hd')⟩

/-- What was made and is still on the disk, no attempt has removed. -/
theorem Alone.not_isGone (h : Alone p w log w') {d : List Path.Component} (hmade : d ∈ w.made)
    (hd : d ∈ w'.onDisk) {path : Path} {reply : Reply (.removeAll path)}
    (hmem : ⟨.removeAll path, reply⟩ ∈ log) (hpath : path.components = d) :
    isGone reply = false := by
  induction h with
  | done a w => cases hmem
  | acts hr hrest ih =>
    have hw := hr.evolves
    obtain heq | hmem := List.mem_cons.1 hmem
    · cases heq
      obtain ⟨left, -, hremoved, rfl⟩ := hr
      rw [← Bool.not_eq_true]
      exact fun hgone => hremoved hgone (hpath ▸ hrest.evolves.2 d hmade hd)
    · exact ih (hw.1 hmade) hd hmem
  | vanishes _ _ ih => exact ih hmade hd hmem

/-- What makes no directory leaves none that was not there. -/
theorem Alone.subset (h : Alone p w log w')
    (hasks : p.Asks anyReply fun r => ∀ root t, r ≠ .makeTemp root t) : w'.onDisk ⊆ w.onDisk := by
  induction h with
  | done a w => exact subset_rfl
  | @acts w w₁ w₂ r next reply log hr _ ih =>
    refine (ih (hasks.2 reply trivial)).trans ?_
    cases r with
    | makeTemp root t => exact absurd rfl (hasks.1 root t)
    | removeAll path =>
      obtain ⟨left, hleft, -, rfl⟩ := hr
      exact hleft
    | takeRegistered root =>
      obtain ⟨-, rfl⟩ := hr
      exact subset_rfl
    | _ =>
      obtain rfl := hr
      exact subset_rfl
  | vanishes hleft _ ih => exact (ih hasks).trans hleft

/-- Each of the directories is attempted. -/
theorem Alone.exists_mem_of_removeEach {paths : List Path} {k : Nat → Plan α}
    (h : Alone (removeEach paths >>= k) w log w') {path : Path} (hpath : path ∈ paths) :
    ∃ reply, ⟨.removeAll path, reply⟩ ∈ log := by
  induction paths generalizing k w log with
  | nil => cases hpath
  | cons q rest ih =>
    rw [removeEach, seq_assoc, remove_bind] at h
    obtain ⟨-, first, w₁, log₁, -, h₁, rfl⟩ := h.exists_of_ask
    obtain rfl | hpath := List.mem_cons.1 hpath
    · exact ⟨first, List.mem_cons_self⟩
    · suffices hrest : ∃ reply, ⟨.removeAll path, reply⟩ ∈ log₁ from
        hrest.imp fun _ => List.mem_cons_of_mem _
      split at h₁
      · rw [if_pos rfl, seq_assoc] at h₁
        exact ih h₁ hpath
      · obtain ⟨-, granted, w₂, log₂, -, h₂, rfl⟩ := h₁.exists_of_ask
        obtain ⟨-, second, w₃, log₃, -, h₃, rfl⟩ := h₂.exists_of_ask
        suffices hrest : ∃ reply, ⟨.removeAll path, reply⟩ ∈ log₃ from
          hrest.imp fun _ hmem => List.mem_cons_of_mem _ (List.mem_cons_of_mem _ hmem)
        split at h₃
        · rw [seq_assoc] at h₃
          exact ih h₃ hpath
        · obtain ⟨-, _, w₄, log₄, -, h₄, rfl⟩ := h₃.exists_of_ask
          exact (ih h₄ hpath).imp fun _ => List.mem_cons_of_mem _

end Alone

/-- A cleanup makes no directory. -/
theorem asks_removeEach (paths : List Path) :
    (removeEach paths).Asks anyReply fun r => ∀ root t, r ≠ .makeTemp root t := by
  induction paths with
  | nil => trivial
  | cons path rest ih =>
    have hcounted : (removeEach rest >>= fun n => pure (n + 1)).Asks anyReply
        fun r => ∀ root t, r ≠ .makeTemp root t := Meets.bind ih fun _ _ => trivial
    rw [removeEach, remove_bind]
    refine ⟨fun _ _ h => Request.noConfusion h, fun first _ => ?_⟩
    dsimp only
    split
    · exact hcounted
    · refine ⟨fun _ _ h => Request.noConfusion h, fun _ _ => ⟨fun _ _ h => Request.noConfusion h, fun second _ => ?_⟩⟩
      dsimp only
      split
      · exact hcounted
      · exact ⟨fun _ _ h => Request.noConfusion h, fun _ _ => ih⟩

/-- What a cleanup of all workspaces leaves of those that are registered could not be removed. -/
theorem Alone.failed_of_cleanup {w w' : Shared} {log : List ((r : Request) × Reply r)}
    (h : Alone (cleanup none) w log w') (hmade : w.onDisk ⊆ w.made)
    (hregistered : ∀ d ∈ w.onDisk, w.Registered d) {d : List Path.Component} (hd : d ∈ w'.onDisk) :
    Failed log d := by
  have hasks : (cleanup none).Asks anyReply fun r => ∀ root t, r ≠ .makeTemp root t :=
    ⟨fun _ _ h => Request.noConfusion h, fun taken _ => asks_removeEach taken⟩
  have hd₀ : d ∈ w.onDisk := h.subset hasks hd
  refine ⟨?_, fun p reply hmem hp => h.not_isGone (hmade hd₀) hd hmem hp⟩
  obtain ⟨p, hp, rfl⟩ := List.mem_map.1 (hregistered d hd₀)
  have hask : Alone (.ask (.takeRegistered none) removeEach) w log w' := h
  obtain ⟨left, taken, w₁, rest, ⟨rfl, -⟩, hrest, rfl⟩ := hask.exists_of_ask
  have htaken : p ∈ (w.registry.take none).1 := by
    rw [Registry.take_eq]
    exact List.mem_filter.2 ⟨hp, rfl⟩
  rw [← seq_pure (removeEach _)] at hrest
  obtain ⟨reply, hreply⟩ := hrest.exists_mem_of_removeEach htaken
  exact ⟨p, reply, List.mem_cons_of_mem _ hreply, rfl⟩

/-! ## The whole -/

/-- Whatever calls run side by side, in whichever order they make their requests and whatever fails,
each workspace on the disk is registered or in the hands of a call, which is making it or has taken
it out of the registry to remove it. So as soon as no call is in flight, all that are on the disk are
registered; and when a cleanup of all has then been carried out alone, those that are still there are
those that it tried to remove and could not. -/
theorem no_workspace_escapes {s : System} (h : Reachable s) :
    (∀ d ∈ s.shared.onDisk, s.shared.Registered d ∨
      ∃ c ∈ s.calls, d ∈ c.hands ∧ ∀ p, c.operation ≠ .release p) ∧
    ((∀ c ∈ s.calls, c.plan = .done ()) →
      (∀ d ∈ s.shared.onDisk, s.shared.Registered d) ∧
      ∀ log w, Alone (cleanup none) s.shared log w → ∀ d ∈ w.onDisk, Failed log d) := by
  have hs := h.invariant
  have hended (hdone : ∀ c ∈ s.calls, c.plan = .done ()) :
      ∀ d ∈ s.shared.onDisk, s.shared.Registered d := by
    intro d hd
    refine (hs.owned d hd).resolve_right ?_
    rintro ⟨c, hc, hhand⟩
    obtain ⟨about, gone, -, -, howes⟩ := hs.sound c hc
    rw [hdone c hc] at howes
    have hempty : c.hands = ∅ := howes
    rw [hempty] at hhand
    exact hhand
  refine ⟨fun d hd => (hs.owned d hd).imp_right ?_, fun hdone => ⟨hended hdone,
    fun log w halone d hd => halone.failed_of_cleanup hs.made (hended hdone) hd⟩⟩
  rintro ⟨c, hc, hhand⟩
  refine ⟨c, hc, hhand, fun p ho => ?_⟩
  rw [(hs.emptyHanded c hc p ho).1] at hhand
  exact hhand

/-- While a workspace is being made, it is on the disk, not registered, and in the hands of the call
that makes it. -/
theorem no_workspace_escapes_creation : ∃ s, Reachable s ∧
    s.shared.onDisk = {(Path.mk "/out/abc").components} ∧ s.shared.registry = [] ∧
    ∃ c ∈ s.calls, (Path.mk "/out/abc").components ∈ c.hands ∧
      ∀ p, c.operation ≠ .release p := by
  let o : Operation := .create ⟨"/out"⟩ "XXX"
  let made : Set (List Path.Component) := insert (Path.mk "/out/abc").components ∅
  have htemplate : Template.parse? "XXX" = some ⟨[], 3, []⟩ := by decide +kernel
  obtain ⟨next, hplan, hnext⟩ : ∃ next : Reply (.createDirs ⟨"/out"⟩) → Plan Unit,
      o.plan = .ask (.createDirs ⟨"/out"⟩) next ∧
        ∃ last, next (.ok ()) = .ask (.makeTemp ⟨"/out"⟩ ⟨[], 3, []⟩) last := by
    simp only [o, Operation.plan, create, htemplate]
    exact ⟨_, rfl, _, rfl⟩
  obtain ⟨last, hlast⟩ := hnext
  have hbegun : Reachable ⟨⟨∅, ∅, []⟩, [⟨o, .ask (.createDirs ⟨"/out"⟩) next, ∅⟩]⟩ :=
    hplan ▸ .tail .refl (.begins o fun p h => Operation.noConfusion h)
  have hready : Reachable ⟨⟨∅, ∅, []⟩, [⟨o, .ask (.makeTemp ⟨"/out"⟩ ⟨[], 3, []⟩) last, ∅⟩]⟩ :=
    hlast ▸ .tail hbegun (@Step.acts _ _ [] [] _ _ next _ (.ok ()) rfl)
  have hmade : Reachable ⟨⟨made, made, []⟩, [⟨o, last (.ok ⟨"/out/abc"⟩), made⟩]⟩ :=
    .tail hready (@Step.acts _ _ [] [] _ _ last _ (.ok ⟨"/out/abc"⟩) ⟨id, rfl⟩)
  have hin : (Path.mk "/out/abc").components ∈ made := Set.mem_insert _ _
  refine ⟨_, hmade, insert_empty_eq _, rfl, ?_⟩
  exact ((no_workspace_escapes hmade).1 _ hin).resolve_left List.not_mem_nil

end Assay.Workspace
