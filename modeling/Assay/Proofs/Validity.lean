import Assay.Case.Validate
import Assay.Proofs.Binding
import Assay.Proofs.Expansion
import Assay.Proofs.Results
import Assay.Proofs.Scanning

/-!
# Valid files have no such failures

A case file without problems mentions only names that have a value where they stand, its patterns
compile, and its templates have a random part. So whatever the host replies and however the tests are
interleaved, no failure of a run reports an unknown placeholder, a pattern that does not compile or a
text that is no template. The statement about a whole file is put together from one about each part
of a run: a part whose texts the scope knows has only failures that are known. Conversely, a text that
is reported for a name without a value cannot be expanded in the scope that it is resolved in.
-/

namespace Assay.Suite

open Host Plan

/-- A text that could not be expanded, though all its names have values. -/
def Unresolved.Known (u : Unresolved) : Prop :=
  ∀ name, u.fault ≠ .unknown name

/-- A fault of a chore that is not about an unknown name. -/
def ChoreFault.Known : ChoreFault → Prop
  | .unresolved u => u.Known
  | _ => True

/-- A failure of a step that is not about an unknown name or a pattern that does not compile. -/
def StepFailure.Known : StepFailure → Prop
  | .unresolved u => u.Known
  | .output (.badPattern ..) => False
  | .setup fault => fault.Known
  | .teardown faults => ∀ fault ∈ faults, fault.Known
  | _ => True

/-- A failure of a test that is not about an unknown name, a pattern that does not compile or a text
that is no template. -/
def Failure.Known : Failure → Prop
  | .workspace (.invalidTemplate _) => False
  | .setup fault | .fileSetup fault => fault.Known
  | .step _ failure => failure.Known
  | .teardown faults | .fileTeardown faults => ∀ fault ∈ faults, fault.Known
  | _ => True

/-- Whether a computation fails, if at all, with an error that satisfies a predicate. -/
def FailsOnly {ε α : Type} (Q : ε → Prop) (x : Except ε α) : Prop :=
  ∀ e, x = .error e → Q e

namespace FailsOnly

variable {ε α β : Type} {Q : ε → Prop}

/-- Nothing fails in a result. -/
@[simp]
theorem ok {a : α} : FailsOnly Q (.ok a : Except ε α) := fun _ h => nomatch h

/-- What is known of a failure is known of it. -/
@[simp]
theorem error {e : ε} : FailsOnly Q (.error e : Except ε α) ↔ Q e :=
  ⟨fun h => h e rfl, fun he _ h => Except.error.inj h ▸ he⟩

/-- What fails in two steps fails in the first or, from a result of that, in the second. -/
theorem bind {x : Except ε α} {f : α → Except ε β} (hx : FailsOnly Q x)
    (hf : ∀ a, FailsOnly Q (f a)) : FailsOnly Q (x >>= f) := by
  cases x with
  | error e => exact error.2 (error.1 hx)
  | ok a => exact hf a

end FailsOnly

namespace Scope

variable {s : Scope} {text : String} {texts : List String}

/-- Whether the names that a text mentions have values in a scope. -/
def Knows (s : Scope) (text : String) : Prop :=
  ∀ name ∈ Placeholder.referenced text, name ∈ s.bindings.names

/-- A text whose names are bound is not refused for one of them. -/
theorem resolve_known (h : s.Knows text) : FailsOnly Unresolved.Known (s.resolve text) := by
  rintro u hu name hname
  cases he : Placeholder.expand text s.bindings with
  | ok t => simp [resolve, he] at hu
  | error fault =>
    simp only [resolve, he, Except.error.injEq] at hu
    subst hu
    obtain rfl : fault = .unknown name := hname
    obtain ⟨hmem, hnone⟩ := Placeholder.mem_referenced_of_expand_eq_unknown he
    have := Bindings.isSome_get?_iff.2 (h name hmem)
    simp [hnone] at this

/-- The same for a text that is a path. -/
theorem resolvePath_known (h : s.Knows text) : FailsOnly Unresolved.Known (s.resolvePath text) :=
  FailsOnly.bind (resolve_known h) fun _ => .ok

/-- The same for several texts. -/
theorem resolveAll_known (h : ∀ t ∈ texts, s.Knows t) :
    FailsOnly Unresolved.Known (s.resolveAll texts) := by
  induction texts with
  | nil => exact .ok
  | cons t rest ih =>
    refine FailsOnly.bind (resolve_known (h t (by simp))) fun r => ?_
    exact FailsOnly.bind (ih fun u hu => h u (List.mem_cons_of_mem _ hu)) fun _ => .ok

/-- The same for a program. -/
theorem program_known {p : Program} (h : s.Knows p.toString) :
    FailsOnly Unresolved.Known (s.program p) := by
  cases p with
  | zksolc => exact .ok
  | solc => exact .ok
  | command line => exact resolve_known h

/-- The same for a program with its arguments. -/
theorem invocation_known {p : Program} {args : List String}
    (h : ∀ t ∈ p.toString :: args, s.Knows t) :
    FailsOnly Unresolved.Known (s.invocation p args) := by
  refine FailsOnly.bind (resolveAll_known fun t ht => h t (List.mem_cons_of_mem _ ht)) fun a => ?_
  exact FailsOnly.bind (program_known (h _ (by simp))) fun _ => .ok

/-- The same for the directory of a run. -/
theorem directoryOf_known {r : Run} (h : ∀ t ∈ r.cwd, s.Knows t) :
    FailsOnly Unresolved.Known (s.directoryOf r) := by
  rw [directoryOf]
  cases hr : r.cwd with
  | none => exact .ok
  | some t => exact resolvePath_known (h t hr)

end Scope

namespace Chore

variable {α β : Type} {s : Scope}

/-- Whether a chore fails only with faults that are known. -/
def Fine (x : Chore α) : Prop :=
  x.run.Every (FailsOnly ChoreFault.Known)

/-- A chore without actions is fine. -/
theorem fine_pure {a : α} : Fine (pure a) := FailsOnly.ok

/-- A chore that fails for another reason is fine. -/
theorem fine_throw {fault : ChoreFault} (h : fault.Known) : Fine (throw fault : Chore α) :=
  FailsOnly.error.2 h

/-- A plan that cannot fail is fine. -/
theorem fine_lift {p : Plan α} : Fine (ExceptT.lift p) :=
  Every.bind (every_of_forall fun _ => trivial) fun _ _ => FailsOnly.ok

/-- One chore and then another, both of them fine. -/
theorem Fine.bind {x : Chore α} {f : α → Chore β} (hx : Fine x) (hf : ∀ a, Fine (f a)) :
    Fine (x >>= f) := by
  refine Every.bind hx fun r hr => ?_
  cases r with
  | ok a => exact hf a
  | error e => exact FailsOnly.error.2 (FailsOnly.error.1 hr)

/-- Resolving is fine if it fails for other reasons only. -/
theorem fine_resolved {x : Except Unresolved α} (h : FailsOnly Unresolved.Known x) :
    Fine (resolved x) := by
  cases x with
  | ok a => exact fine_pure
  | error u =>
    have hu : u.Known := FailsOnly.error.1 h
    exact fine_throw hu

/-- A request that may be refused is fine, since a refusal is another reason. -/
theorem fine_granted {fault : Fault → ChoreFault} {reply : Plan (Except Fault Unit)}
    (h : ∀ reason, (fault reason).Known) : Fine (granted fault reply) := by
  refine Every.bind (every_of_forall fun _ => trivial) fun r _ => ?_
  cases r with
  | ok _ => exact FailsOnly.ok
  | error reason => exact FailsOnly.error.2 (h reason)

/-- An action that is done if it is there. -/
theorem fine_ifSome {action : α → Chore Unit} {o : Option α} (h : ∀ a ∈ o, Fine (action a)) :
    Fine (ifSome action o) := by
  cases o with
  | none => exact fine_pure
  | some a => exact h a rfl

/-- A command whose texts are known. -/
theorem fine_command {c : Command} (h : ∀ t ∈ c.texts, s.Knows t) : Fine (command s c) := by
  refine (fine_resolved (Scope.invocation_known h)).bind fun i => ?_
  refine fine_lift.bind fun r => ?_
  cases r with
  | error fault => exact fine_throw trivial
  | ok outcome =>
    dsimp only
    split
    · exact fine_pure
    · exact fine_throw trivial

/-- Setting permissions for a path whose text is known. -/
theorem fine_permission {p : SetPermission} (h : s.Knows p.path) : Fine (permission s p) :=
  (fine_resolved (Scope.resolvePath_known h)).bind fun _ => fine_lift

/-- Writing a file at a path whose text is known. -/
theorem fine_writeFile {w : WriteFile} (h : s.Knows w.path) : Fine (writeFile s w) := by
  refine (fine_resolved (Scope.resolvePath_known h)).bind fun path => ?_
  refine Fine.bind (fine_ifSome fun _ _ => fine_granted fun _ => trivial) fun _ => ?_
  exact fine_granted fun _ => trivial

/-- Making a directory at a path whose text is known. -/
theorem fine_createDir {text : String} (h : s.Knows text) : Fine (createDir s text) :=
  (fine_resolved (Scope.resolvePath_known h)).bind fun _ => fine_granted fun _ => trivial

/-- Removing a directory at a path whose text is known. -/
theorem fine_removeDir {text : String} (h : s.Knows text) : Fine (removeDir s text) := by
  refine (fine_resolved (Scope.resolvePath_known h)).bind fun path => ?_
  refine fine_lift.bind fun there => ?_
  split
  · exact fine_granted fun _ => trivial
  · exact fine_pure

/-- A step of preparation whose texts are known. -/
theorem fine_setupStep {step : SetupStep} (h : ∀ t ∈ step.texts, s.Knows t) :
    Fine (setupStep s step) := by
  simp only [SetupStep.texts, List.mem_append] at h
  refine Fine.bind (fine_ifSome fun w hw => fine_writeFile (h _ ?_)) fun _ => ?_
  · simp_all
  refine Fine.bind (fine_ifSome fun d hd => fine_createDir (h _ ?_)) fun _ => ?_
  · simp_all
  refine Fine.bind (fine_ifSome fun p hp => fine_permission (h _ ?_)) fun _ => ?_
  · simp_all
  refine fine_ifSome fun c hc => fine_command fun t ht => h t ?_
  simp_all

/-- A step of tidying up whose texts are known. -/
theorem fine_teardownStep {step : TeardownStep} (h : ∀ t ∈ step.texts, s.Knows t) :
    Fine (teardownStep s step) := by
  simp only [TeardownStep.texts, List.mem_append] at h
  refine Fine.bind (fine_ifSome fun p hp => fine_permission (h _ ?_)) fun _ => ?_
  · simp_all
  refine Fine.bind (fine_ifSome fun d hd => fine_removeDir (h _ ?_)) fun _ => ?_
  · simp_all
  refine fine_ifSome fun c hc => fine_command fun t ht => h t ?_
  simp_all

end Chore

section Run

variable {c : Context} {s : Scope} {limit : Option Nat}

/-- Whether all failures in a list are known. -/
def AllKnown (failures : List StepFailure) : Prop :=
  ∀ failure ∈ failures, failure.Known

/-- Without a failure there is none to be excluded. -/
theorem allKnown_nil : AllKnown [] := List.forall_mem_nil _

/-- A single failure of another kind. -/
theorem allKnown_singleton {failure : StepFailure} (h : failure.Known) : AllKnown [failure] :=
  List.forall_mem_singleton.2 h

/-- What a comparison adds unless it holds. -/
theorem allKnown_unless {p : Prop} [Decidable p] {failure : StepFailure} (h : failure.Known) :
    AllKnown (if p then [] else [failure]) := by
  split
  · exact allKnown_nil
  · exact allKnown_singleton h

/-- Failures of two comparisons made one after the other. -/
theorem AllKnown.append {first second : List StepFailure} (h : AllKnown first)
    (h' : AllKnown second) : AllKnown (first ++ second) :=
  List.forall_mem_append.2 ⟨h, h'⟩

/-- Preparation by steps whose texts are known. -/
theorem every_runSetup {steps : List SetupStep}
    (h : ∀ t ∈ steps.flatMap SetupStep.texts, s.Knows t) :
    (runSetup s steps).Every (FailsOnly ChoreFault.Known) := by
  induction steps with
  | nil => exact FailsOnly.ok
  | cons step rest ih =>
    simp only [List.flatMap_cons, List.mem_append] at h
    refine Every.bind (Chore.fine_setupStep fun t ht => h t (.inl ht)) fun r hr => ?_
    cases r with
    | ok _ => exact ih fun t ht => h t (.inr ht)
    | error fault => exact hr

/-- Tidying up by steps whose texts are known. -/
theorem every_runTeardown {steps : List TeardownStep}
    (h : ∀ t ∈ steps.flatMap TeardownStep.texts, s.Knows t) :
    (runTeardown s steps).Every fun faults => ∀ fault ∈ faults, fault.Known := by
  induction steps with
  | nil => simp [runTeardown]
  | cons step rest ih =>
    simp only [List.flatMap_cons, List.mem_append] at h
    have hrest := ih fun t ht => h t (.inr ht)
    refine Every.bind (Chore.fine_teardownStep fun t ht => h t (.inl ht)) fun r hr => ?_
    cases r with
    | ok _ => exact hrest
    | error fault =>
      refine Every.bind hrest fun faults hfaults => ?_
      exact List.forall_mem_cons.2 ⟨FailsOnly.error.1 hr, hfaults⟩

/-- Tidying up follows whatever came before and adds at most one entry to it. -/
theorem every_thenTeardown {ε : Type} {Q : ε → Prop} {entry : List ChoreFault → ε}
    {steps : List TeardownStep} (h : ∀ t ∈ steps.flatMap TeardownStep.texts, s.Knows t)
    (hentry : ∀ faults, (∀ fault ∈ faults, fault.Known) → Q (entry faults)) {entries : List ε}
    (hentries : ∀ e ∈ entries, Q e) :
    (do
      match ← runTeardown s steps with
      | [] => return entries
      | faults => return entries ++ [entry faults] : Plan (List ε)).Every
        fun entries => ∀ e ∈ entries, Q e := by
  refine Every.bind (every_runTeardown h) fun faults hfaults => ?_
  cases faults with
  | nil => exact hentries
  | cons fault rest =>
    exact List.forall_mem_append.2 ⟨hentries, List.forall_mem_singleton.2 (hentry _ hfaults)⟩

/-- An invocation whose texts are known. -/
theorem every_execute {r : Run} (h : ∀ t ∈ r.texts, s.Knows t) :
    (execute s limit r).Every (FailsOnly StepFailure.Known) := by
  simp only [Run.texts, List.cons_append, List.mem_cons, List.mem_append] at h
  have hinvocation : FailsOnly Unresolved.Known (s.invocation r.program r.args) :=
    Scope.invocation_known fun t ht => h t (by simp_all; tauto)
  have hdirectory : FailsOnly Unresolved.Known (s.directoryOf r) :=
    Scope.directoryOf_known fun t ht => h t (by simp_all)
  rw [execute]
  split
  · next hu => exact FailsOnly.error.2 (hinvocation _ hu)
  · next hu => exact FailsOnly.error.2 (hdirectory _ hu)
  · refine Every.bind (every_of_forall fun _ => trivial) fun x _ => ?_
    cases x with
    | error fault => exact FailsOnly.error.2 trivial
    | ok outcome => exact FailsOnly.ok

/-- A run of the reference compiler with arguments that are known. -/
theorem every_checkReference {x : Executed} {r : Reference}
    (h : ∀ t ∈ r.args.getD [], s.Knows t) : (checkReference s limit x r).Every AllKnown := by
  simp only [checkReference]
  split
  · next u hu =>
    have hknown : u.Known := by
      cases hr : r.args with
      | none => simp [hr] at hu
      | some args =>
        simp only [hr, Option.getD_some] at h hu
        exact Scope.resolveAll_known h u hu
    exact allKnown_singleton hknown
  · refine Every.bind (every_of_forall fun _ => trivial) fun y _ => ?_
    cases y with
    | error fault => exact allKnown_singleton trivial
    | ok outcome => exact allKnown_unless trivial

/-- Comparing whether a path is empty fails for other reasons only. -/
theorem every_checkEmpty {path : Path} {expected : Bool} :
    (checkEmpty path expected).Every AllKnown := by
  refine Every.bind (every_of_forall fun _ => trivial) fun y _ => ?_
  cases y with
  | error fault => exact allKnown_singleton trivial
  | ok actual => exact allKnown_unless trivial

/-- A comparison with the output of a run whose texts are known. -/
theorem every_checkContents {path : Path} {r : Run} (h : ∀ t ∈ r.texts, s.Knows t) :
    (checkContents s limit path r).Every AllKnown := by
  refine Every.bind (every_execute h) fun y hy => ?_
  cases y with
  | error failure => exact allKnown_singleton (FailsOnly.error.1 hy)
  | ok x =>
    refine Every.bind (every_of_forall fun _ => trivial) fun z _ => ?_
    cases z with
    | error reason => exact allKnown_singleton trivial
    | ok same => exact allKnown_unless trivial

/-- A comparison that is made if it is asked for. -/
theorem every_ifAsked {α : Type} {check : α → Plan (List StepFailure)} {o : Option α}
    (h : ∀ a ∈ o, (check a).Every AllKnown) : (ifAsked check o).Every AllKnown := by
  cases o with
  | none => exact allKnown_nil
  | some a => exact h a rfl

/-- What is looked at of a path. -/
theorem every_look {path : Path} {f : FileExpect} (h : ∀ t ∈ f.texts, s.Knows t) :
    (look s limit path f).Every AllKnown := by
  simp only [FileExpect.texts, List.mem_cons] at h
  refine Every.bind (every_ifAsked fun _ _ => every_checkEmpty) fun emptiness he => ?_
  refine Every.bind (every_ifAsked fun r hr => every_checkContents fun t ht => h t ?_)
    fun contents hc => he.append hc
  simp_all

/-- Comparing the state of a path. -/
theorem every_checkFile {f : FileExpect} (h : ∀ t ∈ f.texts, s.Knows t) :
    (checkFile s limit f).Every AllKnown := by
  have hpath := h f.path (by simp [FileExpect.texts])
  rw [checkFile]
  split
  · next hu => exact allKnown_singleton (Scope.resolvePath_known hpath _ hu)
  · split
    · exact every_look h
    · refine Every.bind (every_of_forall (P := fun _ => True) fun _ => trivial) fun actual _ => ?_
      split
      · exact every_look h
      · exact allKnown_singleton trivial

/-- Comparing the states of paths whose texts are known. -/
theorem every_checkFiles {fs : List FileExpect}
    (h : ∀ t ∈ fs.flatMap FileExpect.texts, s.Knows t) :
    (checkFiles s limit fs).Every AllKnown := by
  induction fs with
  | nil => exact allKnown_nil
  | cons f rest ih =>
    simp only [List.flatMap_cons, List.mem_append] at h
    refine Every.bind (every_checkFile fun t ht => h t (.inl ht)) fun failures hf => ?_
    exact Every.bind (ih fun t ht => h t (.inr ht)) fun more hm => hf.append hm

/-- An exit code fails for other reasons only. -/
theorem checkExit_known {expected : Option ExitExpect} {outcome : Outcome} :
    AllKnown (checkExit expected outcome).toList := by
  rw [checkExit]
  split
  · exact allKnown_nil
  · split
    · exact allKnown_singleton trivial
    · split
      · exact allKnown_nil
      · exact allKnown_singleton trivial

/-- Whether all patterns of expectations compile, those for versions among them. -/
def Compiles (e : Expect) : Prop :=
  ∀ m ∈ e.outputs, ∀ pattern ∈ m.patterns, ∃ p, Regex.compile pattern = .ok p

/-- The output that is expected of a version is one of those that expectations speak of. -/
theorem mem_outputs_of_effective {e : Expect} {version : Option Semver.Version} {m : OutputMatch}
    (h : m ∈ (effective e version).2) : m ∈ e.outputs := by
  rw [effective] at h
  rw [Expect.outputs, List.mem_append, Option.mem_toList, List.mem_filterMap]
  split at h
  · exact .inl h
  · next v hv =>
    obtain ⟨u, _, hu⟩ := Option.bind_eq_some_iff.1 hv
    cases ho : v.output with
    | none =>
      rw [ho] at h
      exact .inl h
    | some m' =>
      rw [ho] at h
      exact .inr ⟨v, List.mem_of_find?_eq_some hu, ho.trans h⟩

/-- What is in an alternative is in one of its sides. -/
theorem mem_or_mem_of_orElse {α : Type} {a b : Option α} {m : α} (h : m ∈ (a <|> b)) :
    m ∈ a ∨ m ∈ b := by
  cases a with
  | none => exact .inr h
  | some _ => exact .inl h

/-- A pattern that compiles is not the reason why it does not match. -/
theorem checkMatch_known {pattern actual : String} (h : ∃ p, Regex.compile pattern = .ok p) :
    ∀ m ∈ checkMatch pattern actual, (StepFailure.output m).Known := by
  obtain ⟨p, hp⟩ := h
  intro m hm
  simp only [checkMatch, hp] at hm
  split at hm
  · simp at hm
  · obtain rfl := Option.some.inj hm
    trivial

/-- A pattern that compiles is not the reason why it is not looked for. -/
theorem checkNoMatch_known {pattern actual : String} (h : ∃ p, Regex.compile pattern = .ok p) :
    ∀ m ∈ checkNoMatch pattern actual, (StepFailure.output m).Known := by
  obtain ⟨p, hp⟩ := h
  intro m hm
  simp only [checkNoMatch, hp] at hm
  obtain ⟨found, _, rfl⟩ := Option.map_eq_some_iff.1 hm
  trivial

/-- Where its patterns compile, a comparison of an output has no failure about a pattern. -/
theorem checkOutput_known {expected : OutputMatch} {actual : String}
    (h : ∀ pattern ∈ expected.patterns, ∃ p, Regex.compile pattern = .ok p) :
    ∀ m ∈ checkOutput expected actual, (StepFailure.output m).Known := by
  have hequal (e : String) : ∀ m ∈ checkEqual e actual, (StepFailure.output m).Known := by
    intro m hm
    rw [checkEqual] at hm
    split at hm
    · simp at hm
    · obtain rfl := Option.some.inj hm
      trivial
  have hcontains (e : String) : ∀ m ∈ checkContains e actual, (StepFailure.output m).Known := by
    intro m hm
    rw [checkContains] at hm
    split at hm
    · simp at hm
    · obtain rfl := Option.some.inj hm
      trivial
  cases expected with
  | exact e => exact hequal e
  | rules r =>
    simp only [OutputMatch.patterns, List.mem_append, Option.mem_toList] at h
    intro m hm
    rw [checkOutput, checkRules] at hm
    obtain hm | hm := mem_or_mem_of_orElse hm
    · obtain ⟨e, _, hm⟩ := Option.bind_eq_some_iff.1 hm
      exact hequal e m hm
    obtain hm | hm := mem_or_mem_of_orElse hm
    · obtain ⟨e, _, hm⟩ := Option.bind_eq_some_iff.1 hm
      exact hcontains e m hm
    obtain hm | hm := mem_or_mem_of_orElse hm
    · obtain ⟨pattern, hpattern, hm⟩ := Option.bind_eq_some_iff.1 hm
      exact checkMatch_known (h pattern (.inl hpattern)) m hm
    · obtain ⟨pattern, hpattern, hm⟩ := Option.bind_eq_some_iff.1 hm
      exact checkNoMatch_known (h pattern (.inr hpattern)) m hm

/-- All comparisons, where the texts are known and the patterns compile. -/
theorem every_check {e : Expect} {x : Executed} (h : ∀ t ∈ e.texts, s.Knows t)
    (hcompiles : Compiles e) : (check s limit e x).Every AllKnown := by
  simp only [Expect.texts, List.mem_append] at h
  have houtputs : AllKnown (((effective e s.context.version).2.bind
      (checkOutput · x.outcome.output)).toList.map StepFailure.output) := by
    intro failure hf
    obtain ⟨m, hm, rfl⟩ := List.mem_map.1 hf
    obtain ⟨expected, hexpected, hm⟩ := Option.bind_eq_some_iff.1 (Option.mem_toList.1 hm)
    exact checkOutput_known (hcompiles _ (mem_outputs_of_effective hexpected)) m hm
  have hreference : (ifAsked (checkReference s limit x) e.reference).Every AllKnown := by
    refine every_ifAsked fun r hr => every_checkReference fun t ht => h t (.inl ?_)
    simp_all
  refine Every.bind hreference fun references hr => ?_
  refine Every.bind (every_checkFiles fun t ht => h t (.inr ht)) fun files hf => ?_
  exact ((checkExit_known.append houtputs).append hr).append hf

/-- A step whose texts are known and whose patterns compile. -/
theorem every_runStep {step : Step} (h : ∀ t ∈ step.texts, s.Knows t)
    (hcompiles : Compiles step.expect) : (runStep s limit step).Every AllKnown := by
  simp only [Step.texts, List.mem_append] at h
  refine Every.bind (every_runSetup fun t ht => h t (by simp [ht])) fun r hr => ?_
  cases r with
  | error fault =>
    have hfault : fault.Known := FailsOnly.error.1 hr
    exact allKnown_singleton hfault
  | ok _ =>
    have htidy : ∀ t ∈ step.teardown.flatMap TeardownStep.texts, s.Knows t :=
      fun t ht => h t (by simp [ht])
    refine Every.bind (every_execute fun t ht => h t (by simp [ht])) fun x hx => ?_
    cases x with
    | ok x =>
      refine Every.bind (every_check (fun t ht => h t (by simp [ht])) hcompiles) fun failures hf => ?_
      exact every_thenTeardown htidy (fun _ hfaults => hfaults) hf
    | error failure =>
      have hfailure : failure.Known := FailsOnly.error.1 hx
      exact every_thenTeardown htidy (fun _ hfaults => hfaults) (allKnown_singleton hfailure)

/-- The steps of a test, whose texts are known and whose patterns compile. -/
theorem every_runSteps {named : Bool} {steps : List Step}
    (h : ∀ t ∈ steps.flatMap Step.texts, s.Knows t)
    (hcompiles : ∀ step ∈ steps, Compiles step.expect) :
    (runSteps s limit named steps).Every fun failures => ∀ failure ∈ failures, failure.Known := by
  induction steps with
  | nil => exact List.forall_mem_nil _
  | cons step rest ih =>
    simp only [List.flatMap_cons, List.mem_append] at h
    rw [List.forall_mem_cons] at hcompiles
    have hstep : (runStep s limit step).Every AllKnown :=
      every_runStep (fun t ht => h t (.inl ht)) hcompiles.1
    refine Every.bind hstep fun failures hf => ?_
    cases failures with
    | nil => exact ih (fun t ht => h t (.inr ht)) hcompiles.2
    | cons failure more => exact every_pure.2 (List.forall_mem_map.2 hf)

/-- What a test does inside of its workspace, where texts are known and patterns compile. -/
theorem every_runBody {t : Test} (h : ∀ text ∈ t.texts, s.Knows text)
    (hcompiles : ∀ step ∈ t.steps, Compiles step.expect) :
    (runBody s limit t).Every fun failures => ∀ failure ∈ failures, failure.Known := by
  simp only [Test.texts, List.mem_append] at h
  have htidy : ∀ u ∈ t.teardown.flatMap TeardownStep.texts, s.Knows u :=
    fun u hu => h u (by simp [hu])
  refine Every.bind (every_runSetup fun u hu => h u (by simp [hu])) fun r hr => ?_
  cases r with
  | ok _ =>
    refine Every.bind (every_runSteps (fun u hu => h u (by simp [hu])) hcompiles)
      fun failures hf => ?_
    exact every_thenTeardown htidy (fun _ hfaults => hfaults) hf
  | error fault =>
    have hfault : fault.Known := FailsOnly.error.1 hr
    refine every_thenTeardown htidy (fun _ hfaults => hfaults) ?_
    exact List.forall_mem_singleton.2 hfault

end Run

section Valid

variable {c : Context}

/-- Whether a context binds the names that every suite has. -/
def Context.Complete (c : Context) : Prop :=
  ∀ name ∈ suiteNames, name ∈ c.bindings.names

/-- Every context that is created binds the names of a suite. -/
theorem Context.every_create {layout : Layout} {zksolc solc : String}
    {version : Option Semver.Version} {timeout : Option Nat} :
    (Context.create layout zksolc solc version timeout).Every Context.Complete := by
  refine Every.bind (every_of_forall fun _ => trivial) fun solcPath _ => every_pure.2 ?_
  intro name hname
  simp only [suiteNames, List.mem_append, List.mem_cons, List.not_mem_nil, or_false] at hname
  simp only [Context.bindingsOf, Bindings.mem_names_insert]
  rcases hname with hpath | rfl | rfl | rfl
  · exact .inr (.inr (.inr (Layout.mem_names_bindings.1 hpath)))
  · exact .inr (.inr (.inl rfl))
  · exact .inr (.inl rfl)
  · exact .inl rfl

/-- The scope of a test binds the names of its context, the workspace and the item. -/
theorem Scope.mem_names_forTest {workspace : Option Path} {item : Option String} {name : String} :
    name ∈ (Scope.forTest c workspace item).bindings.names ↔
      name ∈ c.bindings.names ∨ (workspace.isSome ∧ name = "workspace") ∨
        (item.isSome ∧ name = "item") := by
  cases workspace <;> cases item <;>
    simp [Scope.forTest, Scope.ofContext, Scope.inWorkspace, Scope.withItem,
      Bindings.mem_names_insert] <;> grind

/-- A text has no problem if all names that it mentions are known. -/
theorem unknownPlaceholders_eq_nil {known : List String} {context text : String} :
    unknownPlaceholders known context text = [] ↔
      ∀ name ∈ Placeholder.referenced text, name ∈ known := by
  simp [unknownPlaceholders, List.filter_eq_nil_iff]

/-- Tests without problems have none each. -/
theorem problems_eq_nil_of_mem {seen : List String} {tests : List Test}
    (h : testProblems seen tests = []) {t : Test} (ht : t ∈ tests) : t.problems = [] := by
  induction tests generalizing seen with
  | nil => simp at ht
  | cons u rest ih =>
    simp only [testProblems, List.append_eq_nil_iff] at h
    obtain rfl | ht := List.mem_cons.1 ht
    · exact h.1.2
    · exact ih h.2 ht

/-- The scope of a test knows the texts of a test without problems. -/
theorem knows_of_problems_eq_nil (hc : c.Complete) {t : Test} (h : t.problems = [])
    {workspace : Option Path} (hw : workspace.isSome = t.template?.isSome) :
    ∀ text ∈ t.texts, (Scope.forTest c workspace t.item).Knows text := by
  intro text htext name hname
  simp only [Test.problems, List.append_eq_nil_iff, List.flatMap_eq_nil_iff] at h
  have hnames := unknownPlaceholders_eq_nil.1 (h.2 text htext) name hname
  simp only [Test.names, List.mem_append] at hnames
  rw [Scope.mem_names_forTest, hw]
  rcases hnames with (hitem | hworkspace) | hsuite
  · cases hi : t.item <;> simp_all
  · cases ht : t.template? <;> simp_all
  · exact .inl (hc name hsuite)

/-- The patterns of a test without problems compile. -/
theorem compiles_of_problems_eq_nil {t : Test} (h : t.problems = []) :
    ∀ step ∈ t.steps, Compiles step.expect := by
  simp only [Test.problems, List.append_eq_nil_iff, List.flatMap_eq_nil_iff] at h
  intro step hstep m hm pattern hpattern
  have hproblems := h.1.2 step hstep
  simp only [Expect.problems, List.append_eq_nil_iff, List.filterMap_eq_nil_iff] at hproblems
  have hregex := hproblems.1 pattern (List.mem_flatMap.2 ⟨m, hm, hpattern⟩)
  rw [regexProblem?] at hregex
  split at hregex
  · next p hp => exact ⟨p, hp⟩
  · simp at hregex

/-- The template of a test without problems is refused as a template by no host. -/
theorem every_create {t : Test} (h : t.problems = []) {template : String}
    (ht : t.template? = some template) (root : Path) :
    (Workspace.create root template).Every (FailsOnly fun fault => (Failure.workspace fault).Known) := by
  simp only [Test.problems, List.append_eq_nil_iff] at h
  have htemplate := h.1.1.2
  rw [Test.templateProblems, ht] at htemplate
  rw [Workspace.create]
  split
  · next hnone => simp [hnone] at htemplate
  · refine Every.bind (every_of_forall fun _ => trivial) fun made _ => ?_
    cases made with
    | error reason => exact FailsOnly.error.2 trivial
    | ok _ =>
      refine Every.bind (every_of_forall fun _ => trivial) fun reply _ => ?_
      cases reply with
      | error reason => exact FailsOnly.error.2 trivial
      | ok path => exact fun _ => FailsOnly.ok

/-- A test without problems, in a context that binds the names of a suite. -/
theorem every_runTest {fileTimeout : Option Nat} (hc : c.Complete) {t : Test}
    (h : t.problems = []) :
    (runTest c fileTimeout t).Every fun r => ∀ failure ∈ r.failures, failure.Known := by
  have hunskipped : (runUnskipped c fileTimeout t).Every
      fun failures => ∀ failure ∈ failures, failure.Known := by
    rw [runUnskipped]
    split
    · next hnone =>
      have hw : (none : Option Path).isSome = t.template?.isSome := by
        rw [Test.template?, hnone]
        rfl
      exact every_runBody (knows_of_problems_eq_nil hc h hw) (compiles_of_problems_eq_nil h)
    · next template hsome =>
      refine Every.bind (every_create h hsome _) fun made hmade => ?_
      cases made with
      | error fault =>
        have hfault : (Failure.workspace fault).Known := hmade fault rfl
        exact List.forall_mem_singleton.2 hfault
      | ok path =>
        have hw : (some path).isSome = t.template?.isSome := by
          rw [Test.template?, hsome]
          rfl
        refine Every.bind (every_runBody (knows_of_problems_eq_nil hc h hw)
          (compiles_of_problems_eq_nil h)) fun failures hf => ?_
        exact Every.bind (every_of_forall fun _ => trivial) fun _ _ => hf
  rw [runTest]
  split
  · exact List.forall_mem_nil _
  · exact Every.bind (every_timed hunskipped) fun x hx => hx

/-- A selected test is one of the file. -/
theorem mem_of_mem_select {filter : Option String} {tests : List Test} {t : Nat × Test}
    (h : t ∈ select filter tests) : t.2 ∈ tests := by
  obtain ⟨⟨u, i⟩, hu, rfl⟩ := List.mem_map.1 (List.mem_filter.1 h).1
  exact List.fst_mem_of_mem_zipIdx hu

/-- No failure of a file without problems reports an unknown placeholder, a pattern that does not
compile or a text that is no template, whatever the host replies and however the tests are
interleaved. -/
theorem every_runFile_known (hc : c.Complete) {f : CaseFile} (h : f.problems = [])
    (filter : Option String) (schedule : List Nat) :
    (runFile c filter schedule f).Every fun results =>
      ∀ r ∈ results, ∀ failure ∈ r.failures, failure.Known := by
  simp only [CaseFile.problems, List.append_eq_nil_iff, List.flatMap_eq_nil_iff] at h
  obtain ⟨⟨_, htexts⟩, htests⟩ := h
  have hknows : ∀ text ∈ f.texts, (Scope.ofContext c).Knows text := fun text ht name hname =>
    hc name (unknownPlaceholders_eq_nil.1 (htexts text ht) name hname)
  simp only [CaseFile.texts, List.mem_append] at hknows
  have hresults : (runTests c (f.timeout <|> c.timeout) schedule (select filter f.tests)).Every
      fun results => ∀ r ∈ results, ∀ failure ∈ r.failures, failure.Known :=
    every_runTests_forall schedule (pairwise_select filter f.tests) fun t ht =>
      every_runTest hc (problems_eq_nil_of_mem htests (mem_of_mem_select ht))
  rw [runFile]
  split
  · exact List.forall_mem_nil _
  · refine Every.bind (every_runSetup fun t ht => hknows t (.inl ht)) fun r hr => ?_
    cases r with
    | error fault =>
      have hfault : fault.Known := FailsOnly.error.1 hr
      exact List.forall_mem_singleton.2 (List.forall_mem_singleton.2 hfault)
    | ok _ =>
      refine Every.bind hresults fun results hresults => ?_
      refine every_thenTeardown (fun t ht => hknows t (.inr ht)) (fun faults hfaults => ?_) hresults
      exact List.forall_mem_singleton.2 hfaults

/-! ## Reported names -/

/-- Whether a context binds no other names than those that every suite has. -/
def Context.Exact (c : Context) : Prop :=
  ∀ name ∈ c.bindings.names, name ∈ suiteNames

/-- Every context that is created binds no other names. -/
theorem Context.every_create_exact {layout : Layout} {zksolc solc : String}
    {version : Option Semver.Version} {timeout : Option Nat} :
    (Context.create layout zksolc solc version timeout).Every Context.Exact := by
  refine Every.bind (every_of_forall fun _ => trivial) fun solcPath _ => every_pure.2 ?_
  intro name hname
  simp only [Context.bindingsOf, Bindings.mem_names_insert] at hname
  simp only [suiteNames, List.mem_append, List.mem_cons, List.not_mem_nil, or_false]
  obtain rfl | rfl | rfl | hpath := hname
  · exact .inr (.inr (.inr rfl))
  · exact .inr (.inr (.inl rfl))
  · exact .inr (.inl rfl)
  · exact .inl (Layout.mem_names_bindings.1 hpath)

/-- A text that mentions a name that a scope does not bind cannot be resolved in it: some name is
reported to have no value, be it this one or one before it. -/
theorem resolve_unknown {s : Scope} {text name : String} (h : name ∈ Placeholder.referenced text)
    (hname : name ∉ s.bindings.names) :
    ∃ n, s.resolve text = .error ⟨text, .unknown n⟩ := by
  have hverdict := Placeholder.expandChars_eq_verdict s.bindings.get? text.toList
  obtain ⟨n, hn⟩ : ∃ n, (Placeholder.referenced text).find?
      (fun n => (s.bindings.get? n).isNone) = some n := by
    refine Option.isSome_iff_exists.1 (List.find?_isSome.2 ⟨name, h, ?_⟩)
    rw [← Bindings.isSome_get?_iff] at hname
    simpa using hname
  rw [Placeholder.verdict, ← Placeholder.referenced, hn] at hverdict
  have hexpand : Placeholder.expand text s.bindings = .error (.unknown n) := by
    rw [Placeholder.expand, hverdict]
    rfl
  exact ⟨n, by rw [Scope.resolve, hexpand]⟩

/-- The problem that a text mentions a name without a value. -/
theorem mem_unknownPlaceholders {known : List String} {context text : String} {p : Problem}
    (h : p ∈ unknownPlaceholders known context text) :
    ∃ name, p = .unknownPlaceholder context name text ∧ name ∈ Placeholder.referenced text ∧
      name ∉ known := by
  obtain ⟨name, hname, rfl⟩ := List.mem_map.1 h
  obtain ⟨hmem, hknown⟩ := List.mem_filter.1 hname
  exact ⟨name, rfl, hmem, by simpa using hknown⟩

/-- A problem about a name in a test is about one of the texts of that test. -/
theorem unknown_mem_of_mem_problems {t : Test} {context name text : String}
    (h : .unknownPlaceholder context name text ∈ t.problems) :
    context = t.context ∧ text ∈ t.texts ∧ name ∈ Placeholder.referenced text ∧
      name ∉ t.names := by
  simp only [Test.problems, List.mem_append, List.mem_flatMap] at h
  obtain ((h | h) | ⟨s, _, h⟩) | ⟨u, hu, h⟩ := h
  · split at h <;> simp at h
  · rw [Test.templateProblems] at h
    split at h
    · simp at h
    · split at h <;> simp at h
  · simp only [Expect.problems, List.mem_append, List.mem_filterMap, regexProblem?,
      requirementProblem?] at h
    obtain ⟨_, _, h⟩ | ⟨_, _, h⟩ := h <;> split at h <;> simp at h
  · obtain ⟨n, heq, hn, hnames⟩ := mem_unknownPlaceholders h
    cases heq
    exact ⟨rfl, hu, hn, hnames⟩

/-- A problem about a name in some tests is about one of the texts of one of them. -/
theorem unknown_mem_of_mem_testProblems {seen : List String} {tests : List Test}
    {context name text : String}
    (h : .unknownPlaceholder context name text ∈ testProblems seen tests) :
    ∃ t ∈ tests, context = t.context ∧ text ∈ t.texts ∧
      name ∈ Placeholder.referenced text ∧ name ∉ t.names := by
  induction tests generalizing seen with
  | nil => simp [testProblems] at h
  | cons t rest ih =>
    simp only [testProblems, List.mem_append] at h
    obtain (h | h) | h := h
    · split at h <;> simp at h
    · exact ⟨t, List.mem_cons_self, unknown_mem_of_mem_problems h⟩
    · obtain ⟨u, hu, hunknown⟩ := ih h
      exact ⟨u, List.mem_cons_of_mem _ hu, hunknown⟩

/-- The names of a test are those that its scope binds. -/
theorem notMem_names_forTest (hc : c.Exact) {t : Test} {name : String} (h : name ∉ t.names)
    {workspace : Option Path} (hw : workspace.isSome = t.template?.isSome) :
    name ∉ (Scope.forTest c workspace t.item).bindings.names := by
  simp only [Test.names, List.mem_append, not_or] at h
  rw [Scope.mem_names_forTest, hw]
  rintro (hsuite | ⟨hworkspace, rfl⟩ | ⟨hitem, rfl⟩)
  · exact h.2 (hc name hsuite)
  · obtain ⟨template, ht⟩ := Option.isSome_iff_exists.1 hworkspace
    simp [ht] at h
  · obtain ⟨item, hi⟩ := Option.isSome_iff_exists.1 hitem
    simp [hi] at h

/-- A text is one of those that a problem's context speaks of, the file's own steps or a test, and it
cannot be resolved there for want of a name. -/
def ReportedFor (c : Context) (f : CaseFile) (context text : String) : Prop :=
  (context = "file setup/teardown" ∧ text ∈ f.texts ∧
    ∃ n, (Scope.ofContext c).resolve text = .error ⟨text, .unknown n⟩) ∨
  ∃ t ∈ f.tests, context = t.context ∧ text ∈ t.texts ∧
    ∀ workspace : Option Path, workspace.isSome = t.template?.isSome →
      ∃ n, (Scope.forTest c workspace t.item).resolve text = .error ⟨text, .unknown n⟩

/-- A text that is reported cannot be resolved where its problem says that it stands. -/
theorem reportedFor_of_mem_problems (hc : c.Exact) {f : CaseFile} {context name text : String}
    (h : .unknownPlaceholder context name text ∈ f.problems) : ReportedFor c f context text := by
  simp only [CaseFile.problems, List.mem_append, List.mem_flatMap] at h
  obtain (h | ⟨u, hu, h⟩) | h := h
  · split at h <;> simp at h
  · obtain ⟨n, heq, hn, hnames⟩ := mem_unknownPlaceholders h
    cases heq
    exact .inl ⟨rfl, hu, resolve_unknown hn fun hmem => hnames (hc _ hmem)⟩
  · obtain ⟨t, ht, hcontext, htext, hn, hnames⟩ := unknown_mem_of_mem_testProblems h
    exact .inr ⟨t, ht, hcontext, htext, fun workspace hw =>
      resolve_unknown hn (notMem_names_forTest hc hnames hw)⟩

/-- Validation and runs agree. In every context that is made for a suite, a file without problems has
no failure about an unknown name, a pattern that does not compile or a text that is no template, for
each filter, each schedule and whatever the host replies; and a text that is reported for an unknown
name cannot be resolved in the scope in which a run resolves it, which is that of the place that the
problem names. -/
theorem validation_agrees_with_runs (layout : Layout) (zksolc solc : String)
    (version : Option Semver.Version) (timeout : Option Nat) :
    (Context.create layout zksolc solc version timeout).Every fun c =>
      ∀ f : CaseFile,
        (f.problems = [] → ∀ (filter : Option String) (schedule : List Nat),
          (runFile c filter schedule f).Every fun results =>
            ∀ r ∈ results, ∀ failure ∈ r.failures, failure.Known) ∧
        ∀ context name text, .unknownPlaceholder context name text ∈ f.problems →
          ReportedFor c f context text := by
  have hcreate : (Context.create layout zksolc solc version timeout).Every fun c =>
      c.Complete ∧ c.Exact :=
    Context.every_create.and Context.every_create_exact
  refine hcreate.mono fun c hc f => ⟨fun h filter schedule => ?_, fun context name text h => ?_⟩
  · exact every_runFile_known hc.1 h filter schedule
  · exact reportedFor_of_mem_problems hc.2 h

end Valid

end Assay.Suite
