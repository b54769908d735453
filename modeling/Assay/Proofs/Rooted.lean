import Assay.Proofs.Quoting
import Assay.Suite.Run
import Assay.Workspace.Registry
import Mathlib.Data.List.Basic

/-!
# Paths from the root

Paths, contexts and scopes from which no operation depends on the working directory. A path keeps
its beginning when something is joined to it, so what a test names below an absolute directory is
absolute whatever its placeholders stand for.
-/

namespace Assay

namespace Path

variable {p q root : Path}

/-- A path is absolute if it begins with a slash. -/
theorem isAbsolute_iff : p.isAbsolute = true ↔ p.text.toList.head? = some '/' := by
  rw [isAbsolute, beq_iff_eq]

/-- What is joined to an absolute path is absolute. -/
theorem isAbsolute_join (hp : p.isAbsolute = true) (q : Path) : (p.join q).isAbsolute = true := by
  have hhead := isAbsolute_iff.1 hp
  rw [join]
  split
  · assumption
  · split <;> simp [isAbsolute_iff, List.head?_append, hhead]

/-- What is in an absolute directory has an absolute path. -/
theorem isAbsolute_child (hp : p.isAbsolute = true) (name : String) :
    (p.child name).isAbsolute = true :=
  isAbsolute_join hp ⟨name⟩

/-- Behind a text that begins with a slash, all texts up to a piece begin with it. -/
theorem isAbsolute_of_mem_locate {before : List Char} {pieces : List (List Char)}
    (hb : ('/' :: before).getLast? = some '/') {x : Component × String}
    (hx : x ∈ locate before pieces) : (Path.mk x.2).isAbsolute = true := by
  induction pieces generalizing before with
  | nil => simp [locate] at hx
  | cons piece rest ih =>
    have hlast : (piece.reverse ++ '/' :: before).getLast? = some '/' := by
      rw [List.getLast?_append_of_ne_nil _ (List.cons_ne_nil _ _), hb]
    have hupto : ('/' :: (piece.reverse ++ '/' :: before)).getLast? = some '/' := by
      rw [List.getLast?_cons, hlast]
      rfl
    rw [locate] at hx
    split at hx
    · exact ih hupto hx
    · rw [List.mem_cons] at hx
      obtain rfl | hx := hx
      · rw [isAbsolute_iff, String.toList_ofList, List.head?_reverse, hlast]
      · exact ih hupto hx

/-- An absolute path is located from the root. -/
theorem exists_located (hp : p.isAbsolute = true) :
    ∃ rest, p.located = (.root, "/") :: locate [] rest := by
  rw [located]
  split
  · next h => exact absurd h (Text.splitAt_ne_nil '/' _)
  · next first rest h => exact ⟨rest, if_pos hp⟩

/-- The texts up to the components of an absolute path are absolute. -/
theorem isAbsolute_of_mem_located (hp : p.isAbsolute = true) {x : Component × String}
    (hx : x ∈ p.located) : (Path.mk x.2).isAbsolute = true := by
  obtain ⟨rest, hrest⟩ := exists_located hp
  rw [hrest, List.mem_cons] at hx
  obtain rfl | hx := hx
  · decide
  · exact isAbsolute_of_mem_locate rfl hx

/-- The parent of an absolute path is absolute. -/
theorem isAbsolute_parent (hp : p.isAbsolute = true) (hq : p.parent? = some q) :
    q.isAbsolute = true := by
  have hmem {x : Component × String} (hx : x ∈ p.located.reverse) :
      (Path.mk x.2).isAbsolute = true :=
    isAbsolute_of_mem_located hp (List.mem_reverse.1 hx)
  rw [parent?] at hq
  split at hq
  · simp at hq
  · simp at hq
  · next x hx hloc =>
    -- a path of one component is the root, which has no parent
    obtain ⟨rest, hrest⟩ := exists_located hp
    have hsingle : p.located = [x] := by simpa using congrArg List.reverse hloc
    rw [hrest, List.cons.injEq] at hsingle
    exact absurd hsingle.1.symm (hx _)
  · next last c upto front hloc =>
    obtain rfl := Option.some.inj hq
    have hx : (c, upto) ∈ p.located.reverse := by simp [hloc]
    exact hmem hx

/-- No piece between slashes is the root. -/
theorem component?_ne_root {first : Bool} {piece : List Char} :
    component? first piece ≠ some .root := by
  rw [component?]
  split
  · simp
  · split
    · split <;> simp
    · split <;> simp

/-- The root is not among the components behind the first slash. -/
theorem ne_root_of_mem_locate {before : List Char} {pieces : List (List Char)}
    {x : Component × String} (hx : x ∈ locate before pieces) : x.1 ≠ .root := by
  induction pieces generalizing before with
  | nil => simp [locate] at hx
  | cons piece rest ih =>
    rw [locate] at hx
    split at hx
    · exact ih hx
    · next c hc =>
      rw [List.mem_cons] at hx
      obtain rfl | hx := hx
      · exact fun h => component?_ne_root (hc.trans (congrArg some h))
      · exact ih hx

/-- Only an absolute path has the root among its components. -/
theorem isAbsolute_of_root_mem (h : .root ∈ p.components) : p.isAbsolute = true := by
  obtain ⟨x, hx, hroot⟩ := List.mem_map.1 h
  rw [located] at hx
  split at hx
  · simp at hx
  · split at hx
    · assumption
    · split at hx
      · exact absurd hroot (ne_root_of_mem_locate hx)
      · next c hc =>
        rw [List.mem_cons] at hx
        obtain rfl | hx := hx
        · exact absurd (hc.trans (congrArg some hroot)) component?_ne_root
        · exact absurd hroot (ne_root_of_mem_locate hx)

/-- An absolute path has the root among its components. -/
theorem root_mem_components (hp : p.isAbsolute = true) : .root ∈ p.components := by
  obtain ⟨rest, hrest⟩ := exists_located hp
  simp [components, hrest]

/-- What is below an absolute path is absolute. -/
theorem isAbsolute_of_isUnder (hroot : root.isAbsolute = true) (h : root.isUnder p = true) :
    p.isAbsolute = true :=
  isAbsolute_of_root_mem ((List.isPrefixOf_iff_prefix.1 h).subset (root_mem_components hroot))

/-- Adding components to an absolute path keeps it absolute. -/
theorem isAbsolute_extend (hp : p.isAbsolute = true) (cs : List Component) :
    (p.extend cs).isAbsolute = true := by
  induction cs generalizing p with
  | nil => exact hp
  | cons c cs ih => exact ih (isAbsolute_child hp _)

/-- An absolute form is absolute if the working directory is. -/
theorem isAbsolute_absolute? {cwd : Path} (hcwd : cwd.isAbsolute = true)
    (h : p.absolute? cwd = some q) : q.isAbsolute = true := by
  rw [absolute?] at h
  split at h
  · simp at h
  · obtain rfl := Option.some.inj h
    have hbody : ∀ body : Path, body.isAbsolute = true →
        (if p.text.toList.getLast? = some '/' then body.child "" else body).isAbsolute = true := by
      intro body hb
      split
      · exact isAbsolute_child hb _
      · exact hb
    refine hbody _ ?_
    split
    · exact isAbsolute_extend (by decide) _
    · split
      · next habs =>
        obtain ⟨rest, hrest⟩ := exists_located habs
        have hcs : p.components = .root :: (locate [] rest).map Prod.fst := by
          simp [components, hrest]
        -- the first component takes the place of the empty path
        have hroot : ((Path.mk "").child Component.root.text).isAbsolute = true := by decide
        rw [hcs]
        exact isAbsolute_extend hroot _
      · exact isAbsolute_extend hcwd _

end Path

namespace Suite

open Host Plan

/-- Replies of a host: its working directory is absolute, a directory that it makes for a template in
an absolute one is a child of that, and it takes those workspaces out of the registry that it is
asked for. -/
def HostPaths : (r : Request) → Reply r → Prop
  | .workingDir, cwd => cwd.isAbsolute = true
  | .makeTemp root _, .ok path => root.isAbsolute = true → ∃ name, path = root.child name
  | .takeRegistered root, taken => ∀ p ∈ taken, Registry.selects root p = true
  | _, _ => True

/-- A request that means the same in every working directory. A command is given the directory that
it runs in, unless it lists an absolute path. -/
def IsRooted : Request → Prop
  | .run line none _ =>
    ∃ p : Path, p.isAbsolute = true ∧ line = (Platform.posix.listing p).line
  | .run _ (some directory) _ => directory.isAbsolute = true
  | .workingDir | .takeRegistered none => False
  | .stat p | .list p | .readText p | .writeText p _ | .createDirs p | .removeAll p
  | .setPermission p _ | .makeTemp p _ | .register p | .unregister p
  | .takeRegistered (some p) => p.isAbsolute = true

variable {α β : Type}

/-- A plan that means the same in every working directory. -/
abbrev Rooted (p : Plan α) : Prop :=
  p.Asks HostPaths IsRooted

/-- A result asks for nothing. -/
theorem rooted_pure {a : α} : Rooted (pure a) := trivial

/-- A request that is rooted is a rooted plan. -/
theorem rooted_request {r : Request} (h : IsRooted r) : Rooted (request r) :=
  ⟨h, fun _ _ => trivial⟩

/-! ## Operations on the host -/

section Operations

variable {path : Path}

/-- Running an invocation is one request. -/
theorem rooted_runIn {i : Invocation} {directory : Option Path} {limit : Option Nat}
    (h : IsRooted (.run i.line directory limit)) : Rooted (runIn i directory limit) := by
  refine Asks.bind (rooted_request h) fun finished => ?_
  cases finished.ending <;> exact rooted_pure

/-- Looking whether something stands at an absolute path. -/
theorem rooted_pathExists (h : path.isAbsolute = true) : Rooted (pathExists path) := by
  refine Asks.bind (rooted_request h) fun reply => ?_
  cases reply <;> exact rooted_pure

/-- Setting permissions below an absolute path. -/
theorem rooted_setPermission (h : path.isAbsolute = true) (mode : Permission) :
    Rooted (Host.setPermission path mode) := by
  refine Asks.bind ?_ fun _ => rooted_pure
  refine Asks.bind (rooted_request h) fun reply => ?_
  cases reply <;> exact rooted_pure

/-- Listing an absolute path. -/
theorem rooted_isThere (h : path.isAbsolute = true) : Rooted (isThere path) := by
  refine Asks.bind (rooted_pathExists h) fun found => ?_
  split
  · refine Asks.bind (rooted_runIn ⟨path, h, rfl⟩) fun outcome => ?_
    cases outcome <;> exact rooted_pure
  · exact rooted_pure

/-- Looking whether an absolute path is empty. -/
theorem rooted_isEmpty (h : path.isAbsolute = true) : Rooted (isEmpty path) := by
  refine Asks.bind (rooted_isThere h) fun there => ?_
  split
  · exact rooted_pure
  · refine Asks.bind (rooted_request h) fun reply => ?_
    cases reply with
    | error reason => exact rooted_pure
    | ok s =>
      dsimp only
      split
      · refine Asks.bind (rooted_request h) fun names => ?_
        cases names <;> exact rooted_pure
      · exact rooted_pure

/-- Comparing a file at an absolute path. -/
theorem rooted_sameContent (h : path.isAbsolute = true) (output : String) :
    Rooted (sameContent path output) := by
  refine Asks.bind (rooted_request h) fun reply => ?_
  cases reply <;> exact rooted_pure

end Operations

/-! ## Preparing and tidying up -/

/-- Below an absolute directory every text resolves to an absolute path. -/
theorem Scope.isAbsolute_of_resolvePath {s : Scope} (hs : s.directory.isAbsolute = true)
    {text : String} {path : Path} (h : s.resolvePath text = .ok path) :
    path.isAbsolute = true := by
  rw [resolvePath] at h
  cases hr : s.resolve text with
  | error u =>
    rw [hr] at h
    exact nomatch h
  | ok t =>
    rw [hr] at h
    have hjoin : s.directory.join ⟨t⟩ = path := Except.ok.inj h
    exact hjoin ▸ Path.isAbsolute_join hs _

/-- Below an absolute directory every invocation runs in an absolute one. -/
theorem Scope.isAbsolute_of_directoryOf {s : Scope} (hs : s.directory.isAbsolute = true) {r : Run}
    {path : Path} (h : s.directoryOf r = .ok path) : path.isAbsolute = true := by
  rw [directoryOf] at h
  split at h
  · exact isAbsolute_of_resolvePath hs h
  · exact Except.ok.inj h ▸ hs

namespace Chore

/-- A chore that means the same in every working directory and results in what satisfies `Q`. -/
def RootedTo (Q : α → Prop) (x : Chore α) : Prop :=
  x.run.Meets HostPaths IsRooted fun r => ∀ a, r = .ok a → Q a

/-- A chore that means the same in every working directory. -/
abbrev IsRooted (x : Chore α) : Prop :=
  x.RootedTo fun _ => True

/-- A result asks for nothing and is what is claimed of it. -/
theorem rootedTo_pure {Q : α → Prop} {a : α} (h : Q a) : RootedTo Q (pure a) :=
  fun _ heq => Except.ok.inj heq ▸ h

/-- A chore without actions asks for nothing. -/
theorem isRooted_pure {a : α} : IsRooted (pure a) := rootedTo_pure trivial

/-- A chore that fails at once asks for nothing. -/
theorem isRooted_throw {fault : ChoreFault} : IsRooted (throw fault : Chore α) :=
  fun _ _ => trivial

/-- A plan that cannot fail is a chore with the same requests. -/
theorem isRooted_lift {p : Plan α} (h : Rooted p) : IsRooted (ExceptT.lift p) :=
  Asks.bind h fun _ _ _ => trivial

/-- One chore and then another that is rooted for each result of the first. -/
theorem RootedTo.bind {Q : α → Prop} {S : β → Prop} {x : Chore α} {f : α → Chore β}
    (hx : x.RootedTo Q) (hf : ∀ a, Q a → (f a).RootedTo S) : (x >>= f).RootedTo S := by
  refine Meets.bind hx fun r hr => ?_
  cases r with
  | ok a => exact hf a (hr a rfl)
  | error e => exact fun _ h => nomatch h

/-- Resolving asks for nothing. -/
theorem rootedTo_resolved {Q : α → Prop} {x : Except Unresolved α} (h : ∀ a, x = .ok a → Q a) :
    RootedTo Q (resolved x) := by
  cases x with
  | ok a => exact rootedTo_pure (h a rfl)
  | error u => exact fun _ h => nomatch h

/-- A request that may be refused is all that its chore asks for. -/
theorem isRooted_granted {fault : Fault → ChoreFault} {reply : Plan (Except Fault Unit)}
    (h : Rooted reply) : IsRooted (granted fault reply) := by
  refine Asks.bind h fun r => ?_
  cases r <;> exact fun _ _ => trivial

/-- An action that is done if it is there. -/
theorem isRooted_ifSome {action : α → Chore Unit} {o : Option α}
    (h : ∀ a ∈ o, IsRooted (action a)) : IsRooted (ifSome action o) := by
  cases o with
  | none => exact isRooted_pure
  | some a => exact h a rfl

variable {s : Scope} (hs : s.directory.isAbsolute = true)
include hs

/-- A path of a chore is absolute once it is resolved. -/
theorem rootedTo_path (text : String) :
    RootedTo (fun p : Path => p.isAbsolute = true) (resolved (s.resolvePath text)) :=
  rootedTo_resolved fun _ => Scope.isAbsolute_of_resolvePath hs

/-- A command of a chore runs in the scope's directory. -/
theorem isRooted_command (c : Command) : IsRooted (command s c) := by
  refine RootedTo.bind (rootedTo_resolved (Q := fun _ => True) fun _ _ => trivial) fun i _ => ?_
  refine RootedTo.bind (isRooted_lift (rooted_runIn hs)) fun r _ => ?_
  cases r with
  | error fault => exact isRooted_throw
  | ok outcome =>
    dsimp only
    split
    · exact isRooted_pure
    · exact isRooted_throw

/-- A chore that sets permissions. -/
theorem isRooted_permission (p : SetPermission) : IsRooted (permission s p) :=
  RootedTo.bind (rootedTo_path hs p.path) fun _ hp => isRooted_lift (rooted_setPermission hp _)

/-- A chore that writes a file, and makes the directory that it is in. -/
theorem isRooted_writeFile (w : WriteFile) : IsRooted (writeFile s w) := by
  refine RootedTo.bind (rootedTo_path hs w.path) fun path hp => ?_
  refine RootedTo.bind (isRooted_ifSome fun parent hparent => ?_) fun _ _ => ?_
  · exact isRooted_granted (rooted_request (Path.isAbsolute_parent hp hparent))
  · exact isRooted_granted (rooted_request hp)

/-- A chore that makes a directory. -/
theorem isRooted_createDir (text : String) : IsRooted (createDir s text) :=
  RootedTo.bind (rootedTo_path hs text) fun _ hp => isRooted_granted (rooted_request hp)

/-- A chore that removes a directory. -/
theorem isRooted_removeDir (text : String) : IsRooted (removeDir s text) := by
  refine RootedTo.bind (rootedTo_path hs text) fun path hp => ?_
  refine RootedTo.bind (isRooted_lift (rooted_pathExists hp)) fun there _ => ?_
  split
  · exact isRooted_granted (rooted_request hp)
  · exact isRooted_pure

/-- A step of preparation. -/
theorem isRooted_setupStep (step : SetupStep) : IsRooted (setupStep s step) := by
  refine RootedTo.bind (isRooted_ifSome fun w _ => isRooted_writeFile hs w) fun _ _ => ?_
  refine RootedTo.bind (isRooted_ifSome fun d _ => isRooted_createDir hs d) fun _ _ => ?_
  refine RootedTo.bind (isRooted_ifSome fun p _ => isRooted_permission hs p) fun _ _ => ?_
  exact isRooted_ifSome fun c _ => isRooted_command hs c

/-- A step of tidying up. -/
theorem isRooted_teardownStep (step : TeardownStep) : IsRooted (teardownStep s step) := by
  refine RootedTo.bind (isRooted_ifSome fun p _ => isRooted_permission hs p) fun _ _ => ?_
  refine RootedTo.bind (isRooted_ifSome fun d _ => isRooted_removeDir hs d) fun _ _ => ?_
  exact isRooted_ifSome fun c _ => isRooted_command hs c

end Chore

/-! ## Tests -/

section Tests

variable {s : Scope} {limit : Option Nat}

/-- A comparison that is made if it is asked for. -/
theorem rooted_ifAsked {check : α → Plan (List StepFailure)} (h : ∀ a, Rooted (check a))
    (o : Option α) : Rooted (ifAsked check o) := by
  cases o with
  | none => exact rooted_pure
  | some a => exact h a

section Scoped

variable (hs : s.directory.isAbsolute = true)
include hs

/-- Preparation, step by step. -/
theorem rooted_runSetup (steps : List SetupStep) : Rooted (runSetup s steps) := by
  induction steps with
  | nil => exact rooted_pure
  | cons step rest ih =>
    refine Asks.bind ((Chore.isRooted_setupStep hs step).mono fun _ _ => trivial) fun r => ?_
    cases r with
    | ok _ => exact ih
    | error fault => exact rooted_pure

/-- Tidying up, step by step. -/
theorem rooted_runTeardown (steps : List TeardownStep) : Rooted (runTeardown s steps) := by
  induction steps with
  | nil => exact rooted_pure
  | cons step rest ih =>
    refine Asks.bind ((Chore.isRooted_teardownStep hs step).mono fun _ _ => trivial) fun r => ?_
    cases r with
    | ok _ => exact ih
    | error fault => exact Asks.bind ih fun _ => rooted_pure

/-- What is executed was executed in an absolute directory. -/
theorem meets_execute (r : Run) :
    (execute s limit r).Meets HostPaths IsRooted fun result =>
      ∀ x, result = .ok x → x.directory.isAbsolute = true := by
  rw [execute]
  split
  · exact fun _ h => nomatch h
  · exact fun _ h => nomatch h
  · next invocation directory _ hdirectory =>
    have hd := Scope.isAbsolute_of_directoryOf hs hdirectory
    refine Asks.bind (rooted_runIn hd) fun outcome => ?_
    cases outcome with
    | error fault => exact fun _ h => nomatch h
    | ok outcome => exact fun x hx => Except.ok.inj hx ▸ hd

omit hs in
/-- The reference compiler runs where the compiler under test ran. -/
theorem rooted_checkReference {x : Executed} (hx : x.directory.isAbsolute = true) (r : Reference) :
    Rooted (checkReference s limit x r) := by
  simp only [checkReference]
  split
  · exact rooted_pure
  · refine Asks.bind (rooted_runIn hx) fun outcome => ?_
    cases outcome <;> exact rooted_pure

omit hs in
/-- Comparing whether an absolute path is empty. -/
theorem rooted_checkEmpty {path : Path} (h : path.isAbsolute = true) (expected : Bool) :
    Rooted (checkEmpty path expected) := by
  refine Asks.bind (rooted_isEmpty h) fun empty => ?_
  cases empty <;> exact rooted_pure

/-- Comparing a file at an absolute path with the output of a run. -/
theorem rooted_checkContents {path : Path} (h : path.isAbsolute = true) (r : Run) :
    Rooted (checkContents s limit path r) := by
  refine Meets.bind (meets_execute hs r) fun executed _ => ?_
  cases executed with
  | error failure => exact rooted_pure
  | ok x =>
    refine Asks.bind (rooted_sameContent h _) fun same => ?_
    cases same <;> exact rooted_pure

/-- What is looked at of an absolute path. -/
theorem rooted_look {path : Path} (h : path.isAbsolute = true) (f : FileExpect) :
    Rooted (look s limit path f) := by
  refine Asks.bind (rooted_ifAsked (fun e => rooted_checkEmpty h e) _) fun _ => ?_
  exact Asks.bind (rooted_ifAsked (fun r => rooted_checkContents hs h r) _) fun _ => rooted_pure

/-- Comparing the state of a path. -/
theorem rooted_checkFile (f : FileExpect) : Rooted (checkFile s limit f) := by
  rw [checkFile]
  split
  · exact rooted_pure
  · next path hpath =>
    have h := Scope.isAbsolute_of_resolvePath hs hpath
    split
    · exact rooted_look hs h f
    · refine Asks.bind (rooted_isThere h) fun actual => ?_
      split
      · exact rooted_look hs h f
      · exact rooted_pure

/-- Comparing the states of paths. -/
theorem rooted_checkFiles (fs : List FileExpect) : Rooted (checkFiles s limit fs) := by
  induction fs with
  | nil => exact rooted_pure
  | cons f rest ih =>
    exact Asks.bind (rooted_checkFile hs f) fun _ => Asks.bind ih fun _ => rooted_pure

/-- All comparisons after an invocation in an absolute directory. -/
theorem rooted_check (e : Expect) {x : Executed} (hx : x.directory.isAbsolute = true) :
    Rooted (check s limit e x) := by
  have hreference : Rooted (ifAsked (checkReference s limit x) e.reference) :=
    rooted_ifAsked (rooted_checkReference hx) _
  exact Asks.bind hreference fun _ => Asks.bind (rooted_checkFiles hs _) fun _ => rooted_pure

/-- Tidying up after whatever came before. -/
theorem rooted_thenTeardown {ε : Type} (steps : List TeardownStep) (entries : List ε)
    (entry : List ChoreFault → ε) :
    Rooted (do
      match ← runTeardown s steps with
      | [] => return entries
      | faults => return entries ++ [entry faults] : Plan (List ε)) := by
  refine Asks.bind (rooted_runTeardown hs steps) fun faults => ?_
  cases faults <;> exact rooted_pure

/-- A step of a test. -/
theorem rooted_runStep (step : Step) : Rooted (runStep s limit step) := by
  refine Asks.bind (rooted_runSetup hs _) fun prepared => ?_
  cases prepared with
  | error fault => exact rooted_pure
  | ok _ =>
    refine Meets.bind (meets_execute hs step.run) fun executed hx => ?_
    cases executed with
    | error failure => exact rooted_thenTeardown hs _ _ _
    | ok x => exact Asks.bind (rooted_check hs _ (hx x rfl)) fun _ => rooted_thenTeardown hs _ _ _

/-- The steps of a test, up to the first that fails. -/
theorem rooted_runSteps (named : Bool) (steps : List Step) :
    Rooted (runSteps s limit named steps) := by
  induction steps with
  | nil => exact rooted_pure
  | cons step rest ih =>
    refine Asks.bind (rooted_runStep hs step) fun failures => ?_
    cases failures with
    | nil => exact ih
    | cons failure rest => exact rooted_pure

/-- What a test does inside of its workspace. -/
theorem rooted_runBody (t : Test) : Rooted (runBody s limit t) := by
  refine Asks.bind (rooted_runSetup hs _) fun prepared => ?_
  cases prepared with
  | error fault => exact rooted_thenTeardown hs _ _ _
  | ok _ => exact Asks.bind (rooted_runSteps hs _ _) fun _ => rooted_thenTeardown hs _ _ _

end Scoped

/-! ## Workspaces -/

/-- A workspace that is made below an absolute root has an absolute path. -/
theorem meets_create_rooted {root : Path} (h : root.isAbsolute = true) (template : String) :
    (Workspace.create root template).Meets HostPaths IsRooted fun result =>
      ∀ path, result = .ok path → path.isAbsolute = true := by
  rw [Workspace.create]
  split
  · exact fun _ h => nomatch h
  · next t _ =>
    refine Asks.bind (rooted_request h) fun made => ?_
    cases made with
    | error reason => exact fun _ h => nomatch h
    | ok _ =>
      refine Meets.bind (meets_request (Q := HostPaths (.makeTemp root t)) h fun _ h => h)
        fun reply hreply => ?_
      cases reply with
      | error reason => exact fun _ h => nomatch h
      | ok path =>
        obtain ⟨name, rfl⟩ := hreply h
        have hchild := Path.isAbsolute_child h name
        exact ⟨hchild, fun _ _ => fun p hp => Except.ok.inj hp ▸ hchild⟩

/-- Removing a directory by its absolute path. -/
theorem rooted_remove {path : Path} (h : path.isAbsolute = true) :
    Rooted (Workspace.remove path) := by
  refine Asks.bind (rooted_request h) fun reply => ?_
  split
  · exact rooted_pure
  · refine Asks.bind (rooted_setPermission h _) fun _ => ?_
    exact Asks.bind (rooted_request h) fun _ => rooted_pure

/-- Giving back a workspace by its absolute path. -/
theorem rooted_release {path : Path} (h : path.isAbsolute = true) :
    Rooted (Workspace.release path) := by
  refine Asks.bind (rooted_remove h) fun gone => ?_
  split
  · exact rooted_request h
  · exact rooted_pure

/-- Removing directories by their absolute paths. -/
theorem rooted_removeEach {paths : List Path} (h : ∀ p ∈ paths, p.isAbsolute = true) :
    Rooted (Workspace.removeEach paths) := by
  induction paths with
  | nil => exact rooted_pure
  | cons path rest ih =>
    rw [List.forall_mem_cons] at h
    refine Asks.bind (rooted_remove h.1) fun gone => ?_
    split
    · exact Asks.bind (ih h.2) fun _ => rooted_pure
    · exact Asks.bind (rooted_request h.1) fun _ => ih h.2

/-- The workspaces below an absolute root have absolute paths. -/
theorem rooted_cleanup {root : Path} (h : root.isAbsolute = true) :
    Rooted (Workspace.cleanup (some root)) := by
  refine Meets.bind (meets_request (Q := HostPaths (.takeRegistered (some root))) h fun _ h => h)
    fun taken htaken => ?_
  exact rooted_removeEach fun p hp => Path.isAbsolute_of_isUnder h (htaken p hp)

/-! ## Files and suites -/

/-- A context from which everything is below absolute directories. -/
structure Context.Rooted (c : Context) : Prop where
  root : c.layout.root.isAbsolute = true
  outputDir : c.layout.outputDir.isAbsolute = true

variable {c : Context} (hc : c.Rooted)
include hc

/-- The scope of a test in a rooted context has an absolute directory. -/
theorem isAbsolute_directory_forTest {workspace : Option Path}
    (h : ∀ p ∈ workspace, p.isAbsolute = true) (item : Option String) :
    (Scope.forTest c workspace item).directory.isAbsolute = true := by
  cases workspace with
  | none => cases item <;> exact hc.root
  | some p => cases item <;> exact h p rfl

/-- A test with its workspace. -/
theorem rooted_runUnskipped (fileTimeout : Option Nat) (t : Test) :
    Rooted (runUnskipped c fileTimeout t) := by
  simp only [runUnskipped]
  split
  · exact rooted_runBody (isAbsolute_directory_forTest hc (by simp) _) t
  · refine Meets.bind (meets_create_rooted hc.outputDir _) fun made hmade => ?_
    cases made with
    | error fault => exact rooted_pure
    | ok path =>
      have hpath := hmade path rfl
      have hdir := isAbsolute_directory_forTest hc
        (fun p hp => Option.some.inj hp ▸ hpath) t.item
      refine Asks.bind (rooted_runBody hdir t) fun _ => ?_
      exact Asks.bind (rooted_release hpath) fun _ => rooted_pure

/-- A test that may be skipped. -/
theorem rooted_runTest (fileTimeout : Option Nat) (t : Test) :
    Rooted (runTest c fileTimeout t) := by
  rw [runTest]
  split
  · exact rooted_pure
  · exact Meets.bind (rooted_runUnskipped hc fileTimeout t).timed fun _ _ => rooted_pure

/-- The tests of a file in their phases. -/
theorem rooted_runTests (fileTimeout : Option Nat) (schedule : List Nat)
    (tests : List (Nat × Test)) : Rooted (runTests c fileTimeout schedule tests) := by
  have hplans (ts : List (Nat × Test)) : List.Forall₂ (fun _ p => Rooted p) ts
      (ts.map fun t => do return (t.1, ← runTest c fileTimeout t.2)) := by
    rw [List.forall₂_map_right_iff, List.forall₂_same]
    exact fun t _ => Asks.bind (rooted_runTest hc fileTimeout t.2) fun _ => rooted_pure
  refine Meets.bind (meets_inTurn (hplans _)) fun _ _ => ?_
  exact Meets.bind (meets_sideBySide schedule (hplans _)) fun _ _ => rooted_pure

/-- A file with its preparation and its tidying up. -/
theorem rooted_runFile (filter : Option String) (schedule : List Nat) (f : CaseFile) :
    Rooted (runFile c filter schedule f) := by
  have hs : (Scope.ofContext c).directory.isAbsolute = true := hc.root
  rw [runFile]
  split
  · exact rooted_pure
  · refine Asks.bind (rooted_runSetup hs _) fun prepared => ?_
    cases prepared with
    | error fault => exact rooted_pure
    | ok _ =>
      refine Asks.bind (rooted_runTests hc _ _ _) fun results => ?_
      exact rooted_thenTeardown hs _ _ _

/-- The preparation of a suite. -/
theorem rooted_prepare (config : SuiteConfig) : Rooted (prepare c config) :=
  rooted_runSetup (s := .ofContext c) hc.root config.setup

/-- The tidying up of a suite, with the workspaces that it left behind. -/
theorem rooted_tidyUp (config : SuiteConfig) : Rooted (tidyUp c config) := by
  refine Asks.bind (rooted_runTeardown (s := .ofContext c) hc.root _) fun faults => ?_
  exact Asks.bind (rooted_cleanup hc.outputDir) fun _ => rooted_pure

omit hc in
/-- Every plan asks for something or other. -/
theorem asks_anything (p : Plan α) : p.Asks HostPaths fun _ => True := by
  induction p with
  | done a => trivial
  | ask r next ih => exact ⟨trivial, fun reply _ => ih reply⟩

omit hc in
/-- A context for absolute directories is rooted. -/
theorem meets_create_context {layout : Layout} (h : layout.root.isAbsolute = true)
    (h' : layout.outputDir.isAbsolute = true) {zksolc solc : String}
    {version : Option Semver.Version} {limit : Option Nat} :
    (Context.create layout zksolc solc version limit).Meets HostPaths (fun _ => True)
      Context.Rooted := by
  rw [Context.create]
  exact Asks.bind (asks_anything _) fun _ => meets_pure.2 ⟨h, h'⟩

omit hc in
/-- The context of a suite is rooted, whatever its settings say and however its root is written. -/
theorem meets_ofConfig (root : Path) (config : SuiteConfig) (zksolc solc : Option String) :
    (Context.ofConfig root config zksolc solc).Meets HostPaths (fun _ => True) fun made =>
      ∀ c ∈ made, c.Rooted := by
  refine Meets.bind (meets_request (r := .workingDir) (Q := HostPaths .workingDir) trivial
    fun _ h => h) fun cwd hcwd => ?_
  split
  · exact fun _ h => nomatch h
  · next root' hroot =>
    have habs := Path.isAbsolute_absolute? hcwd hroot
    refine Asks.bind (asks_anything _) fun version => ?_
    have hroot : (Layout.ofDirs root' config.contractsDir config.outputDir).root.isAbsolute = true :=
      habs
    have hout :
        (Layout.ofDirs root' config.contractsDir config.outputDir).outputDir.isAbsolute = true :=
      Path.isAbsolute_child habs config.outputDir
    refine Meets.bind (meets_create_context hroot hout) fun c hc => ?_
    exact fun d hd => Option.some.inj hd ▸ hc

omit hc in
/-- In a suite whose context can be made, whatever its settings say, no case file and no settings
lead to a request that depends on the working directory: all paths are absolute, and every command
gets an absolute directory unless it lists an absolute path. -/
theorem runner_ignores_working_directory (root : Path) (config : SuiteConfig)
    (zksolc solc : Option String) :
    (Context.ofConfig root config zksolc solc).Meets HostPaths (fun _ => True) fun made =>
      ∀ c ∈ made,
        (∀ (filter : Option String) (schedule : List Nat) (f : CaseFile),
          Rooted (runFile c filter schedule f)) ∧
        ∀ suite : SuiteConfig, Rooted (prepare c suite) ∧ Rooted (tidyUp c suite) :=
  (meets_ofConfig root config zksolc solc).mono fun _ hmade c hc =>
    ⟨rooted_runFile (hmade c hc), fun suite =>
      ⟨rooted_prepare (hmade c hc) suite, rooted_tidyUp (hmade c hc) suite⟩⟩

end Tests

end Suite

end Assay
