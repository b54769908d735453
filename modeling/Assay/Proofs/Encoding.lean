import Assay.Case.Decode
import Assay.Case.Encode
import Assay.Proofs.Codec

/-!
# Case files written and read again

What was read as a case file or as the settings of a suite and is then written as JSON is read again
as the same, but for the value of a repetition, which is not written (`file_reads_back`). Of a
value that was read it is known that its numbers are in their ranges and that no command is written
like one of the two compilers; this is all that reading it again needs.
-/

namespace Assay

open Decode

/-! ## What was read -/

/-- A program is read again from the text that it is written as. -/
def Program.Plain (p : Program) : Prop :=
  Program.ofString p.toString = p

/-- An exit code is a number of 32 bits. -/
def isExitCode (m : Int) : Prop :=
  -(Nat.pow 2 31 : Int) ≤ m ∧ m ≤ (Nat.pow 2 31 : Int) - 1

/-- A step of preparation that was read. -/
def SetupStep.Read (s : SetupStep) : Prop :=
  ∀ c ∈ s.run, c.program.Plain

/-- A step of tidying up that was read. -/
def TeardownStep.Read (s : TeardownStep) : Prop :=
  ∀ c ∈ s.run, c.program.Plain

/-- An expected exit code that was read. -/
def ExitExpect.Read : ExitExpect → Prop
  | .code m => isExitCode m
  | .any => True

/-- The expected state of a path that was read. -/
def FileExpect.Read (e : FileExpect) : Prop :=
  ∀ r ∈ e.sameAsOutputOf, r.program.Plain

/-- Expectations that were read. -/
structure Expect.Read (e : Expect) : Prop where
  exit : ∀ x ∈ e.exit, x.Read
  reference : ∀ r ∈ e.reference, ∀ m ∈ r.exit, isExitCode m
  files : ∀ x ∈ e.files, x.Read
  versions : ∀ v ∈ e.versions, ∀ x ∈ v.exit, x.Read

/-- A step that was read. -/
structure Step.Read (s : Step) : Prop where
  setup : ∀ x ∈ s.setup, x.Read
  run : s.run.program.Plain
  expect : s.expect.Read
  teardown : ∀ x ∈ s.teardown, x.Read

/-- A test that was read. -/
structure Test.Read (t : Test) : Prop where
  item : t.item = none
  setup : ∀ x ∈ t.setup, x.Read
  steps : ∀ x ∈ t.steps, x.Read
  teardown : ∀ x ∈ t.teardown, x.Read
  timeout : ∀ m ∈ t.timeout, m ≤ Nat.pow 2 64 - 1

/-- A test that was read as it is written. -/
structure Case.Entry.Read (e : Case.Entry) : Prop where
  test : e.test.Read
  run : ∀ r ∈ e.run, r.program.Plain
  expect : ∀ x ∈ e.expect, x.Read
  steps : ∀ l ∈ e.steps, ∀ x ∈ l, x.Read

/-- A case file that was read. -/
structure CaseFile.Read (f : CaseFile) : Prop where
  version : f.version ≤ Nat.pow 2 32 - 1
  timeout : ∀ m ∈ f.timeout, m ≤ Nat.pow 2 64 - 1
  setup : ∀ x ∈ f.setup, x.Read
  tests : ∀ x ∈ f.tests, x.Read
  teardown : ∀ x ∈ f.teardown, x.Read

/-- Settings that were read. -/
structure SuiteConfig.Read (c : SuiteConfig) : Prop where
  version : c.version ≤ Nat.pow 2 32 - 1
  timeout : ∀ m ∈ c.timeout, m ≤ Nat.pow 2 64 - 1
  setup : ∀ x ∈ c.setup, x.Read
  teardown : ∀ x ∈ c.teardown, x.Read

/-- A test as JSON with these members in the place of its steps. -/
def Test.written (t : Test) (form : List (String × Json)) : Json :=
  .obj ([
    ("name", .str t.name),
    ("id", .ofString? t.id),
    ("description", .ofString? t.description),
    ("skip", .ofString? t.skip),
    ("platforms", .arr (t.platforms.map fun p => .str p.name)),
    ("each", .ofStrings t.each),
    ("workspace", .ofOption WorkspaceRequest.toJson t.workspace),
    ("setup", .arr (t.setup.map SetupStep.toJson))] ++ (form ++ [
    ("teardown", .arr (t.teardown.map TeardownStep.toJson)),
    ("timeout", .ofOption .ofNat t.timeout),
    ("serial", .bool t.serial)]))

namespace Case

/-- The members of a test with a single run, which may have expectations. -/
def runForm (r : Run) (x : Option Expect) : List (String × Json) :=
  match x with
  | none => [("run", r.toJson)]
  | some e => [("run", r.toJson), ("expect", e.toJson)]

/-- The members of a test whose only step is that run, named `run`. -/
def stepsForm (r : Run) (x : Option Expect) : List (String × Json) :=
  [("steps", .arr [.obj (("name", .str "run") :: runForm r x)])]

variable {n : Nat} {f : Format}

/-! ## What is read -/

/-- Programs are read again from what they are written as. -/
theorem ofString_plain (s : String) : (Program.ofString s).Plain := by
  rw [Program.Plain]
  by_cases hzksolc : s = "zksolc"
  · subst hzksolc
    rfl
  · by_cases hsolc : s = "solc"
    · subst hsolc
      rfl
    · have hcommand : Program.ofString s = .command s := by
        rw [Program.ofString, if_neg hzksolc, if_neg hsolc]
      rw [hcommand, Program.toString, hcommand]

/-- Programs that are read. -/
theorem yields_program : Yields program Program.Plain :=
  (yields_true text).map fun s _ => ofString_plain s

/-- A field that no condition is about. -/
theorem keeps_free {α β : Type} {name : String} {read : Reader β} {put : β → α → α}
    { required : Bool} {P : α → Prop} (h : ∀ b v, P v → P (put b v)) :
    (Field.of name read put required).Keeps P :=
  .of (yields_true read) fun b v _ => h b v

/-- Commands that are read. -/
theorem yields_command : Yields (command f) fun c => c.program.Plain := by
  refine Record.yields_reader rfl ?_
  simp only [List.forall_mem_cons]
  exact ⟨.of yields_program fun _ _ h _ => h, keeps_free fun _ _ h => h, List.forall_mem_nil _⟩

/-- Steps of preparation that are read. -/
theorem yields_setupStep : Yields (setupStep f) SetupStep.Read := by
  refine Record.yields_reader (forall_mem_none _) ?_
  simp only [List.forall_mem_cons]
  exact ⟨keeps_free fun _ _ h => h, keeps_free fun _ _ h => h, keeps_free fun _ _ h => h,
    .of yields_command.optional fun _ _ h _ => h, List.forall_mem_nil _⟩

/-- Steps of tidying up that are read. -/
theorem yields_teardownStep : Yields (teardownStep f) TeardownStep.Read := by
  refine Record.yields_reader (forall_mem_none _) ?_
  simp only [List.forall_mem_cons]
  exact ⟨keeps_free fun _ _ h => h, keeps_free fun _ _ h => h,
    .of yields_command.optional fun _ _ h _ => h, List.forall_mem_nil _⟩

/-- Invocations that are read. -/
theorem yields_run : Yields (run f) fun r => r.program.Plain := by
  refine Record.yields_reader rfl ?_
  simp only [List.forall_mem_cons]
  exact ⟨.of yields_program fun _ _ h _ => h, keeps_free fun _ _ h => h, keeps_free fun _ _ h => h,
    List.forall_mem_nil _⟩

/-- Values of several forms are of a kind that all forms are of. -/
theorem yields_forms {α : Type} {type : String} {attempt : Datum → Option α} {P : α → Prop}
    (h : ∀ d a, attempt d = some a → P a) : Yields (forms type attempt) P := by
  intro p d r a r' hread
  obtain ⟨d', r₁, -, hread⟩ := exists_of_bind hread
  cases hattempt : attempt d' with
  | none =>
    rw [hattempt] at hread
    cases hread
  | some b =>
    rw [hattempt] at hread
    cases hread
    exact h d' a hattempt

/-- What an attempt gives is of the kind that its reader yields. -/
theorem of_attempt {α : Type} {read : Reader α} {P : α → Prop} (h : Yields read P) {d : Datum}
    {a : α} (hread : attempt read d = some a) : P a := by
  rw [attempt] at hread
  cases hrun : read.run d with
  | error fault =>
    rw [hrun] at hread
    cases hread
  | ok b =>
    rw [hrun] at hread
    cases hread
    exact h.of_run hrun

/-- The name of a variant is one of those that stand for a value. -/
theorem yields_variant {α : Type} {names : List String} {value? : String → Option α} {P : α → Prop}
    (h : ∀ name a, value? name = some a → P a) : Yields (variant f names value?) P := by
  intro p d r a r' hread
  obtain ⟨target, r₁, -, hread⟩ := exists_of_bind hread
  cases hvariant : f.variant target with
  | error cause =>
    rw [hvariant] at hread
    cases hread
  | ok v =>
    rw [hvariant] at hread
    dsimp only at hread
    cases hvalue : value? v.name with
    | none =>
      rw [hvalue] at hread
      dsimp only at hread
      split at hread
      · cases hread
      · split at hread <;> cases hread
    | some b =>
      rw [hvalue] at hread
      dsimp only at hread
      cases hpayload : v.payload with
      | none =>
        rw [hpayload] at hread
        cases hread
        exact h v.name a hvalue
      | some cause =>
        rw [hpayload] at hread
        cases hread

/-- Expected exit codes that are read. -/
theorem yields_exitExpect : Yields exitExpect ExitExpect.Read := by
  refine yields_forms fun d e h => ?_
  cases hcode : attempt int32 d with
  | some m =>
    rw [hcode] at h
    cases h
    exact of_attempt (yields_number _ _ _ _) hcode
  | none =>
    rw [hcode] at h
    refine of_attempt (yields_variant fun name e he => ?_) h
    split at he
    · cases he
      exact trivial
    · cases he

/-- Comparisons with the reference compiler that are read. -/
theorem yields_reference : Yields (reference f) fun r => ∀ m ∈ r.exit, isExitCode m := by
  refine Record.yields_reader (forall_mem_none _) ?_
  simp only [List.forall_mem_cons]
  exact ⟨keeps_free fun _ _ h => h, .of (yields_number _ _ _ _).optional fun _ _ h _ => h,
    List.forall_mem_nil _⟩

/-- Expected states of paths that are read. -/
theorem yields_fileExpect : Yields (fileExpect f) FileExpect.Read := by
  refine Record.yields_reader (forall_mem_none _) ?_
  simp only [List.forall_mem_cons]
  exact ⟨keeps_free fun _ _ h => h, keeps_free fun _ _ h => h, keeps_free fun _ _ h => h,
    .of yields_run.optional fun _ _ h _ => h, List.forall_mem_nil _⟩

/-- Expectations for some versions that are read. -/
theorem yields_versionedExpect : Yields (versionedExpect f) fun v => ∀ x ∈ v.exit, x.Read := by
  refine Record.yields_reader (forall_mem_none _) ?_
  simp only [List.forall_mem_cons]
  exact ⟨keeps_free fun _ _ h => h, .of yields_exitExpect.optional fun _ _ h _ => h,
    keeps_free fun _ _ h => h, List.forall_mem_nil _⟩

/-- Expectations that say nothing. -/
theorem read_expect_empty : ({} : Expect).Read where
  exit := forall_mem_none _
  reference := forall_mem_none _
  files := List.forall_mem_nil _
  versions := List.forall_mem_nil _

/-- Expectations that are read. -/
theorem yields_expect : Yields (expect f) Expect.Read := by
  refine Record.yields_reader read_expect_empty ?_
  simp only [List.forall_mem_cons]
  exact ⟨.of yields_exitExpect.optional fun _ _ h hv => { hv with exit := h },
    keeps_free fun _ _ hv => { hv with },
    .of yields_reference.optional fun _ _ h hv => { hv with reference := h },
    .of yields_fileExpect.list fun _ _ h hv => { hv with files := h },
    .of yields_versionedExpect.list fun _ _ h hv => { hv with versions := h },
    List.forall_mem_nil _⟩

/-- Steps that are read. -/
theorem yields_step : Yields (step f) Step.Read := by
  refine Record.yields_reader
    ⟨List.forall_mem_nil _, rfl, read_expect_empty, List.forall_mem_nil _⟩ ?_
  simp only [List.forall_mem_cons]
  exact ⟨keeps_free fun _ _ hv => { hv with },
    .of yields_setupStep.list fun _ _ h hv => { hv with setup := h },
    .of yields_run fun _ _ h hv => { hv with run := h },
    .of yields_expect fun _ _ h hv => { hv with expect := h },
    .of yields_teardownStep.list fun _ _ h hv => { hv with teardown := h },
    List.forall_mem_nil _⟩

/-- A field that the test of an entry keeps. -/
theorem keeps_kept {β : Type} {name : String} {read : Reader β} {put : β → Test → Test}
    { required : Bool} {Q : β → Prop} (h : Yields read Q)
    (hput : ∀ b t, Q b → t.Read → (put b t).Read) :
    (kept name read put required).Keeps Entry.Read :=
  .of h fun b e hb he => { he with test := hput b e.test hb he.test }

/-- Tests that are read as they are written. -/
theorem yields_entry : Yields (entry f) Entry.Read := by
  have hempty : ({ name := "" } : Test).Read :=
    ⟨rfl, List.forall_mem_nil _, List.forall_mem_nil _, List.forall_mem_nil _, forall_mem_none _⟩
  refine Record.yields_reader
    ⟨hempty, forall_mem_none _, forall_mem_none _, forall_mem_none _⟩ ?_
  simp only [entryRecord, List.forall_mem_cons]
  exact ⟨keeps_kept (yields_true _) fun _ _ _ ht => { ht with },
    keeps_kept (yields_true _) fun _ _ _ ht => { ht with },
    keeps_kept (yields_true _) fun _ _ _ ht => { ht with },
    keeps_kept (yields_true _) fun _ _ _ ht => { ht with },
    keeps_kept (yields_true _) fun _ _ _ ht => { ht with },
    keeps_kept (yields_true _) fun _ _ _ ht => { ht with },
    keeps_kept (yields_true _) fun _ _ _ ht => { ht with },
    keeps_kept yields_setupStep.list fun _ _ h ht => { ht with setup := h },
    .of yields_run.optional fun _ _ h he => { he with run := h },
    .of yields_expect.optional fun _ _ h he => { he with expect := h },
    .of yields_step.list.optional fun _ _ h he => { he with steps := h },
    keeps_kept yields_teardownStep.list fun _ _ h ht => { ht with teardown := h },
    keeps_kept yields_word64.optional fun _ _ h ht => { ht with timeout := h },
    keeps_kept (yields_true _) fun _ _ _ ht => { ht with },
    List.forall_mem_nil _⟩

/-- The step that a single run stands for. -/
theorem read_single {r : Run} {x : Option Expect} (hr : r.program.Plain) (hx : ∀ e ∈ x, e.Read) :
    (Entry.single r x).Read where
  setup := List.forall_mem_nil _
  run := hr
  expect := by
    cases x with
    | none => exact read_expect_empty
    | some e => exact hx e rfl
  teardown := List.forall_mem_nil _

/-- Steps in either form. -/
theorem Entry.Read.steps_read {e : Entry} (h : e.Read) {steps : List Step}
    (hsteps : e.steps? = .ok steps) : ∀ x ∈ steps, x.Read := by
  rw [Entry.steps?] at hsteps
  split at hsteps
  · cases hsteps
  · next l hl _ =>
    split at hsteps
    · cases hsteps
    · cases hsteps
      exact h.steps _ hl
  · next r _ hr =>
    cases hsteps
    exact List.forall_mem_singleton.2 (read_single (h.run r hr) h.expect)
  · cases hsteps

/-- Tests that are read. -/
theorem yields_test : Yields (test f) Test.Read := by
  intro p d r t r' hread
  obtain ⟨e, r₁, he, hread⟩ := exists_of_bind hread
  have hentry : e.Read := yields_entry p d r e r₁ he
  rw [Entry.toTest] at hread
  cases hsteps : e.steps? with
  | error fault =>
    rw [hsteps] at hread
    cases hread
  | ok steps =>
    rw [hsteps] at hread
    cases hread
    exact { hentry.test with steps := hentry.steps_read hsteps }

/-- Case files that are read. -/
theorem yields_file : Yields (file f) CaseFile.Read := by
  refine Record.yields_reader
    ⟨by decide, forall_mem_none _, List.forall_mem_nil _, List.forall_mem_nil _,
      List.forall_mem_nil _⟩ ?_
  simp only [List.forall_mem_cons]
  exact ⟨.of yields_word32 fun _ _ h hc => { hc with version := h },
    keeps_free fun _ _ hc => { hc with },
    .of yields_word64.optional fun _ _ h hc => { hc with timeout := h },
    .of yields_setupStep.list fun _ _ h hc => { hc with setup := h },
    .of yields_test.list fun _ _ h hc => { hc with tests := h },
    .of yields_teardownStep.list fun _ _ h hc => { hc with teardown := h },
    List.forall_mem_nil _⟩

/-- Settings that are read. -/
theorem yields_config : Yields (config f) SuiteConfig.Read := by
  refine Record.yields_reader
    ⟨by decide, forall_mem_none _, List.forall_mem_nil _, List.forall_mem_nil _⟩ ?_
  simp only [List.forall_mem_cons]
  exact ⟨.of yields_word32 fun _ _ h hc => { hc with version := h },
    keeps_free fun _ _ hc => { hc with },
    keeps_free fun _ _ hc => { hc with },
    keeps_free fun _ _ hc => { hc with },
    keeps_free fun _ _ hc => { hc with },
    keeps_free fun _ _ hc => { hc with },
    .of yields_word64.optional fun _ _ h hc => { hc with timeout := h },
    keeps_free fun _ _ hc => { hc with },
    .of yields_setupStep.list fun _ _ h hc => { hc with setup := h },
    .of yields_teardownStep.list fun _ _ h hc => { hc with teardown := h },
    List.forall_mem_nil _⟩

/-! ## Reading what was written -/

/-- An object is not null. -/
theorem obj_ne_null {members : List (String × Json)} : Json.obj members ≠ .null := by
  intro h
  cases h

/-- An array is not null. -/
theorem arr_ne_null {items : List Json} : Json.arr items ≠ .null := by
  intro h
  cases h

/-- A string is not null. -/
theorem str_ne_null {s : String} : Json.str s ≠ .null := by
  intro h
  cases h

/-- A number is not null. -/
theorem int_ne_null {m : Int} : Json.int m ≠ .null := by
  intro h
  cases h

/-- A truth value is not null. -/
theorem bool_ne_null {b : Bool} : Json.bool b ≠ .null := by
  intro h
  cases h

/-- Strings are read back. -/
theorem readsBack_strings (l : List String) :
    ReadsBack (n + 1) (list text) (Json.ofStrings l).toDatum l :=
  readsBack_list fun s _ => readsBack_text s

/-- A string that may be left out is read back. -/
theorem readsBack_string? (o : Option String) :
    ReadsBack n (optional text) (Json.ofString? o).toDatum o :=
  readsBack_ofOption fun s _ => ⟨str_ne_null, readsBack_text s⟩

/-- A time limit is read back. -/
theorem readsBack_timeout {o : Option Nat} (h : ∀ m ∈ o, m ≤ Nat.pow 2 64 - 1) :
    ReadsBack n (optional word64) (Json.ofOption .ofNat o).toDatum o :=
  readsBack_ofOption fun m hm => ⟨int_ne_null, readsBack_word64 (h m hm)⟩

/-- A permission is read back. -/
theorem readsBack_permission (p : Permission) :
    ReadsBack n (permission json) (Json.str p.name).toDatum p := by
  cases p <;> exact fun _ _ _ => rfl

/-- A platform is read back. -/
theorem readsBack_platform (p : Platform) :
    ReadsBack n (platform json) (Json.str p.name).toDatum p := by
  cases p <;> exact fun _ _ _ => rfl

/-- A program is read back. -/
theorem readsBack_program {p : Program} (h : p.Plain) :
    ReadsBack n program (Json.str p.toString).toDatum p := by
  have hmap := (readsBack_text (n := n) p.toString).map Program.ofString
  rwa [h] at hmap

/-- A field is read back with its value. -/
theorem readsBack_of {α β : Type} {name : String} {read : Reader β} {put : β → α → α}
    { required : Bool} {d : Datum} {b : β} (h : ReadsBack n read d b) :
    ReadsBack n (Field.of name read put required).read d (put b) :=
  h.map put

/-- A file to be written is read back. -/
theorem readsBack_writeFile (w : WriteFile) :
    ReadsBack (n + 1) (writeFile f) w.toJson.toDatum w :=
  Reads.readsBack
    (.cons rfl rfl (readsBack_of (readsBack_text _)) <|
      .cons rfl rfl (readsBack_of (readsBack_text _)) .nil) rfl

/-- Permissions to be set are read back. -/
theorem readsBack_setPermission (s : SetPermission) :
    ReadsBack (n + 1) (setPermission json) s.toJson.toDatum s :=
  Reads.readsBack
    (.cons rfl rfl (readsBack_of (readsBack_text _)) <|
      .cons rfl rfl (readsBack_of (readsBack_permission _)) .nil) rfl

/-- A command is read back. -/
theorem readsBack_command {c : Command} (h : c.program.Plain) :
    ReadsBack (n + 2) (command f) c.toJson.toDatum c :=
  Reads.readsBack
    (.cons rfl rfl (readsBack_of (readsBack_program h)) <|
      .cons rfl rfl (readsBack_of (readsBack_strings _)) .nil) rfl

/-- A step of preparation is read back. -/
theorem readsBack_setupStep {s : SetupStep} (h : s.Read) :
    ReadsBack (n + 3) (setupStep json) s.toJson.toDatum s :=
  Reads.readsBack
    (.cons rfl rfl
        (readsBack_of (readsBack_ofOption fun _ _ => ⟨obj_ne_null, readsBack_writeFile _⟩)) <|
      .cons rfl rfl (readsBack_of (readsBack_string? _)) <|
      .cons rfl rfl
        (readsBack_of (readsBack_ofOption fun _ _ => ⟨obj_ne_null, readsBack_setPermission _⟩)) <|
      .cons rfl rfl
        (readsBack_of
          (readsBack_ofOption fun c hc => ⟨obj_ne_null, readsBack_command (h c hc)⟩)) .nil) rfl

/-- Steps of preparation are read back. -/
theorem readsBack_setup {steps : List SetupStep} (h : ∀ x ∈ steps, x.Read) :
    ReadsBack (n + 4) (list (setupStep json)) (Json.arr (steps.map SetupStep.toJson)).toDatum
      steps :=
  readsBack_list fun x hx => readsBack_setupStep (h x hx)

/-- A step of tidying up is read back. -/
theorem readsBack_teardownStep {s : TeardownStep} (h : s.Read) :
    ReadsBack (n + 3) (teardownStep json) s.toJson.toDatum s :=
  Reads.readsBack
    (.cons rfl rfl (readsBack_of (readsBack_string? _)) <|
      .cons rfl rfl
        (readsBack_of (readsBack_ofOption fun _ _ => ⟨obj_ne_null, readsBack_setPermission _⟩)) <|
      .cons rfl rfl
        (readsBack_of
          (readsBack_ofOption fun c hc => ⟨obj_ne_null, readsBack_command (h c hc)⟩)) .nil) rfl

/-- Steps of tidying up are read back. -/
theorem readsBack_teardown {steps : List TeardownStep} (h : ∀ x ∈ steps, x.Read) :
    ReadsBack (n + 4) (list (teardownStep json))
      (Json.arr (steps.map TeardownStep.toJson)).toDatum steps :=
  readsBack_list fun x hx => readsBack_teardownStep (h x hx)

/-- An invocation is read back. -/
theorem readsBack_run {r : Run} (h : r.program.Plain) :
    ReadsBack (n + 2) (run f) r.toJson.toDatum r :=
  Reads.readsBack
    (.cons rfl rfl (readsBack_of (readsBack_program h)) <|
      .cons rfl rfl (readsBack_of (readsBack_strings _)) <|
      .cons rfl rfl (readsBack_of (readsBack_string? _)) .nil) rfl

/-- A wish for a workspace is read back. -/
theorem readsBack_workspaceRequest (w : WorkspaceRequest) :
    ReadsBack n workspaceRequest w.toJson.toDatum w := by
  cases w <;> exact readsBack_forms (fun p r _ => resolve_scalar _ p _ r) rfl

/-- An exit code is read back. -/
theorem readsBack_int32 {m : Int} (h : isExitCode m) : ReadsBack n int32 (Json.int m).toDatum m :=
  readsBack_number h

/-- An expected exit code is read back. -/
theorem readsBack_exitExpect {e : ExitExpect} (h : e.Read) :
    ReadsBack n exitExpect e.toJson.toDatum e := by
  cases e with
  | code m =>
    -- Numbers are tried in front of names.
    refine readsBack_forms (fun p r _ => resolve_scalar _ p _ r) ?_
    have hcode : attempt int32 (Json.int m).toDatum = some m :=
      toOption_run (n := 0) (readsBack_int32 h) (Nat.zero_le _)
    rw [ExitExpect.toJson, hcode]
    rfl
  | any => exact readsBack_forms (fun p r _ => resolve_scalar _ p _ r) rfl

/-- An expected exit code is not null. -/
theorem exitExpect_ne_null (e : ExitExpect) : e.toJson ≠ .null := by
  cases e with
  | code m => exact int_ne_null
  | any => exact str_ne_null

/-- Conditions on an output are read back. -/
theorem readsBack_outputRules (r : OutputRules) :
    ReadsBack (n + 1) (outputRules f) r.toJson.toDatum r :=
  Reads.readsBack
    (.cons rfl rfl (readsBack_of (readsBack_string? _)) <|
      .cons rfl rfl (readsBack_of (readsBack_string? _)) <|
      .cons rfl rfl (readsBack_of (readsBack_string? _)) <|
      .cons rfl rfl (readsBack_of (readsBack_string? _)) .nil) rfl

/-- A string that may be left out has no parts. -/
theorem toDatum_ofString? (o : Option String) :
    ∃ a, (Json.ofString? o).toDatum = .scalar (.exact a) := by
  cases o with
  | none => exact ⟨_, rfl⟩
  | some s => exact ⟨_, rfl⟩

/-- An expected output is read back. -/
theorem readsBack_outputMatch (o : OutputMatch) :
    ReadsBack (n + 1) outputMatch o.toJson.toDatum o := by
  cases o with
  | exact s => exact readsBack_forms (fun p r _ => resolve_scalar _ p _ r) rfl
  | rules rules =>
    refine readsBack_forms (fun p r hp => ?_) ?_
    · obtain ⟨levels, hlevels⟩ : ∃ levels, depthLimit - p.depth = levels + 1 :=
        ⟨depthLimit - p.depth - 1, by omega⟩
      rw [hlevels]
      refine resolve_obj levels p r ?_
      simp only [List.forall_mem_cons, List.not_mem_nil, false_imp_iff, implies_true, and_true]
      exact ⟨toDatum_ofString? _, toDatum_ofString? _, toDatum_ofString? _, toDatum_ofString? _⟩
    · have hrules : attempt (outputRules resolved) rules.toJson.toDatum = some rules :=
        toOption_run (n := 1) (readsBack_outputRules rules) (by decide)
      rw [OutputMatch.toJson, hrules]
      rfl

/-- An expected output is not null. -/
theorem outputMatch_ne_null (o : OutputMatch) : o.toJson ≠ .null := by
  cases o with
  | exact s => exact str_ne_null
  | rules r => exact obj_ne_null

/-- A comparison with the reference compiler is read back. -/
theorem readsBack_reference {r : Reference} (h : ∀ m ∈ r.exit, isExitCode m) :
    ReadsBack (n + 2) (reference f) r.toJson.toDatum r :=
  Reads.readsBack
    (.cons rfl rfl
        (readsBack_of (readsBack_ofOption fun _ _ => ⟨arr_ne_null, readsBack_strings _⟩)) <|
      .cons rfl rfl
        (readsBack_of (readsBack_ofOption fun m hm => ⟨int_ne_null, readsBack_int32 (h m hm)⟩))
        .nil) rfl

/-- A truth value that may be left out is read back. -/
theorem readsBack_bool? (o : Option Bool) :
    ReadsBack n (optional bool) (Json.ofOption .bool o).toDatum o :=
  readsBack_ofOption fun b _ => ⟨bool_ne_null, readsBack_bool b⟩

/-- The expected state of a path is read back. -/
theorem readsBack_fileExpect {e : FileExpect} (h : e.Read) :
    ReadsBack (n + 3) (fileExpect f) e.toJson.toDatum e :=
  Reads.readsBack
    (.cons rfl rfl (readsBack_of (readsBack_text _)) <|
      .cons rfl rfl (readsBack_of (readsBack_bool? _)) <|
      .cons rfl rfl (readsBack_of (readsBack_bool? _)) <|
      .cons rfl rfl
        (readsBack_of (readsBack_ofOption fun r hr => ⟨obj_ne_null, readsBack_run (h r hr)⟩))
        .nil) rfl

/-- Expectations for some versions are read back. -/
theorem readsBack_versionedExpect {v : VersionedExpect} (h : ∀ x ∈ v.exit, x.Read) :
    ReadsBack (n + 2) (versionedExpect f) v.toJson.toDatum v :=
  Reads.readsBack
    (.cons rfl rfl (readsBack_of (readsBack_text _)) <|
      .cons rfl rfl
        (readsBack_of
          (readsBack_ofOption fun x hx => ⟨exitExpect_ne_null x, readsBack_exitExpect (h x hx)⟩)) <|
      .cons rfl rfl
        (readsBack_of
          (readsBack_ofOption fun o _ => ⟨outputMatch_ne_null o, readsBack_outputMatch o⟩))
        .nil) rfl

/-- Expectations are read back. -/
theorem readsBack_expect {e : Expect} (h : e.Read) :
    ReadsBack (n + 5) (expect f) e.toJson.toDatum e :=
  Reads.readsBack
    (.cons rfl rfl
        (readsBack_of
          (readsBack_ofOption fun x hx =>
            ⟨exitExpect_ne_null x, readsBack_exitExpect (h.exit x hx)⟩)) <|
      .cons rfl rfl
        (readsBack_of
          (readsBack_ofOption fun o _ => ⟨outputMatch_ne_null o, readsBack_outputMatch o⟩)) <|
      .cons rfl rfl
        (readsBack_of
          (readsBack_ofOption fun r hr =>
            ⟨obj_ne_null, readsBack_reference (h.reference r hr)⟩)) <|
      .cons rfl rfl
        (readsBack_of (readsBack_list fun x hx => readsBack_fileExpect (h.files x hx))) <|
      .cons rfl rfl
        (readsBack_of (readsBack_list fun v hv => readsBack_versionedExpect (h.versions v hv)))
        .nil) rfl

/-- A step is read back. -/
theorem readsBack_step {s : Step} (h : s.Read) :
    ReadsBack (n + 6) (step json) s.toJson.toDatum s :=
  Reads.readsBack
    (.cons rfl rfl (readsBack_of (readsBack_text _)) <|
      .cons rfl rfl (readsBack_of (readsBack_setup h.setup)) <|
      .cons rfl rfl (readsBack_of (readsBack_run h.run)) <|
      .cons rfl rfl (readsBack_of (readsBack_expect h.expect)) <|
      .cons rfl rfl (readsBack_of (readsBack_teardown h.teardown)) .nil) rfl

/-- A field of an entry that the test keeps is read back. -/
theorem readsBack_kept {β : Type} {name : String} {read : Reader β} {put : β → Test → Test}
    { required : Bool} {d : Datum} {b : β} (h : ReadsBack n read d b) :
    ReadsBack n (kept name read put required).read d fun e => { e with test := put b e.test } :=
  readsBack_of h

/-- A wish for a workspace is not null. -/
theorem workspaceRequest_ne_null (w : WorkspaceRequest) : w.toJson ≠ .null := by
  cases w with
  | enabled b => exact bool_ne_null
  | template t => exact str_ne_null

/-- What is there is read back where it may be left out. -/
theorem readsBack_some {α : Type} {read : Reader α} {j : Json} {a : α} (hj : j ≠ .null)
    (h : ReadsBack n read j.toDatum a) : ReadsBack n (optional read) j.toDatum (some a) := by
  have hsome : ReadsBack n (optional read) (Json.ofOption (fun _ => j) (some a)).toDatum (some a) :=
    readsBack_ofOption fun b hb => Option.some.inj hb ▸ ⟨hj, h⟩
  exact hsome

/-- The names of the fields in front of those that hold the steps, the last one first. -/
def fieldsBefore : List String :=
  ["setup", "workspace", "each", "platforms", "skip", "description", "id", "name"]

/-- A test is read back with these members in the place of its steps if they are read back. -/
theorem readsBack_written {t : Test} {run : Option Run} {expect : Option Expect}
    {steps : Option (List Step)} (h : t.Read) (form : List (String × Json)) (names : List String)
    (hnames : ∀ name ∈ names, name ∈ ["run", "expect", "steps"])
    (hform : ∀ test rest x,
      Reads (n + 7) (entryRecord json) (names ++ fieldsBefore) { test, run, expect, steps } rest x →
      Reads (n + 7) (entryRecord json) fieldsBefore { test } (form ++ rest) x) :
    ReadsBack (n + 8) (entry json) (t.written form).toDatum
      { test := { t with steps := [] }, run, expect, steps } := by
  have hitem : { t with steps := [] } = { t with item := none, steps := [] } := by
    rw [← h.item]
  -- None of the fields behind the steps was read among those that hold them.
  have hbehind (name : String) (hname : name ∉ ["run", "expect", "steps"])
      (hbefore : name ∉ fieldsBefore) : (names ++ fieldsBefore).contains name = false := by
    rw [List.contains_eq_mem, decide_eq_false_iff_not, List.mem_append]
    exact not_or_intro (fun h => hname (hnames name h)) hbefore
  rw [hitem]
  exact Reads.readsBack
    (.cons rfl rfl (readsBack_kept (readsBack_text _)) <|
      .cons rfl rfl (readsBack_kept (readsBack_string? _)) <|
      .cons rfl rfl (readsBack_kept (readsBack_string? _)) <|
      .cons rfl rfl (readsBack_kept (readsBack_string? _)) <|
      .cons rfl rfl (readsBack_kept (readsBack_list fun p _ => readsBack_platform p)) <|
      .cons rfl rfl (readsBack_kept (readsBack_strings _)) <|
      .cons rfl rfl
        (readsBack_kept
          (readsBack_ofOption fun w _ =>
            ⟨workspaceRequest_ne_null w, readsBack_workspaceRequest w⟩)) <|
      .cons rfl rfl (readsBack_kept (readsBack_setup h.setup)) <|
      hform _ _ _ <|
      .cons rfl (hbehind "teardown" (by decide) (by decide))
        (readsBack_kept (readsBack_teardown h.teardown)) <|
      .cons rfl (hbehind "timeout" (by decide) (by decide))
        (readsBack_kept (readsBack_timeout h.timeout)) <|
      .cons rfl (hbehind "serial" (by decide) (by decide)) (readsBack_kept (readsBack_bool _)) .nil)
    (by simp [entryRecord, kept, Field.of, fieldsBefore])

/-- A test is read as it is written: with steps. -/
theorem readsBack_entry {t : Test} (h : t.Read) :
    ReadsBack (n + 8) (entry json) t.toJson.toDatum
      { test := { t with steps := [] }, steps := some t.steps } :=
  readsBack_written h [("steps", .arr (t.steps.map Step.toJson))] ["steps"] (by decide)
    fun _ _ _ hrest =>
      .cons rfl rfl
        (readsBack_of
          (readsBack_some arr_ne_null (readsBack_list fun s hs => readsBack_step (h.steps s hs))))
        hrest

/-- A test is read back. -/
theorem readsBack_test {t : Test} (h : t.Read) :
    ReadsBack (n + 8) (test json) t.toJson.toDatum t := by
  intro p r hp
  rw [test, bind_of_ok (readsBack_entry h p r hp)]
  rfl

/-- A test with a single run is read with its run as its only step, named `run`. -/
theorem readsBack_single {t : Test} {r : Run} {x : Option Expect} (h : t.Read)
    (hr : r.program.Plain) (hx : ∀ e ∈ x, e.Read) :
    ReadsBack (n + 8) (test json) (t.written (runForm r x)).toDatum
      { t with steps := [Entry.single r x] } := by
  have hentry : ReadsBack (n + 8) (entry json) (t.written (runForm r x)).toDatum
      { test := { t with steps := [] }, run := some r, expect := x } := by
    cases x with
    | none =>
      exact readsBack_written h _ ["run"] (by decide) fun _ _ _ hrest =>
        .cons rfl rfl (readsBack_of (readsBack_some obj_ne_null (readsBack_run hr))) hrest
    | some e =>
      exact readsBack_written h _ ["expect", "run"] (by decide) fun _ _ _ hrest =>
        .cons rfl rfl (readsBack_of (readsBack_some obj_ne_null (readsBack_run hr))) <|
        .cons rfl rfl
          (readsBack_of (readsBack_some obj_ne_null (readsBack_expect (hx e rfl)))) hrest
  intro p r' hp
  rw [test, bind_of_ok (hentry p r' hp)]
  rfl

/-- A step is read back from a name, a run and an expectation. -/
theorem readsBack_bareStep {r : Run} {x : Option Expect} (hr : r.program.Plain)
    (hx : ∀ e ∈ x, e.Read) :
    ReadsBack (n + 6) (step json) (Json.obj (("name", .str "run") :: runForm r x)).toDatum
      (Entry.single r x) := by
  cases x with
  | none =>
    exact Reads.readsBack
      (.cons rfl rfl (readsBack_of (readsBack_text _)) <|
        .cons rfl rfl (readsBack_of (readsBack_run hr)) .nil) rfl
  | some e =>
    exact Reads.readsBack
      (.cons rfl rfl (readsBack_of (readsBack_text _)) <|
        .cons rfl rfl (readsBack_of (readsBack_run hr)) <|
        .cons rfl rfl (readsBack_of (readsBack_expect (hx e rfl))) .nil) rfl

/-- A test with a single step, named `run`, is read as that with a single run is. -/
theorem readsBack_stepsForm {t : Test} {r : Run} {x : Option Expect} (h : t.Read)
    (hr : r.program.Plain) (hx : ∀ e ∈ x, e.Read) :
    ReadsBack (n + 8) (test json) (t.written (stepsForm r x)).toDatum
      { t with steps := [Entry.single r x] } := by
  have hsteps : ReadsBack (n + 7) (list (step json))
      (Json.arr ([Entry.single r x].map fun _ =>
        .obj (("name", .str "run") :: runForm r x))).toDatum [Entry.single r x] :=
    readsBack_list (List.forall_mem_singleton.2 (readsBack_bareStep hr hx))
  have hentry : ReadsBack (n + 8) (entry json) (t.written (stepsForm r x)).toDatum
      { test := { t with steps := [] }, steps := some [Entry.single r x] } :=
    readsBack_written h _ ["steps"] (by decide) fun _ _ _ hrest =>
      .cons rfl rfl (readsBack_of (readsBack_some arr_ne_null hsteps)) hrest
  intro p r' hp
  rw [test, bind_of_ok (hentry p r' hp)]
  rfl

/-- A case file is read back. -/
theorem readsBack_file {c : CaseFile} (h : c.Read) :
    ReadsBack (n + 10) (file json) c.toJson.toDatum c :=
  Reads.readsBack
    (.cons rfl rfl (readsBack_of (readsBack_word32 h.version)) <|
      .cons rfl rfl (readsBack_of (readsBack_string? _)) <|
      .cons rfl rfl (readsBack_of (readsBack_timeout h.timeout)) <|
      .cons rfl rfl (readsBack_of (readsBack_setup h.setup)) <|
      .cons rfl rfl
        (readsBack_of (readsBack_list fun t ht => readsBack_test (h.tests t ht))) <|
      .cons rfl rfl (readsBack_of (readsBack_teardown h.teardown)) .nil) rfl

/-- A path is read back. -/
theorem readsBack_path (s : String) :
    ReadsBack n (string "path string") (Json.str s).toDatum s :=
  fun _ _ _ => rfl

/-- Settings are read back. -/
theorem readsBack_config {c : SuiteConfig} (h : c.Read) :
    ReadsBack (n + 5) (config json) c.toJson.toDatum c :=
  Reads.readsBack
    (.cons rfl rfl (readsBack_of (readsBack_word32 h.version)) <|
      .cons rfl rfl (readsBack_of (readsBack_string? _)) <|
      .cons rfl rfl (readsBack_of (readsBack_string? _)) <|
      .cons rfl rfl (readsBack_of (readsBack_string? _)) <|
      .cons rfl rfl (readsBack_of (readsBack_path _)) <|
      .cons rfl rfl (readsBack_of (readsBack_path _)) <|
      .cons rfl rfl (readsBack_of (readsBack_timeout h.timeout)) <|
      .cons rfl rfl (readsBack_of (readsBack_bool _)) <|
      .cons rfl rfl (readsBack_of (readsBack_setup h.setup)) <|
      .cons rfl rfl (readsBack_of (readsBack_teardown h.teardown)) .nil) rfl

end Case

/-! ## Case files -/

/-- A test without the value of its repetition. -/
def Test.withoutItem (t : Test) : Test :=
  { t with item := none }

/-- A case file without the values of repetitions. -/
def CaseFile.withoutItems (c : CaseFile) : CaseFile :=
  { c with tests := c.tests.map Test.withoutItem }

/-- A case file with its tests repeated. -/
def CaseFile.expanded (c : CaseFile) : CaseFile :=
  { c with tests := expandEach c.tests }

/-- The value of a repetition is not written. -/
theorem CaseFile.toJson_withoutItems (c : CaseFile) : c.withoutItems.toJson = c.toJson := by
  have htests : (c.tests.map Test.withoutItem).map Test.toJson = c.tests.map Test.toJson := by
    rw [List.map_map]
    rfl
  rw [CaseFile.toJson, CaseFile.withoutItems, htests, CaseFile.toJson]

/-- What was read has no values of repetitions. -/
theorem CaseFile.Read.withoutItems {c : CaseFile} (h : c.Read) : c.withoutItems = c := by
  have htests : c.tests.map Test.withoutItem = c.tests := by
    refine (List.map_congr_left fun t ht => ?_).trans c.tests.map_id
    rw [Test.withoutItem, ← (h.tests t ht).item]
    rfl
  rw [CaseFile.withoutItems, htests]

/-- A repetition is a test that could have been read, but for its value. -/
theorem Test.Read.instances {t : Test} (h : t.Read) : ∀ x ∈ t.instances, x.withoutItem.Read := by
  intro x hx
  rw [Test.instances] at hx
  split at hx
  · rw [List.mem_singleton.1 hx]
    exact { h with item := rfl }
  · obtain ⟨item, -, rfl⟩ := List.mem_map.1 hx
    exact { h with item := rfl }

/-- The repetitions of a case file are tests that could have been read, but for their values. -/
theorem CaseFile.Read.expanded {c : CaseFile} (h : c.Read) : c.expanded.withoutItems.Read where
  version := h.version
  timeout := h.timeout
  setup := h.setup
  teardown := h.teardown
  tests := by
    intro x hx
    obtain ⟨y, hy, rfl⟩ := List.mem_map.1 hx
    obtain ⟨t, ht, hy⟩ := List.mem_flatMap.1 hy
    exact (h.tests t ht).instances y hy

namespace Case

/-- A test that was read from an entry without steps has its run as its only step. -/
theorem eq_of_single {d : Datum} {references : References} {e : Entry} {t : Test}
    (he : (entry f).run d references = .ok e) (hsteps : e.steps = none)
    (ht : (test f).run d references = .ok t) :
    ∃ r, e.run = some r ∧ t = { e.test with steps := [Entry.single r e.expect] } := by
  obtain ⟨r₁, he⟩ := exists_of_run he
  obtain ⟨r₂, ht⟩ := exists_of_run ht
  rw [test, bind_of_ok he, Entry.toTest] at ht
  cases hrun : e.run with
  | none =>
    have hshape : e.steps? = .error .noForm := by
      rw [Entry.steps?, hsteps, hrun]
    rw [hshape] at ht
    cases ht
  | some r =>
    have hshape : e.steps? = .ok [Entry.single r e.expect] := by
      rw [Entry.steps?, hsteps, hrun]
    rw [hshape] at ht
    cases ht
    exact ⟨r, rfl, rfl⟩

/-- What was read as a case file and is written as JSON is read again as the same; if its tests were
repeated in between, as the same but for the values of the repetitions. A test that was read from a
single run is the one that is read from that run as its only step. What was read as settings is read
again as well. -/
theorem file_reads_back :
    (∀ f d references c, (file f).run d references = .ok c →
      (file json).run c.toJson.toDatum = .ok c ∧
      ((file json).run c.toJson.toDatum).map CaseFile.toJson = .ok c.toJson ∧
      (file json).run c.expanded.toJson.toDatum = .ok c.expanded.withoutItems ∧
      ((file json).run c.expanded.toJson.toDatum).map CaseFile.toJson = .ok c.expanded.toJson) ∧
    (∀ f d references e t, (entry f).run d references = .ok e → e.steps = none →
      (test f).run d references = .ok t →
      ∃ r, e.run = some r ∧ t = { e.test with steps := [Entry.single r e.expect] } ∧
        (test json).run (e.test.written (runForm r e.expect)).toDatum = .ok t ∧
        (test json).run (e.test.written (stepsForm r e.expect)).toDatum = .ok t ∧
        (test json).run t.toJson.toDatum = .ok t) ∧
    ∀ f d references c, (config f).run d references = .ok c →
      (config json).run c.toJson.toDatum = .ok c ∧
      ((config json).run c.toJson.toDatum).map SuiteConfig.toJson = .ok c.toJson := by
  refine ⟨fun f d references c hc => ?_, fun f d references e t he hsteps ht => ?_,
    fun f d references c hc => ?_⟩
  · have hread : c.Read := yields_file.of_run hc
    have hback : (file json).run c.toJson.toDatum = .ok c :=
      (readsBack_file (n := 0) hread).run_eq (by decide)
    have hexpanded : (file json).run c.expanded.toJson.toDatum = .ok c.expanded.withoutItems := by
      rw [← c.expanded.toJson_withoutItems]
      exact (readsBack_file (n := 0) hread.expanded).run_eq (by decide)
    refine ⟨hback, ?_, hexpanded, ?_⟩
    · rw [hback]
      rfl
    · rw [hexpanded]
      exact congrArg Except.ok c.expanded.toJson_withoutItems
  · have hentry : e.Read := yields_entry.of_run he
    have htest : t.Read := yields_test.of_run ht
    obtain ⟨r, hrun, rfl⟩ := eq_of_single he hsteps ht
    have hr : r.program.Plain := hentry.run r hrun
    exact ⟨r, hrun, rfl,
      (readsBack_single (n := 0) hentry.test hr hentry.expect).run_eq (by decide),
      (readsBack_stepsForm (n := 0) hentry.test hr hentry.expect).run_eq (by decide),
      (readsBack_test (n := 0) htest).run_eq (by decide)⟩
  · have hback : (config json).run c.toJson.toDatum = .ok c :=
      (readsBack_config (n := 0) (yields_config.of_run hc)).run_eq (by decide)
    refine ⟨hback, ?_⟩
    rw [hback]
    rfl

/-- A case file whose only test has a single run that is repeated. -/
def repeatedRun : Json :=
  .obj [
    ("version", .int 1),
    ("tests", .arr [.obj [
      ("name", .str "a"),
      ("each", .arr [.str "x", .str "y"]),
      ("run", .obj [("cmd", .str "solc")])]])]

/-- A single run that is repeated is read back. -/
theorem file_reads_back_repeatedRun :
    ∃ c, (file json).run repeatedRun.toDatum = .ok c ∧
      (c.expanded.tests.map fun t => (t.name, t.item)) =
        [("a [x]", some "x"), ("a [y]", some "y")] ∧
      (file json).run c.toJson.toDatum = .ok c ∧
      (file json).run c.expanded.toJson.toDatum = .ok c.expanded.withoutItems := by
  have hread : (file json).run repeatedRun.toDatum = .ok { version := 1, tests := [{
      name := "a"
      each := ["x", "y"]
      steps := [{ name := "run", run := { program := .solc } }] }] } := rfl
  have hback := file_reads_back.1 json _ {} _ hread
  exact ⟨_, hread, by decide, hback.1, hback.2.2.1⟩

end Case

end Assay
