import Assay.Decode.Format

/-!
# Reading back what was written

What a reader makes of data that were written for a value: the value itself, wherever the data
stand. For a record this follows field by field, from the members in the order in which they are
written; and what all fields of a record keep, all records that are read have.
-/

namespace Assay.Decode

variable {α β : Type} {n : Nat}

/-! ## Steps of decoders -/

/-- A step that succeeds hands on its result. -/
theorem bind_of_ok {m : Decoder α} {k : α → Decoder β} {r r' : References} {a : α}
    (h : m r = .ok (a, r')) : (m >>= k) r = k a r' := by
  change (m r >>= fun x => k x.1 x.2) = _
  rw [h]
  rfl

/-- What succeeds, succeeds in its first step. -/
theorem exists_of_bind {m : Decoder α} {k : α → Decoder β} {r r'' : References} {b : β}
    (h : (m >>= k) r = .ok (b, r'')) : ∃ a r', m r = .ok (a, r') ∧ k a r' = .ok (b, r'') := by
  change (m r >>= fun x => k x.1 x.2) = _ at h
  cases hm : m r with
  | error fault =>
    rw [hm] at h
    cases h
  | ok x =>
    rw [hm] at h
    exact ⟨x.1, x.2, rfl, h⟩

/-- Faults get places, results do not. -/
theorem located_eq_ok_iff {p : Place} {m : Decoder α} {r : References} {x : α × References} :
    located p m r = .ok x ↔ m r = .ok x := by
  rw [located]
  cases m r <;> simp

/-- What a reader makes of data at the root. -/
theorem exists_of_run {read : Reader α} {d : Datum} {references : References} {a : α}
    (h : read.run d references = .ok a) : ∃ r', read .root d references = .ok (a, r') := by
  rw [Reader.run] at h
  cases hx : read .root d references with
  | error fault =>
    rw [hx] at h
    cases h
  | ok x =>
    rw [hx] at h
    cases h
    exact ⟨x.2, rfl⟩

/-! ## What readers yield -/

/-- What is missing is of every kind. -/
theorem forall_mem_none (P : α → Prop) : ∀ a ∈ (none : Option α), P a := by
  intro a ha
  cases ha

/-- All values that a reader yields are of some kind. -/
def Yields (read : Reader α) (P : α → Prop) : Prop :=
  ∀ p d r a r', read p d r = .ok (a, r') → P a

/-- Readers yield values. -/
theorem yields_true (read : Reader α) : Yields read fun _ => True :=
  fun _ _ _ _ _ _ => trivial

/-- What is read at the root is of the kind that the reader yields. -/
theorem Yields.of_run {read : Reader α} {P : α → Prop} (h : Yields read P) {d : Datum}
    {references : References} {a : α} (hread : read.run d references = .ok a) : P a := by
  obtain ⟨r', hr⟩ := exists_of_run hread
  exact h _ _ _ _ _ hr

/-- A function takes what a reader yields to another kind. -/
theorem Yields.map {read : Reader α} {P : α → Prop} {Q : β → Prop} {f : α → β} (h : Yields read P)
    (hf : ∀ a, P a → Q (f a)) : Yields (fun p d => f <$> read p d) Q := by
  intro p d r b r' hread
  change (read p d >>= fun a => pure (f a)) r = _ at hread
  obtain ⟨a, r₁, ha, hb⟩ := exists_of_bind hread
  cases hb
  exact hf a (h p d r a _ ha)

/-- What may be left out is of the kind of what is read. -/
theorem Yields.optional {read : Reader α} {P : α → Prop} (h : Yields read P) :
    Yields (optional read) fun o => ∀ a ∈ o, P a := by
  have hread (p : Place) (d : Datum) (r r' : References) (o : Option α)
      (ho : (some <$> read p d : Decoder (Option α)) r = .ok (o, r')) : ∀ a ∈ o, P a := by
    have hsome : Yields (fun p d => some <$> read p d) fun o => ∀ a ∈ o, P a :=
      h.map fun a ha b hb => Option.some.inj hb ▸ ha
    exact hsome p d r o r' ho
  intro p d r o r' ho
  obtain ⟨target, r₁, -, ho⟩ := exists_of_bind ho
  cases target with
  | scalar s =>
    dsimp only at ho
    cases habsent : s.isAbsent with
    | error t =>
      rw [habsent] at ho
      cases ho
    | ok absent =>
      rw [habsent] at ho
      cases absent with
      | true =>
        cases ho
        exact forall_mem_none P
      | false => exact hread p _ r₁ r' o ho
  | _ => exact hread p _ r₁ r' o ho

/-- Items are of the kind of what is read. -/
theorem yields_itemsFrom {read : Reader α} {P : α → Prop} (h : Yields read P) (p : Place)
    (items : List Datum) {i : Nat} {r r' : References} {as : List α}
    (hread : itemsFrom read p i items r = .ok (as, r')) : ∀ a ∈ as, P a := by
  induction items generalizing i r as with
  | nil =>
    cases hread
    exact List.forall_mem_nil _
  | cons d rest ih =>
    obtain ⟨a, r₁, ha, hread⟩ := exists_of_bind hread
    obtain ⟨bs, r₂, hbs, hread⟩ := exists_of_bind hread
    cases hread
    exact List.forall_mem_cons.2 ⟨h _ d r a r₁ ha, ih hbs⟩

/-- The items of a sequence are of the kind of what is read. -/
theorem Yields.list {read : Reader α} {P : α → Prop} (h : Yields read P) :
    Yields (list read) fun as => ∀ a ∈ as, P a := by
  intro p d r as r' has
  obtain ⟨target, r₁, -, has⟩ := exists_of_bind has
  cases target with
  | seq items tag => exact yields_itemsFrom h p items (located_eq_ok_iff.1 has)
  | scalar s =>
    dsimp only at has
    split at has
    · cases has
      exact List.forall_mem_nil _
    · cases located_eq_ok_iff.1 has
  | _ => cases located_eq_ok_iff.1 has

/-- Whole numbers are in their range. -/
theorem yields_number (low high : Int) (wanted : String) (value? : Scalar → Option Int) :
    Yields (number low high wanted value?) fun m => low ≤ m ∧ m ≤ high := by
  intro p d r m r' hm
  obtain ⟨k, r₁, -, hm⟩ := exists_of_bind hm
  split at hm
  · next hrange =>
    cases hm
    simpa using hrange
  · cases located_eq_ok_iff.1 hm

/-- Natural numbers of 32 bits are in their range. -/
theorem yields_word32 : Yields word32 fun m => m ≤ Nat.pow 2 32 - 1 :=
  (yields_number _ _ _ _).map fun m hm => by
    simp only [Nat.pow_eq] at hm ⊢
    omega

/-- Natural numbers of 64 bits are in their range. -/
theorem yields_word64 : Yields word64 fun m => m ≤ Nat.pow 2 64 - 1 :=
  (yields_number _ _ _ _).map fun m hm => by
    simp only [Nat.pow_eq] at hm ⊢
    omega

/-- A field keeps what records have. -/
def Field.Keeps (field : Field α) (P : α → Prop) : Prop :=
  Yields field.read fun put => ∀ v, P v → P (put v)

/-- A field keeps what its function keeps when it puts in values of the kind that is read. -/
theorem Field.Keeps.of {name : String} {read : Reader β} {put : β → α → α} { required : Bool}
    {P : α → Prop} {Q : β → Prop} (h : Yields read Q) (hput : ∀ b v, Q b → P v → P (put b v)) :
    (Field.of name read put required).Keeps P :=
  h.map fun b hb v hv => hput b v hb hv

namespace Record

variable {rec : Record α} {P : α → Prop}

/-- A key is of a field of the record. -/
theorem mem_of_key {p : Place} {k : Datum} {field : Field α} {r r' : References}
    (h : rec.key p k r = .ok (some field, r')) : field ∈ rec.fields := by
  unfold key at h
  split at h
  · next m =>
    split at h
    · cases hfield : rec.fields[m.toNat]? with
      | none =>
        rw [hfield] at h
        cases h
      | some found =>
        rw [hfield] at h
        cases h
        exact List.mem_of_getElem? hfield
    · cases located_eq_ok_iff.1 h
  · obtain ⟨name, r₁, -, h⟩ := exists_of_bind h
    cases hfind : rec.fields.find? (·.name = name) with
    | some found =>
      rw [hfind] at h
      cases h
      exact List.mem_of_find?_eq_some hfind
    | none =>
      rw [hfind] at h
      dsimp only at h
      split at h
      · cases located_eq_ok_iff.1 h
      · cases h

/-- Members keep what all fields keep. -/
theorem yields_members (h : ∀ field ∈ rec.fields, field.Keeps P) (p : Place)
    (entries : List (Datum × Datum)) {seen : List String} {v : α} {r r' : References}
    {x : List String × α} (hv : P v) (hread : rec.members p seen v entries r = .ok (x, r')) :
    P x.2 := by
  induction entries generalizing seen v r with
  | nil =>
    cases hread
    exact hv
  | cons e rest ih =>
    obtain ⟨k, d⟩ := e
    obtain ⟨key, r₁, hkey, hread⟩ := exists_of_bind hread
    cases key with
    | none =>
      dsimp only at hread
      split at hread
      · exact ih hv hread
      · cases hread
    | some field =>
      dsimp only at hread
      split at hread
      · cases hread
      · obtain ⟨put, r₂, hput, hread⟩ := exists_of_bind hread
        exact ih (h field (mem_of_key hkey) _ _ _ _ _ hput v hv) hread

/-- Items keep what all fields keep. -/
theorem yields_items (p : Place) (fields : List (Field α)) (h : ∀ field ∈ fields, field.Keeps P)
    (ds : List Datum) {i : Nat} {v : α} {r r' : References} {x : α × List Datum} (hv : P v)
    (hread : rec.items p i v fields ds r = .ok (x, r')) : P x.1 := by
  induction fields generalizing i v r ds with
  | nil =>
    cases hread
    exact hv
  | cons field fields ih =>
    obtain ⟨hfield, hfields⟩ := List.forall_mem_cons.1 h
    cases ds with
    | nil =>
      rw [items] at hread
      split at hread
      · cases hread
      · exact ih hfields [] hv hread
    | cons d rest =>
      obtain ⟨put, r₁, hput, hread⟩ := exists_of_bind hread
      exact ih hfields rest (hfield _ _ _ _ _ hput v hv) hread

/-- What is complete is what it was. -/
theorem eq_of_complete {seen : List String} {v w : α} (fields : List (Field α))
    {r r' : References} (h : complete seen v fields r = .ok (w, r')) : w = v := by
  induction fields with
  | nil =>
    cases h
    rfl
  | cons field fields ih =>
    rw [complete] at h
    split at h
    · cases h
    · exact ih h

/-- A record that is read has what the empty one has and all fields keep. -/
theorem yields_reader {f : Format} {empty : α} (hempty : P empty)
    (h : ∀ field ∈ rec.fields, field.Keeps P) : Yields (rec.reader f empty) P := by
  have hmembers {p : Place} {entries : List (Datum × Datum)} {v : α} {r r' : References}
      (hread : rec.ofMembers empty p entries r = .ok (v, r')) : P v := by
    obtain ⟨x, r₁, hx, hread⟩ := exists_of_bind hread
    obtain rfl := eq_of_complete _ hread
    exact yields_members h p entries hempty hx
  intro p d r v r' hread
  obtain ⟨target, r₁, -, hread⟩ := exists_of_bind hread
  cases target with
  | map entries tag => exact hmembers (located_eq_ok_iff.1 hread)
  | seq ds tag =>
    dsimp only at hread
    split at hread
    · obtain ⟨x, r₂, hx, hread⟩ := exists_of_bind (located_eq_ok_iff.1 hread)
      have hv := yields_items p rec.fields h ds hempty hx
      split at hread
      · cases hread
      · cases hread
        exact hv
    · cases located_eq_ok_iff.1 hread
  | scalar s =>
    dsimp only at hread
    split at hread
    · exact hmembers (located_eq_ok_iff.1 hread)
    · cases located_eq_ok_iff.1 hread
  | _ => cases located_eq_ok_iff.1 hread

end Record

/-! ## Reading back -/

/-- Data are read back as a value wherever there are so many levels left for what is below them. -/
def ReadsBack (n : Nat) (read : Reader α) (d : Datum) (a : α) : Prop :=
  ∀ p r, p.depth + n ≤ depthLimit → read p d r = .ok (a, r)

/-- What is read back at the root. -/
theorem ReadsBack.run_eq {read : Reader α} {d : Datum} {a : α} (h : ReadsBack n read d a)
    (hn : n ≤ depthLimit) : read.run d = .ok a := by
  rw [Reader.run, h .root {} (by rw [Place.depth]; omega)]
  rfl

/-- A function of what is read back. -/
theorem ReadsBack.map {read : Reader α} {d : Datum} {a : α} (h : ReadsBack n read d a)
    (f : α → β) : ReadsBack n (fun p d => f <$> read p d) d (f a) := fun p r hp =>
  bind_of_ok (k := fun a => pure (f a)) (h p r hp)

/-- A string is read back. -/
theorem readsBack_text (s : String) : ReadsBack n text (Json.str s).toDatum s :=
  fun _ _ _ => rfl

/-- A truth value is read back. -/
theorem readsBack_bool (b : Bool) : ReadsBack n bool (Json.bool b).toDatum b :=
  fun _ _ _ => rfl

/-- A whole number in its range is read back. -/
theorem readsBack_number {low high m : Int} {wanted : String} {read? : List Char → Option Int}
    (h : low ≤ m ∧ m ≤ high) :
    ReadsBack n (number low high wanted (Scalar.whole? read?)) (Json.int m).toDatum m := by
  intro p r _
  have hread : scalar wanted (Scalar.whole? read?) p (Json.int m).toDatum r = .ok (m, r) := rfl
  rw [number, bind_of_ok hread, if_pos (by simpa using h)]
  rfl

/-- A natural number of 32 bits is read back. -/
theorem readsBack_word32 {m : Nat} (h : m ≤ Nat.pow 2 32 - 1) :
    ReadsBack n word32 (Json.ofNat m).toDatum m := by
  have hm : (0 : Int) ≤ m ∧ (m : Int) ≤ Nat.pow 2 32 - 1 := by
    simp only [Nat.pow_eq] at h ⊢
    omega
  exact (readsBack_number hm).map Int.toNat

/-- A natural number of 64 bits is read back. -/
theorem readsBack_word64 {m : Nat} (h : m ≤ Nat.pow 2 64 - 1) :
    ReadsBack n word64 (Json.ofNat m).toDatum m := by
  have hm : (0 : Int) ≤ m ∧ (m : Int) ≤ Nat.pow 2 64 - 1 := by
    simp only [Nat.pow_eq] at h ⊢
    omega
  exact (readsBack_number hm).map Int.toNat

/-- What may be left out is read back, whether it is there or not. -/
theorem readsBack_ofOption {read : Reader α} {f : α → Json} {o : Option α}
    (h : ∀ a ∈ o, f a ≠ .null ∧ ReadsBack n read (f a).toDatum a) :
    ReadsBack n (optional read) (Json.ofOption f o).toDatum o := by
  cases o with
  | none => exact fun _ _ _ => rfl
  | some a =>
    obtain ⟨hnull, hread⟩ := h a rfl
    -- Only null is taken for nothing, so any other value goes to the reader.
    rw [Json.ofOption]
    intro p r hp
    have hsome := hread.map some p r hp
    cases hj : f a with
    | null => exact absurd hj hnull
    | _ =>
      rw [hj] at hsome
      exact hsome

/-- The items of an array are read back. -/
theorem readsBack_itemsFrom {read : Reader α} {f : α → Json} {as : List α}
    (h : ∀ a ∈ as, ReadsBack n read (f a).toDatum a) (p : Place) (i : Nat) (r : References)
    (hp : p.depth + (n + 1) ≤ depthLimit) :
    itemsFrom read p i (Json.toDatum.ofItems (as.map f)) r = .ok (as, r) := by
  induction as generalizing i with
  | nil => rfl
  | cons a as ih =>
    obtain ⟨ha, has⟩ := List.forall_mem_cons.1 h
    rw [List.map_cons, Json.toDatum.ofItems, itemsFrom,
      bind_of_ok (ha (.item p i) r (by rw [Place.depth]; omega)), bind_of_ok (ih has (i + 1))]
    rfl

/-- An array is read back. -/
theorem readsBack_list {read : Reader α} {f : α → Json} {as : List α}
    (h : ∀ a ∈ as, ReadsBack n read (f a).toDatum a) :
    ReadsBack (n + 1) (list read) (Json.arr (as.map f)).toDatum as := fun p r hp =>
  located_eq_ok_iff.2 (readsBack_itemsFrom h p 0 r hp)

/-! ## Records -/

/-- Members are read into a record, one after the other. -/
def Reads (n : Nat) (rec : Record α) (seen : List String) (v : α)
    (members : List (String × Json)) (x : List String × α) : Prop :=
  ∀ p r, p.depth + (n + 1) ≤ depthLimit →
    rec.members p seen v (Json.toDatum.ofMembers members) r = .ok (x, r)

/-- No members are read. -/
theorem Reads.nil {rec : Record α} {seen : List String} {v : α} : Reads n rec seen v [] (seen, v) :=
  fun _ _ _ => rfl

/-- The first member is read into its field. -/
theorem Reads.cons {rec : Record α} {seen : List String} {v : α} {field : Field α} {key : String}
    {j : Json} {put : α → α} {rest : List (String × Json)} {x : List String × α}
    (hfind : rec.fields.find? (·.name = key) = some field)
    (hseen : seen.contains field.name = false)
    (hread : ReadsBack n field.read j.toDatum put)
    (hrest : Reads n rec (field.name :: seen) (put v) rest x) :
    Reads n rec seen v ((key, j) :: rest) x := by
  intro p r hp
  have hkey : rec.key p (.scalar (.exact (.str key))) r = .ok (some field, r) := by
    have hname : string "field identifier" p (.scalar (.exact (.str key))) r = .ok (key, r) := rfl
    simp only [Record.key]
    rw [bind_of_ok hname, hfind]
    rfl
  have hput : field.read (Record.placeOf p (.scalar (.exact (.str key)))) j.toDatum r =
      .ok (put, r) := hread _ _ (by
    change p.depth + 1 + n ≤ depthLimit
    omega)
  rw [Json.toDatum.ofMembers, Record.members, bind_of_ok hkey]
  dsimp only
  rw [if_neg (by simpa using hseen), bind_of_ok hput]
  exact hrest p r hp

/-- A record is complete if all fields that must be there were read. -/
theorem complete_of_all {seen : List String} {v : α} (fields : List (Field α)) (r : References)
    (h : fields.all (fun field => !field.required || seen.contains field.name) = true) :
    Record.complete seen v fields r = .ok (v, r) := by
  induction fields with
  | nil => rfl
  | cons field fields ih =>
    rw [List.all_cons, Bool.and_eq_true] at h
    have hthere : ¬(field.required && !seen.contains field.name) = true := by
      intro hmissing
      rw [Bool.and_eq_true, Bool.not_eq_true'] at hmissing
      have hfield := h.1
      rw [hmissing.1, hmissing.2] at hfield
      cases hfield
    rw [Record.complete, if_neg hthere]
    exact ih h.2

/-- A record is read back from its members. -/
theorem Reads.readsBack {rec : Record α} {f : Format} {empty v : α} {seen : List String}
    {members : List (String × Json)} (h : Reads n rec [] empty members (seen, v))
    (hcomplete : rec.fields.all (fun field => !field.required || seen.contains field.name) = true) :
    ReadsBack (n + 1) (rec.reader f empty) (Json.obj members).toDatum v := by
  intro p r hp
  refine located_eq_ok_iff.2 ?_
  rw [Record.ofMembers, bind_of_ok (h p r hp)]
  exact complete_of_all rec.fields r hcomplete

/-! ## Values of several forms -/

/-- A scalar is resolved to itself. -/
theorem resolve_scalar (levels : Nat) (p : Place) (a : Atom) (r : References) :
    resolve levels p (.scalar (.exact a)) r = .ok (.scalar (.exact a), r) := by
  cases levels <;> rfl

/-- Members without parts are resolved to themselves. -/
theorem resolveEntries_scalars {one : Reader Datum} {p : Place} {r : References}
    (hone : ∀ p a, one p (.scalar (.exact a)) r = .ok (.scalar (.exact a), r))
    (members : List (String × Json)) (h : ∀ m ∈ members, ∃ a, m.2.toDatum = .scalar (.exact a)) :
    resolveEntries one p (Json.toDatum.ofMembers members) r =
      .ok (Json.toDatum.ofMembers members, r) := by
  induction members with
  | nil => rfl
  | cons m rest ih =>
    obtain ⟨key, j⟩ := m
    obtain ⟨⟨a, ha⟩, hrest⟩ := List.forall_mem_cons.1 h
    have hvalue (p : Place) : one p j.toDatum r = .ok (j.toDatum, r) := by
      rw [show j.toDatum = _ from ha]
      exact hone p a
    rw [Json.toDatum.ofMembers, resolveEntries, bind_of_ok (hone p _), bind_of_ok (hvalue _),
      bind_of_ok (ih hrest)]
    rfl

/-- An object of members without parts is resolved to itself. -/
theorem resolve_obj (levels : Nat) (p : Place) (r : References) {members : List (String × Json)}
    (h : ∀ m ∈ members, ∃ a, m.2.toDatum = .scalar (.exact a)) :
    resolve (levels + 1) p (Json.obj members).toDatum r = .ok ((Json.obj members).toDatum, r) := by
  have hentries := resolveEntries_scalars (p := p) (r := r)
    (fun p a => resolve_scalar levels p a r) members h
  change (resolveEntries (resolve levels) p (Json.toDatum.ofMembers members) >>=
    fun entries => pure (Datum.map entries none)) r = _
  rw [bind_of_ok hentries]
  rfl

/-- An attempt at what is read back gives the value. -/
theorem toOption_run {read : Reader α} {d : Datum} {a : α} (h : ReadsBack n read d a)
    (hn : n ≤ depthLimit) : (read.run d).toOption = some a := by
  rw [h.run_eq hn]
  rfl

/-- A value of several forms is read back if it is resolved to itself and its form is the first that
fits. -/
theorem readsBack_forms {type : String} {attempt : Datum → Option α} {d : Datum} {a : α}
    (hresolve : ∀ p r, p.depth + n ≤ depthLimit → resolve (depthLimit - p.depth) p d r = .ok (d, r))
    (h : attempt d = some a) : ReadsBack n (forms type attempt) d a := by
  intro p r hp
  rw [forms, bind_of_ok (hresolve p r hp), h]
  rfl

end Assay.Decode
