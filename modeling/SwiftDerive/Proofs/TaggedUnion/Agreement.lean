import SwiftDerive.Proofs.TaggedUnion.Codec
import SwiftDerive.Proofs.TaggedUnion.Outline

/-! # The generated members and the codec agree

The generated branches are run on their keyed writes and reads: names are the same up to backticks,
and values are passed on as they are. For an enum whose cases have distinct names, and each distinct
labels, they write what the codec encodes and have the outcome that the codec has for what they read.
-/

namespace SwiftDerive.TaggedUnion

set_option autoImplicit false

/-! ## Running the branches -/

def Operand.eval (bound : List (String × Json)) : Operand → Option Json
  | .caseName name => some (.string (Text.plainName name))
  | .bound name => bound.lookup (Text.plainName name)

def writeAll (bound : List (String × Json)) :
    List KeyedWrite → List (String × Json) → Option (List (String × Json))
  | [], container => some container
  | w :: writes, container =>
    match w.value.eval bound with
    | none => none
    | some value => writeAll bound writes (putEntry (Text.plainName w.key) value container)

def EncodeBranch.run (b : EncodeBranch) (values : List Json) : Option (List (String × Json)) :=
  writeAll (((b.bound.getD []).map Text.plainName).zip values) b.writes []

/-- Why reading ends without a value: a key is missing, the discriminator is no name of a case, or
something is used that is not there. -/
inductive Fault where
  | missingKey (key : String)
  | unknownCase
  | unbound
  deriving DecidableEq, Repr

def readAll (data : List (String × Json)) :
    List KeyedRead → List (String × Json) → Except Fault (List (String × Json))
  | [], bound => .ok bound
  | r :: reads, bound =>
    match data.lookup (Text.plainName r.key) with
    | none => .error (.missingKey (Text.plainName r.key))
    | some value => readAll data reads (putEntry (Text.plainName r.name) value bound)

def passAll (bound : List (String × Json)) :
    List (String × String) → Option (List (String × Json))
  | [] => some []
  | (label, name) :: arguments =>
    match bound.lookup (Text.plainName name) with
    | none => none
    | some value => (passAll bound arguments).map ((Text.plainName label, value) :: ·)

def DecodeBranch.run (b : DecodeBranch) (data : List (String × Json)) : Except Fault EnumValue :=
  match readAll data b.reads [] with
  | .error fault => .error fault
  | .ok bound =>
    match passAll bound (b.arguments.getD []) with
    | none => .error .unbound
    | some payload => .ok ⟨Text.plainName b.caseName, payload⟩

namespace Outline

def encode (o : Outline) (caseName : String) (values : List Json) :
    Option (List (String × Json)) :=
  match o.writers.find? fun b => Text.plainName b.caseName = caseName with
  | none => none
  | some b => b.run values

/-- The outcome of the generated initializer. The discriminator has to be a raw value of the enum of
the case names. -/
def decode (o : Outline) (data : List (String × Json)) : Except Fault EnumValue :=
  match data.lookup (Text.plainName o.tagRead.key) with
  | none => .error (.missingKey (Text.plainName o.tagRead.key))
  | some (.string name) =>
    if name ∈ o.caseNames.map Text.plainName then
      match o.readers.find? fun b => Text.plainName b.caseName = name with
      | none => .error .unbound
      | some b => b.run data
    else .error .unknownCase
  | some _ => .error .unknownCase

end Outline

/-- The same value, the same missing key, or an unknown discriminator on both sides. -/
inductive SameOutcome : Except Fault EnumValue → Except WireError EnumValue → Prop
  | value (v : EnumValue) : SameOutcome (.ok v) (.ok v)
  | missingKey (key : String) (caseName : Option String) :
      SameOutcome (.error (.missingKey key)) (.error (.keyNotFound key caseName))
  | unknownCase (value : Json) (known : List String) :
      SameOutcome (.error .unknownCase) (.error (.unknownDiscriminator value known))

/-! ## Finding a case -/

theorem lookup_map_self {α : Type} (f : α → String) (xs : List α) (key : String) :
    (xs.map fun x => (f x, x)).lookup key = xs.find? fun x => f x = key := by
  induction xs with
  | nil => rfl
  | cons x xs ih =>
    rw [List.map_cons, lookup_cons_ite, List.find?_cons, ih]
    by_cases h : key = f x
    · simp [h]
    · simp [h, Ne.symm h]

theorem distinctKeys_cases {cases : List CaseSpec}
    (h : (cases.map fun c => Text.plainName c.name).Nodup) :
    DistinctKeys (cases.map fun c => (Text.plainName c.name, c)) := by
  rw [DistinctKeys, keysOf, List.map_map]
  exact h

theorem cases_ofCases {cases : List CaseSpec}
    (h : (cases.map fun c => Text.plainName c.name).Nodup) :
    (Codec.ofCases cases).cases = cases.map fun c => (Text.plainName c.name, c) :=
  mergeEntries_of_distinct (distinctKeys_cases h)

theorem lookup_cases_ofCases {cases : List CaseSpec}
    (h : (cases.map fun c => Text.plainName c.name).Nodup) (name : String) :
    (Codec.ofCases cases).cases.lookup name = cases.find? fun c => Text.plainName c.name = name :=
  (congrArg (List.lookup name) (cases_ofCases h)).trans
    (lookup_map_self (fun c : CaseSpec => Text.plainName c.name) cases name)

theorem find_writers (cases : List CaseSpec) (name : String) :
    ((outline cases).writers.find? fun b => Text.plainName b.caseName = name) =
      (cases.find? fun c => Text.plainName c.name = name).map encodeBranch := by
  simp only [outline, List.find?_map]
  rfl

theorem find_readers (cases : List CaseSpec) (name : String) :
    ((outline cases).readers.find? fun b => Text.plainName b.caseName = name) =
      (cases.find? fun c => Text.plainName c.name = name).map decodeBranch := by
  simp only [outline, List.find?_map]
  rfl

theorem mem_plainNames_outline_iff (cases : List CaseSpec) (name : String) :
    name ∈ (outline cases).caseNames.map Text.plainName ↔
      ∃ c, (cases.find? fun c => Text.plainName c.name = name) = some c := by
  have hPerm := (outline_consistent cases).names_perm.map Text.plainName
  rw [hPerm.mem_iff, List.map_map]
  constructor
  · intro hMem
    obtain ⟨c, hCase, hName⟩ := List.mem_map.mp hMem
    apply Option.isSome_iff_exists.mp
    rw [List.find?_isSome]
    exact ⟨c, hCase, by simpa using hName⟩
  · rintro ⟨c, hFind⟩
    have hName := List.find?_some hFind
    exact List.mem_map.mpr ⟨c, List.mem_of_find?_eq_some hFind, by simpa using hName⟩

theorem find_of_mem {cases : List CaseSpec}
    (h : (cases.map fun c => Text.plainName c.name).Nodup) {c : CaseSpec} (hCase : c ∈ cases) :
    (cases.find? fun c' => Text.plainName c'.name = Text.plainName c.name) = some c := by
  rw [← lookup_map_self (fun c : CaseSpec => Text.plainName c.name),
    (distinctKeys_cases h).lookup_eq_some_iff]
  exact List.mem_map.mpr ⟨c, hCase, rfl⟩

/-! ## Encoding -/

theorem writeAll_fields (caseName : String) {bound payload : List (String × Json)}
    {fields : List PayloadField} (h : ∀ key, bound.lookup key = payload.lookup key)
    (container : List (String × Json)) :
    writeAll bound (fields.map fun f => ⟨.bound f.label, f.label⟩) container =
      (Codec.collect caseName payload (fields.map fun f => Text.plainName f.label)
        container).toOption := by
  induction fields generalizing container with
  | nil => rfl
  | cons f fields ih =>
    simp only [List.map_cons, writeAll, Operand.eval, Codec.collect, h]
    cases payload.lookup (Text.plainName f.label) with
    | none => rfl
    | some value => exact ih _

theorem run_encodeBranch (c : CaseSpec) (values : List Json) :
    (encodeBranch c).run values =
      writeAll ((Codec.labels c).zip values) (c.fields.map fun f => ⟨.bound f.label, f.label⟩)
        [(discriminatorKey, .string (Text.plainName c.name))] := by
  have hBound : ((encodeBranch c).bound.getD []).map Text.plainName = Codec.labels c := by
    obtain ⟨name, payload⟩ := c
    cases payload with
    | none => rfl
    | some fields => simp [encodeBranch, Codec.labels, CaseSpec.fields]
  have hKey : Text.plainName discriminatorKey = discriminatorKey := by decide
  rw [EncodeBranch.run, hBound, encodeBranch, writeAll, Operand.eval, hKey]
  rfl

theorem encode_agrees {cases : List CaseSpec}
    (hNames : (cases.map fun c => Text.plainName c.name).Nodup) {c : CaseSpec} (hCase : c ∈ cases)
    (hLabels : (Codec.labels c).Nodup) {values : List Json}
    (hValues : values.length = c.fields.length) {payload : List (String × Json)}
    (hPayload : payload.Perm ((Codec.labels c).zip values)) :
    ∃ entries, (outline cases).encode (Text.plainName c.name) values = some entries ∧
      (Codec.ofCases cases).encode ⟨Text.plainName c.name, payload⟩ = .ok entries := by
  have hKeys : keysOf ((Codec.labels c).zip values) = Codec.labels c :=
    List.map_fst_zip (by simp [Codec.labels, hValues])
  have hDistinct : DistinctKeys ((Codec.labels c).zip values) := by rwa [DistinctKeys, hKeys]
  have hLookup := hDistinct.lookup_of_perm hPayload.symm
  have hThere : ∀ label ∈ Codec.labels c, label ∈ keysOf payload := by
    intro label hLabel
    rw [← hKeys] at hLabel
    exact (hPayload.map Prod.fst).mem_iff.mpr hLabel
  obtain ⟨entries, hCollect⟩ := Codec.exists_collect (Text.plainName c.name) hThere
    [(discriminatorKey, Json.string (Text.plainName c.name))]
  have hFind := find_of_mem hNames hCase
  refine ⟨entries, ?_, (Codec.encode_eq_ok_iff _ _ _).mpr ⟨c, ?_, hCollect⟩⟩
  · rw [Outline.encode, find_writers, hFind, Option.map_some]
    change (encodeBranch c).run values = some entries
    rw [run_encodeBranch, writeAll_fields (Text.plainName c.name) hLookup]
    exact congrArg Except.toOption hCollect
  · rw [lookup_cases_ofCases hNames, hFind]

/-! ## Decoding -/

/-- The reads go along with the collecting of the values, up to the first missing key. -/
theorem readAll_fields (caseName : String) (data : List (String × Json))
    (fields : List PayloadField) (bound : List (String × Json)) :
    (∃ out, Codec.collect caseName data (fields.map fun f => Text.plainName f.label) bound =
        .ok out ∧ readAll data (fields.map fun f => ⟨f.label, f.type.render, f.label⟩) bound = .ok out) ∨
      ∃ key, Codec.collect caseName data (fields.map fun f => Text.plainName f.label) bound =
        .error (.keyNotFound key (some caseName)) ∧
        readAll data (fields.map fun f => ⟨f.label, f.type.render, f.label⟩) bound =
          .error (.missingKey key) := by
  induction fields generalizing bound with
  | nil => exact .inl ⟨bound, rfl, rfl⟩
  | cons f fields ih =>
    simp only [List.map_cons, Codec.collect, readAll]
    cases data.lookup (Text.plainName f.label) with
    | none => exact .inr ⟨Text.plainName f.label, rfl, rfl⟩
    | some value => exact ih (putEntry (Text.plainName f.label) value bound)

theorem passAll_fields {bound entries : List (String × Json)} {fields : List PayloadField}
    (hKeys : keysOf entries = fields.map fun f => Text.plainName f.label)
    (hBound : ∀ key value, (key, value) ∈ entries → bound.lookup key = some value) :
    passAll bound (fields.map fun f => (f.label, f.label)) = some entries := by
  induction fields generalizing entries with
  | nil =>
    obtain rfl : entries = [] := List.map_eq_nil_iff.mp hKeys
    rfl
  | cons f fields ih =>
    obtain ⟨⟨key, value⟩, rest, rfl, hKey, hRest⟩ := List.map_eq_cons_iff.mp hKeys
    have hValue := hBound key value List.mem_cons_self
    have hPassed := ih hRest fun k v hMem => hBound k v (List.mem_cons_of_mem _ hMem)
    simp only at hKey
    rw [List.map_cons, passAll, ← hKey, hValue, hPassed]
    rfl

theorem run_decodeBranch (c : CaseSpec) (hLabels : (Codec.labels c).Nodup)
    (data : List (String × Json)) :
    SameOutcome ((decodeBranch c).run data) (do
      return ⟨Text.plainName c.name,
        ← Codec.collect (Text.plainName c.name) data (Codec.labels c) []⟩) := by
  have hArguments : (decodeBranch c).arguments.getD [] = c.fields.map fun f => (f.label, f.label) := by
    obtain ⟨name, payload⟩ := c
    cases payload with
    | none => rfl
    | some fields => rfl
  rcases readAll_fields (Text.plainName c.name) data c.fields [] with
    ⟨out, hCollect, hRead⟩ | ⟨key, hCollect, hRead⟩
  · -- With distinct labels every name still has the value that was read for it.
    have hKeys := Codec.keysOf_collect hCollect hLabels
    have hDistinct := Codec.distinctKeys_collect distinctKeys_nil hCollect
    have hPassed : passAll out (c.fields.map fun f => (f.label, f.label)) = some out :=
      passAll_fields hKeys fun key value hMem => (hDistinct.lookup_eq_some_iff key value).mpr hMem
    have hRun : (decodeBranch c).run data = .ok ⟨Text.plainName c.name, out⟩ := by
      rw [DecodeBranch.run, hArguments, decodeBranch, hRead]
      simp only [hPassed]
    rw [hRun, Codec.labels, hCollect]
    exact .value _
  · have hRun : (decodeBranch c).run data = .error (.missingKey key) := by
      rw [DecodeBranch.run, decodeBranch, hRead]
    rw [hRun, Codec.labels, hCollect]
    exact .missingKey key _

theorem decode_agrees {cases : List CaseSpec}
    (hNames : (cases.map fun c => Text.plainName c.name).Nodup)
    (hLabels : ∀ c ∈ cases, (Codec.labels c).Nodup) (data : List (String × Json)) :
    SameOutcome ((outline cases).decode data) ((Codec.ofCases cases).decode data) := by
  have hKey : Text.plainName (outline cases).tagRead.key = discriminatorKey :=
    (by decide : Text.plainName discriminatorKey = discriminatorKey)
  rw [Outline.decode, Codec.decode, hKey]
  cases data.lookup discriminatorKey with
  | none => exact .missingKey discriminatorKey none
  | some tag =>
    cases tag with
    | string name =>
      have hLookup := lookup_cases_ofCases hNames name
      -- The raw values of the enum of the names are the names under which the codec finds a case.
      cases hFind : cases.find? fun c => Text.plainName c.name = name with
      | none =>
        have hUnknown : name ∉ (outline cases).caseNames.map Text.plainName := by
          rw [mem_plainNames_outline_iff, hFind]
          rintro ⟨c, hSome⟩
          cases hSome
        rw [hFind] at hLookup
        simp only [if_neg hUnknown, Codec.find, hLookup]
        exact .unknownCase _ _
      | some c =>
        have hKnown : name ∈ (outline cases).caseNames.map Text.plainName :=
          (mem_plainNames_outline_iff cases name).mpr ⟨c, hFind⟩
        rw [hFind] at hLookup
        simp only [if_pos hKnown, find_readers, hFind, Option.map_some, Codec.find, hLookup]
        exact run_decodeBranch c (hLabels c (List.mem_of_find?_eq_some hFind)) data
    | _ => exact .unknownCase _ _

/-- For an enum whose valid cases have distinct names, and each distinct labels, the generated
function writes what the codec encodes and the generated initializer has the outcome of the codec. -/
theorem generate_agrees (header : TypeHeader) (members : List Decl)
    (hEnum : header.kind = .enumType)
    (hNames : ((validCases members).map fun c => Text.plainName c.name).Nodup)
    (hLabels : ∀ c ∈ validCases members, (Codec.labels c).Nodup) :
    (∃ generated, (generate (.type header members)).outcome = .ok generated ∧
        WrittenFrom (outline (validCases members)) (validCases members) generated) ∧
      ∃ codec, Codec.ofDecl (.type header members) = .ok codec ∧
        (∀ c ∈ validCases members, ∀ values, values.length = c.fields.length →
          ∀ payload, payload.Perm ((Codec.labels c).zip values) →
          ∃ entries,
            (outline (validCases members)).encode (Text.plainName c.name) values = some entries ∧
            codec.encode ⟨Text.plainName c.name, payload⟩ = .ok entries) ∧
        ∀ data, SameOutcome ((outline (validCases members)).decode data) (codec.decode data) := by
  refine ⟨generate_of_enum header members hEnum, Codec.ofCases (validCases members), ?_, ?_, ?_⟩
  · rw [Codec.ofDecl, if_pos hEnum]
  · intro c hCase values hValues payload hPayload
    exact encode_agrees hNames hCase (hLabels c hCase) hValues hPayload
  · exact decode_agrees hNames hLabels

theorem generate_agrees_report :
    ((validCases reportMembers).map fun c => Text.plainName c.name).Nodup ∧
      (∀ c ∈ validCases reportMembers, (Codec.labels c).Nodup) ∧
      ∃ codec, Codec.ofDecl (.type reportHeader reportMembers) = .ok codec ∧
        (∃ entries,
          (outline (validCases reportMembers)).encode "signal" [.string "lamp", .int 3] =
            some entries ∧ codec.encode Codec.lampSignal = .ok entries) ∧
        (outline (validCases reportMembers)).decode [("type", .string "signal"), ("level", .int 3)] =
          .error (.missingKey "for") := by
  have hNames : ((validCases reportMembers).map fun c => Text.plainName c.name).Nodup := by
    rw [validCases_reportMembers]
    decide
  have hLabels : ∀ c ∈ validCases reportMembers, (Codec.labels c).Nodup := by
    rw [validCases_reportMembers]
    intro c hCase
    rcases List.mem_pair.mp hCase with rfl | rfl <;> decide
  obtain ⟨_, codec, hCodec, hEncode, hDecode⟩ :=
    generate_agrees reportHeader reportMembers rfl hNames hLabels
  cases hCodec
  refine ⟨hNames, hLabels, _, rfl, ?_, ?_⟩
  · exact hEncode
      ⟨"signal", some [⟨"\x60for\x60", .named "Device" []⟩, ⟨"level", .named "Level" []⟩]⟩
      (by simp [validCases_reportMembers]) [.string "lamp", .int 3] rfl Codec.lampSignal.payload
      (List.Perm.swap _ _ _)
  · have hOutcome := hDecode [("type", .string "signal"), ("level", .int 3)]
    change SameOutcome _ (.error (.keyNotFound "for" (some "signal"))) at hOutcome
    generalize (outline (validCases reportMembers)).decode _ = outcome at hOutcome ⊢
    cases hOutcome
    rfl

end SwiftDerive.TaggedUnion
