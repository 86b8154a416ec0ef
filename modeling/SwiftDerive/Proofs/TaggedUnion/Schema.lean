import SwiftDerive.Proofs.TaggedUnion.Discriminators

/-! # The schema of a codec

The description of a codec, read back as a list of cases with their labels, decides which mappings are
decoded and which values are encoded, the error of all others, and the keys of a wire form.
-/

namespace SwiftDerive.TaggedUnion

set_option autoImplicit false

/-! ## Reading a schema -/

abbrev Schema := List (String × List String)

def valueAt? (key : String) : Json → Option Json
  | .object entries => entries.lookup key
  | _ => none

def labelOf? (item : Json) : Option String :=
  match valueAt? "label" item with
  | some (.string label) => some label
  | _ => none

def labelsOf : Json → List String
  | .array items => items.filterMap labelOf?
  | _ => []

def Schema.ofDescription (description : Json) : Schema :=
  match valueAt? "cases" description with
  | some (.object cases) => cases.map fun entry => (entry.1, labelsOf entry.2)
  | _ => []

namespace Schema

/-- The tag is the name of a listed case, and the source has a value under each of its labels. -/
def Admits (schema : Schema) (tag : Option Json) (source : List (String × Json)) : Prop :=
  ∃ name labels, tag = some (.string name) ∧ schema.lookup name = some labels ∧
    ∀ label ∈ labels, label ∈ keysOf source

/-- What is wrong with a tag and a source: there is no tag, it is the name of no listed case, or a
label of the case is missing in the source, of several the first. -/
inductive Refuses (schema : Schema) : Option Json → List (String × Json) → WireError → Prop where
  | untagged (source : List (String × Json)) :
      Refuses schema none source (.keyNotFound discriminatorKey none)
  | unlisted {tag : Json} (source : List (String × Json))
      (hTag : ∀ name, tag = .string name → schema.lookup name = none) :
      Refuses schema (some tag) source (.unknownDiscriminator tag (keysOf schema))
  | unlabelled {name : String} {source : List (String × Json)} (before behind : List String)
      {missing : String} (hListed : schema.lookup name = some (before ++ missing :: behind))
      (hBefore : ∀ label ∈ before, label ∈ keysOf source) (hMissing : missing ∉ keysOf source) :
      Refuses schema (some (.string name)) source (.keyNotFound missing (some name))

structure Faithful (schema : Schema) (codec : Codec) : Prop where
  decodes : ∀ data,
    (∃ v, codec.decode data = .ok v) ↔ schema.Admits (data.lookup discriminatorKey) data
  decode_fails : ∀ data e,
    codec.decode data = .error e ↔ schema.Refuses (data.lookup discriminatorKey) data e
  encodes : ∀ v : EnumValue,
    (∃ entries, codec.encode v = .ok entries) ↔
      schema.Admits (some (.string v.caseName)) v.payload
  encode_fails : ∀ (v : EnumValue) e,
    codec.encode v = .error e ↔ schema.Refuses (some (.string v.caseName)) v.payload e
  keys : ∀ v entries, codec.encode v = .ok entries → ∃ labels,
    schema.lookup v.caseName = some labels ∧
      keysOf entries = (discriminatorKey :: labels).eraseDups

end Schema

namespace Codec

/-! ## The description of a codec -/

def schema (codec : Codec) : Schema :=
  codec.cases.map fun entry => (entry.1, labels entry.2)

theorem labelsOf_described (fields : List PayloadField) :
    labelsOf (.array (fields.map fun f =>
      .object [("label", .string (Text.plainName f.label)), ("type", .string f.type.render)])) =
        fields.map fun f => Text.plainName f.label := by
  induction fields with
  | nil => rfl
  | cons f fields ih =>
    rw [labelsOf] at ih ⊢
    rw [List.map_cons, List.filterMap_cons, ih]
    rfl

theorem ofDescription_describe (codec : Codec) :
    Schema.ofDescription codec.describe = codec.schema := by
  change (codec.cases.map _).map _ = _
  rw [List.map_map, schema]
  apply List.map_congr_left
  intro entry _
  exact congrArg (Prod.mk entry.1) (labelsOf_described entry.2.fields)

theorem keysOf_schema (codec : Codec) : keysOf codec.schema = codec.discriminators := by
  rw [keysOf, schema, List.map_map]
  rfl

theorem lookup_schema (codec : Codec) (name : String) :
    codec.schema.lookup name = (codec.cases.lookup name).map labels :=
  lookup_mapValues labels name codec.cases

/-! ## Where finding and collecting fail -/

theorem find_eq_error_iff (codec : Codec) (value : Json) (e : WireError) :
    codec.find value = .error e ↔
      (∀ name, value = .string name → codec.cases.lookup name = none) ∧
        e = .unknownDiscriminator value codec.discriminators := by
  cases value with
  | string name =>
    have hForall : (∀ other, Json.string name = .string other → codec.cases.lookup other = none) ↔
        codec.cases.lookup name = none := by simp only [Json.string.injEq, forall_eq']
    rw [hForall, find]
    cases codec.cases.lookup name with
    | none => simp [@eq_comm _ e]
    | some c => simp
  | _ => simp [find, @eq_comm _ e]

section Collecting

variable {caseName : String} {source : List (String × Json)}

/-- Collecting stops at the first label without a value. -/
theorem collect_eq_error_iff (labels : List String) (entries : List (String × Json))
    (e : WireError) :
    collect caseName source labels entries = .error e ↔
      ∃ before missing behind, labels = before ++ missing :: behind ∧
        (∀ label ∈ before, label ∈ keysOf source) ∧
        missing ∉ keysOf source ∧ e = .keyNotFound missing (some caseName) := by
  induction labels generalizing entries with
  | nil => simp [collect]
  | cons label labels ih =>
    rw [exists_first_cons_iff, collect]
    cases hValue : source.lookup label with
    | none =>
      have hAbsent := (lookup_eq_none_iff_keysOf label source).mp hValue
      simp [hAbsent, eq_comm]
    | some value =>
      have hThere := (mem_keysOf_iff_lookup label source).mpr ⟨value, hValue⟩
      simp [hThere, ih]

theorem collect_eq_foldl {labels : List String} {entries out : List (String × Json)}
    (h : collect caseName source labels entries = .ok out) :
    ∃ values, keysOf values = labels ∧
      out = values.foldl (fun merged entry => putEntry entry.1 entry.2 merged) entries := by
  induction labels generalizing entries with
  | nil =>
    cases h
    exact ⟨[], rfl, rfl⟩
  | cons label labels ih =>
    obtain ⟨value, _, hRest⟩ := (collect_cons_eq_ok_iff label labels entries out).mp h
    obtain ⟨values, hKeys, hOut⟩ := ih hRest
    exact ⟨(label, value) :: values, congrArg (List.cons label) hKeys, hOut⟩

theorem keysOf_collect_singleton {labels : List String} {key : String} {value : Json}
    {out : List (String × Json)} (h : collect caseName source labels [(key, value)] = .ok out) :
    keysOf out = (key :: labels).eraseDups := by
  obtain ⟨values, rfl, rfl⟩ := collect_eq_foldl h
  rw [keysOf_foldl_putEntry, List.eraseDups_cons]
  simp [beq_eq_decide]

end Collecting

/-! ## The outcomes that the schema decides -/

def gather (codec : Codec) (tag : Json) (source : List (String × Json))
    (start : CaseSpec → List (String × Json)) :
    Except WireError (CaseSpec × List (String × Json)) := do
  let c ← codec.find tag
  return (c, ← collect (Text.plainName c.name) source (labels c) (start c))

theorem encode_eq_gather (codec : Codec) (v : EnumValue) :
    codec.encode v = (codec.gather (.string v.caseName) v.payload fun c =>
      [(discriminatorKey, .string (Text.plainName c.name))]).map Prod.snd := by
  rw [encode, gather]
  cases codec.find (.string v.caseName) with
  | error e => rfl
  | ok c =>
    change collect _ _ _ _ = Except.map Prod.snd (collect _ _ _ _ >>= _)
    cases collect (Text.plainName c.name) v.payload (labels c) _ <;> rfl

theorem decode_eq_gather (codec : Codec) {data : List (String × Json)} {tag : Json}
    (hTag : data.lookup discriminatorKey = some tag) :
    codec.decode data = (codec.gather tag data fun _ => []).map fun found =>
      ⟨Text.plainName found.1.name, found.2⟩ := by
  simp only [decode, hTag, gather]
  cases codec.find tag with
  | error e => rfl
  | ok c =>
    change (collect _ _ _ _ >>= _) = Except.map _ (collect _ _ _ _ >>= _)
    cases collect (Text.plainName c.name) data (labels c) [] <;> rfl

section Gathering

variable (cases : List CaseSpec) (tag : Json) (source : List (String × Json))
  (start : CaseSpec → List (String × Json))

theorem exists_gather_iff :
    (∃ found, (ofCases cases).gather tag source start = .ok found) ↔
      (ofCases cases).schema.Admits (some tag) source := by
  constructor
  · rintro ⟨⟨c, out⟩, hFound⟩
    obtain ⟨c, hFind, hRest⟩ := (bind_eq_ok_iff _ _ _).mp hFound
    obtain ⟨out, hCollect, _⟩ := (bind_eq_ok_iff _ _ _).mp hRest
    obtain ⟨name, rfl, hCase⟩ := (find_eq_ok_iff _ _ _).mp hFind
    exact ⟨name, labels c, rfl, by rw [lookup_schema, hCase]; rfl,
      mem_keysOf_of_collect hCollect⟩
  · rintro ⟨name, listed, hTag, hListed, hThere⟩
    cases hTag
    rw [lookup_schema] at hListed
    obtain ⟨c, hCase, rfl⟩ := Option.map_eq_some_iff.mp hListed
    obtain ⟨out, hCollect⟩ := exists_collect (Text.plainName c.name) hThere (start c)
    have hFind := (find_eq_ok_iff (ofCases cases) _ c).mpr ⟨name, rfl, hCase⟩
    refine ⟨(c, out), ?_⟩
    rw [gather, hFind]
    change (collect _ _ _ _ >>= _) = _
    rw [hCollect]
    rfl

theorem gather_eq_error_iff (e : WireError) :
    (ofCases cases).gather tag source start = .error e ↔
      (ofCases cases).schema.Refuses (some tag) source e := by
  rw [gather, bind_eq_error_iff, find_eq_error_iff]
  constructor
  · rintro (⟨hUnlisted, rfl⟩ | ⟨c, hFind, hRest⟩)
    · rw [← keysOf_schema]
      refine .unlisted source fun name hName => ?_
      rw [lookup_schema, hUnlisted name hName]
      rfl
    · obtain ⟨name, rfl, hCase⟩ := (find_eq_ok_iff _ _ _).mp hFind
      rcases (bind_eq_error_iff _ _ _).mp hRest with hCollect | ⟨_, _, hNone⟩
      · obtain ⟨before, missing, behind, hLabels, hBefore, hMissing, rfl⟩ :=
          (collect_eq_error_iff _ _ _).mp hCollect
        rw [(lookup_ofCases hCase).2]
        refine .unlabelled before behind ?_ hBefore hMissing
        rw [lookup_schema, hCase, ← hLabels]
        rfl
      · cases hNone
  · intro hRefused
    cases hRefused with
    | unlisted _ hUnlisted =>
      refine .inl ⟨fun name hName => ?_, by rw [keysOf_schema]⟩
      have hListed := hUnlisted name hName
      rwa [lookup_schema, Option.map_eq_none_iff] at hListed
    | unlabelled before behind hListed hBefore hMissing =>
      rw [lookup_schema] at hListed
      obtain ⟨c, hCase, hLabels⟩ := Option.map_eq_some_iff.mp hListed
      refine .inr ⟨c, (find_eq_ok_iff _ _ _).mpr ⟨_, rfl, hCase⟩, ?_⟩
      rw [bind_eq_error_iff, collect_eq_error_iff, (lookup_ofCases hCase).2]
      exact .inl ⟨before, _, behind, hLabels, hBefore, hMissing, rfl⟩

end Gathering

/-! ## The schema is faithful -/

theorem faithful_schema (cases : List CaseSpec) :
    (ofCases cases).schema.Faithful (ofCases cases) where
  decodes data := by
    cases hTag : data.lookup discriminatorKey with
    | none => simp [decode, hTag, Schema.Admits]
    | some tag =>
      rw [decode_eq_gather _ hTag, exists_map_eq_ok_iff, exists_gather_iff]
  decode_fails data e := by
    cases hTag : data.lookup discriminatorKey with
    | none =>
      simp only [decode, hTag, Except.error.injEq]
      constructor
      · rintro rfl
        exact .untagged data
      · rintro ⟨⟩
        rfl
    | some tag =>
      rw [decode_eq_gather _ hTag, map_eq_error_iff, gather_eq_error_iff]
  encodes v := by
    rw [encode_eq_gather, exists_map_eq_ok_iff, exists_gather_iff]
  encode_fails v e := by
    rw [encode_eq_gather, map_eq_error_iff, gather_eq_error_iff]
  keys v entries hEncode := by
    obtain ⟨c, hCase, hCollect⟩ := (encode_eq_ok_iff _ _ _).mp hEncode
    exact ⟨labels c, by rw [lookup_schema, hCase]; rfl, keysOf_collect_singleton hCollect⟩

/-- The description of a codec lists each case with its labels as the codec reads and writes them,
whatever cases the codec is made of: with repeated names, repeated labels or labels in backticks. -/
theorem describe_faithful (cases : List CaseSpec) :
    (Schema.ofDescription (ofCases cases).describe).Faithful (ofCases cases) := by
  rw [ofDescription_describe]
  exact faithful_schema cases

example :
    Schema.ofDescription (ofCases [⟨"open", none⟩, ⟨"\x60open\x60",
      some [⟨"\x60for\x60", .named "Int" []⟩, ⟨"for", .named "Int" []⟩]⟩]).describe =
        [("open", ["for", "for"])] := by
  decide

end Codec

end SwiftDerive.TaggedUnion
