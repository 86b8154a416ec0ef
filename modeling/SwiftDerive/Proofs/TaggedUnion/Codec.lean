import SwiftDerive.Proofs.Json.RoundTrip
import SwiftDerive.Proofs.TaggedUnion.Cases
import SwiftDerive.TaggedUnion.Codec

/-! # Encoding and decoding are inverse

In the codec of an enum the name of a case on the wire is the name under which the codec finds it,
and no label is the key of the discriminator. On these two facts a value is decoded from its wire
form, and a wire form is encoded again up to the keys that the case does not have.
-/

namespace SwiftDerive.TaggedUnion.Codec

set_option autoImplicit false

/-! ## Finding a case -/

theorem find_eq_ok_iff (codec : Codec) (value : Json) (c : CaseSpec) :
    codec.find value = .ok c ↔
      ∃ name, value = .string name ∧ codec.cases.lookup name = some c := by
  cases value with
  | string name => cases h : codec.cases.lookup name <;> simp [find, h]
  | _ => simp [find]

theorem mem_discriminators_iff (codec : Codec) (name : String) :
    name ∈ codec.discriminators ↔ ∃ c, codec.cases.lookup name = some c :=
  mem_keysOf_iff_lookup name codec.cases

/-- Every case is found under its own name, and leaves the key of the discriminator free. -/
structure WellFormed (codec : Codec) : Prop where
  named : ∀ name c, codec.cases.lookup name = some c → Text.plainName c.name = name
  unreserved : ∀ name c, codec.cases.lookup name = some c → discriminatorKey ∉ labels c

theorem lookup_ofCases {cases : List CaseSpec} {name : String} {c : CaseSpec}
    (h : (ofCases cases).cases.lookup name = some c) : c ∈ cases ∧ Text.plainName c.name = name := by
  rw [ofCases, lookup_mergeEntries] at h
  have hMem := List.mem_reverse.mp (mem_of_lookup h)
  obtain ⟨c', hCase, hEntry⟩ := List.mem_map.mp hMem
  cases hEntry
  exact ⟨hCase, rfl⟩

theorem wellFormed_ofCases_validCases (members : List Decl) :
    WellFormed (ofCases (validCases members)) where
  named name c h := (lookup_ofCases h).2
  unreserved name c h := by
    intro hMem
    obtain ⟨f, hField, hKey⟩ := List.mem_map.mp hMem
    exact plainName_label_ne (lookup_ofCases h).1 hField hKey

/-! ## Collecting values under labels -/

variable {caseName : String} {source : List (String × Json)}

theorem collect_cons_eq_ok_iff (label : String) (labels : List String)
    (entries out : List (String × Json)) :
    collect caseName source (label :: labels) entries = .ok out ↔
      ∃ value, source.lookup label = some value ∧
        collect caseName source labels (putEntry label value entries) = .ok out := by
  rw [collect]
  cases source.lookup label <;> simp

theorem exists_collect (caseName : String) {labels : List String}
    (h : ∀ label ∈ labels, label ∈ keysOf source) (entries : List (String × Json)) :
    ∃ out, collect caseName source labels entries = .ok out := by
  induction labels generalizing entries with
  | nil => exact ⟨entries, rfl⟩
  | cons label labels ih =>
    obtain ⟨value, hValue⟩ :=
      (mem_keysOf_iff_lookup label source).mp (h label List.mem_cons_self)
    obtain ⟨out, hRest⟩ :=
      ih (fun l hl => h l (List.mem_cons_of_mem _ hl)) (putEntry label value entries)
    exact ⟨out, (collect_cons_eq_ok_iff label labels entries out).mpr ⟨value, hValue, hRest⟩⟩

theorem mem_keysOf_of_collect {labels : List String} {entries out : List (String × Json)}
    (h : collect caseName source labels entries = .ok out) :
    ∀ label ∈ labels, label ∈ keysOf source := by
  induction labels generalizing entries with
  | nil => simp
  | cons label labels ih =>
    obtain ⟨value, hValue, hRest⟩ := (collect_cons_eq_ok_iff label labels entries out).mp h
    intro l hl
    rcases List.mem_cons.mp hl with rfl | hl
    · exact (mem_keysOf_iff_lookup l source).mpr ⟨value, hValue⟩
    · exact ih hRest l hl

theorem lookup_collect {labels : List String} {entries out : List (String × Json)}
    (h : collect caseName source labels entries = .ok out) (key : String) :
    out.lookup key = if key ∈ labels then source.lookup key else entries.lookup key := by
  induction labels generalizing entries with
  | nil =>
    cases h
    simp
  | cons label labels ih =>
    obtain ⟨value, hValue, hRest⟩ := (collect_cons_eq_ok_iff label labels entries out).mp h
    rw [ih hRest, lookup_putEntry]
    by_cases hKey : key = label
    · simp [hKey, hValue]
    · simp [hKey]

theorem distinctKeys_collect {labels : List String} {entries out : List (String × Json)}
    (hEntries : DistinctKeys entries) (h : collect caseName source labels entries = .ok out) :
    DistinctKeys out := by
  induction labels generalizing entries with
  | nil =>
    cases h
    exact hEntries
  | cons label labels ih =>
    obtain ⟨value, _, hRest⟩ := (collect_cons_eq_ok_iff label labels entries out).mp h
    exact ih (hEntries.putEntry label value) hRest

theorem keysOf_collect {labels : List String} {entries out : List (String × Json)}
    (h : collect caseName source labels entries = .ok out)
    (hNodup : (keysOf entries ++ labels).Nodup) : keysOf out = keysOf entries ++ labels := by
  induction labels generalizing entries with
  | nil =>
    cases h
    simp
  | cons label labels ih =>
    obtain ⟨value, _, hRest⟩ := (collect_cons_eq_ok_iff label labels entries out).mp h
    have hNew : label ∉ keysOf entries := by
      intro hMem
      exact (List.nodup_append.mp hNodup).2.2 label hMem label List.mem_cons_self rfl
    have hKeys : keysOf (putEntry label value entries) = keysOf entries ++ [label] := by
      rw [keysOf_putEntry, if_neg hNew]
    rw [ih hRest (by rwa [hKeys, List.append_assoc]), hKeys, List.append_assoc]
    rfl

/-! ## Encoding and decoding -/

theorem encode_eq_ok_iff (codec : Codec) (v : EnumValue) (entries : List (String × Json)) :
    codec.encode v = .ok entries ↔ ∃ c, codec.cases.lookup v.caseName = some c ∧
      collect (Text.plainName c.name) v.payload (labels c)
        [(discriminatorKey, .string (Text.plainName c.name))] = .ok entries := by
  rw [encode, bind_eq_ok_iff]
  constructor
  · rintro ⟨c, hFind, hCollect⟩
    obtain ⟨_, hName, hCase⟩ := (find_eq_ok_iff codec _ c).mp hFind
    cases hName
    exact ⟨c, hCase, hCollect⟩
  · rintro ⟨c, hCase, hCollect⟩
    exact ⟨c, (find_eq_ok_iff codec _ c).mpr ⟨v.caseName, rfl, hCase⟩, hCollect⟩

theorem decode_eq_ok_iff (codec : Codec) (data : List (String × Json)) (v : EnumValue) :
    codec.decode data = .ok v ↔ ∃ name c payload,
      data.lookup discriminatorKey = some (.string name) ∧ codec.cases.lookup name = some c ∧
      collect (Text.plainName c.name) data (labels c) [] = .ok payload ∧
      v = ⟨Text.plainName c.name, payload⟩ := by
  unfold decode
  cases hTag : data.lookup discriminatorKey with
  | none => simp
  | some tag =>
    simp only [bind_eq_ok_iff, find_eq_ok_iff]
    constructor
    · rintro ⟨c, ⟨name, rfl, hCase⟩, payload, hCollect, hValue⟩
      exact ⟨name, c, payload, rfl, hCase, hCollect, (Except.ok.inj hValue).symm⟩
    · rintro ⟨name, c, payload, hName, hCase, hCollect, rfl⟩
      exact ⟨c, ⟨name, Option.some.inj hName, hCase⟩, payload, hCollect, rfl⟩

/-! ## Round trips -/

/-- A value of one of the cases, with a value for each of its labels and no other. -/
structure Fits (codec : Codec) (v : EnumValue) : Prop where
  known : v.caseName ∈ codec.discriminators
  distinct : DistinctKeys v.payload
  labelled : ∀ c, codec.cases.lookup v.caseName = some c →
    ∀ key, key ∈ keysOf v.payload ↔ key ∈ labels c

/-- The same case, and the same values under the same labels in whatever order. -/
def Agree (v w : EnumValue) : Prop :=
  v.caseName = w.caseName ∧ v.payload.Perm w.payload

section

variable {codec : Codec} {v : EnumValue} {c : CaseSpec}

theorem exists_encode (hFits : codec.Fits v) : ∃ entries, codec.encode v = .ok entries := by
  obtain ⟨c, hCase⟩ := (mem_discriminators_iff codec v.caseName).mp hFits.known
  obtain ⟨entries, hCollect⟩ := exists_collect (Text.plainName c.name)
    (fun label hLabel => (hFits.labelled c hCase label).mpr hLabel)
    [(discriminatorKey, Json.string (Text.plainName c.name))]
  exact ⟨entries, (encode_eq_ok_iff codec v entries).mpr ⟨c, hCase, hCollect⟩⟩

theorem distinctKeys_encode {entries : List (String × Json)} (h : codec.encode v = .ok entries) :
    DistinctKeys entries := by
  obtain ⟨c, _, hCollect⟩ := (encode_eq_ok_iff codec v entries).mp h
  exact distinctKeys_collect (distinctKeys_singleton _) hCollect

theorem lookup_encode (hForm : codec.WellFormed) (hCase : codec.cases.lookup v.caseName = some c)
    {entries : List (String × Json)} (h : codec.encode v = .ok entries) (key : String) :
    entries.lookup key =
      if key ∈ labels c then v.payload.lookup key
      else if key = discriminatorKey then some (.string v.caseName) else none := by
  obtain ⟨c', hCase', hCollect⟩ := (encode_eq_ok_iff codec v entries).mp h
  obtain rfl : c = c' := Option.some.inj (hCase.symm.trans hCase')
  rw [lookup_collect hCollect, lookup_cons_ite, hForm.named _ _ hCase, List.lookup_nil]

theorem regularEntries_encode (hForm : codec.WellFormed) {entries : List (String × Json)}
    (h : codec.encode v = .ok entries) (hPayload : Json.RegularEntries v.payload) :
    Json.RegularEntries entries := by
  obtain ⟨c, hCase, _⟩ := (encode_eq_ok_iff codec v entries).mp h
  apply (Json.regularEntries_iff entries).mpr
  intro key value hMem
  have hLookup := ((distinctKeys_encode h).lookup_eq_some_iff key value).mpr hMem
  rw [lookup_encode hForm hCase h] at hLookup
  split at hLookup
  · exact (Json.regularEntries_iff v.payload).mp hPayload key value (mem_of_lookup hLookup)
  · split at hLookup
    · cases hLookup
      trivial
    · cases hLookup

theorem decode_encode (hForm : codec.WellFormed) (hFits : codec.Fits v)
    {entries : List (String × Json)} (h : codec.encode v = .ok entries) :
    ∃ w, codec.decode entries = .ok w ∧ Agree w v := by
  obtain ⟨c, hCase, _⟩ := (encode_eq_ok_iff codec v entries).mp h
  have hLookup := lookup_encode hForm hCase h
  have hTag : entries.lookup discriminatorKey = some (.string v.caseName) := by
    rw [hLookup, if_neg (hForm.unreserved _ _ hCase), if_pos rfl]
  have hThere : ∀ label ∈ labels c, label ∈ keysOf entries := by
    intro label hLabel
    obtain ⟨value, hValue⟩ := (mem_keysOf_iff_lookup label v.payload).mp
      ((hFits.labelled c hCase label).mpr hLabel)
    exact (mem_keysOf_iff_lookup label entries).mpr ⟨value, by rw [hLookup, if_pos hLabel, hValue]⟩
  obtain ⟨payload, hCollect⟩ := exists_collect (Text.plainName c.name) hThere []
  refine ⟨⟨Text.plainName c.name, payload⟩, (decode_eq_ok_iff codec entries _).mpr
    ⟨v.caseName, c, payload, hTag, hCase, hCollect, rfl⟩, hForm.named _ _ hCase, ?_⟩
  apply perm_of_lookup_eq (distinctKeys_collect distinctKeys_nil hCollect) hFits.distinct
  intro key
  rw [lookup_collect hCollect, hLookup, List.lookup_nil]
  split
  · rfl
  · next hNot =>
    -- The value has no other keys, so nothing of it is lost.
    have hAbsent : key ∉ keysOf v.payload := fun hKey => hNot ((hFits.labelled c hCase key).mp hKey)
    exact ((lookup_eq_none_iff_keysOf key v.payload).mpr hAbsent).symm

theorem loads_dumps (hForm : codec.WellFormed) (hFits : codec.Fits v)
    (hPayload : Json.RegularEntries v.payload) (indent : Option Nat) :
    ∃ text w, codec.dumps indent v = .ok text ∧ codec.loads text = .ok w ∧ Agree w v := by
  obtain ⟨entries, hEncode⟩ := exists_encode hFits
  obtain ⟨w, hDecode, hAgree⟩ := decode_encode hForm hFits hEncode
  have hRegular : (Json.object entries).Regular :=
    ⟨distinctKeys_encode hEncode, regularEntries_encode hForm hEncode hPayload⟩
  refine ⟨(Json.object entries).write indent 0, w, ?_, ?_, hAgree⟩
  · rw [dumps, hEncode]
    rfl
  · rw [loads, Json.read_write hRegular]
    exact hDecode

theorem encode_decode (hForm : codec.WellFormed) {data : List (String × Json)}
    (hData : DistinctKeys data) (h : codec.decode data = .ok v) :
    ∃ c entries, codec.cases.lookup v.caseName = some c ∧ codec.encode v = .ok entries ∧
      entries.Perm (data.filter fun entry => entry.1 = discriminatorKey ∨ entry.1 ∈ labels c) := by
  obtain ⟨name, c, payload, hTag, hCase, hCollect, rfl⟩ := (decode_eq_ok_iff codec data v).mp h
  have hName := hForm.named _ _ hCase
  have hPayload := lookup_collect hCollect
  have hThere : ∀ label ∈ labels c, label ∈ keysOf payload := by
    intro label hLabel
    obtain ⟨value, hValue⟩ :=
      (mem_keysOf_iff_lookup label data).mp (mem_keysOf_of_collect hCollect label hLabel)
    exact (mem_keysOf_iff_lookup label payload).mpr ⟨value, by rw [hPayload, if_pos hLabel, hValue]⟩
  obtain ⟨entries, hEntries⟩ := exists_collect (Text.plainName c.name) hThere
    [(discriminatorKey, Json.string (Text.plainName c.name))]
  have hFound : codec.cases.lookup (Text.plainName c.name) = some c := hName.symm ▸ hCase
  have hEncode : codec.encode ⟨Text.plainName c.name, payload⟩ = .ok entries :=
    (encode_eq_ok_iff codec _ entries).mpr ⟨c, hFound, hEntries⟩
  refine ⟨c, entries, hFound, hEncode, ?_⟩
  apply perm_of_lookup_eq (distinctKeys_encode hEncode) (hData.filter _)
  intro key
  rw [lookup_encode hForm hFound hEncode, hPayload, lookup_filter_key
    (fun key => decide (key = discriminatorKey ∨ key ∈ labels c))]
  by_cases hLabel : key ∈ labels c
  · simp [hLabel]
  · by_cases hKey : key = discriminatorKey
    · subst hKey
      simp [hLabel, hTag, hName]
    · simp [hLabel, hKey]

end

/-- The codec of an enum decodes what it encodes, as entries and as text in every layout, and
encodes what it decodes, up to the entries that the case has no label for. -/
theorem ofDecl_roundTrips (header : TypeHeader) (members : List Decl)
    (hEnum : header.kind = .enumType) :
    ∃ codec, ofDecl (.type header members) = .ok codec ∧
      (∀ v, codec.Fits v →
        (∃ entries w, codec.encode v = .ok entries ∧ codec.decode entries = .ok w ∧ Agree w v) ∧
        (Json.RegularEntries v.payload → ∀ indent, ∃ text w,
          codec.dumps indent v = .ok text ∧ codec.loads text = .ok w ∧ Agree w v)) ∧
      ∀ data v, DistinctKeys data → codec.decode data = .ok v →
        ∃ c entries, codec.cases.lookup v.caseName = some c ∧ codec.encode v = .ok entries ∧
          entries.Perm (data.filter fun entry =>
            entry.1 = discriminatorKey ∨ entry.1 ∈ labels c) := by
  have hForm := wellFormed_ofCases_validCases members
  refine ⟨ofCases (validCases members), ?_, ?_, ?_⟩
  · rw [ofDecl, if_pos hEnum]
  · intro v hFits
    constructor
    · obtain ⟨entries, hEncode⟩ := exists_encode hFits
      obtain ⟨w, hDecode, hAgree⟩ := decode_encode hForm hFits hEncode
      exact ⟨entries, w, hEncode, hDecode, hAgree⟩
    · exact fun hPayload indent => loads_dumps hForm hFits hPayload indent
  · exact fun data v hData hDecode => encode_decode hForm hData hDecode

def lampSignal : EnumValue :=
  ⟨"signal", [("level", .int 3), ("for", .string "lamp")]⟩

theorem lampSignal_fits : (ofCases (validCases reportMembers)).Fits lampSignal where
  known := by decide
  distinct := by decide
  labelled := by
    intro c hCase key
    cases hCase
    change key ∈ ["level", "for"] ↔ key ∈ ["for", "level"]
    simp [or_comm]

theorem ofDecl_roundTrips_report :
    ∃ codec, ofDecl (.type reportHeader reportMembers) = .ok codec ∧ codec.Fits lampSignal ∧
      (∃ text w, codec.dumps (some 2) lampSignal = .ok text ∧ codec.loads text = .ok w ∧
        Agree w lampSignal) ∧
      ∃ c entries, codec.cases.lookup "idle" = some c ∧ codec.encode ⟨"idle", []⟩ = .ok entries ∧
        entries.Perm [("type", .string "idle")] := by
  obtain ⟨codec, hCodec, hThere, hBack⟩ := ofDecl_roundTrips reportHeader reportMembers rfl
  cases hCodec
  have hPayload : Json.RegularEntries lampSignal.payload := ⟨trivial, trivial, trivial⟩
  refine ⟨_, rfl, lampSignal_fits, (hThere lampSignal lampSignal_fits).2 hPayload (some 2), ?_⟩
  obtain ⟨c, entries, hCase, hEncode, hPerm⟩ :=
    hBack [("level", .null), ("type", .string "idle")] ⟨"idle", []⟩ (by decide) rfl
  cases hCase
  exact ⟨⟨"idle", none⟩, entries, rfl, hEncode, hPerm⟩

end SwiftDerive.TaggedUnion.Codec
