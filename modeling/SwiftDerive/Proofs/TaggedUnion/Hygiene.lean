import Mathlib.Data.List.Induction
import Mathlib.Data.List.TakeWhile
import SwiftDerive.Proofs.TaggedUnion.Outline
import SwiftDerive.TaggedUnion.Codec

/-! # Names in the branches

A branch binds the labels of its case as names, amid text that uses names of its own. Every use means
a value of the case or something outside the branch, which it has to reach past all the names that
are bound before it or in the same statement.
-/

namespace SwiftDerive.TaggedUnion

set_option autoImplicit false

/-! ## Scopes -/

/-- Something outside the branch, or the associated value of this number. -/
inductive Referent where
  | outside
  | value (index : Nat)
  deriving DecidableEq, Repr

structure NameUse where
  name : String
  meant : Referent
  deriving DecidableEq, Repr

def outer (name : String) : NameUse := ⟨name, .outside⟩

/-- The pattern or a statement of a branch: the names that it binds to the next values of the case,
and those that it uses. -/
structure Line where
  binds : List String
  uses : List NameUse

/-- What a name stands for where names are bound, the last one first. Backticks make no difference. -/
def referent : List String → String → Referent
  | [], _ => .outside
  | first :: bound, name =>
    if Text.plainName first = Text.plainName name then .value bound.length
    else referent bound name

/-- Every use reaches what it means. What a line binds is bound in that line and behind it. -/
def Hygienic : List String → List Line → Prop
  | _, [] => True
  | bound, line :: lines =>
    (∀ u ∈ line.uses, referent (line.binds.reverse ++ bound) u.name = u.meant) ∧
      Hygienic (line.binds.reverse ++ bound) lines

instance decidableHygienic : (bound : List String) → (lines : List Line) →
    Decidable (Hygienic bound lines)
  | _, [] => isTrue trivial
  | bound, line :: lines =>
    have := decidableHygienic (line.binds.reverse ++ bound) lines
    inferInstanceAs (Decidable (_ ∧ _))

def Operand.use (index : Nat) : Operand → NameUse
  | .caseName _ => outer discriminatorEnum
  | .bound name => ⟨name, .value index⟩

def EncodeBranch.lines (b : EncodeBranch) : List Line :=
  ⟨b.bound.getD [], []⟩ ::
    b.writes.zipIdx.map fun w => ⟨[], [outer "container", w.1.value.use (w.2 - 1)]⟩

def typeRoot (type : String) : String :=
  String.ofList (type.toList.takeWhile (· != '.'))

def DecodeBranch.lines (b : DecodeBranch) : List Line :=
  ⟨[], []⟩ :: (b.reads.map fun r => ⟨[r.name], [outer "container", outer (typeRoot r.type)]⟩) ++
    [⟨[], outer "self" :: (b.arguments.getD []).zipIdx.map fun a => ⟨a.1.2, .value a.2⟩⟩]

/-! ## What the names of a branch stand for -/

theorem referent_eq_outside_iff (bound : List String) (name : String) :
    referent bound name = .outside ↔ Text.plainName name ∉ bound.map Text.plainName := by
  induction bound with
  | nil => simp [referent]
  | cons first bound ih =>
    rw [referent, List.map_cons, List.mem_cons, not_or, ← ih]
    split
    · next hSame => simp [hSame]
    · next hOther => simp [Ne.symm hOther]

theorem referent_eq_value_iff (names : List String) :
    (∀ a ∈ names.zipIdx, referent names.reverse a.1 = .value a.2) ↔
      (names.map Text.plainName).Nodup := by
  -- The last name hides those before it, so the names are taken from the back.
  induction names using List.reverseRecOn with
  | nil => simp
  | append_singleton names last ih =>
    have hStep : ∀ a ∈ names.zipIdx, referent (names ++ [last]).reverse a.1 = .value a.2 ↔
        Text.plainName a.1 ≠ Text.plainName last ∧ referent names.reverse a.1 = .value a.2 := by
      intro a hMem
      have hLess := List.snd_lt_of_mem_zipIdx hMem
      rw [List.reverse_append, List.reverse_singleton, List.singleton_append, referent]
      split
      · next hSame =>
        rw [List.length_reverse, Referent.value.injEq]
        exact iff_of_false (by omega) fun h => h.1 hSame.symm
      · next hOther => exact (and_iff_right (Ne.symm hOther)).symm
    have hLast : referent (names ++ [last]).reverse last = .value names.length := by
      simp [referent]
    have hOthers : (∀ a ∈ names.zipIdx, Text.plainName a.1 ≠ Text.plainName last) ↔
        ∀ name ∈ names, Text.plainName name ≠ Text.plainName last := by
      conv_rhs => rw [← List.zipIdx_map_fst 0 names, List.forall_mem_map]
    rw [List.zipIdx_append, List.forall_mem_append, forall₂_congr hStep, List.map_append,
      List.nodup_append, ← ih]
    simp only [forall_and, hOthers, List.zipIdx_singleton, List.forall_mem_singleton, Nat.zero_add,
      hLast, List.map_singleton, List.nodup_singleton, List.forall_mem_map, and_true, true_and]
    exact and_comm

theorem hygienic_append (bound : List String) (lines lines' : List Line) :
    Hygienic bound (lines ++ lines') ↔ Hygienic bound lines ∧
      Hygienic ((lines.flatMap Line.binds).reverse ++ bound) lines' := by
  induction lines generalizing bound with
  | nil => simp [Hygienic]
  | cons line lines ih => simp [Hygienic, ih, and_assoc]

theorem hygienic_of_binds_nil {lines : List Line} (h : ∀ line ∈ lines, line.binds = [])
    (bound : List String) : Hygienic bound lines ↔
      ∀ line ∈ lines, ∀ u ∈ line.uses, referent bound u.name = u.meant := by
  induction lines with
  | nil => simp [Hygienic]
  | cons line lines ih =>
    obtain ⟨hHead, hTail⟩ := List.forall_mem_cons.mp h
    rw [Hygienic, hHead, List.reverse_nil, List.nil_append, ih hTail, List.forall_mem_cons]

/-! ## The lines of the two branches -/

theorem encodeBranch_bound (c : CaseSpec) :
    (encodeBranch c).bound.getD [] = c.fields.map PayloadField.label := by
  obtain ⟨name, payload⟩ := c
  cases payload <;> rfl

theorem decodeBranch_arguments (c : CaseSpec) :
    (decodeBranch c).arguments.getD [] = c.fields.map fun f => (f.label, f.label) := by
  obtain ⟨name, payload⟩ := c
  cases payload <;> rfl

theorem encode_lines (c : CaseSpec) : (encodeBranch c).lines =
    ⟨c.fields.map PayloadField.label, []⟩ :: ⟨[], [outer "container", outer "SubType"]⟩ ::
      c.fields.zipIdx.map fun a => ⟨[], [outer "container", ⟨a.1.label, .value a.2⟩]⟩ := by
  rw [EncodeBranch.lines, encodeBranch_bound, encodeBranch, List.zipIdx_cons, List.map_cons,
    List.zipIdx_map, List.zipIdx_succ, List.map_map, List.map_map]
  rfl

def readLine (f : PayloadField) : Line :=
  ⟨[f.label], [outer "container", outer (typeRoot f.type.render)]⟩

theorem decode_lines (c : CaseSpec) : (decodeBranch c).lines = ⟨[], []⟩ :: c.fields.map readLine ++
    [⟨[], outer "self" :: c.fields.zipIdx.map fun a => ⟨a.1.label, .value a.2⟩⟩] := by
  rw [DecodeBranch.lines, decodeBranch_arguments, decodeBranch, List.zipIdx_map, List.map_map,
    List.map_map]
  rfl

theorem plainName_container : Text.plainName "container" = "container" := by decide

section Labels

variable (c : CaseSpec)

theorem labels_eq : Codec.labels c = (c.fields.map PayloadField.label).map Text.plainName := by
  rw [Codec.labels, List.map_map]
  rfl

/-- Behind all labels, a name from outside is reached if it is none of them. -/
theorem referent_outer_iff (name : String) :
    referent (c.fields.map PayloadField.label).reverse (outer name).name = (outer name).meant ↔
      Text.plainName name ∉ Codec.labels c := by
  rw [outer, referent_eq_outside_iff, List.map_reverse, List.mem_reverse, labels_eq]

theorem referent_labels_iff :
    (∀ a ∈ c.fields.zipIdx,
        referent (c.fields.map PayloadField.label).reverse a.1.label = .value a.2) ↔
      (Codec.labels c).Nodup := by
  rw [labels_eq, ← referent_eq_value_iff, List.zipIdx_map, List.forall_mem_map]
  rfl

theorem hygienic_encode_iff :
    Hygienic [] (encodeBranch c).lines ↔ (Codec.labels c).Nodup ∧
      "container" ∉ Codec.labels c ∧ "SubType" ∉ Codec.labels c := by
  have hSubType : Text.plainName "SubType" = "SubType" := by decide
  have hNone : ∀ line ∈ (⟨[], [outer "container", outer "SubType"]⟩ : Line) ::
      c.fields.zipIdx.map fun a => ⟨[], [outer "container", ⟨a.1.label, .value a.2⟩]⟩,
      line.binds = [] := by
    intro line hMem
    rcases List.mem_cons.mp hMem with rfl | hMem
    · rfl
    · obtain ⟨_, _, rfl⟩ := List.mem_map.mp hMem
      rfl
  have hWrites : Hygienic (c.fields.map PayloadField.label).reverse
      (⟨[], [outer "container", outer "SubType"]⟩ ::
        c.fields.zipIdx.map fun a => ⟨[], [outer "container", ⟨a.1.label, .value a.2⟩]⟩) ↔
      ("container" ∉ Codec.labels c ∧ "SubType" ∉ Codec.labels c) ∧
        ∀ a ∈ c.fields.zipIdx, "container" ∉ Codec.labels c ∧
          referent (c.fields.map PayloadField.label).reverse a.1.label = .value a.2 := by
    rw [hygienic_of_binds_nil hNone]
    simp only [List.forall_mem_cons, List.forall_mem_map, List.not_mem_nil, false_imp_iff,
      implies_true, and_true, referent_outer_iff, plainName_container, hSubType]
  rw [encode_lines, Hygienic, List.append_nil, hWrites, ← referent_labels_iff]
  constructor
  · rintro ⟨_, hOuter, hValues⟩
    exact ⟨fun a hMem => (hValues a hMem).2, hOuter⟩
  · rintro ⟨hValues, hOuter⟩
    exact ⟨List.forall_mem_nil _, hOuter, fun a hMem => ⟨hOuter.1, hValues a hMem⟩⟩

end Labels

theorem hygienic_reads_iff (bound : List String) (fields : List PayloadField) :
    Hygienic bound (fields.map readLine) ↔
      (∀ f ∈ fields, "container" ∉ (f.label :: bound).map Text.plainName ∧
        Text.plainName (typeRoot f.type.render) ∉ (f.label :: bound).map Text.plainName) ∧
      fields.Pairwise fun f g =>
        Text.plainName f.label ≠ Text.plainName (typeRoot g.type.render) := by
  induction fields generalizing bound with
  | nil => simp [Hygienic]
  | cons f fields ih =>
    have hHead : (∀ u ∈ (readLine f).uses, referent (f.label :: bound) u.name = u.meant) ↔
        "container" ∉ (f.label :: bound).map Text.plainName ∧
          Text.plainName (typeRoot f.type.render) ∉ (f.label :: bound).map Text.plainName := by
      simp only [readLine, outer, List.forall_mem_cons, List.not_mem_nil, false_imp_iff,
        implies_true, and_true, referent_eq_outside_iff, plainName_container]
    have hBound : (readLine f).binds.reverse ++ bound = f.label :: bound := rfl
    -- What is bound here is bound for the reads behind it, hence the pairs.
    rw [List.map_cons, Hygienic, hBound, hHead, List.forall_mem_cons, List.pairwise_cons]
    simp only [ih, List.map_cons, List.mem_cons, not_or]
    grind

theorem hygienic_decode_iff (c : CaseSpec) :
    Hygienic [] (decodeBranch c).lines ↔ (Codec.labels c).Nodup ∧
      "container" ∉ Codec.labels c ∧ "self" ∉ Codec.labels c ∧
      (∀ f ∈ c.fields, Text.plainName f.label ≠ Text.plainName (typeRoot f.type.render)) ∧
      c.fields.Pairwise fun f g =>
        Text.plainName f.label ≠ Text.plainName (typeRoot g.type.render) := by
  have hSelf : Text.plainName "self" = "self" := by decide
  have hBound : (((c.fields.map readLine).flatMap Line.binds).reverse ++ []) =
      (c.fields.map PayloadField.label).reverse := by
    rw [List.append_nil, List.flatMap_map, List.map_eq_flatMap]
    rfl
  have hReads : Hygienic [] (c.fields.map readLine) ↔ "container" ∉ Codec.labels c ∧
      (∀ f ∈ c.fields, Text.plainName f.label ≠ Text.plainName (typeRoot f.type.render)) ∧
      c.fields.Pairwise fun f g =>
        Text.plainName f.label ≠ Text.plainName (typeRoot g.type.render) := by
    rw [hygienic_reads_iff, Codec.labels]
    simp only [List.map_cons, List.map_nil, List.mem_singleton, List.mem_map, not_exists, not_and,
      forall_and, eq_comm, and_assoc]
  have hBuilt : Hygienic (c.fields.map PayloadField.label).reverse
      [⟨[], outer "self" :: c.fields.zipIdx.map fun a => ⟨a.1.label, .value a.2⟩⟩] ↔
      "self" ∉ Codec.labels c ∧ (Codec.labels c).Nodup := by
    simp only [Hygienic, List.reverse_nil, List.nil_append, and_true, List.forall_mem_cons,
      List.forall_mem_map, referent_outer_iff, referent_labels_iff, hSelf]
  have hPattern : Hygienic [] (decodeBranch c).lines ↔ Hygienic [] (c.fields.map readLine ++
      [⟨[], outer "self" :: c.fields.zipIdx.map fun a => ⟨a.1.label, .value a.2⟩⟩]) := by
    rw [decode_lines, List.cons_append, Hygienic]
    exact and_iff_right (List.forall_mem_nil _)
  rw [hPattern, hygienic_append, hReads, hBound, hBuilt]
  tauto

/-! ## The names in the text -/

/-- The names behind `let`, and those that are used: words other than members, labels and keywords.
The token before is given. -/
def readNames (before : Option Token) : List Token → List String × List String
  | [] => ([], [])
  | .mark c :: ts => readNames (some (.mark c)) ts
  | .word name :: ts =>
    let rest := readNames (some (.word name)) ts
    if before = some (.mark '.') ∨ ts.head? = some (.mark ':') then rest
    else if before = some (.word "let") then (name :: rest.1, rest.2)
    else if name = "let" ∨ name = "try" then rest
    else (rest.1, name :: rest.2)

def textNames (text : String) : List String × List String := readNames none (tokens text.toList)

def statementNames : Statement → List String × List String
  | .raw text => textNames text
  | _ => ([], [])

def caseNames (c : SwitchCase) : List (List String × List String) :=
  textNames c.label :: c.statements.map statementNames

def Line.names (line : Line) : List String × List String :=
  (line.binds, line.uses.map NameUse.name)

def IsFreeWord (name : String) : Prop := IsWord name ∧ name ≠ "let" ∧ name ≠ "try"

inductive IsWordPath : TypeRef → Prop where
  | name {name : String} (hName : IsFreeWord name) : IsWordPath (.named name [])
  | member {base : TypeRef} (hBase : IsWordPath base) {name : String} (hName : IsWord name) :
      IsWordPath (.member base name [])

structure CaseSpec.Spelled (c : CaseSpec) : Prop where
  name : IsWord c.name
  label : ∀ f ∈ c.fields, IsFreeWord f.label
  type : ∀ f ∈ c.fields, IsWordPath f.type

theorem typeRoot_append_dot (base name : String) :
    typeRoot (base ++ "." ++ name) = typeRoot base := by
  have hStop : ∀ text : List Char, (text ++ '.' :: name.toList).takeWhile (· != '.') =
      text.takeWhile (· != '.') := by
    intro text
    rw [List.takeWhile_append]
    split
    · next hWhole =>
      rw [List.takeWhile_cons_of_neg (by simp), List.append_nil]
      exact ((List.takeWhile_sublist _).eq_of_length hWhole).symm
    · rfl
  have hText : (base ++ "." ++ name).toList = base.toList ++ '.' :: name.toList := by
    simp [toList_dot]
  rw [typeRoot, hText, hStop, typeRoot]

theorem typeRoot_of_isWord {name : String} (h : IsWord name) : typeRoot name = name := by
  have hNoDot : ∀ c ∈ name.toList, (c != '.') = true := by
    intro c hMem
    have hWord := List.all_eq_true.mp h.2 c hMem
    rw [bne_iff_ne]
    rintro rfl
    exact absurd hWord (by decide)
  rw [typeRoot, List.takeWhile_eq_self_iff.mpr hNoDot, String.ofList_toList]

theorem tokens_path {t : TypeRef} (h : IsWordPath t) :
    IsFreeWord (typeRoot t.render) ∧ ∃ members : List String, tokens t.render.toList =
      .word (typeRoot t.render) :: members.flatMap fun m => [.mark '.', .word m] := by
  induction h with
  | @name name hName =>
    have hText : (TypeRef.named name []).render = name := by
      simp [TypeRef.render, TypeRef.renderAll, angled]
    rw [hText, typeRoot_of_isWord hName.1]
    exact ⟨hName, [], tokens_word hName.1⟩
  | @member base hBase name hName ih =>
    obtain ⟨hRoot, members, hTokens⟩ := ih
    have hText : (TypeRef.member base name []).render = base.render ++ "." ++ name := by
      simp [TypeRef.render, TypeRef.renderAll, angled]
    rw [hText, typeRoot_append_dot]
    refine ⟨hRoot, members ++ [name], ?_⟩
    rw [String.toList_append, String.toList_append, List.append_assoc, toList_dot,
      List.singleton_append, tokens_append _ (endsWord_cons rfl _), tokens_mark rfl, tokens_word hName,
      hTokens, List.flatMap_append, List.flatMap_singleton, List.cons_append]

theorem readNames_used {before : Option Token} {name : String} {ts : List Token}
    (hMember : before ≠ some (.mark '.')) (hLet : before ≠ some (.word "let"))
    (hLabel : ts.head? ≠ some (.mark ':')) (hName : name ≠ "let" ∧ name ≠ "try") :
    readNames before (.word name :: ts) =
      ((readNames (some (.word name)) ts).1, name :: (readNames (some (.word name)) ts).2) := by
  simp only [readNames, hMember, hLet, hLabel, hName.1, hName.2, or_self, if_false]

theorem readNames_members (before : Option Token) (members : List String) (m : String)
    (ts : List Token) :
    readNames before ((members.flatMap fun m => [.mark '.', .word m]) ++ .mark '.' :: .word m :: ts) =
      readNames (some (.word m)) ts := by
  induction members generalizing before with
  | nil => simp [readNames]
  | cons first members ih => simp [readNames, ih]

theorem readNames_key (before : Option Token) (key : String) :
    readNames before (keyTokens key) = ([], []) := by
  simp [keyTokens, readNames]

theorem readNames_type {t : TypeRef} (h : IsWordPath t) (key : String) :
    readNames (some (.mark '(')) (tokens t.render.toList ++ .mark '.' :: .word "self" :: keyTokens key) =
      ([], [typeRoot t.render]) := by
  obtain ⟨⟨_, hFree⟩, members, hTokens⟩ := tokens_path h
  have hNext : ((members.flatMap fun m => [Token.mark '.', .word m]) ++
      .mark '.' :: .word "self" :: keyTokens key).head? ≠ some (.mark ':') := by
    cases members <;> simp
  rw [hTokens, List.cons_append, readNames_used (by simp) (by simp) hNext hFree, readNames_members,
    readNames_key]

theorem textNames_write {w : KeyedWrite} (index : Nat)
    (hBound : ∀ name, w.value = .bound name → IsFreeWord name)
    (hName : ∀ name, w.value = .caseName name → IsWord name) (hKey : IsWord w.key) :
    textNames w.render = ([], ["container", (w.value.use index).name]) := by
  have hEncode : tokens "try container.encode(".toList =
      [.word "try", .word "container", .mark '.', .word "encode", .mark '('] := by decide
  rw [textNames, tokens_write hKey, hEncode]
  obtain ⟨value, key⟩ := w
  cases value with
  | caseName name =>
    rw [tokens_caseName (hName name rfl)]
    simp [readNames, readNames_key, Operand.use, outer, discriminatorEnum]
  | bound name =>
    obtain ⟨hWord, hFree⟩ := hBound name rfl
    rw [Operand.render, tokens_word hWord]
    simp [readNames, keyTokens, Operand.use, hFree]

theorem textNames_read {r : KeyedRead} (hName : IsWord r.name) (hKey : IsWord r.key) {t : TypeRef}
    (hType : r.type = t.render) (hPath : IsWordPath t) :
    textNames r.render = ([r.name], ["container", typeRoot r.type]) := by
  have hDecode : tokens "= try container.decode(".toList = [.mark '=', .word "try",
      .word "container", .mark '.', .word "decode", .mark '('] := by decide
  have hLet : tokens "let".toList = [.word "let"] := by decide
  rw [textNames, tokens_read hName hKey, hType, hDecode, hLet, tokens_self]
  simp [readNames, readNames_type hPath]

def ItemNames (ts : List Token) (bound used : List String) : Prop :=
  ∀ c, c = '(' ∨ c = ',' → ∀ d, d = ',' ∨ d = ')' → ∀ rest,
    readNames (some (.mark c)) (ts ++ .mark d :: rest) =
      (bound ++ (readNames (some (.mark d)) rest).1, used ++ (readNames (some (.mark d)) rest).2)

theorem itemNames_bound (name : String) : ItemNames [.word "let", .word name] [name] [] := by
  rintro c (rfl | rfl) d (rfl | rfl) rest <;> simp [readNames]

theorem itemNames_passed (label : String) {name : String} (h : name ≠ "let" ∧ name ≠ "try") :
    ItemNames [.word label, .mark ':', .word name] [] [name] := by
  rintro c (rfl | rfl) d (rfl | rfl) rest <;> simp [readNames, h]

theorem readNames_listed {α : Type} {spell : α → List Token} {bound used : α → List String}
    {items : List α} (h : ∀ a ∈ items, ItemNames (spell a) (bound a) (used a)) {c : Char}
    (hStart : c = '(' ∨ c = ',') :
    readNames (some (.mark c)) ([Token.mark ','].intercalate (items.map spell) ++ [.mark ')']) =
      (items.flatMap bound, items.flatMap used) := by
  induction items generalizing c with
  | nil => rfl
  | cons a items ih =>
    obtain ⟨hHead, hTail⟩ := List.forall_mem_cons.mp h
    cases items with
    | nil =>
      rw [List.map_singleton, List.intercalate_singleton, hHead c hStart ')' (.inr rfl) []]
      simp [readNames]
    | cons a' items =>
      rw [List.map_cons, List.map_cons, List.intercalate_cons_cons, List.append_assoc,
        List.append_assoc, List.singleton_append, hHead c hStart ',' (.inl rfl) _, ← List.map_cons,
        ih hTail (.inr rfl)]
      rfl

theorem readNames_caseText {α : Type} {write : α → String} {bound used : α → List String}
    {name : String} (hName : IsWord name) {items : Option (List α)}
    (h : ∀ a ∈ items.getD [], ItemNames (tokens (write a).toList) (bound a) (used a))
    (before : Option Token) :
    readNames before (tokens (caseText name (items.map fun as => as.map write)).toList) =
      ((items.getD []).flatMap bound, (items.getD []).flatMap used) := by
  cases items with
  | none =>
    rw [Option.map_none, tokens_caseText_none hName]
    simp [readNames]
  | some as =>
    have hOpen : ∀ ts, readNames before (.mark '.' :: .word name :: .mark '(' :: ts) =
        readNames (some (.mark '(')) ts := by
      intro ts
      simp [readNames]
    rw [Option.map_some, tokens_caseText_some hName, List.map_map, hOpen]
    exact readNames_listed h (.inl rfl)

theorem textNames_built {name : String} (hName : IsWord name)
    {arguments : Option (List (String × String))}
    (h : ∀ a ∈ arguments.getD [], IsWord a.1 ∧ IsFreeWord a.2) :
    textNames ("self = " ++ caseText name
        (arguments.map fun arguments => arguments.map fun a => a.1 ++ ": " ++ a.2)) =
      ([], "self" :: (arguments.getD []).map Prod.snd) := by
  have hSelf : tokens "self = ".toList = [.word "self", .mark '='] := by decide
  have hItems : ∀ a ∈ arguments.getD [],
      ItemNames (tokens (a.1 ++ ": " ++ a.2).toList) [] [a.2] := by
    intro a hMem
    obtain ⟨hLabel, hWord, hFree⟩ := h a hMem
    rw [tokens_passed hLabel hWord]
    exact itemNames_passed a.1 hFree
  have hCase := readNames_caseText hName hItems (some (.mark '='))
  rw [List.map_eq_flatMap, textNames, String.toList_append, tokens_append_of_closed (by decide), hSelf]
  simp [readNames, hCase]

/-- In the text of either branch, each line has the names that it should have. -/
theorem caseNames_encode {c : CaseSpec} (h : c.Spelled) :
    caseNames (encodeBranch c).switchCase = (encodeBranch c).lines.map Line.names := by
  have hPattern : textNames (encodeBranch c).switchCase.label =
      ((encodeBranch c).bound.getD [], []) := by
    have hItems : ∀ name ∈ (encodeBranch c).bound.getD [],
        ItemNames (tokens ("let " ++ name).toList) [name] [] := by
      intro name hMem
      rw [encodeBranch_bound] at hMem
      obtain ⟨f, hField, rfl⟩ := List.mem_map.mp hMem
      rw [tokens_bound (h.label f hField).1]
      exact itemNames_bound f.label
    refine (readNames_caseText h.name hItems none).trans ?_
    rw [List.flatMap_singleton', List.flatMap_eq_nil_iff.mpr fun _ _ => rfl]
  have hKey : IsWord discriminatorKey := by decide
  have hWrites : ∀ w ∈ (encodeBranch c).writes.zipIdx, statementNames (.raw w.1.render) =
      Line.names ⟨[], [outer "container", w.1.value.use (w.2 - 1)]⟩ := by
    rintro ⟨w, k⟩ hMem
    rw [statementNames]
    rcases List.mem_cons.mp (List.fst_mem_of_mem_zipIdx hMem) with rfl | hValue
    · refine textNames_write (k - 1) ?_ ?_ hKey
      · intro name hName
        cases hName
      · intro name hName
        cases hName
        exact h.name
    · obtain ⟨f, hField, rfl⟩ := List.mem_map.mp hValue
      refine textNames_write (k - 1) ?_ ?_ (h.label f hField).1
      · intro name hName
        cases hName
        exact h.label f hField
      · intro name hName
        cases hName
  have hStatements : (encodeBranch c).switchCase.statements =
      ((encodeBranch c).writes.zipIdx.map Prod.fst).map fun w => .raw w.render := by
    rw [List.zipIdx_map_fst]
    rfl
  rw [caseNames, hPattern, hStatements, List.map_map, List.map_map, EncodeBranch.lines, List.map_cons,
    List.map_map]
  refine List.cons_eq_cons.mpr ⟨rfl, List.map_congr_left ?_⟩
  intro w hMem
  simp only [Function.comp_apply]
  exact hWrites w hMem

theorem caseNames_decode {c : CaseSpec} (h : c.Spelled) :
    caseNames (decodeBranch c).switchCase = (decodeBranch c).lines.map Line.names := by
  have hPattern : textNames (decodeBranch c).switchCase.label = ([], []) := by
    have hTokens : tokens (decodeBranch c).switchCase.label.toList = [.mark '.', .word c.name] :=
      tokens_caseText_none h.name
    rw [textNames, hTokens]
    simp [readNames]
  have hReads : ∀ r ∈ (decodeBranch c).reads, statementNames (.raw r.render) =
      Line.names ⟨[r.name], [outer "container", outer (typeRoot r.type)]⟩ := by
    intro r hMem
    rw [statementNames]
    obtain ⟨f, hField, rfl⟩ := List.mem_map.mp hMem
    have hLabel := (h.label f hField).1
    exact textNames_read hLabel hLabel rfl (h.type f hField)
  have hArguments : ∀ a ∈ (decodeBranch c).arguments.getD [], IsWord a.1 ∧ IsFreeWord a.2 := by
    intro a hMem
    rw [decodeBranch_arguments] at hMem
    obtain ⟨f, hField, rfl⟩ := List.mem_map.mp hMem
    exact ⟨(h.label f hField).1, h.label f hField⟩
  have hBuilt : textNames ("self = " ++ caseText c.name ((decodeBranch c).arguments.map
      fun arguments => arguments.map fun a => a.1 ++ ": " ++ a.2)) =
      Line.names ⟨[], outer "self" ::
        ((decodeBranch c).arguments.getD []).zipIdx.map fun a => ⟨a.1.2, .value a.2⟩⟩ := by
    have hPassed : ((decodeBranch c).arguments.getD []).map Prod.snd =
        (((decodeBranch c).arguments.getD []).zipIdx.map Prod.fst).map Prod.snd := by
      rw [List.zipIdx_map_fst]
    rw [textNames_built h.name hArguments, hPassed, Line.names, List.map_cons, List.map_map,
      List.map_map]
    rfl
  have hStatements : (decodeBranch c).reads.map (statementNames ∘ fun r => .raw r.render) =
      (decodeBranch c).reads.map (Line.names ∘ fun r =>
        ⟨[r.name], [outer "container", outer (typeRoot r.type)]⟩) := by
    refine List.map_congr_left ?_
    intro r hMem
    simp only [Function.comp_apply]
    exact hReads r hMem
  rw [caseNames, hPattern, DecodeBranch.switchCase, List.map_append, List.map_map, List.map_singleton,
    DecodeBranch.lines, List.map_append, List.map_cons, List.map_map, List.map_singleton, hStatements]
  exact congrArg (fun built => ([], []) :: (_ ++ [built])) hBuilt

/-- Both branches of a case bind the labels of its values. The names in their text are those of their
lines, and each reaches what it means exactly if the labels differ from each other and from the names
that the template uses: `container` in both branches, `SubType` in one and `self` and, from its own
label on, the first name of each type in the other. -/
theorem generate_hygienic_iff (header : TypeHeader) (members : List Decl)
    (hEnum : header.kind = .enumType) :
    (∃ generated, (generate (.type header members)).outcome = .ok generated ∧
        WrittenFrom (outline (validCases members)) (validCases members) generated) ∧
      ∀ c ∈ validCases members,
        (c.Spelled →
          caseNames (encodeBranch c).switchCase = (encodeBranch c).lines.map Line.names ∧
          caseNames (decodeBranch c).switchCase = (decodeBranch c).lines.map Line.names) ∧
        (Hygienic [] (encodeBranch c).lines ↔ (Codec.labels c).Nodup ∧
          "container" ∉ Codec.labels c ∧ "SubType" ∉ Codec.labels c) ∧
        (Hygienic [] (decodeBranch c).lines ↔ (Codec.labels c).Nodup ∧
          "container" ∉ Codec.labels c ∧ "self" ∉ Codec.labels c ∧
          (∀ f ∈ c.fields, Text.plainName f.label ≠ Text.plainName (typeRoot f.type.render)) ∧
          c.fields.Pairwise fun f g =>
            Text.plainName f.label ≠ Text.plainName (typeRoot g.type.render)) := by
  refine ⟨generate_of_enum header members hEnum, ?_⟩
  intro c _
  refine ⟨?_, hygienic_encode_iff c, hygienic_decode_iff c⟩
  exact fun hSpelled => ⟨caseNames_encode hSpelled, caseNames_decode hSpelled⟩

theorem reportCases_spelled : ∀ c ∈ validCases reportMembers, c.Spelled := by
  have hWords : ∀ c ∈ validCases reportMembers, IsWord c.name ∧
      ∀ f ∈ c.fields, IsWord f.label ∧ f.label ≠ "let" ∧ f.label ≠ "try" := by
    rw [validCases_reportMembers]
    decide
  have hTypes : ∀ c ∈ validCases reportMembers, ∀ f ∈ c.fields, IsWordPath f.type := by
    rw [validCases_reportMembers]
    intro c hCase f hField
    rcases List.mem_pair.mp hCase with rfl | rfl
    · rcases List.mem_pair.mp hField with rfl | rfl <;> exact .name ⟨by decide, by decide, by decide⟩
    · cases hField
  exact fun c hCase => ⟨(hWords c hCase).1, (hWords c hCase).2, hTypes c hCase⟩

theorem generate_hygienic_iff_report :
    reportHeader.kind = .enumType ∧ ∀ c ∈ validCases reportMembers,
      Hygienic [] (encodeBranch c).lines ∧ Hygienic [] (decodeBranch c).lines ∧
        caseNames (encodeBranch c).switchCase = (encodeBranch c).lines.map Line.names := by
  obtain ⟨_, hCases⟩ := generate_hygienic_iff reportHeader reportMembers rfl
  refine ⟨rfl, ?_⟩
  intro c hCase
  obtain ⟨hNames, hEncode, hDecode⟩ := hCases c hCase
  refine ⟨hEncode.mpr ?_, hDecode.mpr ?_, (hNames (reportCases_spelled c hCase)).1⟩
  · rw [validCases_reportMembers] at hCase
    rcases List.mem_pair.mp hCase with rfl | rfl <;> decide
  · rw [validCases_reportMembers] at hCase
    rcases List.mem_pair.mp hCase with rfl | rfl <;> decide

/-! ## A label that the template uses -/

def openedMembers : List Decl := [
  .enumCase ⟨[
    ⟨"opened", some [⟨.named "Int" [], some "container", none, none, none⟩], none, none⟩], [], [],
    none⟩]

theorem opened_captures_container :
    (generate (.type reportHeader openedMembers)).diagnostics = [] ∧
      ∃ c, validCases openedMembers = [c] ∧
        (encodeBranch c).switchCase = ⟨".opened(let container)",
          [.raw "try container.encode(SubType.opened, forKey: .type)",
            .raw "try container.encode(container, forKey: .container)"]⟩ ∧
        (decodeBranch c).switchCase = ⟨".opened",
          [.raw "let container = try container.decode(Int.self, forKey: .container)",
            .raw "self = .opened(container: container)"]⟩ ∧
        ¬ Hygienic [] (encodeBranch c).lines ∧ ¬ Hygienic [] (decodeBranch c).lines := by
  refine ⟨rfl, ⟨"opened", some [⟨"container", .named "Int" []⟩]⟩, rfl, rfl, rfl, ?_, ?_⟩
  · decide
  · decide

end SwiftDerive.TaggedUnion
