import Mathlib.Data.List.Basic
import SwiftDerive.Proofs.TaggedUnion.Tokens
import SwiftDerive.TaggedUnion.Members

/-! # What the generated text says

The statements of the generated members are read back from their tokens. When names are words and
types are written without blanks, the members spell the outline that they were written from.
-/

namespace SwiftDerive.TaggedUnion

set_option autoImplicit false

/-! ## Reading statements -/

def behind? (start : String) (ts : List Token) : Option (List Token) :=
  ts.dropPrefix? (tokens start.toList)

theorem behind?_append (start : String) (ts : List Token) :
    behind? start (tokens start.toList ++ ts) = some ts :=
  List.dropPrefix?_append_of_beq ts (beq_self_eq_true _)

def readKey (ts : List Token) : Option String :=
  match behind? ", forKey: ." ts with
  | some [.word key, .mark ')'] => some key
  | _ => none

def readOperand : List Token → Option (Operand × List Token)
  | .word enum :: .mark '.' :: .word name :: rest =>
    if enum = discriminatorEnum then some (.caseName name, rest) else none
  | .word name :: rest => some (.bound name, rest)
  | _ => none

/-- A statement of the form `try container.encode(x, forKey: .k)`. -/
def readWrite (ts : List Token) : Option KeyedWrite := do
  let (value, rest) ← readOperand (← behind? "try container.encode(" ts)
  return ⟨value, ← readKey rest⟩

/-- A statement of the form `let x = try container.decode(T.self, forKey: .k)`. Eight tokens stand
behind the type. -/
def readRead (ts : List Token) : Option KeyedRead :=
  match behind? "let" ts with
  | some (.word name :: rest) => do
    let typed ← behind? "= try container.decode(" rest
    let type := ((typed.take (typed.length - 8)).map Token.text).flatMap String.toList
    let key ← readKey (← behind? ".self" (typed.drop (typed.length - 8)))
    return ⟨name, String.ofList type, key⟩
  | _ => none

def readListed {α : Type} (item : List Token → Option α) (ts : List Token) : Option (List α) :=
  if ts.getLast? = some (.mark ')') then
    if ts.dropLast = [] then some [] else (ts.dropLast.splitOn (.mark ',')).mapM item
  else none

def readCase {α : Type} (item : List Token → Option α) :
    List Token → Option (String × Option (List α))
  | [.mark '.', .word name] => some (name, none)
  | .mark '.' :: .word name :: .mark '(' :: rest =>
    (readListed item rest).map fun items => (name, some items)
  | _ => none

def readBound : List Token → Option String
  | [.word start, .word name] => if start = "let" then some name else none
  | _ => none

def readPassed : List Token → Option (String × String)
  | [.word label, .mark ':', .word name] => some (label, name)
  | _ => none

def readStatement {α : Type} (read : List Token → Option α) : Statement → Option α
  | .raw text => read (tokens text.toList)
  | _ => none

def readEncodeBranch (c : SwitchCase) : Option EncodeBranch := do
  let (name, bound) ← readCase readBound (tokens c.label.toList)
  return ⟨name, bound, ← c.statements.mapM (readStatement readWrite)⟩

/-- A statement of the form `self = .c(l: x, m: y)`. -/
def readBuilt (ts : List Token) : Option (String × Option (List (String × String))) :=
  (behind? "self =" ts).bind (readCase readPassed)

def readDecodeBranch (c : SwitchCase) : Option DecodeBranch := do
  let (built, arguments) ← readStatement readBuilt (← c.statements.getLast?)
  let reads ← c.statements.dropLast.mapM (readStatement readRead)
  if tokens c.label.toList = [.mark '.', .word built] then some ⟨built, reads, arguments⟩ else none

/-- The outline that members spell. The function switches over the value itself, the initializer
over the name that was read. -/
def Outline.read? : List Decl → Option Outline
  | [.type names [.enumCase caseNames], .type codingKeys [.enumCase keys], .function encode,
      .initializer decode] =>
    match encode.body, decode.body with
    | some (.block [_, .branch encoded writers]),
        some (.block [_, .raw tag, .branch decoded readers]) => do
      let writers ← writers.mapM readEncodeBranch
      let tagRead ← readRead (tokens tag.toList)
      let readers ← readers.mapM readDecodeBranch
      if names.name = discriminatorEnum ∧ codingKeys.name = keysEnum ∧ encoded = "self" ∧
          decoded = tagRead.name then
        some ⟨caseNames.elements.map CaseElement.name, keys.elements.map CaseElement.name, writers,
          tagRead, readers⟩
      else none
    | _, _ => none
  | _ => none

/-! ## Reading back what was written -/

theorem toList_closing : ")".toList = [')'] := rfl

theorem tokens_comma_forKey : tokens ", forKey: .".toList =
    [.mark ',', .word "forKey", .mark ':', .mark '.'] := by
  decide

theorem endsWord_forKey (rest : List Char) : EndsWord (", forKey: .".toList ++ rest) :=
  endsWord_append (by decide) (by decide) rest

def keyTokens (key : String) : List Token :=
  [.mark ',', .word "forKey", .mark ':', .mark '.', .word key, .mark ')']

theorem tokens_key {key : String} (h : IsWord key) :
    tokens (", forKey: .".toList ++ (key.toList ++ [')'])) = keyTokens key := by
  rw [tokens_append_of_closed (by decide), tokens_append _ (endsWord_cons rfl _), tokens_word h,
    tokens_mark rfl, tokens_comma_forKey]
  rfl

theorem readKey_keyTokens (key : String) : readKey (keyTokens key) = some key := by
  have hStart : keyTokens key = tokens ", forKey: .".toList ++ [.word key, .mark ')'] := by
    rw [tokens_comma_forKey]
    rfl
  rw [readKey, hStart, behind?_append]
  rfl

theorem tokens_caseName {name : String} (h : IsWord name) :
    tokens (Operand.caseName name).render.toList =
      [.word discriminatorEnum, .mark '.', .word name] := by
  have hEnum : IsWord discriminatorEnum := by decide
  have hText : (Operand.caseName name).render.toList =
      discriminatorEnum.toList ++ '.' :: name.toList := by
    simp [Operand.render]
  rw [hText, tokens_append _ (endsWord_cons rfl _), tokens_mark rfl, tokens_word hEnum, tokens_word h]
  rfl

theorem readOperand_tokens {value : Operand} (rest : List Token)
    (h : ∀ name, value = .caseName name ∨ value = .bound name → IsWord name) :
    readOperand (tokens value.render.toList ++ .mark ',' :: rest) =
      some (value, .mark ',' :: rest) := by
  cases value with
  | caseName name =>
    rw [tokens_caseName (h name (.inl rfl))]
    rfl
  | bound name =>
    rw [Operand.render, tokens_word (h name (.inr rfl))]
    rfl

theorem tokens_write {w : KeyedWrite} (hKey : IsWord w.key) :
    tokens w.render.toList = tokens "try container.encode(".toList ++
      (tokens w.value.render.toList ++ keyTokens w.key) := by
  have hText : w.render.toList = "try container.encode(".toList ++
      (w.value.render.toList ++ (", forKey: .".toList ++ (w.key.toList ++ [')']))) := by
    unfold KeyedWrite.render
    simp only [String.toList_append, List.append_assoc, toList_closing]
  rw [hText, tokens_append_of_closed (by decide), tokens_append _ (endsWord_forKey _), tokens_key hKey]

theorem readWrite_render {w : KeyedWrite}
    (hValue : ∀ name, w.value = .caseName name ∨ w.value = .bound name → IsWord name)
    (hKey : IsWord w.key) : readWrite (tokens w.render.toList) = some w := by
  have hOperand := readOperand_tokens (keyTokens w.key).tail hValue
  have hRead := readKey_keyTokens w.key
  rw [readWrite, tokens_write hKey, behind?_append]
  change (readOperand (tokens w.value.render.toList ++ .mark ',' :: (keyTokens w.key).tail)).bind _ = _
  rw [hOperand, Option.bind_some]
  change (readKey (keyTokens w.key)).bind (fun key => some ⟨w.value, key⟩) = some w
  rw [hRead, Option.bind_some]

theorem tokens_self : tokens ".self".toList = [.mark '.', .word "self"] := by
  decide

theorem tokens_read {r : KeyedRead} (hName : IsWord r.name) (hKey : IsWord r.key) :
    tokens r.render.toList = tokens "let".toList ++ .word r.name ::
      (tokens "= try container.decode(".toList ++
        (tokens r.type.toList ++ (tokens ".self".toList ++ keyTokens r.key))) := by
  have hSelf : ".self, forKey: .".toList = ".self".toList ++ ", forKey: .".toList := rfl
  have hText : r.render.toList = "let ".toList ++ (r.name.toList ++
      (" = try container.decode(".toList ++ (r.type.toList ++
        (".self".toList ++ (", forKey: .".toList ++ (r.key.toList ++ [')'])))))) := by
    unfold KeyedRead.render
    simp only [String.toList_append, List.append_assoc, toList_closing, hSelf]
  have hLet : tokens "let ".toList = tokens "let".toList := by decide
  have hDecode : tokens " = try container.decode(".toList =
      tokens "= try container.decode(".toList := by decide
  rw [hText, tokens_append_of_closed (by decide), hLet,
    tokens_append _ (endsWord_append (by decide) (by decide) _), tokens_word hName,
    tokens_append_of_closed (by decide), hDecode,
    tokens_append _ (endsWord_append (by decide) (by decide) _),
    tokens_append _ (endsWord_forKey _), tokens_key hKey]
  rfl

theorem readRead_render {r : KeyedRead} (hName : IsWord r.name) (hType : ' ' ∉ r.type.toList)
    (hKey : IsWord r.key) : readRead (tokens r.render.toList) = some r := by
  have hTail : (tokens ".self".toList ++ keyTokens r.key).length = 8 := by
    rw [tokens_self]
    rfl
  have hLength : (tokens r.type.toList ++ (tokens ".self".toList ++ keyTokens r.key)).length - 8 =
      (tokens r.type.toList).length := by
    rw [List.length_append, hTail, Nat.add_sub_cancel]
  have hTypeText := text_tokensFrom [] hType
  rw [tokens_read hName hKey, readRead, behind?_append]
  simp only [behind?_append, Option.bind_eq_bind, Option.bind_some, hLength, List.take_left,
    List.drop_left, readKey_keyTokens]
  rw [tokens, hTypeText, List.nil_append, String.ofList_toList]
  rfl

/-! ## Reading back cases -/

theorem mapM_map_eq_some {α β : Type} {f : α → β} {g : β → Option α} {items : List α}
    (h : ∀ item ∈ items, g (f item) = some item) : (items.map f).mapM g = some items := by
  induction items with
  | nil => rfl
  | cons item items ih =>
    obtain ⟨hHead, hTail⟩ := List.forall_mem_cons.mp h
    rw [List.map_cons, List.mapM_cons, hHead, ih hTail]
    rfl

theorem tokens_listed (texts : List String) :
    tokens ((commaSeparated texts).toList ++ [')']) =
      [Token.mark ','].intercalate (texts.map fun text => tokens text.toList) ++ [.mark ')'] := by
  rw [commaSeparated, String.toList_intercalate]
  induction texts with
  | nil => rfl
  | cons text texts ih =>
    cases texts with
    | nil =>
      simp only [List.map_cons, List.map_nil, List.intercalate_singleton]
      rw [tokens_append _ (endsWord_cons rfl _), tokens_mark rfl]
      rfl
    | cons text' texts =>
      have hSeparator : ", ".toList = [',', ' '] := rfl
      simp only [List.map_cons, List.intercalate_cons_cons, List.append_assoc, hSeparator,
        List.cons_append, List.nil_append] at ih ⊢
      rw [tokens_append _ (endsWord_cons rfl _), tokens_mark rfl, tokens_blank, ih]

structure SpellsItem {α : Type} (item : List Token → Option α) (a : α) (ts : List Token) :
    Prop where
  read : item ts = some a
  noComma : Token.mark ',' ∉ ts
  nonempty : ts ≠ []

theorem readListed_tokens {α : Type} {item : List Token → Option α} {spell : α → List Token}
    {items : List α} (h : ∀ a ∈ items, SpellsItem item a (spell a)) :
    readListed item ([Token.mark ','].intercalate (items.map spell) ++ [.mark ')']) =
      some items := by
  rw [readListed, List.getLast?_concat, if_pos rfl, List.dropLast_concat]
  cases items with
  | nil => rfl
  | cons a items =>
    -- Without tokens the first item would be taken for no item at all.
    have hNe : [Token.mark ','].intercalate ((a :: items).map spell) ≠ [] := by
      intro hNil
      have hHead : spell a = [] := by
        cases items with
        | nil => simpa using hNil
        | cons a' items =>
          rw [List.map_cons, List.map_cons, List.intercalate_cons_cons, List.append_assoc,
            List.append_eq_nil_iff] at hNil
          exact hNil.1
      exact (h a List.mem_cons_self).nonempty hHead
    rw [if_neg hNe, List.splitOn_intercalate]
    · exact mapM_map_eq_some fun a' hItem => (h a' hItem).read
    · intro ts hMem
      obtain ⟨a', hItem, rfl⟩ := List.mem_map.mp hMem
      exact (h a' hItem).noComma
    · exact List.cons_ne_nil _ _

theorem toList_dot : ".".toList = ['.'] := rfl

theorem tokens_caseText_none {name : String} (hName : IsWord name) :
    tokens (caseText name none).toList = [.mark '.', .word name] := by
  simp only [caseText, String.toList_append, toList_dot, String.toList_empty, List.append_nil,
    List.singleton_append]
  rw [tokens_mark rfl, tokens_word hName]

theorem tokens_caseText_some {name : String} (hName : IsWord name) (items : List String) :
    tokens (caseText name (some items)).toList = .mark '.' :: .word name :: .mark '(' ::
      ([Token.mark ','].intercalate (items.map fun item => tokens item.toList) ++
        [.mark ')']) := by
  have hOpen : "(".toList = ['('] := rfl
  simp only [caseText, String.toList_append, toList_dot, hOpen, toList_closing, List.cons_append,
    List.nil_append]
  rw [tokens_mark rfl, tokens_append _ (endsWord_cons rfl _), tokens_word hName, tokens_mark rfl,
    tokens_listed]
  rfl

theorem readCase_caseText {α : Type} {item : List Token → Option α} {write : α → String}
    {name : String} (hName : IsWord name) {items : Option (List α)}
    (h : ∀ as, items = some as → ∀ a ∈ as, SpellsItem item a (tokens (write a).toList)) :
    readCase item (tokens (caseText name (items.map fun as => as.map write)).toList) =
      some (name, items) := by
  cases items with
  | none =>
    rw [Option.map_none, tokens_caseText_none hName]
    rfl
  | some as =>
    have hListed := readListed_tokens (h as rfl)
    rw [Option.map_some, tokens_caseText_some hName, List.map_map, readCase]
    exact congrArg (Option.map fun items => (name, some items)) hListed

theorem tokens_bound {name : String} (h : IsWord name) :
    tokens ("let " ++ name).toList = [.word "let", .word name] := by
  have hLet : tokens "let ".toList = [.word "let"] := by decide
  rw [String.toList_append, tokens_append_of_closed (by decide), hLet, tokens_word h]
  rfl

theorem spellsItem_bound {name : String} (h : IsWord name) :
    SpellsItem readBound name (tokens ("let " ++ name).toList) := by
  rw [tokens_bound h]
  exact ⟨rfl, by simp, by simp⟩

theorem tokens_passed {a : String × String} (hLabel : IsWord a.1) (hName : IsWord a.2) :
    tokens (a.1 ++ ": " ++ a.2).toList = [.word a.1, .mark ':', .word a.2] := by
  have hColon : tokens ": ".toList = [.mark ':'] := by decide
  rw [String.toList_append, String.toList_append, List.append_assoc,
    tokens_append _ (endsWord_append (by decide) (by decide) _),
    tokens_append_of_closed (by decide), hColon, tokens_word hLabel, tokens_word hName]
  rfl

theorem spellsItem_passed {a : String × String} (hLabel : IsWord a.1) (hName : IsWord a.2) :
    SpellsItem readPassed a (tokens (a.1 ++ ": " ++ a.2).toList) := by
  rw [tokens_passed hLabel hName]
  exact ⟨rfl, by simp, by simp⟩

/-! ## Reading back members -/

/-- The names of the case are words, and the types of its values have no blank in them. -/
structure CaseSpec.Plain (c : CaseSpec) : Prop where
  name : IsWord c.name
  label : ∀ f ∈ c.fields, IsWord f.label
  type : ∀ f ∈ c.fields, ' ' ∉ f.type.render.toList

theorem readEncodeBranch_switchCase {c : CaseSpec} (h : c.Plain) :
    readEncodeBranch (encodeBranch c).switchCase = some (encodeBranch c) := by
  have hCase : readCase readBound (tokens (encodeBranch c).switchCase.label.toList) =
      some (c.name, (encodeBranch c).bound) := by
    apply readCase_caseText h.name
    intro names hNames name hMem
    obtain ⟨fields, hFields, rfl⟩ := Option.map_eq_some_iff.mp hNames
    obtain ⟨f, hField, rfl⟩ := List.mem_map.mp hMem
    exact spellsItem_bound (h.label f (by rwa [CaseSpec.fields, hFields]))
  have hWrites : (encodeBranch c).switchCase.statements.mapM (readStatement readWrite) =
      some (encodeBranch c).writes := by
    apply mapM_map_eq_some
    intro w hMem
    have hType : IsWord discriminatorKey := by decide
    rcases List.mem_cons.mp hMem with rfl | hMem
    · refine readWrite_render ?_ hType
      rintro name (hName | hName)
      · cases hName
        exact h.name
      · cases hName
    · obtain ⟨f, hField, rfl⟩ := List.mem_map.mp hMem
      refine readWrite_render ?_ (h.label f hField)
      rintro name (hName | hName)
      · cases hName
      · cases hName
        exact h.label f hField
  rw [readEncodeBranch, hCase, Option.bind_eq_bind, Option.bind_some]
  simp only [hWrites]
  rfl

theorem readDecodeBranch_switchCase {c : CaseSpec} (h : c.Plain) :
    readDecodeBranch (decodeBranch c).switchCase = some (decodeBranch c) := by
  have hCase : readCase readPassed (tokens (caseText c.name ((decodeBranch c).arguments.map
      fun arguments => arguments.map fun a => a.1 ++ ": " ++ a.2)).toList) =
      some (c.name, (decodeBranch c).arguments) := by
    apply readCase_caseText h.name
    intro arguments hSome a hMem
    obtain ⟨fields, hFields, rfl⟩ := Option.map_eq_some_iff.mp hSome
    obtain ⟨f, hField, rfl⟩ := List.mem_map.mp hMem
    have hLabel := h.label f (by rwa [CaseSpec.fields, hFields])
    exact spellsItem_passed hLabel hLabel
  have hBuilt : readBuilt (tokens ("self = " ++ caseText c.name ((decodeBranch c).arguments.map
      fun arguments => arguments.map fun a => a.1 ++ ": " ++ a.2)).toList) =
      some (c.name, (decodeBranch c).arguments) := by
    have hStart : tokens "self = ".toList = tokens "self =".toList := by decide
    rw [readBuilt, String.toList_append, tokens_append_of_closed (by decide), hStart,
      behind?_append, Option.bind_some, hCase]
  have hReads : ((decodeBranch c).reads.map fun r => Statement.raw r.render).mapM
      (readStatement readRead) = some (decodeBranch c).reads := by
    apply mapM_map_eq_some
    intro r hMem
    obtain ⟨f, hField, rfl⟩ := List.mem_map.mp hMem
    exact readRead_render (h.label f hField) (h.type f hField) (h.label f hField)
  have hLabel : tokens (decodeBranch c).switchCase.label.toList = [.mark '.', .word c.name] :=
    tokens_caseText_none h.name
  rw [readDecodeBranch, hLabel, DecodeBranch.switchCase, List.getLast?_concat,
    List.dropLast_concat, hReads, Option.bind_eq_bind, Option.bind_some]
  change (readBuilt (tokens ("self = " ++ caseText c.name ((decodeBranch c).arguments.map
    fun arguments => arguments.map fun a => a.1 ++ ": " ++ a.2)).toList)).bind _ = _
  rw [hBuilt, Option.bind_some]
  exact if_pos rfl

/-- The members for cases with plain names spell the outline of the cases. -/
theorem read?_members {cases : List CaseSpec} (h : ∀ c ∈ cases, c.Plain) (isPublic : Bool) :
    Outline.read? ((outline cases).members isPublic) = some (outline cases) := by
  have hWriters : ((outline cases).writers.map EncodeBranch.switchCase).mapM readEncodeBranch =
      some (outline cases).writers := by
    apply mapM_map_eq_some
    intro b hMem
    obtain ⟨c, hCase, rfl⟩ := List.mem_map.mp hMem
    exact readEncodeBranch_switchCase (h c hCase)
  have hReaders : ((outline cases).readers.map DecodeBranch.switchCase).mapM readDecodeBranch =
      some (outline cases).readers := by
    apply mapM_map_eq_some
    intro b hMem
    obtain ⟨c, hCase, rfl⟩ := List.mem_map.mp hMem
    exact readDecodeBranch_switchCase (h c hCase)
  have hTag : readRead (tokens (outline cases).tagRead.render.toList) =
      some (outline cases).tagRead :=
    readRead_render (by decide : IsWord "subtype") (by decide : ' ' ∉ discriminatorEnum.toList)
      (by decide : IsWord discriminatorKey)
  have hElements : ∀ names : List String,
      (Construct.caseList names).elements.map CaseElement.name = names := by
    intro names
    simp [Construct.caseList, Function.comp_def]
  simp only [Outline.members, namesEnum, Outline.read?, Outline.encodeDecl, Outline.decodeDecl,
    hWriters, hTag, hReaders, hElements, Construct.typeHeader]
  rfl

end SwiftDerive.TaggedUnion
