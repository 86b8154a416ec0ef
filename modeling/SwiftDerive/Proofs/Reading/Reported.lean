import SwiftDerive.Proofs.Reading.Positions

/-! # Reported places

What a reading of a text reports is in the lines and columns of the given text, and lines that a holder
puts before it do not count.
-/

namespace SwiftDerive.Grammar.Source

set_option autoImplicit false

open Text

/-- The place of a node, told from the characters before it and from its row and column of bytes
alike. -/
structure Locates (src : Source) (n : Node) (p : Position) : Prop where
  characters : src.position n = p
  bytes : src.placeOf (pointAt (encodeUtf8 src.content) n.start) = some p

theorem locates {src : Source} {n : Node} {front rest : List Char}
    (hContent : src.content = front ++ rest) (hStart : n.StartsBehind front) :
    src.Locates n ⟨(place front).line - src.lineOffset, (place front).column⟩ := by
  have hPosition := position_eq_place hContent hStart
  constructor
  · exact hPosition
  · rw [placeOf_pointAt hContent hStart, hPosition]

end SwiftDerive.Grammar.Source

namespace SwiftDerive.Reading

set_option autoImplicit false

open Grammar

def bare (text : String) : Source := ⟨text.toList, 0⟩

/-- The texts that are read for a declaration, each with its tree. -/
def readings (text : String) : List Node → List (Source × Node)
  | [] => []
  | tree :: others => (bare text, tree) :: (holders.map (held · text)).zip others

theorem exists_header {holder : String} (hHolder : holder ∈ holders) :
    ∃ header, '\n' ∉ header ∧ (holder ++ "\n").toList = header ++ ['\n'] := by
  refine ⟨holder.toList, ?_, String.toList_append⟩
  have hAll : ∀ holder ∈ holders, '\n' ∉ holder.toList := by decide +kernel
  exact hAll holder hHolder

theorem locates_bare {text : String} {i : Nat} {n : Node}
    (hStart : n.StartsBehind (text.toList.take i)) :
    (bare text).Locates n (place (text.toList.take i)) := by
  have hContent : (bare text).content = text.toList.take i ++ text.toList.drop i :=
    (List.take_append_drop i text.toList).symm
  have hLocates := Source.locates hContent hStart
  simpa [bare] using hLocates

theorem locates_held {text holder : String} (hHolder : holder ∈ holders) {i : Nat} {n : Node}
    (hStart : n.StartsBehind ((holder ++ "\n").toList ++ text.toList.take i)) :
    (held holder text).Locates n (place (text.toList.take i)) := by
  obtain ⟨header, hHeader, hLine⟩ := exists_header hHolder
  have hContent : (held holder text).content =
      ((holder ++ "\n").toList ++ text.toList.take i) ++ (text.toList.drop i ++ "\n\x7d".toList) := by
    rw [List.append_assoc, ← List.append_assoc (text.toList.take i), List.take_append_drop, held,
      String.toList_append, String.toList_append, List.append_assoc]
  have hLocates := Source.locates hContent hStart
  rw [hLine, List.append_assoc, List.singleton_append, place_append_newline hHeader] at hLocates
  simpa [held] using hLocates

/-! ## Source files and declarations -/

def ErrorAmong (rs : List (Source × Node)) (e : ParseError) : Prop :=
  ∃ r ∈ rs, ErrorOf r.1 (· ∈ r.2.preorder) e

def LocatedAmong (rs : List (Source × Node)) (d : Decl) : Prop :=
  ∃ r ∈ rs, LocatedThroughout r.1 (· ∈ r.2.preorder) d

theorem ErrorAmong.mono {rs others : List (Source × Node)} (hSubset : rs ⊆ others) {e : ParseError}
    (h : ErrorAmong rs e) : ErrorAmong others e :=
  h.imp fun _ ⟨hMem, hError⟩ => ⟨hSubset hMem, hError⟩

theorem LocatedAmong.mono {rs others : List (Source × Node)} (hSubset : rs ⊆ others) {d : Decl}
    (h : LocatedAmong rs d) : LocatedAmong others d :=
  h.imp fun _ ⟨hMem, hLocated⟩ => ⟨hSubset hMem, hLocated⟩

theorem meets_checked (src : Source) (tree : Node) :
    Meets (ErrorOf src (· ∈ tree.preorder)) (· = tree) (checked src tree) := by
  rw [checked]
  split
  · exact errorOf_error (tree.closed_preorder.firstError tree.self_mem_preorder)
  · rfl

theorem located_declAt_preorder (src : Source) {tree n : Node} (hNode : n ∈ tree.preorder) :
    Meets (ErrorOf src (· ∈ tree.preorder)) (LocatedThroughout src (· ∈ tree.preorder))
      (declAt src n) :=
  (located_declAt tree.closed_preorder hNode).imp (fun _ hError => hError) fun _ h => h.right

theorem locatedAmong_declAt (src : Source) (rs : List (Source × Node)) {tree n : Node}
    (hNode : n ∈ tree.preorder) :
    Meets (ErrorAmong ((src, tree) :: rs)) (LocatedAmong ((src, tree) :: rs)) (declAt src n) :=
  (located_declAt_preorder src hNode).imp
    (fun _ hError => ⟨_, List.mem_cons_self, hError⟩)
    fun _ hLocated => ⟨_, List.mem_cons_self, hLocated⟩

theorem mem_preorder_of_mem_parts {tree n : Node} (hPart : n ∈ tree.parts) : n ∈ tree.preorder :=
  tree.closed_preorder.part tree.self_mem_preorder hPart

theorem located_parseSourceFile (text : String) (tree : Node) :
    Meets (ErrorOf (bare text) (· ∈ tree.preorder))
      (fun file => ∀ d ∈ file.declarations,
        LocatedThroughout (bare text) (· ∈ tree.preorder) d)
      (parseSourceFile text tree) := by
  refine (meets_checked (bare text) tree).bind fun root hRoot => ?_
  subst hRoot
  have hParts : Meets (ErrorOf (bare text) (· ∈ root.preorder))
      (fun ds => ∀ d ∈ ds, LocatedThroughout (bare text) (· ∈ root.preorder) d)
      (root.parts.mapM (declAt (bare text))) :=
    Meets.mapM fun n hPart => located_declAt_preorder _ (mem_preorder_of_mem_parts hPart)
  exact hParts.bind fun ds hLocated => hLocated

theorem mem_preorder_of_onlyMember? {tree n : Node} (hMember : onlyMember? tree = some n) :
    n ∈ tree.preorder := by
  rw [onlyMember?] at hMember
  split at hMember
  · next holder hParts =>
    split at hMember
    · next body hBody =>
      split at hMember
      · next only hOnly =>
        obtain rfl : only = n := Option.some.inj hMember
        have hHolder : holder ∈ tree.preorder :=
          mem_preorder_of_mem_parts (hParts ▸ List.mem_cons_self)
        have hInside := tree.closed_preorder.part hHolder (List.mem_of_find?_eq_some hBody)
        exact tree.closed_preorder.part hInside (hOnly ▸ List.mem_cons_self)
      · cases hMember
    · cases hMember
  · cases hMember

theorem located_member (text : String) (hs : List String) (trees : List Node) :
    Meets (ErrorAmong ((hs.map (held · text)).zip trees))
      (fun found => ∀ d, found = some d → LocatedAmong ((hs.map (held · text)).zip trees) d)
      (member text hs trees) := by
  induction hs generalizing trees with
  | nil => exact nofun
  | cons holder hs ih =>
    cases trees with
    | nil => exact nofun
    | cons tree trees =>
      have hSubset : (hs.map (held · text)).zip trees ⊆
          ((holder :: hs).map (held · text)).zip (tree :: trees) :=
        fun r hMem => List.mem_cons_of_mem _ hMem
      have hLater := (ih trees).imp (fun e hError => ErrorAmong.mono hSubset hError)
        fun found hFound d hSome => LocatedAmong.mono hSubset (hFound d hSome)
      rw [member]
      split
      · exact hLater
      · split
        · next node hMember =>
          refine (locatedAmong_declAt _ _ (mem_preorder_of_onlyMember? hMember)).map ?_
          rintro d hLocated _ ⟨⟩
          exact hLocated
        · exact hLater

def Reported (text : String) (trees : List Node) (e : ParseError) : Prop :=
  e = ⟨.noDeclaration, ⟨1, 1⟩⟩ ∨
    ∃ r ∈ readings text trees, PlaceOf r.1 (· ∈ r.2.preorder) e.position

theorem ErrorAmong.reported {text : String} {trees : List Node} {e : ParseError}
    (h : ErrorAmong (readings text trees) e) : Reported text trees e := by
  obtain ⟨r, hMem, n, hNode, rfl⟩ := h
  exact .inr ⟨r, hMem, n, hNode, rfl⟩

theorem located_parseDeclaration (text : String) (trees : List Node) :
    Meets (Reported text trees) (LocatedAmong (readings text trees))
      (parseDeclaration text trees) := by
  cases trees with
  | nil => exact .inl rfl
  | cons tree others =>
    have hSubset : (holders.map (held · text)).zip others ⊆ readings text (tree :: others) :=
      fun r hMem => List.mem_cons_of_mem _ hMem
    have hMember : Meets (Reported text (tree :: others))
        (fun found => ∀ d, found = some d → LocatedAmong (readings text (tree :: others)) d)
        (member text holders others) := by
      refine (located_member text holders others).imp (fun e hError => ?_) fun found hFound d hSome =>
        LocatedAmong.mono hSubset (hFound d hSome)
      exact (ErrorAmong.mono hSubset hError).reported
    have hOwn {n : Node} (hNode : n ∈ tree.preorder) : Meets (Reported text (tree :: others))
        (LocatedAmong (readings text (tree :: others))) (declAt (bare text) n) := by
      have hHead : Meets (ErrorAmong (readings text (tree :: others)))
          (LocatedAmong (readings text (tree :: others))) (declAt (bare text) n) :=
        locatedAmong_declAt (bare text) _ hNode
      exact hHead.imp (fun e hError => hError.reported) fun d hLocated => hLocated
    have hChecked := meets_checked (bare text) tree
    rw [parseDeclaration, ← bare]
    -- A broken text is reported by its own error only if no holder makes a declaration of it.
    cases hRoot : checked (bare text) tree with
    | error e =>
      rw [hRoot] at hChecked
      have hAmong : ErrorAmong (readings text (tree :: others)) e :=
        ⟨_, List.mem_cons_self, hChecked⟩
      dsimp only
      split
      · next d hFound =>
        rw [hFound] at hMember
        exact hMember d rfl
      · exact hAmong.reported
      · next e hFailed =>
        rw [hFailed] at hMember
        exact hMember
    | ok root =>
      rw [hRoot] at hChecked
      obtain rfl : root = tree := hChecked
      dsimp only
      split
      · exact .inl rfl
      · next n hParts =>
        have hNode := hOwn (mem_preorder_of_mem_parts (hParts ▸ List.mem_cons_self))
        split
        · exact hNode
        · split
          · next e hFailed =>
            rw [hFailed] at hMember
            exact hMember
          · next d hFound =>
            rw [hFound] at hMember
            split
            · exact hNode
            · exact hMember d rfl
          · exact hNode
      · next first second rest hParts =>
        have hSecond : second ∈ root.parts :=
          hParts ▸ List.mem_cons_of_mem first List.mem_cons_self
        exact .inr ⟨_, List.mem_cons_self, second, mem_preorder_of_mem_parts hSecond, rfl⟩

/-- What is reported of a text has the place of a node, and a node that starts with a character of the
text has the place of that character, whether the text is read by itself or in a holder. -/
theorem reported_in_text (text : String) :
    (∀ i n, n.StartsBehind (text.toList.take i) →
      (bare text).Locates n (place (text.toList.take i))) ∧
    (∀ holder ∈ holders, ∀ i n,
      n.StartsBehind ((holder ++ "\n").toList ++ text.toList.take i) →
        (held holder text).Locates n (place (text.toList.take i))) ∧
    (∀ tree : Node,
      Meets (ErrorOf (bare text) (· ∈ tree.preorder))
        (fun file => ∀ d ∈ file.declarations,
          LocatedThroughout (bare text) (· ∈ tree.preorder) d)
        (parseSourceFile text tree)) ∧
    ∀ trees : List Node,
      Meets (Reported text trees) (LocatedAmong (readings text trees))
        (parseDeclaration text trees) := by
  refine ⟨?_, ?_, ?_, ?_⟩
  · exact fun i n hStart => locates_bare hStart
  · exact fun holder hHolder i n hStart => locates_held hHolder hStart
  · exact fun tree => located_parseSourceFile text tree
  · exact fun trees => located_parseDeclaration text trees

def equalsSign (start : Nat) : Node :=
  ⟨"=", false, false, false, false, start, start + 1, []⟩

theorem reported_in_text_wide :
    (equalsSign 8).StartsBehind ("é\n𝕏 = 1".toList.take 4) ∧
      (bare "é\n𝕏 = 1").Locates (equalsSign 8) ⟨2, 3⟩ ∧
      (equalsSign 26).StartsBehind
        (("protocol Holder \x7b" ++ "\n").toList ++ "é\n𝕏 = 1".toList.take 4) ∧
      (held "protocol Holder \x7b" "é\n𝕏 = 1").Locates (equalsSign 26) ⟨2, 3⟩ := by
  obtain ⟨hBare, hHeld, -, -⟩ := reported_in_text "é\n𝕏 = 1"
  refine ⟨rfl, ?_, rfl, ?_⟩
  · exact hBare 4 (equalsSign 8) rfl
  · exact hHeld "protocol Holder \x7b" (by decide) 4 (equalsSign 26) rfl

/-! ## Types -/

/-- The column of the first line is that in the given text; in a later line it is too far to the left
by the length of what stands before the type, but in the first column at least. -/
theorem behindHolder_place (cs : List Char) :
    behindHolder (place (typeHolder.toList ++ cs)) =
      ⟨(place cs).line,
        if '\n' ∈ cs then max 1 ((place cs).column - typeHolder.length) else (place cs).column⟩ := by
  have hHeader : '\n' ∉ typeHolder.toList := by decide +kernel
  have hLength : typeHolder.toList.length = typeHolder.length := String.length_toList
  have hColumn := one_le_column cs
  rw [place_append hHeader, behindHolder, hLength, Position.mk.injEq]
  refine ⟨rfl, ?_⟩
  dsimp only
  split
  · rfl
  · omega

theorem behindHolder_place_iff (cs : List Char) :
    behindHolder (place (typeHolder.toList ++ cs)) = place cs ↔
      '\n' ∉ cs ∨ (place cs).column = 1 := by
  have hColumn := one_le_column cs
  have hLength : (typeHolder.length : Int) = 21 := rfl
  have hSame (c : Int) : (⟨(place cs).line, c⟩ : Position) = place cs ↔ c = (place cs).column :=
    ⟨fun hPlace => congrArg Position.column hPlace, fun hC => hC ▸ rfl⟩
  rw [behindHolder_place, hSame, hLength]
  by_cases hBroken : '\n' ∈ cs
  · rw [if_pos hBroken, or_iff_right (not_not_intro hBroken)]
    constructor
    · intro hKept
      omega
    · intro hFirst
      omega
  · rw [if_neg hBroken]
    exact iff_of_true rfl (.inl hBroken)

/-- The error of a tree that is read for a type is that of its first offending node. It has the place
of the node in the given text exactly if the node starts in the first line or in the first column. -/
theorem parseType_error_place {text : String} {tree : Node} (hError : tree.hasError = true) {i : Nat}
    (hStart : tree.firstError.StartsBehind (typeHolder.toList ++ text.toList.take i)) :
    ∃ e, parseType text tree = .error e ∧
      e.fault = ((typeSource text).error tree.firstError).fault ∧
      e.position = ⟨(place (text.toList.take i)).line,
        if '\n' ∈ text.toList.take i then
          max 1 ((place (text.toList.take i)).column - typeHolder.length)
        else (place (text.toList.take i)).column⟩ ∧
      (e.position = place (text.toList.take i) ↔
        '\n' ∉ text.toList.take i ∨ (place (text.toList.take i)).column = 1) := by
  have hContent : (typeSource text).content =
      (typeHolder.toList ++ text.toList.take i) ++ (text.toList.drop i ++ ") \x7b\x7d".toList) := by
    rw [List.append_assoc, ← List.append_assoc (text.toList.take i), List.take_append_drop,
      typeSource, String.toList_append, String.toList_append, List.append_assoc]
  have hPosition : (typeSource text).position tree.firstError =
      place (typeHolder.toList ++ text.toList.take i) := by
    simpa [typeSource] using position_eq_place hContent hStart
  have hParse : parseType text tree =
      .error ⟨((typeSource text).error tree.firstError).fault,
        behindHolder ((typeSource text).position tree.firstError)⟩ := by
    rw [parseType, checked, hError]
    rfl
  rw [hPosition] at hParse
  refine ⟨_, hParse, rfl, ?_, ?_⟩
  · exact behindHolder_place _
  · exact behindHolder_place_iff _

def brokenDictionary : Node :=
  ⟨"source_file", true, false, false, true, 0, 32,
    [⟨"function_declaration", true, false, false, true, 0, 32,
      [⟨"dictionary_type", true, false, false, true, 21, 28,
        [⟨"]", false, true, false, true, 28, 28, []⟩]⟩]⟩]⟩

theorem parseType_error_place_broken :
    brokenDictionary.hasError = true ∧
      brokenDictionary.firstError.StartsBehind (typeHolder.toList ++ "[A:\n  B".toList.take 7) ∧
      ∃ e, parseType "[A:\n  B" brokenDictionary = .error e ∧ e.fault = .missing "]" ∧
        e.position = ⟨2, 1⟩ := by
  refine ⟨rfl, rfl, ?_⟩
  obtain ⟨e, hParse, hFault, hPosition, -⟩ :=
    @parseType_error_place "[A:\n  B" brokenDictionary rfl 7 rfl
  exact ⟨e, hParse, hFault, hPosition⟩

theorem parseType_misplaces_broken :
    ¬ ∀ (text : String) (tree : Node) (i : Nat), tree.hasError = true →
      tree.firstError.StartsBehind (typeHolder.toList ++ text.toList.take i) →
        ∃ e, parseType text tree = .error e ∧ e.position = place (text.toList.take i) := by
  intro hClaim
  obtain ⟨e, hParse, hPosition⟩ := hClaim "[A:\n  B" brokenDictionary 7 rfl rfl
  have hRead : parseType "[A:\n  B" brokenDictionary = .error ⟨.missing "]", ⟨2, 1⟩⟩ := rfl
  have hPlace : place ("[A:\n  B".toList.take 7) = ⟨2, 4⟩ := rfl
  rw [hRead] at hParse
  cases hParse
  rw [hPlace] at hPosition
  cases hPosition

end SwiftDerive.Reading
