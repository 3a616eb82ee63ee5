import Mathlib
import PlaceholderTyping.Proofs.Edit.Refusal
import PlaceholderTyping.Proofs.Normalization.EditedSource

/-!
# Spellings in the source

The text that an edit takes away is not looked up in the source. It is built again from the name of
the marker, which has lost the dots between its parts and the doubling of its quotes. The main
statement says for which names this gives the text in the source, and what becomes of the edits if
it does and if it does not.
-/

namespace PlaceholderTyping

/-- If two texts end with a character and have it equally often, neither is a proper beginning of
the other. -/
theorem eq_of_prefix_of_count_eq {α : Type} [DecidableEq α] {left right : List α} {last : α}
    (isPrefix : left ++ [last] <+: right ++ [last])
    (sameCount : left.count last = right.count last) : left = right := by
  rcases isPrefix with ⟨surplus, split⟩
  rcases List.eq_nil_or_concat surplus with rfl | ⟨middle, final, rfl⟩
  · rw [List.append_nil] at split
    exact List.append_cancel_right split
  · rw [List.concat_eq_append, ← List.append_assoc] at split
    rcases List.append_inj' split rfl with ⟨rfl, -⟩
    simp only [List.count_append, List.count_singleton_self] at sameCount
    omega

/-! ## Written names -/

inductive WrittenName where
  | path (parts : List String)
  | literal (content : String)

namespace WrittenName

def node (location : Nat) : WrittenName → Node
  | path parts => .column { fields := parts.map .text, location }
  | literal content => .constant (.text content) location

def literalCharacter (character : Char) : List Char :=
  if character = '\'' then ['\'', '\''] else [character]

def spelling : WrittenName → String
  | path parts => ".".intercalate parts
  | literal content => "'" ++ String.ofList (content.toList.flatMap literalCharacter) ++ "'"

/-- The name in the text that an edit takes away. -/
def rebuilt : WrittenName → String
  | path parts => String.join parts
  | literal content => "'" ++ content ++ "'"

def IsPlain : WrittenName → Prop
  | path parts => parts.length ≤ 1
  | literal content => '\'' ∉ content.toList

/-- The name has something else than dots behind a dot, or a quote in a literal. -/
def IsMangled : WrittenName → Prop
  | path parts => ∃ part ∈ parts.tail, ∃ character ∈ part.toList, character ≠ '.'
  | literal content => '\'' ∈ content.toList

/-! ## Identifiers without their dots -/

theorem toList_spelling_path (first : String) (rest : List String) :
    (path (first :: rest)).spelling.toList =
      first.toList ++ rest.flatMap fun part => '.' :: part.toList := by
  rw [spelling]
  induction rest generalizing first with
  | nil => simp
  | cons second rest induction =>
      rw [String.intercalate_cons_cons, String.toList_append, String.toList_append, induction,
        List.flatMap_cons, List.append_assoc]
      rfl

theorem toList_rebuilt_path (first : String) (rest : List String) :
    (path (first :: rest)).rebuilt.toList = first.toList ++ rest.flatMap String.toList := by
  rw [rebuilt, String.toList_join, List.flatMap_cons]

theorem length_flatMap_dotted (parts : List String) :
    (parts.flatMap fun part => '.' :: part.toList).length =
      (parts.flatMap String.toList).length + parts.length := by
  induction parts with
  | nil => rfl
  | cons part rest induction =>
      simp only [List.flatMap_cons, List.length_append, List.length_cons, induction]
      omega

/-- With the dots, the first character that is not a dot stands further behind. -/
theorem findIdx_lt_findIdx_dotted {parts : List String}
    (hasOther : ∃ part ∈ parts, ∃ character ∈ part.toList, character ≠ '.') :
    (parts.flatMap String.toList).findIdx (· ≠ '.') <
      (parts.flatMap fun part => '.' :: part.toList).findIdx (· ≠ '.') := by
  induction parts with
  | nil => simp at hasOther
  | cons part rest induction =>
      have dot : ('.' :: part.toList).findIdx (· ≠ '.') = part.toList.findIdx (· ≠ '.') + 1 := by
        simp [List.findIdx_cons]
      rw [List.flatMap_cons, List.flatMap_cons, List.findIdx_append, List.findIdx_append, dot,
        List.length_cons]
      by_cases here : part.toList.findIdx (· ≠ '.') < part.toList.length
      · rw [if_pos here, if_pos (Nat.succ_lt_succ here)]
        exact Nat.lt_succ_self _
      · have later : ∃ part ∈ rest, ∃ character ∈ part.toList, character ≠ '.' := by
          simp only [List.findIdx_lt_length, decide_eq_true_eq] at here
          rcases hasOther with ⟨other, member, hasOther⟩
          rcases List.mem_cons.mp member with rfl | member
          · exact absurd hasOther here
          · exact ⟨other, member, hasOther⟩
        have behind := induction later
        rw [if_neg here, if_neg (by omega)]
        omega

theorem not_prefix_dotted {parts : List String}
    (hasOther : ∃ part ∈ parts, ∃ character ∈ part.toList, character ≠ '.') :
    ¬ parts.flatMap String.toList <+: parts.flatMap fun part => '.' :: part.toList := by
  rintro ⟨surplus, split⟩
  have behind := findIdx_lt_findIdx_dotted hasOther
  have inParts : (parts.flatMap String.toList).findIdx (· ≠ '.') <
      (parts.flatMap String.toList).length := by
    rcases hasOther with ⟨part, member, character, inPart, different⟩
    exact List.findIdx_lt_length.mpr
      ⟨character, List.mem_flatMap.mpr ⟨part, member, inPart⟩, decide_eq_true different⟩
  rw [← split, List.findIdx_append, if_pos inParts] at behind
  exact Nat.lt_irrefl _ behind

/-! ## Literals without doubled quotes -/

theorem length_flatMap_literalCharacter (content : List Char) :
    (content.flatMap literalCharacter).length = content.length + content.count '\'' := by
  induction content with
  | nil => rfl
  | cons character rest induction =>
      rw [List.flatMap_cons, List.length_append, induction, List.length_cons, List.count_cons,
        literalCharacter]
      by_cases isQuote : character = '\'' <;> simp [isQuote] <;> omega

theorem flatMap_literalCharacter_eq_self_iff {content : List Char} :
    content.flatMap literalCharacter = content ↔ '\'' ∉ content := by
  constructor
  · intro unchanged
    have sameLength := length_flatMap_literalCharacter content
    rw [unchanged, Nat.left_eq_add] at sameLength
    exact List.count_eq_zero.mp sameLength
  · intro noQuote
    conv_rhs => rw [← List.flatMap_singleton' content]
    apply List.flatMap_congr
    intro character member
    rw [literalCharacter, if_neg]
    rintro rfl
    exact noQuote member

theorem count_flatMap_literalCharacter {counted : Char} (other : counted ≠ '\'')
    (content : List Char) :
    (content.flatMap literalCharacter).count counted = content.count counted := by
  induction content with
  | nil => rfl
  | cons character rest induction =>
      rw [List.flatMap_cons, List.count_append, induction, List.count_cons, literalCharacter]
      split
      · next isQuote => simp [isQuote, other.symm]
      · simp [List.count_singleton, Nat.add_comm]

/-! ## Rebuilt names -/

variable {name : WrittenName}

theorem length_rebuilt_le (name : WrittenName) :
    name.rebuilt.toList.length ≤ name.spelling.toList.length := by
  cases name with
  | path parts =>
      cases parts with
      | nil => exact Nat.le_refl _
      | cons first rest =>
          rw [toList_rebuilt_path, toList_spelling_path, List.length_append, List.length_append,
            length_flatMap_dotted]
          omega
  | literal content =>
      simp only [rebuilt, spelling, String.toList_append, String.toList_ofList, List.length_append,
        length_flatMap_literalCharacter]
      omega

theorem rebuilt_eq_spelling_iff : name.rebuilt = name.spelling ↔ name.IsPlain := by
  rw [← String.toList_inj]
  cases name with
  | path parts =>
      cases parts with
      | nil => simp [rebuilt, spelling, IsPlain]
      | cons first rest =>
          rw [toList_rebuilt_path, toList_spelling_path, IsPlain, List.append_cancel_left_eq]
          constructor
          · intro same
            have sameLength := congrArg List.length same
            rw [length_flatMap_dotted] at sameLength
            rw [List.length_cons]
            omega
          · intro short
            have alone : rest = [] := List.eq_nil_of_length_eq_zero (Nat.le_zero.mp
              (Nat.le_of_succ_le_succ short))
            rw [alone]
            rfl
  | literal content =>
      simp only [rebuilt, spelling, IsPlain, String.toList_append, String.toList_ofList,
        List.append_cancel_right_eq, List.append_cancel_left_eq]
      rw [eq_comm, flatMap_literalCharacter_eq_self_iff]

theorem not_prefix_path {parts : List String} (mangled : (path parts).IsMangled) :
    ¬ (path parts).rebuilt.toList <+: (path parts).spelling.toList := by
  cases parts with
  | nil => simp [IsMangled] at mangled
  | cons first rest =>
      rw [toList_rebuilt_path, toList_spelling_path, List.prefix_append_right_inj]
      exact not_prefix_dotted mangled

theorem not_prefix_enclosed (mangled : name.IsMangled) :
    ¬ name.rebuilt.toList ++ [')'] <+: name.spelling.toList ++ [')'] := by
  intro isPrefix
  cases name with
  | path parts =>
      refine not_prefix_path mangled ?_
      exact List.prefix_of_prefix_length_le ((List.prefix_append _ _).trans isPrefix)
        (List.prefix_append _ _) (length_rebuilt_le _)
  | literal content =>
      -- Both have their brackets in the content, and one more at the end.
      have sameCount : (literal content).rebuilt.toList.count ')' =
          (literal content).spelling.toList.count ')' := by
        simp only [rebuilt, spelling, String.toList_append, String.toList_ofList, List.count_append,
          count_flatMap_literalCharacter (by decide : ')' ≠ '\'')]
      have same := eq_of_prefix_of_count_eq isPrefix sameCount
      exact rebuilt_eq_spelling_iff.mp (String.toList_inj.mp same) mangled

/-! ## Names in a tree -/

def fragments : WrittenName → List String
  | path parts => parts
  | literal content => [content]

theorem flatMap_descendants_node (location : Nat) (name : WrittenName) :
    [name.node location].flatMap Node.descendants =
      name.node location :: name.fragments.map .text := by
  have leaves (fragments : List String) :
      (fragments.map Node.text).flatMap Node.descendants = fragments.map .text := by
    rw [List.flatMap_map, ← List.flatMap_pure_eq_map]
    apply List.flatMap_congr
    intro fragment _
    rw [Node.descendants_eq]
    rfl
  rw [List.flatMap_singleton, Node.descendants_eq, ← leaves]
  cases name <;> rfl

theorem spellsOut_node (location : Nat) (name : WrittenName) :
    SpellsOut [name.node location] (String.join name.fragments) := by
  have unspelled : (name.node location).text? = none := by cases name <;> rfl
  rw [spellsOut_iff, spelledName, flatMap_descendants_node, List.filterMap_cons_none unspelled,
    List.filterMap_map]
  exact congrArg String.join List.filterMap_some.symm

end WrittenName

inductive Config.Writes (config : Config) : Node → WrittenName → String → Prop where
  | call (expression : Call Node) (isMarker : expression.function = config.markerFunction)
      {name : WrittenName} {location : Nat} (named : expression.arguments = [name.node location]) :
      config.Writes (.call expression) name
        (config.markerFunction.text ++ "(" ++ name.spelling ++ ")")
  | sign (expression : Operation Node) {parts : List String} {location : Nat}
      (unary : expression.left = none)
      (applied : expression.right = some ((WrittenName.path parts).node location))
      (isMarker : expression.operator = config.markerSign) :
      config.Writes (.operation expression) (.path parts)
        (config.markerSign ++ (WrittenName.path parts).spelling)
  | signOverCast (expression : Operation Node) (cast : Cast Node) {parts : List String}
      {location : Nat} (unary : expression.left = none)
      (applied : expression.right = some (.cast cast))
      (named : cast.operand = (WrittenName.path parts).node location)
      (isMarker : expression.operator = config.markerSign) :
      config.Writes (.operation expression) (.path parts)
        (config.markerSign ++ (WrittenName.path parts).spelling)

namespace Config

variable {config : Config} {node : Node} {name : WrittenName} {text : String}

theorem reads_call_node {expression : Call Node} {location : Nat}
    (isMarker : expression.function = config.markerFunction)
    (named : expression.arguments = [name.node location]) :
    config.Reads (.call expression) {
      location := expression.location
      name := String.join name.fragments
      text := config.markerFunction.text ++ "(" ++ name.rebuilt ++ ")" } := by
  have spells := WrittenName.spellsOut_node location name
  rw [← named] at spells
  have nodes := WrittenName.flatMap_descendants_node location name
  rw [← named] at nodes
  cases name with
  | path parts =>
      have bare : ∀ node ∈ expression.arguments.flatMap Node.descendants,
          node.kind ≠ .constant := by
        rw [nodes, List.forall_mem_cons, List.forall_mem_map]
        exact ⟨nofun, fun _ _ => nofun⟩
      exact .bareCall expression isMarker spells bare
  | literal content =>
      have quoted : ∃ node ∈ expression.arguments.flatMap Node.descendants,
          node.kind = .constant := by
        rw [nodes]
        exact ⟨_, List.mem_cons_self, rfl⟩
      have reads := Config.Reads.quotedCall expression isMarker spells quoted
      have sameText : config.markerFunction.text ++ "('" ++ String.join [content] ++ "')" =
          config.markerFunction.text ++ "(" ++ ("'" ++ content ++ "'") ++ ")" := by
        simp [← String.toList_inj]
      rw [WrittenName.fragments, sameText] at reads
      exact reads

/-- What stands around the name is the same in the source and in the text that is rebuilt. -/
theorem Writes.exists_reading (writes : config.Writes node name text) :
    ∃ (reading : MarkerReading) (before after : String),
      config.Reads node reading ∧ node.location? = some reading.location ∧
      text = before ++ name.spelling ++ after ∧ reading.text = before ++ name.rebuilt ++ after ∧
      (name.IsMangled →
        ¬ name.rebuilt.toList ++ after.toList <+: name.spelling.toList ++ after.toList) := by
  have atEnd {parts : List String} (mangled : (WrittenName.path parts).IsMangled) :
      ¬ (WrittenName.path parts).rebuilt.toList ++ "".toList <+:
        (WrittenName.path parts).spelling.toList ++ "".toList := by
    rw [String.toList_empty, List.append_nil, List.append_nil]
    exact WrittenName.not_prefix_path mangled
  cases writes with
  | call expression isMarker named =>
      exact ⟨_, config.markerFunction.text ++ "(", ")", reads_call_node isMarker named, rfl, rfl,
        rfl, WrittenName.not_prefix_enclosed⟩
  | sign expression unary applied isMarker =>
      have reads := Config.Reads.sign expression _ unary applied isMarker nofun
        (WrittenName.spellsOut_node _ _)
      exact ⟨_, config.markerSign, "", reads, rfl, String.append_empty.symm,
        String.append_empty.symm, atEnd⟩
  | signOverCast expression cast unary applied named isMarker =>
      have spells : SpellsOut [cast.operand] _ := named ▸ WrittenName.spellsOut_node _ _
      have reads := Config.Reads.signOverCast expression cast unary applied isMarker spells
      exact ⟨_, config.markerSign, "", reads, rfl, String.append_empty.symm,
        String.append_empty.symm, atEnd⟩

end Config

/-! ## Edits of a statement -/

namespace Edit

variable {source text : String} {edits : List Edit} {edit : Edit}

/-- An edit that takes away what stands in the source is not refused for its text. -/
theorem applyAll_ne_mismatch (stands : Text.HasAt source.toList edit.location edit.old.toList)
    (found : String) : applyAll source edits ≠ .error (.mismatch edit found) := by
  intro failed
  rcases exists_refuses_of_applyAll_eq_error failed with ⟨_, refused, _, -, -, -, refuses⟩
  cases refuses with
  | mismatch standsHere long different => exact different (standsHere.unique stands long)

theorem applyAll_ne_ok (member : edit ∈ edits)
    (stands : Text.HasAt source.toList edit.location text.toList)
    (short : edit.old.toList.length ≤ text.toList.length)
    (notPrefix : ¬ edit.old.toList <+: text.toList) (result : String) :
    applyAll source edits ≠ .ok result := by
  intro applied
  have found := (fit_of_applyAll_eq_ok applied).found edit member
  exact notPrefix (found.prefix_of_length_le stands short)

/-- A single edit is refused for its text if the source has another one of that length. -/
theorem applyAll_singleton_eq_mismatch {inside : List Char} (old : edit.old ≠ "")
    (new : edit.new ≠ "") (short : edit.endOffset < UInt64.size)
    (stands : Text.HasAt source.toList edit.location inside)
    (long : Text.byteLength inside = Text.byteLength edit.old.toList)
    (different : inside ≠ edit.old.toList) :
    applyAll source [edit] = .error (.mismatch edit (String.ofList inside)) := by
  have within : edit.endOffset ≤ Text.byteLength source.toList := by
    rw [endOffset, ← long]
    exact stands.end_le
  have checked : edit.check (Text.byteLength source.toList) none = .ok () := by
    refine check_eq_ok_iff.mpr ⟨old, new, Nat.le_trans edit.stop_le_endOffset within, ?_⟩
    intro next isNext
    cases isNext
  rcases stands with ⟨before, after, split, located⟩
  have cut : edit.cut? source.toList = some (before, inside, after) :=
    cut?_eq_some_iff.mpr ⟨split, located, long, location_le_stop short⟩
  have alone : descending [edit] = [edit] := List.mergeSort_singleton edit
  rw [applyAll_eq, alone, applyDescending, List.head?_nil, checked, cut]
  change String.ofList <$> (if inside ≠ edit.old.toList then throw _ else _ : Except _ _) = _
  rw [if_pos different]
  rfl

end Edit

namespace Statement

theorem getElem?_edits_normalize {config : Config} {statement : Statement} {position : Nat}
    {node : Node} {reading : MarkerReading}
    (outermost : (statement.root.outermostMarkers config)[position]? = some node)
    (reads : config.Reads node reading) :
    (statement.normalize config).edits[position]? =
      some (reading.edit statement.location (statement.readings config)) := by
  have allRead := statement.reads_readings config
  rcases List.getElem?_eq_some_iff.mp outermost with ⟨inMarkers, rfl⟩
  have inReadings : position < (statement.readings config).length :=
    allRead.length_eq ▸ inMarkers
  have readHere := allRead.get inMarkers inReadings
  rw [edits_normalize, List.getElem?_map, List.getElem?_eq_getElem inReadings,
    Option.map_some, reads.unique readHere]
  rfl

/-- A marker's edit takes away the text that the source has if the name is plain: an identifier
without qualifiers, or a literal without quotes. Then the source has what the edit expects. For any
other name the text is too short, and from a source that has the marker's text the edits do not go
through, unless all that follows a dot is dots. -/
theorem edit_of_written {config : Config} {statement : Statement} {position : Nat} {node : Node}
    {name : WrittenName} {text : String}
    (outermost : (statement.root.outermostMarkers config)[position]? = some node)
    (written : config.Writes node name text) :
    let edits := (statement.normalize config).edits
    ∃ edit, edits[position]? = some edit ∧
      some edit.location = node.location?.map (· - statement.location) ∧
      (edit.old = text ↔ name.IsPlain) ∧
      ∀ source : String, Text.HasAt source.toList edit.location text.toList →
        (name.IsPlain → ∀ found, Edit.applyAll source edits ≠ .error (.mismatch edit found)) ∧
        (name.IsMangled → ∀ result, Edit.applyAll source edits ≠ .ok result) := by
  intro edits
  rcases written.exists_reading with ⟨reading, before, after, reads, located, rfl, rebuilt, apart⟩
  let edit := reading.edit statement.location (statement.readings config)
  have recorded : edits[position]? = some edit := getElem?_edits_normalize outermost reads
  have old : edit.old = before ++ name.rebuilt ++ after := rebuilt
  have isPlain : edit.old = before ++ name.spelling ++ after ↔ name.IsPlain := by
    rw [old, ← WrittenName.rebuilt_eq_spelling_iff]
    simp [← String.toList_inj]
  refine ⟨edit, recorded, ?location, isPlain, ?_⟩
  case location =>
    rw [located]
    rfl
  intro source stands
  constructor
  · intro plain
    rw [← isPlain.mpr plain] at stands
    exact Edit.applyAll_ne_mismatch stands
  · intro mangled
    refine Edit.applyAll_ne_ok (List.mem_of_getElem? recorded) stands ?short ?notPrefix
    case short =>
      have short := name.length_rebuilt_le
      simp only [old, String.toList_append, List.length_append]
      omega
    case notPrefix =>
      rw [old]
      simp only [String.toList_append, List.append_assoc, List.prefix_append_right_inj]
      exact apart mangled

def argumentCall (name : WrittenName) : Node :=
  .call {
    function := { schema := some "sqlc", name := "arg" }
    arguments := [name.node 16]
    location := 7 }

theorem writes_argumentCall (name : WrittenName) :
    Config.Writes {} (argumentCall name) name ("sqlc.arg(" ++ name.spelling ++ ")") :=
  .call _ rfl rfl

def selectArgument (name : WrittenName) : Statement where
  root := .select {
    targets := [.target { name := none, value := some (argumentCall name), location := 7 }]
    sources := []
    filter := none
    rows := []
    limit := none
    offset := none }
  location := 0
  length := 17 + name.spelling.utf8ByteSize

theorem edit_selectQuote :
    let edits := ((selectArgument (.literal "it's")).normalize {}).edits
    ∃ edit, edits[0]? = some edit ∧ edit.location = 7 ∧ edit.old ≠ "sqlc.arg('it''s')" ∧
      ∀ result, Edit.applyAll "SELECT sqlc.arg('it''s')" edits ≠ .ok result := by
  let name : WrittenName := .literal "it's"
  have outermost : ((selectArgument name).root.outermostMarkers {})[0]? =
      some (argumentCall name) := by
    cbv
  rcases edit_of_written outermost (writes_argumentCall name) with
    ⟨edit, recorded, located, isPlain, applied⟩
  have location : edit.location = 7 := Option.some.inj located
  have text : "sqlc.arg(" ++ name.spelling ++ ")" = "sqlc.arg('it''s')" := by decide
  have stands : Text.HasAt "SELECT sqlc.arg('it''s')".toList edit.location
      "sqlc.arg('it''s')".toList :=
    ⟨"SELECT ".toList, [], by decide, by rw [location]; decide⟩
  have mangled : name.IsMangled := by simp [name, WrittenName.IsMangled]
  rw [text] at isPlain applied
  refine ⟨edit, recorded, location, ?_, (applied _ stands).2 mangled⟩
  intro same
  exact isPlain.mp same mangled

/-- The edit expects what is not in the source: the name without its dot, or without the second of
its quotes. -/
theorem argument_mismatch :
    let qualified : WrittenName := .path ["u", "id"]
    let quoted : WrittenName := .literal "it's"
    Config.Writes {} (argumentCall qualified) qualified "sqlc.arg(u.id)" ∧
      (selectArgument qualified).root.outermostMarkers {} = [argumentCall qualified] ∧
      Text.HasAt "SELECT sqlc.arg(u.id)".toList 7 "sqlc.arg(u.id)".toList ∧
      Edit.applyAll "SELECT sqlc.arg(u.id)" ((selectArgument qualified).normalize {}).edits =
        .error (.mismatch { location := 7, old := "sqlc.arg(uid)", new := "$1" }
          "sqlc.arg(u.id") ∧
      Config.Writes {} (argumentCall quoted) quoted "sqlc.arg('it''s')" ∧
      (selectArgument quoted).root.outermostMarkers {} = [argumentCall quoted] ∧
      Text.HasAt "SELECT sqlc.arg('it''s')".toList 7 "sqlc.arg('it''s')".toList ∧
      Edit.applyAll "SELECT sqlc.arg('it''s')" ((selectArgument quoted).normalize {}).edits =
        .error (.mismatch { location := 7, old := "sqlc.arg('it's')", new := "$1" }
          "sqlc.arg('it''s'") := by
  intro qualified quoted
  have qualifiedEdits : ((selectArgument qualified).normalize {}).edits =
      [{ location := 7, old := "sqlc.arg(uid)", new := "$1" }] := by
    cbv
  have quotedEdits : ((selectArgument quoted).normalize {}).edits =
      [{ location := 7, old := "sqlc.arg('it's')", new := "$1" }] := by
    cbv
  have quotedText : "sqlc.arg(" ++ quoted.spelling ++ ")" = "sqlc.arg('it''s')" := by decide
  have qualifiedPart : Text.HasAt "SELECT sqlc.arg(u.id)".toList 7 "sqlc.arg(u.id".toList :=
    ⟨"SELECT ".toList, ")".toList, by decide, by decide⟩
  have quotedPart : Text.HasAt "SELECT sqlc.arg('it''s')".toList 7 "sqlc.arg('it''s'".toList :=
    ⟨"SELECT ".toList, ")".toList, by decide, by decide⟩
  refine ⟨writes_argumentCall qualified, by cbv, ?_, ?_, ?_, by cbv, ?_, ?_⟩
  · exact ⟨"SELECT ".toList, [], by decide, by decide⟩
  · rw [qualifiedEdits]
    exact Edit.applyAll_singleton_eq_mismatch (by decide) (by decide) (by decide) qualifiedPart
      (by decide) (by decide)
  · exact quotedText ▸ writes_argumentCall quoted
  · exact ⟨"SELECT ".toList, [], by decide, by decide⟩
  · rw [quotedEdits]
    exact Edit.applyAll_singleton_eq_mismatch (by decide) (by decide) (by decide) quotedPart
      (by decide) (by decide)

end Statement

end PlaceholderTyping
