import DataHarness.Decode.Lines
import DataHarness.Decode.Written
import DataHarness.Factory.OrderFree
import DataHarness.Library.CsvWriter
import DataHarness.Library.Table

/-!
# Rendered datasets

`render_jsonl` and `render_csv` write the records of a dataset, and `StandardDecoder` reads such
text. The records of a generated dataset hold texts, integers and nulls only (`Built.plain`), so
nothing but the limits of the decoder stands between a generated dataset and its records: JSON Lines
give them back with their members sorted.
-/

namespace DataHarness

open StandardDecoder

namespace MockDatasetGenerator

/-! ## Rendering -/

/-- The integers of a value are converted to texts. -/
def checkDigits (value : Json.Value) : Except FactoryError Unit :=
  require (!(Json.literalsOf value).any (refused false)) longIntegerMessage

/-- A line of `render_jsonl`. -/
def renderLine (record : Record) : Except FactoryError ByteArray := do
  checkDigits (.obj record)
  return (Json.dumps (.obj record) ++ "\n").toUTF8

/-- `b"".join(parts)`. -/
def joinBytes (parts : List ByteArray) : ByteArray := parts.foldl (· ++ ·) ByteArray.empty

/-- `render_jsonl`. -/
def renderJsonl (records : List Record) : Except FactoryError ByteArray := do
  let parts ← records.mapM renderLine
  return joinBytes parts

variable [Stdlib]

/-- `repr` of a float, whose exceptional values JSON names otherwise. -/
def reprFloat (x : Json.FloatText) : String :=
  if x.text = "NaN" then "nan" else if x.text = "Infinity" then "inf"
  else if x.text = "-Infinity" then "-inf" else x.text

mutual

/-- `repr` of a value. -/
def reprValue : Json.Value → String
  | .null => "None"
  | .bool flag => if flag then "True" else "False"
  | .int n => toString n
  | .float x => reprFloat x
  | .str text => reprText text
  | .arr items => "[" ++ ", ".intercalate (reprItems items) ++ "]"
  | .obj members => "\x7b" ++ ", ".intercalate (reprMembers members) ++ "\x7d"

/-- `repr` of items. -/
def reprItems : List Json.Value → List String
  | [] => []
  | item :: items => reprValue item :: reprItems items

/-- `repr` of members. -/
def reprMembers : List (String × Json.Value) → List String
  | [] => []
  | member :: members => (reprText member.1 ++ ": " ++ reprValue member.2) :: reprMembers members

end

/-- What `csv.writer` writes of a value: nothing of `None`, and `str` of what is no text. -/
def cellText : Json.Value → String
  | .null => ""
  | .str text => text
  | value => reprValue value

/-- `DictWriter._dict_to_list`, written. The keys that are no field names are a set, whose order in
the message is not determined. -/
def dictToList (fieldnames : List String) (record : Record) :
    Except FactoryError (List String) := do
  let foreign := (record.map Prod.fst).filter fun key => !decide (key ∈ fieldnames)
  require foreign.isEmpty
    ("dict contains fields not in fieldnames: " ++ ", ".intercalate (foreign.map reprText))
  checkDigits (.obj record)
  return fieldnames.map fun name => cellText ((record.lookup name).getD (.str ""))

/-- `render_csv`. -/
def renderCsv (records : List Record) : Except FactoryError ByteArray :=
  match records with
  | [] => .error (.valueError "cannot render an empty dataset")
  | first :: _ => do
    let fieldnames := first.map Prod.fst
    let rows ← records.mapM (dictToList fieldnames)
    return (String.ofList (Csv.write (fieldnames :: rows))).toUTF8

/-! ## Values of generated records -/

omit [Stdlib] in
/-- A text, an integer or null. -/
def Plain : Json.Value → Prop
  | .null | .int _ | .str _ => True
  | _ => False

variable {streams : RandomStreams}

omit [Stdlib] in
/-- A value is plain as the one that was returned is. -/
theorem plain_of_returned {state next : streams.State} {own value : Json.Value}
    (ran : (.ok (own, state) : Except FactoryError (Json.Value × streams.State)) =
      .ok (value, next)) (plain : Plain own) : Plain value := by
  rw [← (Prod.mk.inj (Except.ok.inj ran)).1]
  exact plain

/-- A field that refers to no dataset computes a plain value. -/
theorem plain_of_unreferenced {generated : GeneratedPack} {index : Nat} {field : FieldBlueprint}
    {state next : streams.State} {value : Json.Value} (own : field.kind ≠ .reference)
    (ran : fieldValue streams generated index field state = .ok (value, next)) : Plain value := by
  unfold fieldValue at ran
  by_cases sequence : field.kind = .sequence
  · rw [if_pos sequence] at ran
    exact plain_of_returned ran trivial
  · rw [if_neg sequence] at ran
    cases skipped : (skips streams field state).1 with
    | true =>
      simp only [skipped, if_true] at ran
      exact plain_of_returned ran trivial
    | false =>
      simp only [skipped, Bool.false_eq_true, if_false] at ran
      unfold drawValue at ran
      cases kind : field.kind with
      | reference => exact absurd kind own
      | sequence => exact absurd kind sequence
      | integer =>
        rw [kind] at ran
        exact plain_of_returned ran trivial
      | timestamp =>
        rw [kind] at ran
        exact plain_of_returned ran trivial
      | choice =>
        rw [kind] at ran
        dsimp only at ran
        split at ran
        · obtain ⟨text, -, ran⟩ := of_bind_ok ran
          exact plain_of_returned ran trivial
        · obtain ⟨⟨text, later⟩, -, ran⟩ := of_bind_ok ran
          exact plain_of_returned ran trivial

/-- The records of a dataset have plain values. -/
def PlainRecords (records : List Record) : Prop :=
  ∀ record ∈ records, ∀ entry ∈ record, Plain entry.2

variable {definition : IndustryPackDefinition} {pack : GeneratedPack}

/-- A dataset that reaches no cycle has plain values: those of its references are values of the
datasets it refers to. -/
theorem Built.plain (built : Built streams definition pack []) {id : PyText}
    {records : List Record} (held : pack.lookup id = some records) : PlainRecords records := by
  have grounded := built.grounded id (mem_of_entry held)
  induction grounded generalizing records with
  | @intro id known below ih =>
    obtain ⟨dataset, member, rfl⟩ := List.mem_map.mp known
    have ran := built.made dataset member records held
    obtain ⟨-, seed, drawn⟩ := of_generateDataset streams ran
    obtain ⟨-, filled⟩ := of_fillRecords streams drawn
    intro record among entry inside
    obtain ⟨position, fills⟩ := filled record among
    obtain ⟨field, here, -, state, next, value⟩ := Loops.exists_of_forall₂ fills inside
    by_cases reference : field.kind = .reference
    · rcases of_reference streams reference value with null | ⟨others, target, found, has, looked⟩
      · rw [null]
        trivial
      · have refers := (IndustryPackDefinition.refers_iff member).mpr
          (DatasetBlueprint.mem_references here reference)
        have plain := ih _ refers found target has _ (Table.mem_of_lookup looked)
        exact plain
    · exact plain_of_unreferenced reference value

/-- The records of a generated dataset have the names of its fields as their keys, which differ. -/
theorem Built.keys (built : Built streams definition pack []) {id : PyText}
    {records : List Record} (held : pack.lookup id = some records) :
    ∃ names : List String, names ≠ [] ∧ names.Nodup ∧ records ≠ [] ∧
      ∀ record ∈ records, record.map Prod.fst = names := by
  obtain ⟨dataset, member, rfl⟩ := List.mem_map.mp (built.grounded id (mem_of_entry held)).here
  obtain ⟨-, seed, drawn⟩ := of_generateDataset streams (built.made dataset member records held)
  obtain ⟨count, filled⟩ := of_fillRecords streams drawn
  obtain ⟨some, -⟩ := of_require dataset.checked
  simp only [Bool.and_eq_true, Bool.not_eq_true', List.isEmpty_eq_false_iff] at some
  refine ⟨dataset.fields.map (·.name), ?_, dataset.names_nodup, ?_, ?_⟩
  · intro none
    exact some.2 (List.map_eq_nil_iff.mp none)
  · rintro rfl
    have rows := dataset.rowCount_pos
    rw [List.length_nil] at count
    omega
  · intro record among
    obtain ⟨position, fills⟩ := filled record among
    exact keys_of_fills streams fills

/-! ## JSON Lines -/

omit [Stdlib] in
/-- The bytes of texts are joined to those of the joined text. -/
theorem joinBytes_toUTF8 (texts : List String) :
    joinBytes (texts.map String.toUTF8) = (String.join texts).toUTF8 := by
  have from_ : ∀ front : String, (texts.map String.toUTF8).foldl (· ++ ·) front.toUTF8 =
      (front ++ String.join texts).toUTF8 := by
    induction texts with
    | nil =>
      intro front
      rw [String.join_nil, String.append_empty]
      rfl
    | cons text texts ih =>
      intro front
      have step : front.toUTF8 ++ text.toUTF8 = (front ++ text).toUTF8 :=
        String.toByteArray_append.symm
      rw [List.map_cons, List.foldl_cons, step, ih, String.join_cons, String.append_assoc]
  exact (from_ "").trans (congrArg String.toUTF8 String.empty_append)

/-- The lines of a dataset. -/
def jsonLines (records : List Record) : List String :=
  records.map fun record => Json.dumps (.obj record)

omit [Stdlib] in
/-- Records are rendered when their integers are, as one line each. -/
theorem renderJsonl_eq_ok {records : List Record} {payload : ByteArray} :
    renderJsonl records = .ok payload ↔
      (∀ record ∈ records, checkDigits (.obj record) = .ok ()) ∧
        payload = (String.join ((jsonLines records).map (· ++ "\n"))).toUTF8 := by
  have line : ∀ (record : Record) (bytes : ByteArray), renderLine record = .ok bytes ↔
      checkDigits (.obj record) = .ok () ∧
        bytes = (Json.dumps (.obj record) ++ "\n").toUTF8 := by
    intro record bytes
    unfold renderLine
    rw [bind_ok_iff]
    constructor
    · rintro ⟨⟨⟩, short, same⟩
      exact ⟨short, (Except.ok.inj same).symm⟩
    · rintro ⟨short, same⟩
      exact ⟨(), short, congrArg Except.ok same.symm⟩
  have parts : ∀ bytes, records.mapM renderLine = .ok bytes ↔
      (∀ record ∈ records, checkDigits (.obj record) = .ok ()) ∧
        bytes = ((jsonLines records).map (· ++ "\n")).map String.toUTF8 := by
    intro bytes
    constructor
    · intro ran
      have each := Loops.forall₂_of_mapM ran
      constructor
      · intro record member
        obtain ⟨own, -, rendered⟩ := Loops.exists_of_forall₂ each.flip member
        exact ((line record own).mp rendered).1
      · have same : List.Forall₂ (fun record own =>
            own = (Json.dumps (.obj record) ++ "\n").toUTF8) records bytes :=
          each.imp fun record own rendered => ((line record own).mp rendered).2
        clear ran each
        unfold jsonLines
        induction same with
        | nil => rfl
        | cons first _ ih =>
          rw [List.map_cons, List.map_cons, List.map_cons, ← ih, first]
    · rintro ⟨short, rfl⟩
      refine Loops.mapM_of_forall₂ ?_
      unfold jsonLines
      rw [List.map_map, List.map_map, List.forall₂_map_right_iff, List.forall₂_same]
      intro record member
      exact (line record _).mpr ⟨short record member, rfl⟩
  unfold renderJsonl
  rw [bind_ok_iff]
  constructor
  · rintro ⟨bytes, ran, same⟩
    obtain ⟨short, own⟩ := (parts bytes).mp ran
    rw [← Except.ok.inj same, own, joinBytes_toUTF8]
    exact ⟨short, rfl⟩
  · rintro ⟨short, same⟩
    refine ⟨_, (parts _).mpr ⟨short, rfl⟩, ?_⟩
    rw [same, joinBytes_toUTF8]
    rfl

omit [Stdlib] in
/-- A text of ASCII characters has a byte for each. -/
theorem utf8ByteSize_ascii {characters : List Char} (ascii : ∀ c ∈ characters, c.toNat ≤ 127) :
    (String.ofList characters).utf8ByteSize = characters.length := by
  induction characters with
  | nil => rfl
  | cons c characters ih =>
    have one : c.utf8Size = 1 := by
      have small : c.val ≤ 0x7f := ascii c List.mem_cons_self
      unfold Char.utf8Size
      exact if_pos small
    have rest := ih fun d member => ascii d (List.mem_cons_of_mem _ member)
    have split : String.ofList (c :: characters) =
        String.singleton c ++ String.ofList characters := by
      rw [String.singleton_eq_ofList, ← String.ofList_append, List.singleton_append]
    rw [split, String.utf8ByteSize_append, String.utf8ByteSize_singleton, one, rest,
      List.length_cons]
    omega

omit [Stdlib] in
/-- What is dumped are printable ASCII characters. -/
theorem isPrintable_jsonLines {records : List Record} :
    ∀ line ∈ jsonLines records, ∀ c ∈ line.toList, Json.isPrintable c = true := by
  intro line member c inside
  obtain ⟨record, -, rfl⟩ := List.mem_map.mp member
  unfold Json.dumps at inside
  rw [String.toList_ofList] at inside
  exact Json.isPrintable_render _ c inside

omit [Stdlib] in
/-- Lines of printable characters, each with a line feed behind it, are the lines of their text. -/
theorem splitlines_ended {texts : List String}
    (printable : ∀ text ∈ texts, ∀ c ∈ text.toList, Json.isPrintable c = true) :
    splitlines (String.join (texts.map (· ++ "\n"))) = texts := by
  unfold splitlines
  induction texts with
  | nil => rfl
  | cons text texts ih =>
    have free : ∀ c ∈ text.toList, isLineEnd c = false := by
      intro c inside
      have own := printable text List.mem_cons_self c inside
      simp only [Json.isPrintable, Bool.and_eq_true, decide_eq_true_eq] at own
      simp only [isLineEnd, List.mem_cons, List.not_mem_nil, or_false, decide_eq_false_iff_not]
      omega
    have rest := ih fun other member => printable other (List.mem_cons_of_mem _ member)
    have characters : (String.join ((text :: texts).map (· ++ "\n"))).toList =
        text.toList ++ '\n' :: (String.join (texts.map (· ++ "\n"))).toList := by
      rw [List.map_cons, String.join_cons, String.toList_append, String.toList_append,
        List.append_assoc]
      rfl
    rw [characters, linesFrom_cut free (by decide) (by decide), List.map_cons, rest,
      List.nil_append, String.ofList_toList]

section Decoding

variable [Interpreter]

omit [Stdlib] in
/-- A record of plain values whose integers are converted is loadable. -/
theorem loadable_of_plain {record : Record} (distinct : (record.map Prod.fst).Nodup)
    (plain : ∀ entry ∈ record, Plain entry.2) (short : checkDigits (.obj record) = .ok ())
    (nests : 0 < maxNesting) : Loadable true (.obj record) := by
  have fine : ∀ literal ∈ Json.literalsOfMembers record, refused false literal = false := by
    have none := require_eq_ok.mp short
    rw [Bool.not_eq_true', List.any_eq_false] at none
    intro literal member
    exact Bool.not_eq_true _ ▸ none literal member
  have each : ∀ entry ∈ record, Json.Each (ReadBack true) entry.2 ∧ Json.depth entry.2 = 0 := by
    intro entry inside
    have own := plain entry inside
    cases value : entry.2 with
    | null => exact ⟨trivial, rfl⟩
    | str text => exact ⟨trivial, rfl⟩
    | int n =>
      have literal : Json.Literal.number (Json.numeralOf n) ∈ Json.literalsOf entry.2 := by
        rw [value]
        exact List.mem_singleton_self _
      have whole := fine _ (Json.mem_literalsOfMembers inside literal)
      have few : decide (maxStrDigits < (Nat.toDigits 10 n.natAbs).length) = false := whole
      exact ⟨Nat.not_lt.mp (of_decide_eq_false few), rfl⟩
    | bool flag => rw [value] at own; cases own
    | float x => rw [value] at own; cases own
    | arr items => rw [value] at own; cases own
    | obj members => rw [value] at own; cases own
  constructor
  · exact ⟨distinct, Json.eachMember_iff.mpr fun entry inside => (each entry inside).1⟩
  · have flat : Json.memberDepth record ≤ 0 :=
      Json.memberDepth_le_iff.mpr fun entry inside => (each entry inside).2.le
    rw [Json.depth]
    omega

omit [Stdlib] in
/-- The text of records is read line by line, and each line as the record it was made of. -/
theorem jsonLines_loaded {records : List Record}
    (distinct : ∀ record ∈ records, (record.map Prod.fst).Nodup) (plain : PlainRecords records)
    (short : ∀ record ∈ records, checkDigits (.obj record) = .ok ()) (nests : 0 < maxNesting) :
    (filledLines (String.join ((jsonLines records).map (· ++ "\n")))).mapM (loads true) =
      .ok (records.map fun record => Json.canonical (.obj record)) := by
  have each : List.Forall₂ (fun text value => loads true text = .ok value) (jsonLines records)
      (records.map fun record => Json.canonical (.obj record)) := by
    unfold jsonLines
    rw [List.forall₂_map_left_iff, List.forall₂_map_right_iff, List.forall₂_same]
    intro record member
    have loadable := loadable_of_plain (distinct record member) (plain record member)
      (short record member) nests
    have read := @loads_render _ true _ loadable.canonical []
      (fun c inside => absurd inside List.not_mem_nil)
    rw [List.append_nil] at read
    exact read
  have filled : filledLines (String.join ((jsonLines records).map (· ++ "\n"))) =
      jsonLines records := by
    unfold filledLines
    rw [splitlines_ended isPrintable_jsonLines, List.filter_eq_self]
    intro text member
    obtain ⟨value, -, own⟩ := Loops.exists_of_forall₂ each.flip member
    rw [not_blank_of_loads own]
    rfl
  rw [filled]
  exact Loops.mapM_of_forall₂ each

omit [Stdlib] [Interpreter] in
/-- The text of records has a byte for each character. -/
theorem size_jsonLines (records : List Record) :
    (String.join ((jsonLines records).map (· ++ "\n"))).toUTF8.size =
      (String.join ((jsonLines records).map (· ++ "\n"))).length := by
  have ascii : ∀ c ∈ (String.join ((jsonLines records).map (· ++ "\n"))).toList,
      c.toNat ≤ 127 := by
    intro c inside
    rw [String.toList_join] at inside
    obtain ⟨line, member, own⟩ := List.mem_flatMap.mp inside
    obtain ⟨text, among, rfl⟩ := List.mem_map.mp member
    rw [String.toList_append, List.mem_append] at own
    rcases own with there | ending
    · have small := isPrintable_jsonLines text among c there
      simp only [Json.isPrintable, Bool.and_eq_true, decide_eq_true_eq] at small
      omega
    · rw [List.mem_singleton.mp ending]
      decide
  have count := utf8ByteSize_ascii ascii
  rw [String.ofList_toList] at count
  exact count

variable [HTMLParser]

/-- A generated dataset that was rendered as JSON Lines is decoded to its records, their members
sorted, exactly when the payload and its lines are within the limits of the decoder. -/
theorem lines_decoded (ran : generate streams definition = .ok pack) {id : PyText}
    {records : List Record} (held : pack.lookup id = some records) {payload : ByteArray}
    (rendered : renderJsonl records = .ok payload) {limits : DecoderLimits}
    {request : DecodeRequest} (sent : request.payload = payload)
    (format : request.payloadFormat = .json) (typed : lower request.mediaType ∈ lineMediaTypes)
    (nests : 0 < maxNesting) :
    DecodesLines limits request (records.map fun record => Json.canonical (.obj record)) ↔
      payload.size ≤ limits.maxPayloadBytes ∧ payload.size ≤ limits.maxTextCharacters ∧
        records.length ≤ limits.maxRecords := by
  have built := built_of_generate ran
  obtain ⟨names, -, distinct, -, keys⟩ := built.keys held
  obtain ⟨short, rfl⟩ := renderJsonl_eq_ok.mp rendered
  have loaded := jsonLines_loaded (fun record member => keys record member ▸ distinct)
    (built.plain held) short nests
  have size := size_jsonLines records
  have valid : String.fromUTF8? request.payload =
      some (String.join ((jsonLines records).map (· ++ "\n"))) := by
    rw [sent]
    exact fromUTF8?_toUTF8 _
  have known : mediaTypes request.payloadFormat = .ok ("application/json" :: lineMediaTypes) := by
    rw [format]
    rfl
  have count : (records.map fun record => Json.canonical (.obj record)).length =
      records.length := List.length_map _
  constructor
  · rintro ⟨answer, decoded, -⟩
    obtain ⟨text, -, read, -⟩ := decode_eq_ok.mp decoded
    have admitted := readText_eq_ok.mp read
    obtain rfl := Option.some.inj (valid.symm.trans admitted.valid)
    obtain ⟨values, whole, few, -⟩ := (decode_lines format typed read).mp decoded
    rw [loaded] at whole
    rw [← Except.ok.inj whole, count] at few
    exact ⟨sent ▸ admitted.bytes, size ▸ admitted.characters, few⟩
  · rintro ⟨small, characters, few⟩
    have read := readText_eq_ok.mpr (⟨sent.symm ▸ small,
      ⟨_, known, List.mem_cons_of_mem _ typed⟩, valid, size ▸ characters⟩ :
        Admitted limits request _)
    exact ⟨_, (decode_lines format typed read).mpr ⟨_, loaded, count.trans_le few, rfl⟩, rfl⟩

end Decoding

/-! ## A pack -/

/-- A pass that makes progress is followed by the rest of the loop. -/
theorem generateFrom_sweep {pending : List DatasetBlueprint} {generated : GeneratedPack}
    {pass : Pass} (some : pending ≠ [])
    (swept : sweep streams definition pending generated = .ok pass)
    (progressed : pass.progressed = true) :
    generateFrom streams definition pending generated =
      generateFrom streams definition pass.pending pass.generated := by
  conv_lhs => unfold generateFrom
  rw [if_neg (by simpa using some)]
  split
  · rename_i error raised
    rw [swept] at raised
    cases raised
  · rename_i other again
    obtain rfl := Except.ok.inj (swept.symm.trans again)
    rw [dif_pos progressed]

/-- Records with the numbers of some parents. -/
def familyRecords (numbers : List String) : List Record :=
  numbers.map fun number => [("parent_id", .str ("parent-" ++ number))]

/-- Three parents, and five children of them. -/
def familyPack : GeneratedPack :=
  [("parents", familyRecords ["0001", "0002", "0003"]),
    ("children", familyRecords ["0001", "0002", "0003", "0001", "0002"])]

omit [Stdlib] in
/-- The children wait for the pass after that of their parents. -/
theorem generate_family :
    letI := Stdlib.transparent
    generate (constantStreams 0.5 half_unit) family = .ok familyPack := by
  let library := Stdlib.transparent
  let streams := constantStreams 0.5 half_unit
  have first : sweep streams family family.datasets [] =
      .ok ⟨familyPack.take 1, family.datasets.take 1, true⟩ := rfl
  have second : sweep streams family (family.datasets.take 1) (familyPack.take 1) =
      .ok ⟨familyPack, [], true⟩ := rfl
  have start : family.datasets ≠ [] := List.cons_ne_nil _ _
  have later : family.datasets.take 1 ≠ [] := List.cons_ne_nil _ _
  unfold generate
  rw [generateFrom_sweep start first rfl, generateFrom_sweep later second rfl, generateFrom]
  rfl

/-- The records of the children. -/
def familyChildren : List Record := familyRecords ["0001", "0002", "0003", "0001", "0002"]

/-- The lines of the children. -/
def familyLines : String := String.join ((jsonLines familyChildren).map (· ++ "\n"))

omit [Stdlib] in
/-- They are a text, and named by their media type. -/
theorem familyLines_filled : familyLines ≠ "" ∧ "application/jsonl" ≠ "" := by decide +kernel

omit [Stdlib] in
/-- The children are decoded from their lines. -/
theorem lines_decoded_family :
    @DecodesLines .small .plain .standard
      (textRequest familyLines .json "application/jsonl" familyLines_filled)
      (familyChildren.map .obj) := by
  let library := Stdlib.transparent
  have short : (familyChildren.all fun record => (checkDigits (.obj record)).toBool) = true := by
    decide +kernel
  have rendered : renderJsonl familyChildren = .ok familyLines.toUTF8 :=
    renderJsonl_eq_ok.mpr
      ⟨fun record member => passes (List.all_eq_true.mp short record member), rfl⟩
  refine (@lines_decoded _ _ _ _ .small .plain generate_family "children" _ rfl _ rendered
    .standard (textRequest familyLines .json "application/jsonl" familyLines_filled) rfl rfl
    (by decide) (by decide)).mpr ?_
  decide +kernel

end MockDatasetGenerator

end DataHarness
