import DataHarness.Library.Json
import DataHarness.Library.Table
import Mathlib.Data.List.Dedup

/-!
# What the source takes from Python

Timestamps, the digests and texts of the standard library, and the values a caller may put
where the source asks for `Any`. Hashing and the ISO text of a timestamp are parameters
(`Stdlib`); the only law assumed of them everywhere is that `fromisoformat` reads what
`isoformat` wrote. Freedom from collisions is stated where a result needs it.
-/

namespace DataHarness

/-- A `datetime` without a zone or with a fixed offset from UTC: microseconds on its own clock, and
the offset it is aware of, if any. For an aware value the microseconds are those of UTC. Times of a
zone that sets its clocks back are not among them: they compare by the clock with each other, and in
the hour that is repeated with no other time at all. -/
structure DateTime where
  /-- Microseconds since the epoch. -/
  instant : Int
  /-- Offset from UTC in microseconds; none for a naive value. -/
  utcoffset : Option Int
deriving DecidableEq

/-- `tzinfo is not None`. -/
def DateTime.aware (time : DateTime) : Bool := time.utcoffset.isSome

/-- `left < right`; ordering a naive and an aware value is a `TypeError`. -/
def DateTime.before? (left right : DateTime) : Option Bool :=
  if left.aware = right.aware then some (decide (left.instant < right.instant)) else none

/-- `time + delta`. -/
def DateTime.add (time : DateTime) (delta : Int) : DateTime :=
  { time with instant := time.instant + delta }

/-- One time of day, aware of UTC. -/
def noon : DateTime := ⟨0, some 0⟩

/-- From noon on, without an end, is aware. -/
theorem noon_aware : noon.aware = true ∧ ∀ time ∈ (none : Option DateTime), time.aware = true := by
  decide

/-- The parts of the standard library the source computes digests and texts with. -/
class Stdlib where
  /-- `hashlib.sha256(text.encode()).hexdigest()`. -/
  sha256 : String → String
  /-- `hmac.new(key, text.encode(), hashlib.sha256).hexdigest()`. -/
  hmacSha256 : List UInt8 → String → String
  /-- `repr` of a tuple of strings. -/
  reprTuple : List String → String
  /-- `datetime.isoformat`. -/
  isoformat : DateTime → String
  /-- `datetime.fromisoformat`, none where it raises. -/
  fromisoformat : String → Option DateTime
  /-- `fromisoformat` reads what `isoformat` wrote of a time with a fixed offset, or without one. -/
  fromisoformat_isoformat : ∀ time, fromisoformat (isoformat time) = some time

export Stdlib (sha256 hmacSha256 reprTuple isoformat fromisoformat)

/-- Two texts with one SHA-256 digest are equal. -/
def Sha256Injective [Stdlib] : Prop := Function.Injective sha256

/-- Two texts with one HMAC under one key are equal. -/
def HmacInjective [Stdlib] : Prop := ∀ key, Function.Injective (hmacSha256 key)

/-- `_digest(value)` of the action module, of a value that `json.dumps` writes. -/
def digest [Stdlib] (value : Json.Value) : String := "sha256:" ++ sha256 (Json.dumps value)

/-- `_digest(value, key)` of the journal. -/
def keyedDigest [Stdlib] (key : List UInt8) (value : Json.Value) : String :=
  "hmac-sha256:" ++ hmacSha256 key (Json.dumps value)

/-- Equal digests are digests of one canonical value. -/
theorem digest_injective [Stdlib] (injective : Sha256Injective) {left right : Json.Value}
    (same : digest left = digest right) : Json.canonical left = Json.canonical right :=
  Json.dumps_injective (injective (String.append_right_inj _ |>.mp same))

/-- Equal keyed digests are digests of one canonical value. -/
theorem keyedDigest_injective [Stdlib] (injective : HmacInjective) {key : List UInt8}
    {left right : Json.Value} (same : keyedDigest key left = keyedDigest key right) :
    Json.canonical left = Json.canonical right :=
  Json.dumps_injective (injective key (String.append_right_inj _ |>.mp same))

/-! ## Texts of values -/

/-- What `str(value)` raises. -/
inductive WriteError
  | valueError (message : String)
  | typeError (message : String)
  | recursionError
  /-- Any other exception. -/
  | other (message : String)
deriving DecidableEq

/-- An exception that `except (TypeError, ValueError)` catches. -/
def WriteError.Caught : WriteError → Prop
  | .valueError _ | .typeError _ => True
  | _ => False

/-- The text a value is written as, or what writing it raises. -/
abbrev Told := Except WriteError String

/-- A text is written as it is. -/
instance : Coe String Told := ⟨.ok⟩

/-- The digits of the longest integer that is written, or read. -/
def maxStrDigits : Nat := 4300

/-- An integer has more digits than are written. -/
def longInteger (number : Int) : Bool :=
  decide (maxStrDigits < (Nat.toDigits 10 number.natAbs).length)

/-- What `int.__repr__` raises for an integer with too many digits. -/
def longIntegerMessage : String :=
  "Exceeds the limit (4300 digits) for integer string conversion; " ++
    "use sys.set_int_max_str_digits() to increase the limit"

mutual

/-- No integer of a value is too long to be written. -/
def writable : Json.Value → Bool
  | .int number => !longInteger number
  | .arr items => writableItems items
  | .obj members => writableMembers members
  | _ => true

/-- No integer of some values is too long to be written. -/
def writableItems : List Json.Value → Bool
  | [] => true
  | item :: items => writable item && writableItems items

/-- No integer of some members is too long to be written. -/
def writableMembers : List (String × Json.Value) → Bool
  | [] => true
  | member :: members => writable member.2 && writableMembers members

end

/-- `_digest(value)`, where `json.dumps` may raise; the value does not nest deeply. -/
def digested [Stdlib] (value : Json.Value) : Told :=
  if writable value then .ok (digest value) else .error (.valueError longIntegerMessage)

/-- A value is digested exactly when its integers are written. -/
theorem digested_eq_ok [Stdlib] {value : Json.Value} {text : String} :
    digested value = .ok text ↔ writable value = true ∧ digest value = text := by
  unfold digested
  split <;> simp_all

/-- Two steps that go through together go through one after the other. -/
theorem of_bind_ok {ε α β : Type} {first : Except ε α} {next : α → Except ε β} {result : β}
    (ran : (first >>= next) = .ok result) :
    ∃ value, first = .ok value ∧ next value = .ok result := by
  cases first with
  | error => cases ran
  | ok value => exact ⟨value, rfl, ran⟩

/-- A step and what follows it go through exactly when both do. -/
theorem bind_ok_iff {ε α β : Type} {first : Except ε α} {next : α → Except ε β} {result : β} :
    (first >>= next) = .ok result ↔ ∃ value, first = .ok value ∧ next value = .ok result := by
  constructor
  · exact of_bind_ok
  · rintro ⟨value, rfl, ran⟩
    exact ran

/-- A step whose error is raised as another one goes through exactly when it does. -/
theorem mapError_eq_ok {ε φ α : Type} {step : Except ε α} {raised : ε → φ} {value : α} :
    step.mapError raised = .ok value ↔ step = .ok value := by
  cases step <;> simp [Except.mapError]

/-- A result that is no error is a value. -/
theorem exists_ok {ε α : Type} {result : Except ε α} (fine : result.toBool = true) :
    ∃ value, result = .ok value := by
  cases result with
  | error => cases fine
  | ok value => exact ⟨value, rfl⟩

/-! ## A library to evaluate with

Digests that hide nothing and timestamps in unary, so that runs of the model on small inputs
can be computed. -/

/-- A whole number in unary, its sign first. -/
def unary : Int → List Char
  | .ofNat n => 'p' :: List.replicate n '1'
  | .negSucc n => 'n' :: List.replicate n '1'

/-- The number a unary text starts with. -/
def readUnary : List Char → Option Int
  | 'p' :: rest => some (.ofNat (rest.takeWhile (· == '1')).length)
  | 'n' :: rest => some (.negSucc (rest.takeWhile (· == '1')).length)
  | _ => none

/-- A number in front of a text that goes on with another character is read back. -/
theorem readUnary_append (number : Int) (rest : List Char)
    (other : ∀ c ∈ rest.head?, (c == '1') = false) :
    readUnary (unary number ++ rest) = some number := by
  have stop : rest.takeWhile (· == '1') = [] := by
    cases rest with
    | nil => rfl
    | cons c rest => simp [other c (by simp)]
  cases number with
  | ofNat n => simp [unary, readUnary, stop]
  | negSucc n => simp [unary, readUnary, stop]

/-- The text after the number a unary text starts with. -/
def afterUnary (text : List Char) : List Char := text.tail.dropWhile (· == '1')

/-- What follows a number is read back. -/
theorem afterUnary_append (number : Int) (rest : List Char)
    (other : ∀ c ∈ rest.head?, (c == '1') = false) :
    afterUnary (unary number ++ rest) = rest := by
  have ones : ∀ n, (List.replicate n '1' ++ rest).dropWhile (· == '1') = rest := by
    intro n
    rw [List.dropWhile_append_of_pos (by simp)]
    cases rest with
    | nil => rfl
    | cons c rest => simp [other c (by simp)]
  cases number with
  | ofNat n => simp [unary, afterUnary, ones]
  | negSucc n => simp [unary, afterUnary, ones]

/-- A library whose digests are the texts themselves. -/
@[reducible] def Stdlib.transparent : Stdlib where
  sha256 text := text
  hmacSha256 _ text := text
  reprTuple texts := ",".intercalate texts
  isoformat time := String.ofList (unary time.instant ++ (time.utcoffset.map unary).getD [])
  fromisoformat text :=
    (readUnary text.toList).map fun instant => ⟨instant, readUnary (afterUnary text.toList)⟩
  fromisoformat_isoformat := by
    rintro ⟨instant, offset⟩
    have other : ∀ c ∈ ((offset.map unary).getD []).head?, (c == '1') = false := by
      cases offset with
      | none => simp
      | some number => cases number <;> simp [unary]
    have offsets : readUnary ((offset.map unary).getD []) = offset := by
      cases offset with
      | none => rfl
      | some number => simpa using readUnary_append number [] (by simp)
    simp [readUnary_append _ _ other, afterUnary_append _ _ other, offsets]

/-- Its digests have no collision. -/
theorem Stdlib.transparent_sha256 : @Sha256Injective Stdlib.transparent := fun _ _ same => same

/-- Its keyed digests have no collision. -/
theorem Stdlib.transparent_hmac : @HmacInjective Stdlib.transparent := fun _ _ _ same => same

/-! ## Values -/

/-- A scalar of a contract: `str | int | float | bool | None`. -/
inductive Scalar
  | str (text : String)
  | int (number : Int)
  | float (number : Json.FloatText)
  | bool (flag : Bool)
  | none

/-- A scalar as JSON. -/
def Scalar.toJson : Scalar → Json.Value
  | .str text => .str text
  | .int number => .int number
  | .float number => .float number
  | .bool flag => .bool flag
  | .none => .null

/-- `sorted(values)` of texts. -/
def sortedTexts (values : List String) : List String := values.insertionSort (· ≤ ·)

/-- `sorted(set(values))` of texts. -/
def sortedSet (values : List String) : List String := sortedTexts values.dedup

/-- A sorted set has the values. -/
@[simp] theorem mem_sortedSet {values : List String} {value : String} :
    value ∈ sortedSet values ↔ value ∈ values := by
  simp [sortedSet, sortedTexts]

/-- A sorted set has no value twice. -/
theorem nodup_sortedSet (values : List String) : (sortedSet values).Nodup :=
  (List.perm_insertionSort _ _).nodup_iff.mpr values.nodup_dedup

/-- A sorted set of some values is not empty. -/
theorem sortedSet_ne_nil {values : List String} (some : values ≠ []) : sortedSet values ≠ [] := by
  obtain ⟨value, member⟩ := List.exists_mem_of_ne_nil values some
  exact List.ne_nil_of_mem (mem_sortedSet.mpr member)

/-- `sorted(mapping.items())`, of keys that are distinct. -/
def sortedItems {α : Type} (items : List (String × α)) : List (String × α) :=
  items.insertionSort fun left right => left.1 ≤ right.1

/-- Sorting items keeps them. -/
@[simp] theorem mem_sortedItems {α : Type} {items : List (String × α)} {item : String × α} :
    item ∈ sortedItems items ↔ item ∈ items := (List.perm_insertionSort _ _).mem_iff

/-- Sorting items keeps their keys. -/
theorem keys_sortedItems {α : Type} (items : List (String × α)) :
    ((sortedItems items).map Prod.fst).Perm (items.map Prod.fst) :=
  (List.perm_insertionSort _ _).map Prod.fst

/-- Python truth of a JSON value. -/
def truthy : Json.Value → Bool
  | .null => false
  | .bool flag => flag
  | .int number => number != 0
  | .float number => number.text != "0.0" && number.text != "-0.0"
  | .str text => text != ""
  | .arr items => !items.isEmpty
  | .obj members => !members.isEmpty

/-- A dictionary with string keys, in insertion order; no key occurs twice. -/
structure Dict (α : Type) where
  /-- The items in order. -/
  entries : List (String × α)
  /-- Keys are distinct. -/
  distinct : (entries.map Prod.fst).Nodup

/-- The keys in order. -/
def Dict.keys {α : Type} (dict : Dict α) : List String := dict.entries.map Prod.fst

/-- `sorted(dict)`. -/
def Dict.sorted {α : Type} (dict : Dict α) : List String :=
  dict.keys.insertionSort (· ≤ ·)

/-- `{}`. -/
def Dict.empty {α : Type} : Dict α := ⟨[], by simp⟩

/-- `dict.get(key)`. -/
def Dict.get? {α : Type} (dict : Dict α) (key : String) : Option α := dict.entries.lookup key

/-- The values in order. -/
def Dict.values {α : Type} (dict : Dict α) : List α := dict.entries.map Prod.snd

/-- `dict[key] = value`: a key that is there keeps its place. -/
def Dict.set {α : Type} (dict : Dict α) (key : String) (value : α) : Dict α where
  entries :=
    if key ∈ dict.keys then dict.entries.map fun item => if item.1 = key then (key, value) else item
    else dict.entries ++ [(key, value)]
  distinct := by
    split
    · have same : (dict.entries.map fun item => if item.1 = key then (key, value) else item).map
          Prod.fst = dict.entries.map Prod.fst := by
        rw [List.map_map]
        apply List.map_congr_left
        intro item _
        simp only [Function.comp_apply]
        split
        · rename_i here
          exact here.symm
        · rfl
      rw [same]
      exact dict.distinct
    · rename_i fresh
      rw [List.map_append, List.nodup_append]
      refine ⟨dict.distinct, by simp, ?_⟩
      rintro old member _ new rfl
      obtain rfl : old = key := by simpa using new
      exact fresh member

/-- Nothing is kept under a key of `{}`. -/
@[simp] theorem Dict.get?_empty {α : Type} (key : String) :
    (Dict.empty : Dict α).get? key = none := rfl

/-- A key has a value exactly when it is a key. -/
theorem Dict.mem_keys {α : Type} {dict : Dict α} {key : String} :
    key ∈ dict.keys ↔ ∃ value, dict.get? key = some value := by
  constructor
  · intro member
    obtain ⟨item, inside, rfl⟩ := List.mem_map.mp member
    have listed : (item.1, item.2) ∈ dict.entries := inside
    exact Table.exists_lookup listed
  · rintro ⟨value, found⟩
    exact List.mem_map.mpr ⟨_, Table.mem_of_lookup found, rfl⟩

/-- Replacing the value of a key changes what is looked up under it only. -/
theorem lookup_replace {α : Type} (entries : List (String × α)) (key : String) (value : α)
    (other : String) :
    (entries.map fun item => if item.1 = key then (key, value) else item).lookup other =
      if key = other then (entries.lookup other).map (fun _ => value) else entries.lookup other := by
  induction entries with
  | nil => simp
  | cons item entries ih =>
    obtain ⟨name, old⟩ := item
    simp only [List.map_cons]
    by_cases here : name = key
    · subst here
      by_cases same : name = other
      · simp [same]
      · have differs : (other == name) = false := by simpa using Ne.symm same
        simpa [List.lookup_cons, differs, same] using ih
    · simp only [if_neg here, List.lookup_cons]
      cases found : other == name with
      | true =>
        obtain rfl : other = name := by simpa using found
        simp [Ne.symm here]
      | false => exact ih

/-- After a key is set it has the value, and other keys have what they had. -/
@[simp] theorem Dict.get?_set {α : Type} (dict : Dict α) (key : String) (value : α)
    (other : String) :
    (dict.set key value).get? other = if key = other then some value else dict.get? other := by
  simp only [Dict.set, Dict.get?]
  split
  · rename_i there
    rw [lookup_replace]
    split
    · rename_i same
      obtain ⟨old, found⟩ := Dict.mem_keys.mp there
      rw [same] at found
      rw [show dict.entries.lookup other = some old from found]
      rfl
    · rfl
  · rename_i fresh
    rw [List.lookup_append]
    by_cases same : key = other
    · subst same
      cases found : dict.entries.lookup key with
      | none => simp
      | some old => exact absurd (Dict.mem_keys.mpr ⟨old, found⟩) fresh
    · have differs : (other == key) = false := by simpa using Ne.symm same
      simp [List.lookup_cons, differs, same]

/-- What holds of a key and the value it is set to, and of what was there, holds of all there is. -/
theorem Dict.forall_set {α : Type} {dict : Dict α} {key : String} {value : α}
    {holds : String → α → Prop} (here : holds key value)
    (rest : ∀ other item, dict.get? other = some item → holds other item) :
    ∀ other item, (dict.set key value).get? other = some item → holds other item := by
  intro other item found
  rw [Dict.get?_set] at found
  split at found
  · rename_i same
    rw [← same, ← Option.some.inj found]
    exact here
  · exact rest other item found

/-- A dictionary of scalars as a JSON object. -/
def Dict.toJson (dict : Dict Scalar) : Json.Value :=
  .obj (dict.entries.map fun item => (item.1, item.2.toJson))

/-- A key that is new comes last. -/
theorem Dict.entries_set {α : Type} {dict : Dict α} {key : String} {value : α}
    (fresh : dict.get? key = none) :
    (dict.set key value).entries = dict.entries ++ [(key, value)] := by
  have absent : key ∉ dict.keys := by
    intro there
    obtain ⟨old, found⟩ := Dict.mem_keys.mp there
    rw [fresh] at found
    cases found
  exact if_neg absent

/-- A key that is new adds its value. -/
theorem Dict.mem_values_set {α : Type} {dict : Dict α} {key : String} {value : α}
    (fresh : dict.get? key = none) {item : α} :
    item ∈ (dict.set key value).values ↔ item ∈ dict.values ∨ item = value := by
  unfold Dict.values
  rw [Dict.entries_set fresh, List.map_append, List.mem_append, List.map_singleton,
    List.mem_singleton]

/-- What is kept under a key is one of the entries. -/
theorem Dict.get?_eq_some {α : Type} {dict : Dict α} {key : String} {value : α} :
    dict.get? key = some value ↔ (key, value) ∈ dict.entries :=
  Table.lookup_iff_mem dict.distinct

/-- A hashable key of a dictionary: a string, or another object known by its text. -/
inductive PyKey
  | str (text : String)
  | other (text : String)
deriving DecidableEq

/-- Any object, as far as the source can tell objects apart: by the type tests it makes and
by `str(value)`, kept as what it gives of the values that are not scalars. Containers that nest too
deeply, or hold an integer that is too long, are not written. -/
inductive PyValue
  | none
  | str (text : String)
  | int (number : Int)
  | float (number : Json.FloatText)
  | bool (flag : Bool)
  | sequence (items : List PyValue) (text : Told)
  | mapping (entries : List (PyKey × PyValue)) (text : Told)
  | other (text : Told)

/-- `str(value)` of a float; JSON writes the exceptional values differently. -/
def floatText (number : Json.FloatText) : String :=
  match number.text with
  | "NaN" => "nan"
  | "Infinity" => "inf"
  | "-Infinity" => "-inf"
  | text => text

/-- `math.isfinite(value)` of a float. -/
def isFinite (number : Json.FloatText) : Bool :=
  decide (number.text ∉ ["NaN", "Infinity", "-Infinity"])

/-- `str(value)`. -/
def PyValue.told : PyValue → Told
  | .none => .ok "None"
  | .str text => .ok text
  | .int number =>
    if longInteger number then .error (.valueError longIntegerMessage) else .ok (toString number)
  | .float number => .ok (floatText number)
  | .bool true => .ok "True"
  | .bool false => .ok "False"
  | .sequence _ text => text
  | .mapping _ text => text
  | .other text => text

/-- `str(value)` gives a text. -/
def PyValue.Written (value : PyValue) : Prop := ∃ text, value.told = .ok text

/-- `str(value)` raises. -/
def PyValue.Raises (value : PyValue) : Prop := ∃ failure, value.told = .error failure

/-- The text of a value that is written. -/
def PyValue.text : PyValue → String
  | .none => "None"
  | .str text => text
  | .int number => toString number
  | .float number => floatText number
  | .bool true => "True"
  | .bool false => "False"
  | .sequence _ text => text.toOption.getD ""
  | .mapping _ text => text.toOption.getD ""
  | .other text => text.toOption.getD ""

/-- What is written of a value is its text. -/
theorem PyValue.text_of_told {value : PyValue} {text : String} (written : value.told = .ok text) :
    value.text = text := by
  cases value with
  | int number =>
    by_cases long : longInteger number = true
    · rw [told, if_pos long] at written
      cases written
    · rw [told, if_neg long] at written
      exact Except.ok.inj written
  | sequence items own =>
    obtain rfl : own = .ok text := written
    rfl
  | mapping entries own =>
    obtain rfl : own = .ok text := written
    rfl
  | other own =>
    obtain rfl : own = .ok text := written
    rfl
  | bool flag => cases flag <;> exact Except.ok.inj written
  | _ => exact Except.ok.inj written

/-- The first item under a string key. -/
def lookupKey {α : Type} (key : String) : List (PyKey × α) → Option α
  | [] => none
  | item :: items => if item.1 = .str key then some item.2 else lookupKey key items

/-- `value.get(key)` of a value that is a mapping. -/
def PyValue.get (value : PyValue) (key : String) : Option PyValue :=
  match value with
  | .mapping entries _ => lookupKey key entries
  | _ => Option.none

/-- `isinstance(value, Mapping)`. -/
def PyValue.isMapping : PyValue → Bool
  | .mapping _ _ => true
  | _ => false

/-- A scalar as a value. -/
def Scalar.toPy : Scalar → PyValue
  | .str text => .str text
  | .int number => .int number
  | .float number => .float number
  | .bool flag => .bool flag
  | .none => .none

/-- `value == text` for a string. -/
def PyValue.equals (value : PyValue) (text : String) : Bool :=
  match value with
  | .str own => own == text
  | _ => false

/-- `isinstance(value, str) and value`. -/
def PyValue.isText : PyValue → Bool
  | .str text => text != ""
  | _ => false

/-- The scalar a value is: `isinstance(value, str | int | float | bool | None)`. -/
def PyValue.scalar? : PyValue → Option Scalar
  | .none => some .none
  | .str text => some (.str text)
  | .int number => some (.int number)
  | .float number => some (.float number)
  | .bool flag => some (.bool flag)
  | _ => Option.none

/-- `value.get(key) is True`. -/
def PyValue.flagged (value : PyValue) (key : String) : Bool :=
  match value.get key with
  | some (.bool true) => true
  | _ => false

/-! ## JSON objects -/

/-- The texts of JSON values. -/
class ValueText where
  /-- `str(value)`. -/
  str : Json.Value → String

/-- `json_value != text` is false. -/
def isText (value : Json.Value) (text : String) : Bool :=
  match value with
  | .str other => other == text
  | _ => false

/-- `members.get(field) == text`. -/
def fieldIs (members : List (String × Json.Value)) (field text : String) : Bool :=
  match members.lookup field with
  | some value => isText value text
  | none => false

/-- A field is one text. -/
theorem fieldIs_unique {members : List (String × Json.Value)} {field left right : String}
    (first : fieldIs members field left = true) (second : fieldIs members field right = true) :
    left = right := by
  simp only [fieldIs] at first second
  split at first
  · rename_i value found
    simp only [found, isText] at second
    cases value with
    | str text =>
      simp only [isText, beq_iff_eq] at first second
      exact first.symm.trans second
    | _ => simp [isText] at first
  · cases first

end DataHarness
