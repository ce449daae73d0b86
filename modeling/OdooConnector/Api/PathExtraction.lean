import OdooConnector.Api.ExtractNode

/-!
# Paths and what they extract

A path has at most one value in a document. The extraction finds it unless it meets a list with a
key that looks like a number to `str.isdigit` and is none to `int`.
-/

namespace OdooConnector.Api

open Queue (Json)

/-! ### The grammar of paths -/

mutual

/-- The value at a path, where the path exists. A key selects in a dictionary, a number in a list,
and any other key goes to each element of a list. -/
def valueAt (data : Json) (path : List String) : Option Json :=
  match path with
  | [] => some data
  | key :: rest =>
      match data with
      | .object entries =>
          match entries.lookup key with
          | some value => valueAt value rest
          | none => none
      | .array items =>
          match decimalNumber key with
          | some index => if inside : index < items.length then valueAt items[index] rest else none
          | none => some (.array (valuesAt items key rest))
      | _ => none
termination_by (path.length, sizeOf data)

/-- The values of the elements where the path exists. -/
def valuesAt (items : List Json) (key : String) (rest : List String) : List Json :=
  match items with
  | [] => []
  | item :: items => (valueAt item (key :: rest)).toList ++ valuesAt items key rest
termination_by (rest.length + 1, sizeOf items)

end

/-- Following a path in a document reaches a node, with the rest of the path. -/
inductive Reaches : Json → List String → Json → List String → Prop
  | here (data : Json) (path : List String) : Reaches data path data path
  | entry {entries : List (String × Json)} {key : String} {value node : Json}
      {path rest : List String} (found : entries.lookup key = some value)
      (later : Reaches value path node rest) : Reaches (.object entries) (key :: path) node rest
  | index {items : List Json} {key : String} {number : ℕ} {item node : Json}
      {path rest : List String} (decimal : decimalNumber key = some number)
      (found : items[number]? = some item) (later : Reaches item path node rest) :
      Reaches (.array items) (key :: path) node rest
  | each {items : List Json} {key : String} {item node : Json} {path rest : List String}
      (noNumber : decimalNumber key = none) (member : item ∈ items)
      (later : Reaches item (key :: path) node rest) :
      Reaches (.array items) (key :: path) node rest

/-- Whatever list the path meets, a key of digits is a number for `int` there. -/
def NumbersRead (data : Json) (path : List String) : Prop :=
  ∀ items key rest, Reaches data path (.array items) (key :: rest) →
    isdigit key → (int key).isSome

/-- The path meets lists with numbers only. -/
def Straight (data : Json) (path : List String) : Prop :=
  ∀ items key rest, Reaches data path (.array items) (key :: rest) → (decimalNumber key).isSome

variable {data : Json} {items : List Json} {entries : List (String × Json)} {key : String}
  {path rest : List String}

theorem valueAt_nil (data : Json) : valueAt data [] = some data := by rw [valueAt]

theorem valueAt_object (entries : List (String × Json)) (key : String) (rest : List String) :
    valueAt (.object entries) (key :: rest) =
      (entries.lookup key).bind fun value => valueAt value rest := by
  rw [valueAt]
  cases entries.lookup key with
  | none => rfl
  | some value => rfl

theorem valueAt_index {number : ℕ} (decimal : decimalNumber key = some number)
    (items : List Json) (rest : List String) :
    valueAt (.array items) (key :: rest) = items[number]?.bind fun item => valueAt item rest := by
  rw [valueAt, decimal]
  by_cases inside : number < items.length
  · simp [inside]
  · simp [inside]

/-- The elements where the path exists are kept, in order. -/
theorem valuesAt_eq (items : List Json) (key : String) (rest : List String) :
    valuesAt items key rest = items.filterMap fun item => valueAt item (key :: rest) := by
  induction items with
  | nil => rw [valuesAt, List.filterMap_nil]
  | cons item items induction =>
      rw [valuesAt, induction, List.filterMap_cons]
      cases valueAt item (key :: rest) with
      | none => rfl
      | some value => rfl

theorem valueAt_each (noNumber : decimalNumber key = none) (items : List Json)
    (rest : List String) :
    valueAt (.array items) (key :: rest) =
      some (.array (items.filterMap fun item => valueAt item (key :: rest))) := by
  rw [valueAt, noNumber, valuesAt_eq]

/-! ### The extraction -/

theorem decimalNumber_eq_none (noDigits : isdigit key = false) : decimalNumber key = none := by
  rw [← Option.not_isSome_iff_eq_none]
  intro decimal
  exact Bool.false_ne_true (noDigits.symm.trans (isdigit_of_decimalNumber decimal))

/-- Neither a list nor a dictionary. -/
def isLeaf : Json → Bool
  | .array _ | .object _ => false
  | .null | .boolean _ | .integer _ | .float _ | .text _ => true

/-- Induction on the path, and for lists with one path on the elements. -/
theorem document_induction {motive : Json → List String → Prop}
    (nil : ∀ data, motive data [])
    (object : ∀ entries key rest, (∀ value, motive value rest) →
      motive (.object entries) (key :: rest))
    (array : ∀ items key rest, (∀ item, motive item rest) →
      (∀ item ∈ items, motive item (key :: rest)) → motive (.array items) (key :: rest))
    (leaf : ∀ data key rest, isLeaf data → motive data (key :: rest))
    (data : Json) (path : List String) : motive data path := by
  match path, data with
  | [], data => exact nil data
  | key :: rest, .object entries =>
      exact object entries key rest fun value =>
        document_induction nil object array leaf value rest
  | key :: rest, .array items =>
      refine array items key rest
        (fun item => document_induction nil object array leaf item rest) fun item member => ?_
      have smaller := List.sizeOf_lt_of_mem member
      exact document_induction nil object array leaf item (key :: rest)
  | key :: rest, .null | key :: rest, .boolean _ | key :: rest, .integer _ | key :: rest, .float _
  | key :: rest, .text _ => exact leaf _ key rest rfl
termination_by (path.length, sizeOf data)

theorem extract_leaf (leaf : isLeaf data) (key : String) (rest : List String) :
    extract data (key :: rest) = .ok none := by
  cases data with
  | array items => contradiction
  | object entries => contradiction
  | null | boolean _ | integer _ | float _ | text _ => rw [extract] <;> simp

theorem valueAt_leaf (leaf : isLeaf data) (key : String) (rest : List String) :
    valueAt data (key :: rest) = none := by
  cases data with
  | array items => contradiction
  | object entries => contradiction
  | null | boolean _ | integer _ | float _ | text _ => rw [valueAt] <;> simp

theorem extractEach_of_ok {value : Json → Option Json}
    (all : ∀ item ∈ items, extract item (key :: rest) = .ok (value item)) :
    extractEach items key rest = .ok (items.map value) := by
  induction items with
  | nil => rw [extractEach, List.map_nil]
  | cons item items induction =>
      rw [extractEach, all item List.mem_cons_self,
        induction fun other member => all other (List.mem_cons_of_mem _ member)]
      rfl

/-- An element that is not extracted makes the list fail. -/
theorem extractEach_of_error
    (all : ∀ item ∈ items, (∃ found, extract item (key :: rest) = .ok found) ∨
      extract item (key :: rest) = .error .value)
    (fails : ∃ item ∈ items, extract item (key :: rest) = .error .value) :
    extractEach items key rest = .error .value := by
  induction items with
  | nil =>
      obtain ⟨item, member, -⟩ := fails
      exact absurd member List.not_mem_nil
  | cons item items induction =>
      rw [extractEach]
      rcases all item List.mem_cons_self with ⟨found, own⟩ | own
      · obtain ⟨other, member, error⟩ := fails
        rcases List.mem_cons.mp member with rfl | later
        · rw [own] at error
          contradiction
        · rw [own, induction (fun other member => all other (List.mem_cons_of_mem _ member))
            ⟨other, later, error⟩]
          rfl
      · rw [own]
        rfl

/-- Where all numbers are read, the extraction gives the value at the path. -/
theorem extract_eq_valueAt (data : Json) (path : List String) (read : NumbersRead data path) :
    extract data path = .ok (valueAt data path) := by
  induction data, path using document_induction with
  | nil data => rw [extract_nil, valueAt_nil]
  | object entries key rest induction =>
      rw [extract_object, valueAt_object]
      cases found : entries.lookup key with
      | none => rfl
      | some value =>
          exact induction value fun items other rest reaches =>
            read items other rest (.entry found reaches)
  | array items key rest below inside =>
      have own := read items key rest (.here _ _)
      cases number : int key with
      | some index =>
          have decimal := decimalNumber_of_int number
          rw [extract_index rest number, valueAt_index decimal]
          cases found : items[index]? with
          | none => rfl
          | some item =>
              exact below item fun items other rest reaches =>
                read items other rest (.index decimal found reaches)
      | none =>
          have noDigits : isdigit key = false := by
            rw [Bool.eq_false_iff]
            intro digits
            have isNumber := own digits
            rw [number] at isNumber
            contradiction
          have noNumber := decimalNumber_eq_none noDigits
          have all : ∀ item ∈ items,
              extract item (key :: rest) = .ok (valueAt item (key :: rest)) := by
            intro item member
            exact inside item member fun others other rest reaches =>
              read others other rest (.each noNumber member reaches)
          rw [extract_each rest noDigits, extractEach_of_ok all, valueAt_each noNumber]
          simp [Except.map, List.filterMap_map]
  | leaf data key rest leaf => rw [extract_leaf leaf, valueAt_leaf leaf]

/-- Nothing but `int` fails. -/
theorem extract_ok_or_error (data : Json) (path : List String) :
    (∃ found, extract data path = .ok found) ∨ extract data path = .error .value := by
  induction data, path using document_induction with
  | nil data => exact .inl ⟨_, extract_nil data⟩
  | object entries key rest induction =>
      rw [extract_object]
      cases entries.lookup key with
      | none => exact .inl ⟨none, rfl⟩
      | some value => exact induction value
  | array items key rest below inside =>
      cases digits : isdigit key with
      | true =>
          cases number : int key with
          | none => exact .inr (extract_unread rest digits number items)
          | some index =>
              rw [extract_index rest number]
              cases items[index]? with
              | none => exact .inl ⟨none, rfl⟩
              | some item => exact below item
      | false =>
          rw [extract_each rest digits]
          by_cases fails : ∃ item ∈ items, extract item (key :: rest) = .error .value
          · rw [extractEach_of_error inside fails]
            exact .inr rfl
          · push Not at fails
            have found : ∀ item ∈ items, ∃ found, extract item (key :: rest) = .ok found :=
              fun item member => (inside item member).resolve_right (fails item member)
            choose! value extracted using found
            rw [extractEach_of_ok extracted]
            exact .inl ⟨_, rfl⟩
  | leaf data key rest leaf => exact .inl ⟨none, extract_leaf leaf key rest⟩

/-- A list that is met by digits which are no number makes the extraction fail. -/
theorem extract_error_of_reaches {node : Json} {behind : List String}
    (reaches : Reaches data path node behind) (isArray : node = .array items)
    (isKey : behind = key :: rest) (digits : isdigit key) (unread : int key = none) :
    extract data path = .error .value := by
  induction reaches with
  | here data path =>
      subst isArray isKey
      exact extract_unread rest digits unread items
  | entry found _ induction =>
      rw [extract_object, found]
      exact induction isArray isKey
  | @index others other number item _ path _ decimal found _ induction =>
      cases read : int other with
      | none =>
          have isNumber : isdigit other := isdigit_of_decimalNumber (by rw [decimal]; rfl)
          exact extract_unread path isNumber read others
      | some index =>
          have same := (decimalNumber_of_int read).symm.trans decimal
          rw [extract_index path read, Option.some.inj same, found]
          exact induction isArray isKey
  | @each others other item _ path _ noNumber member _ induction =>
      cases isNumber : isdigit other with
      | true =>
          have notRead : int other = none := by
            rw [← Option.not_isSome_iff_eq_none, Option.isSome_iff_exists]
            rintro ⟨number, read⟩
            rw [decimalNumber_of_int read] at noNumber
            contradiction
          exact extract_unread path isNumber notRead others
      | false =>
          rw [extract_each path isNumber, extractEach_of_error
            (fun item _ => extract_ok_or_error item (other :: path))
            ⟨item, member, induction isArray isKey⟩]
          rfl

/-- Behind a path without fan-out, the rest is extracted from what the first part gives. -/
theorem extract_append (first second : List String) (straight : Straight data first) :
    extract data (first ++ second) = (extract data first).bind fun found =>
      match found with
      | some value => extract value second
      | none => .ok none := by
  induction first generalizing data with
  | nil =>
      rw [extract_nil]
      rfl
  | cons key rest induction =>
      rw [List.cons_append]
      by_cases leaf : isLeaf data
      · rw [extract_leaf leaf, extract_leaf leaf]
        rfl
      cases data with
      | object entries =>
          rw [extract_object, extract_object]
          cases found : entries.lookup key with
          | none => rfl
          | some value =>
              exact induction fun items other behind reaches =>
                straight items other behind (.entry found reaches)
      | array items =>
          have decimal := straight items key rest (.here _ _)
          have digits := isdigit_of_decimalNumber decimal
          cases read : int key with
          | none =>
              rw [extract_unread _ digits read, extract_unread _ digits read]
              rfl
          | some index =>
              rw [extract_index _ read, extract_index _ read]
              cases found : items[index]? with
              | none => rfl
              | some item =>
                  exact induction fun others other behind reaches =>
                    straight others other behind (.index (decimalNumber_of_int read) found reaches)
      | null | boolean _ | integer _ | float _ | text _ => exact absurd rfl leaf

theorem suffix_of_reaches {node : Json} (reaches : Reaches data path node rest) :
    rest <:+ path := by
  induction reaches with
  | here data path => exact List.suffix_refl path
  | entry _ _ induction => exact induction.trans (List.suffix_cons _ _)
  | index _ _ _ induction => exact induction.trans (List.suffix_cons _ _)
  | each _ _ _ induction => exact induction

/-- A path of names and of numbers that `int` reads is followed in every document. -/
theorem numbersRead_of_keys (read : ∀ key ∈ path, isdigit key → (int key).isSome) (data : Json) :
    NumbersRead data path := by
  intro items key rest reaches
  exact read key ((suffix_of_reaches reaches).subset List.mem_cons_self)

/-! ### Calls -/

variable {α : Type}

/-- What a call should give: the value at the path, and where the path is missing the default, or
the error that names the key. -/
def expected (data : Json) (keyString : String) (returnType : ReturnType α) (raiseError : Bool) :
    Except ExtractError (Extracted α) :=
  match valueAt data (split '.' keyString) with
  | some value => .ok (.found value)
  | none =>
      if raiseError then
        .error (.jsonMissedKey ("ExtractNode parse error: Key \"" ++ keyString ++ "\" not found"))
      else .ok (.default returnType.getDefault)

/-- The call gives what it should, and the last part of a path is extracted from what the first part
gives. -/
structure FollowsPath (loads : String → Except String Json) (jsonData data : Json)
    (keyString : String) (returnType : ReturnType α) (raiseError : Bool) : Prop where
  call : ExtractNode.extractRaw loads jsonData keyString returnType raiseError =
    expected data keyString returnType raiseError
  parts : ∀ first second, keyString = first ++ "." ++ second → Straight data (split '.' first) →
    extract data (split '.' keyString) = (extract data (split '.' first)).bind fun found =>
      match found with
      | some value => extract value (split '.' second)
      | none => .ok none

variable {loads : String → Except String Json} {jsonData : Json}

theorem missedKey_new (keyString : String) (returnType : ReturnType α) (raiseError : Bool) :
    (ExtractNode.new keyString returnType raiseError).missedKey =
      "ExtractNode parse error: Key \"" ++ keyString ++ "\" not found" := by
  have joined : (String.singleton '.').intercalate
      (ExtractNode.new keyString returnType raiseError).keys = keyString :=
    intercalate_split '.' keyString
  unfold ExtractNode.missedKey
  rw [joined]

theorem extractRaw_eq (loaded : ExtractNode.load loads jsonData = .ok data) (keyString : String)
    (returnType : ReturnType α) (raiseError : Bool) :
    ExtractNode.extractRaw loads jsonData keyString returnType raiseError =
      (extract data (split '.' keyString)).bind fun found =>
        match found with
        | some value => .ok (.found value)
        | none =>
            if raiseError then
              .error (.jsonMissedKey
                ("ExtractNode parse error: Key \"" ++ keyString ++ "\" not found"))
            else .ok (.default returnType.getDefault) := by
  rw [ExtractNode.extractRaw, ExtractNode.call, loaded, missedKey_new]
  rfl

/-- A call follows its path exactly where the keys of digits that meet lists are numbers. -/
theorem followsPath_iff_numbersRead (loaded : ExtractNode.load loads jsonData = .ok data)
    (keyString : String) (returnType : ReturnType α) (raiseError : Bool) :
    FollowsPath loads jsonData data keyString returnType raiseError ↔
      NumbersRead data (split '.' keyString) := by
  constructor
  · rintro ⟨call, -⟩ items key rest reaches digits
    rw [← Option.ne_none_iff_isSome]
    intro unread
    rw [extractRaw_eq loaded, extract_error_of_reaches reaches rfl rfl digits unread, expected,
      Except.bind] at call
    split at call
    · contradiction
    · split at call
      · cases call
      · contradiction
  · intro read
    constructor
    · rw [extractRaw_eq loaded, extract_eq_valueAt _ _ read, expected]
      rfl
    · rintro first second rfl straight
      have dot : "." = String.singleton '.' := rfl
      rw [dot, split_append]
      exact extract_append _ _ straight

/-- `json.loads` of texts that are no JSON. -/
def noLoads (_ : String) : Except String Json := .error "Expecting value: line 1 column 1 (char 0)"

/-- Two products with an id each. -/
def productsData : Json :=
  .object [("products", .array [.object [("id", .integer 100)], .object [("id", .integer 200)]])]

/-- An index and a name on the way to the id of the second product. -/
theorem followsPath_productsData :
    FollowsPath noLoads productsData productsData "products.1.id"
      (.callable fun _ => (0 : ℤ)) true := by
  refine (followsPath_iff_numbersRead rfl _ _ _).mpr (numbersRead_of_keys ?_ productsData)
  decide

/-- Two units, each under its sign. -/
def unitsData : Json :=
  .object [("units", .array [.object [("²", .text "square")], .object [("³", .text "cubic")]])]

/-- A superscript is a digit, and the extraction takes it for an index. -/
theorem not_followsPath_unitsData :
    valueAt unitsData (split '.' "units.²") = some (.array [.text "square"]) ∧
    ExtractNode.extractRaw noLoads unitsData "units.²" (.callable fun _ => Json.array []) false =
      .error .value ∧
    ¬ FollowsPath noLoads unitsData unitsData "units.²" (.callable fun _ => Json.array [])
      false := by
  have keys : split '.' "units.²" = ["units", "²"] := by decide
  have reaches : Reaches unitsData ["units", "²"]
      (.array [.object [("²", .text "square")], .object [("³", .text "cubic")]]) ["²"] :=
    .entry rfl (.here _ _)
  have value : valueAt unitsData (split '.' "units.²") = some (.array [.text "square"]) := by
    rw [keys, unitsData, valueAt_object, List.lookup_cons, beq_self_eq_true, Option.bind_some,
      valueAt_each (by decide)]
    simp [valueAt_object, List.lookup_cons, valueAt_nil]
  have fails : ExtractNode.extractRaw noLoads unitsData "units.²"
      (.callable fun _ => Json.array []) false = .error .value := by
    rw [extractRaw_eq rfl, keys, extract_error_of_reaches reaches rfl rfl (by decide) (by decide)]
    rfl
  refine ⟨value, fails, fun follows => ?_⟩
  have call := follows.call
  rw [fails, expected, value] at call
  contradiction

end OdooConnector.Api
