import OdooConnector.Library.Dict
import OdooConnector.Library.Text

/-!
# Decoded responses

The XML of a response is decoded into dictionaries. Children that share a tag become a list, while a
child that has its tag alone becomes its value.
-/

namespace OdooConnector
namespace Carrier

/-- A node of a response. The tag is without its namespace, and the text is what stands before the
first child. -/
inductive Xml
  | element (tag : String) (attributes : List (String × String)) (text : Option String)
      (children : List Xml)
  | comment

/-- A decoded value. -/
inductive Value
  | none
  | str (text : String)
  | dict (entries : List (String × Value))
  | list (values : List Value)

/-- `_pullval` -/
def pullval : List Value → Value
  | [value] => value
  | values => .list values

/-- The values of the children under their tags. -/
def childrenDict (items : List (String × Value)) : Dict String Value where
  entries := (Dict.groupBy Prod.fst items).entries.map fun group =>
    (group.1, pullval (group.2.map Prod.snd))
  keys_nodup := by
    rw [List.map_map]
    exact (Dict.groupBy Prod.fst items).keys_nodup

/-- The value of an element, from its attributes, its text and the items of its children. -/
def elementValue (attributes : List (String × String)) (text : Option String) (children : List Xml)
    (items : List (String × Value)) : Value :=
  let text := text.getD ""
  if children.isEmpty && attributes.isEmpty then if text = "" then .none else .str (strip text)
  else
    let entries := Dict.updateAll (fun pair => "_" ++ pair.1)
      (fun pair _ => .str pair.2) (childrenDict items) attributes
    .dict (if strip text = "" then entries
      else entries.update "value" fun _ => .str (strip text)).entries

mutual

/-- The dictionary of a node: its value under its tag. -/
def etreeToDict : Xml → List (String × Value)
  | .element tag attributes text children =>
      [(tag, elementValue attributes text children (childItems children))]
  | .comment => []

/-- The items of the dictionaries of nodes. -/
def childItems : List Xml → List (String × Value)
  | [] => []
  | child :: children => etreeToDict child ++ childItems children

end

namespace Value

/-- `value.get(key)`, which only a dictionary has. -/
def get (key : String) : Value → Except String Value
  | .dict entries => .ok (((entries.find? fun entry => entry.1 = key).map Prod.snd).getD .none)
  | .none => .error "'NoneType' object has no attribute 'get'"
  | .str _ => .error "'str' object has no attribute 'get'"
  | .list _ => .error "'list' object has no attribute 'get'"

/-- `bool(value)` -/
def truthy : Value → Bool
  | .none => false
  | .str text => text ≠ ""
  | .dict entries => !entries.isEmpty
  | .list values => !values.isEmpty

/-- What a loop over a value goes through: of a dictionary its keys, of a text its characters. -/
def iterate : Value → Except String (List Value)
  | .none => .error "'NoneType' object is not iterable"
  | .str text => .ok (text.toList.map fun char => .str (String.singleton char))
  | .dict entries => .ok (entries.map fun entry => .str entry.1)
  | .list values => .ok values

end Value

/-! ## The values of children -/

namespace Xml

def tag? : Xml → Option String
  | .element tag _ _ _ => some tag
  | .comment => none

def children : Xml → List Xml
  | .element _ _ _ children => children
  | .comment => []

/-- The children with a tag. -/
def named (tag : String) (node : Xml) : List Xml :=
  node.children.filter fun child => child.tag? = some tag

/-- The decoded value of an element. -/
def value : Xml → Value
  | .element _ attributes text children =>
      elementValue attributes text children (childItems children)
  | .comment => .none

end Xml

/-- A name of a child that is neither that of an attribute nor that of the text. -/
def Plain (key : String) : Prop := key ≠ "value" ∧ key.toList.head? ≠ some '_'

theorem Plain.ne_attribute {key : String} (plain : Plain key) (name : String) :
    "_" ++ name ≠ key := by
  intro same
  apply plain.2
  rw [← same, String.toList_append]
  rfl

theorem get?_childrenDict (items : List (String × Value)) (key : String) :
    (childrenDict items).get? key =
      if (items.filter fun item => item.1 = key) = [] then none
      else some (pullval ((items.filter fun item => item.1 = key).map Prod.snd)) := by
  have grouped := Dict.get?_groupBy Prod.fst items key
  have found : (childrenDict items).get? key = ((Dict.groupBy Prod.fst items).get? key).map
      fun group => pullval (group.map Prod.snd) := by
    simp only [Dict.get?, childrenDict, List.find?_map, Option.map_map]
    rfl
  rw [found, grouped]
  split <;> rfl

theorem childItems_filter (children : List Xml) (key : String) :
    ((childItems children).filter fun item => item.1 = key).map Prod.snd =
      (children.filter fun child => child.tag? = some key).map Xml.value := by
  induction children with
  | nil => rfl
  | cons child children induction =>
      rw [childItems, List.filter_append, List.map_append, induction]
      cases child with
      | comment => rfl
      | element tag attributes text grandchildren =>
          rw [etreeToDict]
          by_cases same : tag = key
          · simp [same, Xml.tag?, Xml.value]
          · simp [same, Xml.tag?]

/-- What `get` finds in the value of an element with children: the value of the only child with the
tag, or the list of the values. -/
theorem get_value {node : Xml} (nonempty : node.children ≠ []) {key : String} (plain : Plain key)
    (present : node.named key ≠ []) :
    node.value.get key = .ok (pullval ((node.named key).map Xml.value)) := by
  cases node with
  | comment => exact absurd rfl nonempty
  | element tag attributes text children =>
      have notLeaf : (children.isEmpty && attributes.isEmpty) = false := by
        cases children with
        | nil => exact absurd rfl nonempty
        | cons child children => rfl
      have items : (childrenDict (childItems children)).get? key =
          some (pullval
            ((Xml.named key (.element tag attributes text children)).map Xml.value)) := by
        have filtered := childItems_filter children key
        rw [get?_childrenDict, if_neg, filtered]
        · rfl
        · intro empty
          apply present
          rw [empty] at filtered
          exact List.map_eq_nil_iff.mp filtered.symm
      have attributed : (Dict.updateAll (fun pair : String × String => "_" ++ pair.1)
          (fun pair _ => Value.str pair.2) (childrenDict (childItems children)) attributes).get?
          key = some (pullval ((Xml.named key (.element tag attributes text children)).map
            Xml.value)) := by
        rw [Dict.get?_updateAll_of_none fun pair _ => plain.ne_attribute pair.1, items]
      rw [Xml.value, elementValue]
      simp only [notLeaf, Bool.false_eq_true, if_false]
      split
      · exact congrArg (fun found => Except.ok (Option.getD found Value.none)) attributed
      · have written := Dict.get?_update (Dict.updateAll (fun pair : String × String =>
          "_" ++ pair.1) (fun pair _ => Value.str pair.2) (childrenDict (childItems children))
            attributes) "value" key fun _ => .str (strip (text.getD ""))
        rw [if_neg plain.1, attributed] at written
        exact congrArg (fun found => Except.ok (Option.getD found Value.none)) written

/-- An element with children is a dictionary, even where they are comments. -/
theorem value_eq_dict {node : Xml} (nonempty : node.children ≠ []) :
    ∃ entries, node.value = .dict entries := by
  cases node with
  | comment => exact absurd rfl nonempty
  | element tag attributes text children =>
      have notLeaf : (children.isEmpty && attributes.isEmpty) = false := by
        cases children with
        | nil => exact absurd rfl nonempty
        | cons child children => rfl
      rw [Xml.value, elementValue]
      simp only [notLeaf, Bool.false_eq_true, if_false]
      exact ⟨_, rfl⟩

end Carrier
end OdooConnector
