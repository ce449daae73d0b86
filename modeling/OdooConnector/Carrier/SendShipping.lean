import Mathlib.Data.List.Forall2
import OdooConnector.Carrier.Response

/-!
# Created shipments

The skybill numbers of a created shipment are read from the decoded response. With a reservation the
code loops over the parcels also where there is one only, which is a dictionary, so that it fails
after the carrier has created the shipment.
-/

namespace OdooConnector
namespace Carrier

/-- The functions of the runtime on values. -/
structure Runtime (β : Type) where
  /-- `binascii.a2b_base64` -/
  decodeBase64 : String → Except String β
  /-- `str` -/
  str : Value → String
  str_text : ∀ text, str (.str text) = text

/-- A message posted on the picking. -/
inductive Message (β : Type)
  | body (text : String)
  | attachment (name : String) (data : β)

/-- What is returned for the picking, with the messages posted on it. -/
structure Shipping (β : Type) where
  trackingNumber : String
  posted : List (Message β)

/-- What the carrier sends; nothing stands for a content that is no XML. -/
structure HttpResponse where
  statusCode : ℕ
  text : String
  content : Option Xml

/-- `chronopost_provider_create_shipment` -/
def createShipment (response : HttpResponse) : Except String (Bool × Value) :=
  if response.statusCode = 200 ∨ response.statusCode = 201 then
    match response.content with
    | some root => .ok (true, .dict (etreeToDict root))
    | none => .error "'Response' object has no attribute '_dict'"
  else .ok (false, .str response.text)

/-- The dictionary of the response, if there is one. -/
def returnedDict (responseData : Value) : Except String (Option Value) := do
  let envelope ← responseData.get "Envelope"
  if envelope.truthy then
    let body ← envelope.get "Body"
    if body.truthy then
      let response ← body.get "shippingMultiParcelResponse"
      let returned ← response.get "return"
      let result ← returned.get "resultMultiParcelValue"
      return if result.truthy then some returned else none
    else return none
  else return none

/-- A text, as `join` wants it. -/
def textItem : Value → Except String String
  | .str text => .ok text
  | _ => .error "sequence item: expected str instance"

/-- `",".join(values)` -/
def joinTexts (values : List Value) : Except String String :=
  (values.mapM textItem).map fun texts => (String.singleton ',').intercalate texts

section

variable {β : Type} (runtime : Runtime β) (labelMode : String)

/-- The label of a parcel as a file. -/
def labelMessage (index : ℕ) (package : Value) : Except String (Message β) := do
  let labelData ← package.get "pdfEtiquette"
  let binaryData ← runtime.decodeBase64 (runtime.str labelData)
  return .attachment ("LabelShipping-chronopost-" ++ toString index ++ "." ++ labelMode) binaryData

/-- The numbers and the labels of several parcels. -/
def readPackages : ℕ → List Value → Except String (List Value × List (Message β))
  | _, [] => .ok ([], [])
  | index, package :: packages => do
      let skybillNumber ← package.get "skybillNumber"
      let message ← labelMessage runtime labelMode index package
      let (numbers, messages) ← readPackages (index + 1) packages
      return (skybillNumber :: numbers, message :: messages)

/-- What is read from the response that the carrier sent for the number of parcels. -/
def readShipping (withReservation : String) (numberOfParcel : ℤ) (response : Bool × Value) :
    Except String (Shipping β) := do
  let returned ← if response.1 then returnedDict response.2 else .ok none
  match returned with
  | none => .error (runtime.str response.2)
  | some returned =>
      if withReservation = "1" then
        let reservationNumber ← returned.get "reservationNumber"
        let skybillNumbers ← (← returned.get "resultMultiParcelValue").iterate
        let numbers ← skybillNumbers.mapM (Value.get "skybillNumber")
        return ⟨← joinTexts numbers,
          [.body (" Reservation Number : " ++ runtime.str reservationNumber)]⟩
      else if numberOfParcel > 1 then
        let packages ← (← returned.get "resultMultiParcelValue").iterate
        let (numbers, messages) ← readPackages runtime labelMode 1 packages
        return ⟨← joinTexts numbers, messages⟩
      else
        let package ← returned.get "resultMultiParcelValue"
        let skybillNumber ← package.get "skybillNumber"
        let message ← labelMessage runtime labelMode 1 package
        return ⟨← joinTexts [skybillNumber], [message]⟩

/-- `chronopost_provider_send_shipping` from the response on; an error is raised as a
`ValidationError`. -/
def sendShipping (withReservation : String) (numberOfParcel : ℤ) (response : HttpResponse) :
    Except String (Shipping β) := do
  readShipping runtime labelMode withReservation numberOfParcel (← createShipment response)

end

/-! ## A successful response -/

structure Parcel where
  skybillNumber : String
  label : String

/-- An element that holds a text and nothing else. -/
def IsText (node : Xml) (text : String) : Prop :=
  ∃ tag raw, node = .element tag [] (some raw) [] ∧ raw ≠ "" ∧ strip raw = text

/-- The element of a parcel, with its number and its label. -/
structure HoldsParcel (node : Xml) (parcel : Parcel) : Prop where
  number : ∃ leaf, node.named "skybillNumber" = [leaf] ∧ IsText leaf parcel.skybillNumber
  label : ∃ leaf, node.named "pdfEtiquette" = [leaf] ∧ IsText leaf parcel.label

/-- The response for a created shipment; other elements, attributes, texts and comments may stand
anywhere. -/
structure Successful (response : HttpResponse) (parcels : List Parcel) : Prop where
  status : response.statusCode = 200 ∨ response.statusCode = 201
  shape : ∃ root body multi returned, response.content = some root ∧
    root.tag? = some "Envelope" ∧ root.named "Body" = [body] ∧
    body.named "shippingMultiParcelResponse" = [multi] ∧ multi.named "return" = [returned] ∧
    List.Forall₂ HoldsParcel (returned.named "resultMultiParcelValue") parcels

/-! ## What is read -/

theorem value_of_isText {node : Xml} {text : String} (isText : IsText node text) :
    node.value = .str text := by
  obtain ⟨tag, raw, rfl, nonempty, rfl⟩ := isText
  simp [Xml.value, elementValue, nonempty]

theorem children_ne_nil_of_named {node child : Xml} {tag : String}
    (named : node.named tag = [child]) : node.children ≠ [] := by
  intro empty
  rw [Xml.named, empty] at named
  cases named

/-- The value of an only child. -/
theorem get_value_only {node child : Xml} {tag : String} (plain : Plain tag)
    (named : node.named tag = [child]) : node.value.get tag = .ok child.value := by
  have found := get_value (children_ne_nil_of_named named) plain (by simp [named])
  rw [found, named]
  rfl

/-- The value of an element whose parcels are read. -/
theorem getters {node : Xml} {parcel : Parcel} (holds : HoldsParcel node parcel) :
    node.value.get "skybillNumber" = .ok (.str parcel.skybillNumber) ∧
      node.value.get "pdfEtiquette" = .ok (.str parcel.label) := by
  obtain ⟨number, numberNamed, isNumber⟩ := holds.number
  obtain ⟨label, labelNamed, isLabel⟩ := holds.label
  rw [get_value_only (by simp [Plain]) numberNamed, get_value_only (by simp [Plain]) labelNamed,
    value_of_isText isNumber, value_of_isText isLabel]
  exact ⟨rfl, rfl⟩

theorem joinTexts_map (texts : List String) :
    joinTexts (texts.map Value.str) = .ok ((String.singleton ',').intercalate texts) := by
  have items : (texts.map Value.str).mapM textItem = .ok texts := by
    induction texts with
    | nil => rfl
    | cons text texts induction => rw [List.map_cons, List.mapM_cons, induction]; rfl
  rw [joinTexts, items]
  rfl

/-- A dictionary in which something is found is true. -/
theorem truthy_of_get {value found : Value} {key : String} (get : value.get key = .ok found)
    (some : found ≠ .none) : value.truthy = true := by
  cases value with
  | none => cases get
  | str text => cases get
  | list values => cases get
  | dict entries =>
      cases entries with
      | nil =>
          cases get
          exact absurd rfl some
      | cons entry entries => rfl

/-- The value of the parcels, which is no list where there is only one. -/
def parcelsValue (nodes : List Xml) : Value := pullval (nodes.map Xml.value)

theorem truthy_parcelsValue {nodes : List Xml} {parcels : List Parcel}
    (holds : List.Forall₂ HoldsParcel nodes parcels) (nonempty : parcels ≠ []) :
    (parcelsValue nodes).truthy = true := by
  cases holds with
  | nil => exact absurd rfl nonempty
  | @cons node parcel nodes parcels head tail =>
      cases nodes with
      | nil =>
          have number := (getters head).1
          exact truthy_of_get number (by simp)
      | cons other nodes => rfl

/-- A successful response gives the dictionary that holds the parcels. -/
theorem returnedDict_of_successful {response : HttpResponse} {parcels : List Parcel}
    (successful : Successful response parcels) (nonempty : parcels ≠ []) :
    ∃ responseData returned nodes, createShipment response = .ok (true, responseData) ∧
      returnedDict responseData = .ok (some returned) ∧
      returned.get "resultMultiParcelValue" = .ok (parcelsValue nodes) ∧
      (∃ entries, returned = .dict entries) ∧ List.Forall₂ HoldsParcel nodes parcels := by
  obtain ⟨root, body, multi, returned, content, envelope, bodies, responses, returns, holds⟩ :=
    successful.shape
  have bodyFound := get_value_only (by simp [Plain]) bodies
  have multiFound := get_value_only (by simp [Plain]) responses
  have returnFound := get_value_only (by simp [Plain]) returns
  have named : returned.named "resultMultiParcelValue" ≠ [] := by
    intro empty
    rw [empty] at holds
    cases holds
    exact nonempty rfl
  have children : returned.children ≠ [] := by
    intro empty
    rw [Xml.named, empty] at named
    exact named rfl
  have result := @get_value returned children "resultMultiParcelValue" (by simp [Plain]) named
  have resultTrue := truthy_parcelsValue holds nonempty
  obtain ⟨multiEntries, multiDict⟩ := value_eq_dict (children_ne_nil_of_named returns)
  obtain ⟨bodyEntries, bodyDict⟩ := value_eq_dict (children_ne_nil_of_named responses)
  have bodyTrue := truthy_of_get multiFound (by simp [multiDict])
  have rootTrue := truthy_of_get bodyFound (by simp [bodyDict])
  have found : (Value.dict (etreeToDict root)).get "Envelope" = .ok root.value := by
    cases root with
    | comment => cases envelope
    | element tag attributes text children =>
        cases envelope
        rw [etreeToDict]
        rfl
  refine ⟨.dict (etreeToDict root), returned.value, _, ?_, ?_, result, value_eq_dict children,
    holds⟩
  · rw [createShipment, if_pos successful.status, content]
  · rw [returnedDict, found]
    dsimp only [bind, Except.bind]
    rw [rootTrue, if_pos rfl, bodyFound]
    dsimp only
    rw [bodyTrue, if_pos rfl, multiFound]
    dsimp only
    rw [returnFound]
    dsimp only
    rw [result]
    dsimp only
    rw [parcelsValue] at resultTrue
    rw [resultTrue]
    rfl

section

variable {β : Type} (runtime : Runtime β) (labelMode : String)

/-- A label that can be decoded is posted. -/
theorem labelMessage_ok {node : Xml} {parcel : Parcel} (holds : HoldsParcel node parcel)
    {data : β} (decodes : runtime.decodeBase64 parcel.label = .ok data) (index : ℕ) :
    ∃ message, labelMessage runtime labelMode index node.value = .ok message := by
  rw [labelMessage, (getters holds).2]
  dsimp only [bind, Except.bind]
  rw [runtime.str_text, decodes]
  exact ⟨_, rfl⟩

theorem readPackages_ok {nodes : List Xml} {parcels : List Parcel}
    (holds : List.Forall₂ HoldsParcel nodes parcels)
    (decodes : ∀ parcel ∈ parcels, ∃ data, runtime.decodeBase64 parcel.label = .ok data)
    (index : ℕ) :
    ∃ messages, readPackages runtime labelMode index (nodes.map Xml.value) =
      .ok ((parcels.map Parcel.skybillNumber).map Value.str, messages) := by
  induction holds generalizing index with
  | nil => exact ⟨[], rfl⟩
  | @cons node parcel nodes parcels head tail induction =>
      obtain ⟨messages, rest⟩ := induction
        (fun parcel member => decodes parcel (List.mem_cons_of_mem _ member)) (index + 1)
      obtain ⟨data, decoded⟩ := decodes parcel List.mem_cons_self
      obtain ⟨message, labelled⟩ := labelMessage_ok runtime labelMode head decoded index
      refine ⟨message :: messages, ?_⟩
      rw [List.map_cons, readPackages, (getters head).1]
      dsimp only [bind, Except.bind]
      rw [labelled]
      dsimp only
      rw [rest]
      rfl

theorem mapM_skybillNumbers {nodes : List Xml} {parcels : List Parcel}
    (holds : List.Forall₂ HoldsParcel nodes parcels) :
    (nodes.map Xml.value).mapM (Value.get "skybillNumber") =
      .ok ((parcels.map Parcel.skybillNumber).map Value.str) := by
  induction holds with
  | nil => rfl
  | @cons node parcel nodes parcels head tail induction =>
      rw [List.map_cons, List.mapM_cons, (getters head).1, induction]
      rfl

/-- A loop over the dictionary of one parcel goes through its keys, which have no numbers. -/
theorem iterate_single {node : Xml} {parcel : Parcel} (holds : HoldsParcel node parcel) :
    ∃ message, (node.value.iterate.bind fun values =>
      values.mapM (Value.get "skybillNumber")) = .error message := by
  have number := (getters holds).1
  cases value : node.value with
  | none | str text | list values =>
      rw [value] at number
      cases number
  | dict entries =>
      cases entries with
      | nil =>
          rw [value] at number
          cases number
      | cons entry entries => exact ⟨_, rfl⟩

/-- What is read from a response in which there is a dictionary for the parcels. -/
theorem readShipping_of_found {withReservation : String} {count : ℤ} {responseData : Value}
    {entries : List (String × Value)} {result : Value}
    (found : returnedDict responseData = .ok (some (.dict entries)))
    (stored : (Value.dict entries).get "resultMultiParcelValue" = .ok result) :
    ∃ reservationNumber,
    readShipping runtime labelMode withReservation count (true, responseData) =
      if withReservation = "1" then do
        let numbers ← result.iterate.bind fun values => values.mapM (Value.get "skybillNumber")
        return ⟨← joinTexts numbers,
          [.body (" Reservation Number : " ++ runtime.str reservationNumber)]⟩
      else if count > 1 then do
        let (numbers, messages) ← result.iterate.bind (readPackages runtime labelMode 1)
        return ⟨← joinTexts numbers, messages⟩
      else do
        let skybillNumber ← result.get "skybillNumber"
        let message ← labelMessage runtime labelMode 1 result
        return ⟨← joinTexts [skybillNumber], [message]⟩ := by
  have reservation : ∃ number, (Value.dict entries).get "reservationNumber" = .ok number :=
    ⟨_, rfl⟩
  obtain ⟨reservationNumber, reserved⟩ := reservation
  refine ⟨reservationNumber, ?_⟩
  rw [readShipping]
  dsimp only [bind, Except.bind]
  rw [if_pos rfl, found]
  dsimp only
  rw [reserved, stored]
  dsimp only
  cases result.iterate <;> rfl

/-- A created shipment is read exactly if it is not one parcel with a reservation. -/
theorem sendShipping_tracked_iff (withReservation : String) {response : HttpResponse}
    {parcels : List Parcel} (successful : Successful response parcels) (nonempty : parcels ≠ [])
    (decodes : ∀ parcel ∈ parcels, ∃ data, runtime.decodeBase64 parcel.label = .ok data) :
    (∃ posted, sendShipping runtime labelMode withReservation parcels.length response =
        .ok ⟨(String.singleton ',').intercalate (parcels.map Parcel.skybillNumber), posted⟩) ↔
      ¬ (withReservation = "1" ∧ parcels.length = 1) := by
  obtain ⟨responseData, _, nodes, created, found, stored, ⟨entries, rfl⟩, holds⟩ :=
    returnedDict_of_successful successful nonempty
  obtain ⟨reservationNumber, read⟩ := @readShipping_of_found _ runtime labelMode
    withReservation parcels.length _ _ _ found stored
  have sent : sendShipping runtime labelMode withReservation parcels.length response =
      readShipping runtime labelMode withReservation parcels.length (true, responseData) := by
    rw [sendShipping, created]
    rfl
  have joined := joinTexts_map (parcels.map Parcel.skybillNumber)
  rw [sent, read]
  cases holds with
  | nil => exact absurd rfl nonempty
  | @cons node parcel nodes parcels head tail =>
      cases tail with
      | nil =>
          by_cases reserved : withReservation = "1"
          · -- One parcel with a reservation.
            obtain ⟨message, fails⟩ := iterate_single head
            rw [if_pos reserved]
            refine iff_of_false ?_ fun other => other ⟨reserved, rfl⟩
            intro ⟨posted, done⟩
            have single : parcelsValue [node] = node.value := rfl
            rw [single, fails] at done
            cases done
          · refine iff_of_true ?_ fun both => reserved both.1
            obtain ⟨data, decoded⟩ := decodes parcel List.mem_cons_self
            obtain ⟨message, labelled⟩ := labelMessage_ok runtime labelMode head decoded 1
            have single : parcelsValue [node] = node.value := rfl
            rw [if_neg reserved, if_neg (by simp), single, (getters head).1]
            dsimp only [bind, Except.bind]
            rw [labelled]
            dsimp only
            refine ⟨[message], ?_⟩
            rw [List.map_cons, List.map_cons, List.map_nil, List.map_nil] at joined
            rw [joined]
            rfl
      | @cons other parcel' nodes parcels second rest =>
          have several : List.Forall₂ HoldsParcel (node :: other :: nodes)
              (parcel :: parcel' :: parcels) := .cons head (.cons second rest)
          have list : (parcelsValue (node :: other :: nodes)).iterate =
              .ok ((node :: other :: nodes).map Xml.value) := rfl
          refine iff_of_true ?_ fun both => absurd both.2 (by simp)
          rw [list]
          dsimp only [Except.bind]
          by_cases reserved : withReservation = "1"
          · rw [if_pos reserved, mapM_skybillNumbers several]
            dsimp only [bind, Except.bind]
            rw [joined]
            exact ⟨_, rfl⟩
          · obtain ⟨messages, packages⟩ := readPackages_ok runtime labelMode several decodes 1
            have many : ((parcel :: parcel' :: parcels).length : ℤ) > 1 := by
              rw [List.length_cons, List.length_cons]
              omega
            rw [if_neg reserved, if_pos many, packages]
            dsimp only [bind, Except.bind]
            rw [joined]
            exact ⟨_, rfl⟩

end

/-! ## A reservation -/

/-- Labels of one byte. -/
def labelRuntime : Runtime String where
  decodeBase64 text := if text = "QQ==" then .ok "A" else .error "Incorrect padding"
  str
    | .str text => text
    | _ => ""
  str_text _ := rfl

def parcelElement (parcel : Parcel) : Xml :=
  .element "resultMultiParcelValue" [] none
    [.element "skybillNumber" [] (some parcel.skybillNumber) [],
      .element "pdfEtiquette" [] (some parcel.label) []]

def shipmentResponse (parcels : List Parcel) : HttpResponse :=
  ⟨200, "", some (.element "Envelope" [] none [.element "Body" [] none
    [.element "shippingMultiParcelResponse" [] none
      [.element "return" [] none (parcels.map parcelElement)]]])⟩

theorem successful_shipmentResponse {parcels : List Parcel}
    (texts : ∀ parcel ∈ parcels, IsText (.element "skybillNumber" [] (some parcel.skybillNumber) [])
        parcel.skybillNumber ∧
      IsText (.element "pdfEtiquette" [] (some parcel.label) []) parcel.label) :
    Successful (shipmentResponse parcels) parcels where
  status := .inl rfl
  shape := by
    refine ⟨_, _, _, _, rfl, rfl, rfl, rfl, rfl, ?_⟩
    have named : Xml.named "resultMultiParcelValue"
        (.element "return" [] none (parcels.map parcelElement)) = parcels.map parcelElement := by
      apply List.filter_eq_self.mpr
      intro node member
      obtain ⟨parcel, _, rfl⟩ := List.mem_map.mp member
      rfl
    rw [named, List.forall₂_map_left_iff, List.forall₂_same]
    intro parcel member
    exact ⟨⟨_, rfl, (texts parcel member).1⟩, ⟨_, rfl, (texts parcel member).2⟩⟩

def firstParcel : Parcel := ⟨"XY1", "QQ=="⟩

def secondParcel : Parcel := ⟨"XY2", "QQ=="⟩

theorem successful_parcels {parcels : List Parcel}
    (listed : ∀ parcel ∈ parcels, parcel = firstParcel ∨ parcel = secondParcel) :
    Successful (shipmentResponse parcels) parcels := by
  apply successful_shipmentResponse
  intro parcel member
  rcases listed parcel member with rfl | rfl
  · exact ⟨⟨_, _, rfl, by simp [firstParcel], by simp [firstParcel, strip, isSpace]⟩,
      ⟨_, _, rfl, by simp [firstParcel], by simp [firstParcel, strip, isSpace]⟩⟩
  · exact ⟨⟨_, _, rfl, by simp [secondParcel], by simp [secondParcel, strip, isSpace]⟩,
      ⟨_, _, rfl, by simp [secondParcel], by simp [secondParcel, strip, isSpace]⟩⟩

theorem two_parcels_tracked :
    ∃ posted, sendShipping labelRuntime "PDF" "1" 2 (shipmentResponse [firstParcel, secondParcel]) =
      .ok ⟨(String.singleton ',').intercalate ["XY1", "XY2"], posted⟩ :=
  (@sendShipping_tracked_iff _ labelRuntime "PDF" "1" _ [firstParcel, secondParcel]
    (successful_parcels (by simp)) (by simp)
    (by simp [firstParcel, secondParcel, labelRuntime])).mpr (by simp)

/-- The one parcel of a shipment with a reservation is lost. -/
theorem single_parcel_lost :
    Successful (shipmentResponse [firstParcel]) [firstParcel] ∧
      sendShipping labelRuntime "PDF" "1" 1 (shipmentResponse [firstParcel]) =
        .error "'str' object has no attribute 'get'" :=
  ⟨successful_parcels (by simp), rfl⟩

end Carrier
end OdooConnector
