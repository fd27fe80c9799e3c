/-
  Gadfly.Proofs.Response

  Answers with more or less in them.

  Every member of a `Response` may be missing, at each of its levels (`Response.Thinned`), and
  unknown members may stand between the known ones. `Response.ofJson?` reads what is missing as
  nothing, as no items or as zero, and it spoils nothing else; what is unknown is not seen. An
  answer that `Response.toJson` writes is read again as it was.

  Main definitions: `Response.Thinned`, `Response.within`, `Response.Fits`.
  Main statements: `Response.ofJson?_of_thinned`, `Response.ofJson?_eq_of_unknown`,
  `Response.ofJson?_toJson`, `Response.tolerates_changes`.
-/

import Gadfly.Completion
import Gadfly.Proofs.JsonText
import Gadfly.Proofs.Thinned

namespace Gadfly

open Json

section OptionalMember

variable {name other : String} {value : Option Json}

@[simp] theorem find?_optionalMember :
    find? (optionalMember other value) name = if other = name then value else none := by
  cases value with
  | none => split <;> rfl
  | some j => exact find?_cons

@[simp] theorem occurrences_optionalMember :
    occurrences (optionalMember other value) name =
      if other = name then value.toList.length else 0 := by
  cases value <;> simp [optionalMember]

theorem forall_mem_optionalMember {P : String × Json → Prop} :
    (∀ member ∈ optionalMember name value, P member) ↔ ∀ j ∈ value, P (name, j) := by
  cases value <;> simp [optionalMember]

end OptionalMember

variable {may : List String → String → Prop} {j j' : Json}

/-! ## Fragments -/

namespace Part

/-- The fields of a fragment. -/
def fieldNames : List String :=
  ["type", "text"]

/-- What is left of a fragment. -/
def Thinned (may : List String → String → Prop) : Json → Json → Prop :=
  Json.Thinned (may fieldNames) fun _ => Eq

/-- What is read of a fragment when this is left of it. -/
def within (j : Json) (part : Part) : Part where
  kind := ifLeft (j.field? 0 "type") none part.kind
  text := ifLeft (j.field? 1 "text") none part.text

theorem ofJson?_eq_some_iff {part : Part} :
    ofJson? j = some part ↔ IsRecord fieldNames j ∧
      optional text? (j.field? 0 "type") = some part.kind ∧
      optional text? (j.field? 1 "text") = some part.text := by
  obtain ⟨kind, text⟩ := part
  rw [ofJson?, ← fieldNames]
  by_cases hrecord : IsRecord fieldNames j
  · rw [fields?_eq_some_iff.2 ⟨hrecord, rfl⟩, and_iff_right hrecord]
    simp [fieldNames, Option.bind_eq_some_iff]
  · rw [not_not.1 hrecord]
    simp [hrecord]

theorem ofJson?_of_thinned {part : Part} (h : Thinned may j j') (hread : ofJson? j = some part) :
    ofJson? j' = some (part.within j') := by
  obtain ⟨hrecord, hkind, htext⟩ := ofJson?_eq_some_iff.1 hread
  have hfield {name : String} (hname : name ∈ fieldNames) (place : Nat) :
      SlotLeft (may fieldNames name) Eq (j.field? place name) (j'.field? place name) :=
    Json.Thinned.plain_field? h (fun _ => hrecord) hname place
  exact ofJson?_eq_some_iff.2 ⟨h.isRecord hrecord,
    (hfield (by simp [fieldNames]) 0).optional_ifLeft hkind,
    (hfield (by simp [fieldNames]) 1).optional_ifLeft htext⟩

theorem ofJson?_eq_of_unknown (h : Thinned Unknown j j') : ofJson? j' = ofJson? j := by
  have hfield {name : String} (hname : name ∈ fieldNames) (place : Nat) :
      j'.field? place name = j.field? place name := Json.Thinned.plain_field?_eq h hname place
  ext part
  rw [ofJson?_eq_some_iff, ofJson?_eq_some_iff,
    Json.Thinned.isRecord_iff_of_unknown h, hfield (by simp [fieldNames]),
    hfield (by simp [fieldNames])]

theorem ofJson?_toJson (part : Part) : ofJson? part.toJson = some part := by
  have hrecord : IsRecord fieldNames part.toJson := by
    rw [toJson, isRecord_object_iff]
    simp [fieldNames]
  have hkind : part.toJson.field? 0 "type" = part.kind.map .string := by
    simp [toJson, Json.field?]
  have htext : part.toJson.field? 1 "text" = part.text.map .string := by
    simp [toJson, Json.field?]
  refine ofJson?_eq_some_iff.2 ⟨hrecord, ?_, ?_⟩
  · rw [hkind]
    exact optional_map rfl fun _ _ => rfl
  · rw [htext]
    exact optional_map rfl fun _ _ => rfl

theorem legible_toJson (part : Part) : Legible part.toJson := by
  simp only [toJson, legible_object_iff, List.forall_mem_append, forall_mem_optionalMember]
  simp

end Part

/-! ## Output items -/

namespace Item

/-- The fields of an output item. -/
def fieldNames : List String :=
  ["type", "content"]

/-- What is left of the value of a field. -/
def FieldLeft (may : List String → String → Prop) (name : String) : Json → Json → Prop :=
  if name = "content" then Each (Part.Thinned may) else Eq

/-- What is left of an output item. -/
def Thinned (may : List String → String → Prop) : Json → Json → Prop :=
  Json.Thinned (may fieldNames) (FieldLeft may)

/-- What is read of an output item when this is left of it. -/
def within (j : Json) (item : Item) : Item where
  kind := ifLeft (j.field? 0 "type") none item.kind
  content := List.zipWith Part.within (itemsOf (j.field? 1 "content")) item.content

theorem ofJson?_eq_some_iff {item : Item} :
    ofJson? j = some item ↔ IsRecord fieldNames j ∧
      optional text? (j.field? 0 "type") = some item.kind ∧
      orElse [] (list? Part.ofJson?) (j.field? 1 "content") = some item.content := by
  obtain ⟨kind, content⟩ := item
  rw [ofJson?, ← fieldNames]
  by_cases hrecord : IsRecord fieldNames j
  · rw [fields?_eq_some_iff.2 ⟨hrecord, rfl⟩, and_iff_right hrecord]
    simp [fieldNames, Option.bind_eq_some_iff]
  · rw [not_not.1 hrecord]
    simp [hrecord]

theorem FieldLeft.refl (name : String) (value : Json) : FieldLeft may name value value := by
  rw [FieldLeft]
  split
  · exact .same value
  · rfl

theorem Thinned.kind (h : Thinned may j j')
    (hrecord : may fieldNames "type" → IsRecord fieldNames j) :
    SlotLeft (may fieldNames "type") Eq (j.field? 0 "type") (j'.field? 0 "type") := by
  have hfield := Json.Thinned.field? h (FieldLeft.refl "type") hrecord (by simp [fieldNames]) 0
  rwa [FieldLeft, if_neg (by simp)] at hfield

theorem Thinned.content (h : Thinned may j j')
    (hrecord : may fieldNames "content" → IsRecord fieldNames j) :
    SlotLeft (may fieldNames "content") (Each (Part.Thinned may)) (j.field? 1 "content")
      (j'.field? 1 "content") :=
  Json.Thinned.field? h (FieldLeft.refl "content") hrecord (by simp [fieldNames]) 1

theorem ofJson?_of_thinned {item : Item} (h : Thinned may j j') (hread : ofJson? j = some item) :
    ofJson? j' = some (item.within j') := by
  obtain ⟨hrecord, hkind, hcontent⟩ := ofJson?_eq_some_iff.1 hread
  exact ofJson?_eq_some_iff.2 ⟨h.isRecord hrecord,
    (h.kind fun _ => hrecord).optional_ifLeft hkind,
    (h.content fun _ => hrecord).list_within .same (fun _ _ _ => Part.ofJson?_of_thinned) hcontent⟩

theorem ofJson?_eq_of_unknown (h : Thinned Unknown j j') : ofJson? j' = ofJson? j := by
  have htype : "type" ∈ fieldNames := by simp [fieldNames]
  have hcontent : "content" ∈ fieldNames := by simp [fieldNames]
  ext item
  rw [ofJson?_eq_some_iff, ofJson?_eq_some_iff,
    Json.Thinned.isRecord_iff_of_unknown h,
    (h.kind (absurd htype)).eq_of_not (not_not_intro htype),
    (h.content (absurd hcontent)).list_eq (not_not_intro hcontent) fun _ _ =>
      Part.ofJson?_eq_of_unknown]

theorem ofJson?_toJson (item : Item) : ofJson? item.toJson = some item := by
  have hrecord : IsRecord fieldNames item.toJson := by
    rw [toJson, isRecord_object_iff]
    simp [fieldNames]
  have hkind : item.toJson.field? 0 "type" = item.kind.map .string := by
    simp [toJson, Json.field?]
  have hcontent : item.toJson.field? 1 "content" =
      some (.array (item.content.map Part.toJson)) := by
    simp [toJson, Json.field?]
  refine ofJson?_eq_some_iff.2 ⟨hrecord, ?_, ?_⟩
  · rw [hkind]
    exact optional_map rfl fun _ _ => rfl
  · rw [hcontent]
    exact list?_map_array fun part _ => Part.ofJson?_toJson part

theorem legible_toJson (item : Item) : Legible item.toJson := by
  simp only [toJson, legible_object_iff, List.forall_mem_append, forall_mem_optionalMember]
  simp [Part.legible_toJson]

end Item

/-! ## Numbers of tokens -/

namespace Usage

/-- The fields of the numbers of tokens. -/
def fieldNames : List String :=
  ["input_tokens", "output_tokens", "total_tokens"]

/-- What is left of the numbers of tokens. -/
def Thinned (may : List String → String → Prop) : Json → Json → Prop :=
  Json.Thinned (may fieldNames) fun _ => Eq

/-- What is read of the numbers of tokens when this is left of them. -/
def within (j : Json) (usage : Usage) : Usage where
  inputTokens := ifLeft (j.field? 0 "input_tokens") 0 usage.inputTokens
  outputTokens := ifLeft (j.field? 1 "output_tokens") 0 usage.outputTokens
  totalTokens := ifLeft (j.field? 2 "total_tokens") 0 usage.totalTokens

/-- All numbers are in range. -/
structure Fits (usage : Usage) : Prop where
  input : usage.inputTokens < tokenBound
  output : usage.outputTokens < tokenBound
  total : usage.totalTokens < tokenBound

theorem ofJson?_eq_some_iff {usage : Usage} :
    ofJson? j = some usage ↔ IsRecord fieldNames j ∧
      orElse 0 (natural? tokenBound) (j.field? 0 "input_tokens") = some usage.inputTokens ∧
      orElse 0 (natural? tokenBound) (j.field? 1 "output_tokens") = some usage.outputTokens ∧
      orElse 0 (natural? tokenBound) (j.field? 2 "total_tokens") = some usage.totalTokens := by
  obtain ⟨input, output, total⟩ := usage
  rw [ofJson?, ← fieldNames]
  by_cases hrecord : IsRecord fieldNames j
  · rw [fields?_eq_some_iff.2 ⟨hrecord, rfl⟩, and_iff_right hrecord]
    simp [fieldNames, Option.bind_eq_some_iff]
  · rw [not_not.1 hrecord]
    simp [hrecord]

theorem ofJson?_of_thinned {usage : Usage} (h : Thinned may j j')
    (hread : ofJson? j = some usage) : ofJson? j' = some (usage.within j') := by
  obtain ⟨hrecord, hinput, houtput, htotal⟩ := ofJson?_eq_some_iff.1 hread
  have hfield {name : String} (hname : name ∈ fieldNames) (place : Nat) :
      SlotLeft (may fieldNames name) Eq (j.field? place name) (j'.field? place name) :=
    Json.Thinned.plain_field? h (fun _ => hrecord) hname place
  exact ofJson?_eq_some_iff.2 ⟨h.isRecord hrecord,
    (hfield (by simp [fieldNames]) 0).orElse_ifLeft hinput,
    (hfield (by simp [fieldNames]) 1).orElse_ifLeft houtput,
    (hfield (by simp [fieldNames]) 2).orElse_ifLeft htotal⟩

theorem ofJson?_eq_of_unknown (h : Thinned Unknown j j') : ofJson? j' = ofJson? j := by
  have hfield {name : String} (hname : name ∈ fieldNames) (place : Nat) :
      j'.field? place name = j.field? place name := Json.Thinned.plain_field?_eq h hname place
  ext usage
  rw [ofJson?_eq_some_iff, ofJson?_eq_some_iff,
    Json.Thinned.isRecord_iff_of_unknown h, hfield (by simp [fieldNames]),
    hfield (by simp [fieldNames]), hfield (by simp [fieldNames])]

/-- Numbers of tokens that are read are in range. -/
theorem fits_of_ofJson? {usage : Usage} (h : ofJson? j = some usage) : usage.Fits := by
  obtain ⟨-, hinput, houtput, htotal⟩ := ofJson?_eq_some_iff.1 h
  exact ⟨lt_of_orElse_natural? (by decide) hinput, lt_of_orElse_natural? (by decide) houtput,
    lt_of_orElse_natural? (by decide) htotal⟩

theorem ofJson?_toJson {usage : Usage} (h : usage.Fits) : ofJson? usage.toJson = some usage := by
  have hrecord : IsRecord fieldNames usage.toJson := by
    rw [toJson, isRecord_object_iff]
    simp [fieldNames]
  refine ofJson?_eq_some_iff.2 ⟨hrecord, ?_, ?_, ?_⟩
  · simp [toJson, Json.field?, orElse, natural?_ofNat, h.input]
  · simp [toJson, Json.field?, orElse, natural?_ofNat, h.output]
  · simp [toJson, Json.field?, orElse, natural?_ofNat, h.total]

theorem legible_toJson (usage : Usage) : Legible usage.toJson := by
  simp [toJson]

end Usage

/-! ## Answers -/

namespace Response

/-- The fields of an answer. -/
def fieldNames : List String :=
  ["output_text", "output", "usage", "model"]

/-- What is left of the value of a field. -/
def FieldLeft (may : List String → String → Prop) (name : String) : Json → Json → Prop :=
  if name = "output" then Each (Item.Thinned may)
  else if name = "usage" then Usage.Thinned may
  else Eq

/-- What is left of an answer, when members of it and of the objects in it are gone. Which members
of an object may go depends on its fields. -/
def Thinned (may : List String → String → Prop) : Json → Json → Prop :=
  Json.Thinned (may fieldNames) (FieldLeft may)

/-- What is read of an answer when this is left of it. -/
def within (j : Json) (response : Response) : Response where
  outputText := ifLeft (j.field? 0 "output_text") none response.outputText
  output := List.zipWith Item.within (itemsOf (j.field? 1 "output")) response.output
  usage := (j.field? 2 "usage").bind fun left => response.usage.map (Usage.within left)
  model := ifLeft (j.field? 3 "model") none response.model

/-- All numbers of tokens are in range. -/
def Fits (response : Response) : Prop :=
  ∀ usage ∈ response.usage, usage.Fits

theorem ofJson?_eq_some_iff {response : Response} :
    ofJson? j = some response ↔ IsRecord fieldNames j ∧
      optional text? (j.field? 0 "output_text") = some response.outputText ∧
      orElse [] (list? Item.ofJson?) (j.field? 1 "output") = some response.output ∧
      optional Usage.ofJson? (j.field? 2 "usage") = some response.usage ∧
      optional text? (j.field? 3 "model") = some response.model := by
  obtain ⟨outputText, output, usage, model⟩ := response
  rw [ofJson?, ← fieldNames]
  by_cases hrecord : IsRecord fieldNames j
  · rw [fields?_eq_some_iff.2 ⟨hrecord, rfl⟩, and_iff_right hrecord]
    simp [fieldNames, Option.bind_eq_some_iff]
  · rw [not_not.1 hrecord]
    simp [hrecord]

theorem FieldLeft.refl (name : String) (value : Json) : FieldLeft may name value value := by
  rw [FieldLeft]
  split
  · exact .same value
  split
  · exact Json.Thinned.same value
  · rfl

section Thinned

variable (h : Thinned may j j')

include h

theorem Thinned.text {name : String} (hname : name = "output_text" ∨ name = "model") (place : Nat)
    (hrecord : may fieldNames name → IsRecord fieldNames j) :
    SlotLeft (may fieldNames name) Eq (j.field? place name) (j'.field? place name) := by
  have hmem : name ∈ fieldNames := by
    obtain rfl | rfl := hname <;> simp [fieldNames]
  have hfield := Json.Thinned.field? h (FieldLeft.refl name) hrecord hmem place
  rwa [FieldLeft, if_neg (by obtain rfl | rfl := hname <;> simp),
    if_neg (by obtain rfl | rfl := hname <;> simp)] at hfield

theorem Thinned.output (hrecord : may fieldNames "output" → IsRecord fieldNames j) :
    SlotLeft (may fieldNames "output") (Each (Item.Thinned may)) (j.field? 1 "output")
      (j'.field? 1 "output") :=
  Json.Thinned.field? h (FieldLeft.refl "output") hrecord (by simp [fieldNames]) 1

theorem Thinned.usage (hrecord : may fieldNames "usage" → IsRecord fieldNames j) :
    SlotLeft (may fieldNames "usage") (Usage.Thinned may) (j.field? 2 "usage")
      (j'.field? 2 "usage") :=
  Json.Thinned.field? h (FieldLeft.refl "usage") hrecord (by simp [fieldNames]) 2

end Thinned

theorem ofJson?_of_thinned {response : Response} (h : Thinned may j j')
    (hread : ofJson? j = some response) : ofJson? j' = some (response.within j') := by
  obtain ⟨hrecord, htext, houtput, husage, hmodel⟩ := ofJson?_eq_some_iff.1 hread
  -- A slot at a time: what is left of the usage may itself have lost members.
  exact ofJson?_eq_some_iff.2 ⟨h.isRecord hrecord,
    (h.text (.inl rfl) 0 fun _ => hrecord).optional_ifLeft htext,
    (h.output fun _ => hrecord).list_within .same (fun _ _ _ => Item.ofJson?_of_thinned) houtput,
    (h.usage fun _ => hrecord).optional_within rfl (fun _ _ => Json.Thinned.eq_null_iff)
      (fun _ _ _ => Usage.ofJson?_of_thinned) husage,
    (h.text (.inr rfl) 3 fun _ => hrecord).optional_ifLeft hmodel⟩

theorem ofJson?_eq_of_unknown (h : Thinned Unknown j j') : ofJson? j' = ofJson? j := by
  have hoffered : "output_text" ∈ fieldNames := by simp [fieldNames]
  have houtput : "output" ∈ fieldNames := by simp [fieldNames]
  have husage : "usage" ∈ fieldNames := by simp [fieldNames]
  have hmodel : "model" ∈ fieldNames := by simp [fieldNames]
  ext response
  rw [ofJson?_eq_some_iff, ofJson?_eq_some_iff,
    Json.Thinned.isRecord_iff_of_unknown h,
    (h.text (.inl rfl) 0 (absurd hoffered)).eq_of_not (not_not_intro hoffered),
    (h.output (absurd houtput)).list_eq (not_not_intro houtput) fun _ _ =>
      Item.ofJson?_eq_of_unknown,
    (h.usage (absurd husage)).optional_eq (not_not_intro husage)
      (fun _ _ => Json.Thinned.eq_null_iff) fun _ _ => Usage.ofJson?_eq_of_unknown,
    (h.text (.inr rfl) 3 (absurd hmodel)).eq_of_not (not_not_intro hmodel)]

/-- An answer that was read is in range. -/
theorem fits_of_ofJson? {response : Response} (h : ofJson? j = some response) : response.Fits := by
  obtain ⟨-, -, -, hslot, -⟩ := ofJson?_eq_some_iff.1 h
  intro usage husage
  have hread := (eq_of_optional rfl hslot).symm.trans husage
  obtain ⟨value, -, hvalue⟩ := Option.bind_eq_some_iff.1 hread
  exact Usage.fits_of_ofJson? hvalue

/-- An answer in range (`Fits`) is read again as it was written. -/
theorem ofJson?_toJson {response : Response} (h : response.Fits) :
    ofJson? response.toJson = some response := by
  have hrecord : IsRecord fieldNames response.toJson := by
    rw [toJson, isRecord_object_iff]
    simp [fieldNames]
  have htext : response.toJson.field? 0 "output_text" = response.outputText.map .string := by
    simp [toJson, Json.field?]
  have houtput : response.toJson.field? 1 "output" =
      some (.array (response.output.map Item.toJson)) := by
    simp [toJson, Json.field?]
  have husage : response.toJson.field? 2 "usage" = response.usage.map Usage.toJson := by
    simp [toJson, Json.field?]
  have hmodel : response.toJson.field? 3 "model" = response.model.map .string := by
    simp [toJson, Json.field?]
  refine ofJson?_eq_some_iff.2 ⟨hrecord, ?_, ?_, ?_, ?_⟩
  · rw [htext]
    exact optional_map rfl fun _ _ => rfl
  · rw [houtput]
    exact list?_map_array fun item _ => Item.ofJson?_toJson item
  · rw [husage]
    exact optional_map rfl fun usage husage => Usage.ofJson?_toJson (h usage husage)
  · rw [hmodel]
    exact optional_map rfl fun _ _ => rfl

theorem legible_toJson (response : Response) : Legible response.toJson := by
  simp only [toJson, legible_object_iff, List.forall_mem_append, forall_mem_optionalMember]
  simp [Item.legible_toJson, Usage.legible_toJson]

/-- Any members may be missing from an answer, from its output items, from the fragments in them and
from its numbers of tokens (`Thinned`): it is still read, what is missing as nothing (`within`), and
the rest as it was. Members with unknown names (`Unknown`) are not seen at all. What is written of
an answer, be it as a value or as a text, is read as the answer, as long as its numbers are in range
(`Fits`), as all are that were ever read. -/
theorem tolerates_changes :
    (∀ j j' response, Thinned (fun _ _ => True) j j' → ofJson? j = some response →
      ofJson? j' = some (response.within j')) ∧
    (∀ j j', Thinned Unknown j' j → ofJson? j' = ofJson? j) ∧
    (∀ response, ofJson? response.toJson = some response ↔ response.Fits) ∧
    (∀ response, response.Fits → (read? (write response.toJson)).bind ofJson? = some response) ∧
    ∀ j response, ofJson? j = some response →
      (read? (write response.toJson)).bind ofJson? = some response := by
  have hwritten (response : Response) (hfits : response.Fits) :
      (read? (write response.toJson)).bind ofJson? = some response := by
    rw [read?_write (legible_toJson response), Option.bind_some, ofJson?_toJson hfits]
  exact ⟨fun _ _ _ => ofJson?_of_thinned, fun _ _ h => (ofJson?_eq_of_unknown h).symm,
    fun _ => ⟨fits_of_ofJson?, ofJson?_toJson⟩, hwritten,
    fun _ _ hread => hwritten _ (fits_of_ofJson? hread)⟩

section Scene

/-- An answer with a thought and two fragments. -/
def pondered : Response where
  outputText := some "ab"
  output := [⟨some "reasoning", []⟩,
    ⟨some "message", [⟨some "output_text", some "a"⟩, ⟨none, some "b"⟩]⟩]
  usage := some ⟨3, 7, 10⟩
  model := some "m"

/-- What is left when the text, the first item's members, a kind and a text of a fragment and a
number of tokens are gone. -/
def remains : Json :=
  .object [("output", .array [.object [],
      .object [("type", .string "message"),
        ("content", .array [.object [("type", .string "output_text")],
          .object [("text", .string "b")]])]]),
    ("usage", .object [("output_tokens", .ofNat 7), ("total_tokens", .ofNat 10)]),
    ("model", .string "m")]

theorem tolerates_changes_of_pondered :
    Thinned (fun _ _ => True) pondered.toJson remains ∧ pondered.Fits ∧
    ofJson? remains = some ⟨none, [⟨none, []⟩, ⟨some "message", [⟨some "output_text", none⟩,
      ⟨none, some "b"⟩]⟩], some ⟨0, 7, 10⟩, some "m"⟩ := by
  have hparts : Each (Part.Thinned fun _ _ => True)
      (.array [Part.toJson ⟨some "output_text", some "a"⟩, Part.toJson ⟨none, some "b"⟩])
      (.array [.object [("type", .string "output_text")], .object [("text", .string "b")]]) :=
    .array (.cons (.object (.kept rfl (.gone trivial .nil)))
      (.cons (.object (.kept rfl .nil)) .nil))
  have hitems : Each (Item.Thinned fun _ _ => True)
      (.array (pondered.output.map Item.toJson))
      (.array [.object [], .object [("type", .string "message"), ("content", .array
        [.object [("type", .string "output_text")], .object [("text", .string "b")]])]]) :=
    .array (.cons (.object (.gone trivial (.gone trivial .nil)))
      (.cons (.object (.kept (Item.FieldLeft.refl _ _) (.kept hparts .nil))) .nil))
  have husage : Usage.Thinned (fun _ _ => True) (Usage.toJson ⟨3, 7, 10⟩)
      (.object [("output_tokens", .ofNat 7), ("total_tokens", .ofNat 10)]) :=
    .object (.gone trivial (.kept rfl (.kept rfl .nil)))
  have hthinned : Thinned (fun _ _ => True) pondered.toJson remains :=
    .object (.gone trivial (.kept hitems (.kept husage (.kept (FieldLeft.refl _ _) .nil))))
  have hfits : pondered.Fits := by
    rintro _ ⟨⟩
    exact ⟨by decide, by decide, by decide⟩
  have hwithin : pondered.within remains = ⟨none, [⟨none, []⟩, ⟨some "message",
      [⟨some "output_text", none⟩, ⟨none, some "b"⟩]⟩], some ⟨0, 7, 10⟩, some "m"⟩ := by
    decide +kernel
  exact ⟨hthinned, hfits, hwithin ▸ tolerates_changes.1 _ _ _ hthinned
    (tolerates_changes.2.2.1 pondered |>.2 hfits)⟩

end Scene

end Response

end Gadfly
