import YouBox.ChatRequest

/-!
# Cleaning a schema for Gemini

`CleanFunctionParameters` takes from a tool's schema what Gemini does not know. It goes
down into the properties, the items and the alternatives of an object, and at depth 64 it
cuts them off instead.

The recursion is on the levels that are left. An object that comes out at a level is
filtered and its type normalised before its children are set, and setting them leaves it so
(`cleanChildren_supported`); so `clean_cleaned` goes level by level: what a level returns has
only supported objects, whether it is an object itself or, for the items of items, a list of
them.
-/

namespace YouBox.GeminiSchema

open Responses

/-- `unicode.ToLower`. -/
structure CaseMap where
  lower : Char → Char
  ascii : ∀ c, c.toNat < 128 → lower c = c.toLower

variable (cm : CaseMap)

def geminiOpenAPISchemaAllowedFields : List String :=
  ["anyOf", "default", "description", "enum", "example", "format", "items", "maxItems",
    "maxLength", "maxProperties", "maximum", "minItems", "minLength", "minProperties", "minimum",
    "nullable", "pattern", "properties", "propertyOrdering", "required", "title", "type"]

def geminiFunctionSchemaMaxDepth : Nat := 64

/-! ## The source's functions -/

/-- `m[key] = value`. -/
def setField (fields : JsonMap) (key : String) (value : Json) : JsonMap :=
  (key, value) :: fields.filter (·.1 != key)

/-- `delete(m, key)`. -/
def deleteField (fields : JsonMap) (key : String) : JsonMap := fields.filter (·.1 != key)

def allowed (fields : JsonMap) : JsonMap :=
  fields.filter fun f => geminiOpenAPISchemaAllowedFields.contains f.1

/-- `strings.ToLower(strings.TrimSpace(t))`. -/
def lowered (t : String) : String := String.ofList ((trimSpace t).toList.map cm.lower)

/-- The normalised type, and whether it is `null`. -/
def normalize (t : String) : String × Bool :=
  match lowered cm t with
  | "object" => ("OBJECT", false)
  | "array" => ("ARRAY", false)
  | "string" => ("STRING", false)
  | "integer" => ("INTEGER", false)
  | "number" => ("NUMBER", false)
  | "boolean" => ("BOOLEAN", false)
  | "null" => ("", true)
  | _ => (t, false)

/-- One round of the loop over a list of types: `nullable` and `chosen`. -/
def chooseType (acc : Bool × String) : Json → Bool × String
  | .str value =>
    if (normalize cm value).2 then (true, acc.2)
    else if acc.2 = "" then (acc.1, (normalize cm value).1)
    else acc
  | _ => acc

def normalizeGeminiSchemaTypeAndNullable (schema : JsonMap) : JsonMap :=
  match fieldOf schema "type" with
  | .str typed =>
    if (normalize cm typed).2 then deleteField (setField schema "nullable" (.bool true)) "type"
    else setField schema "type" (.str (normalize cm typed).1)
  | .arr typed =>
    let acc := typed.foldl (chooseType cm) (false, "")
    let schema := if acc.1 then setField schema "nullable" (.bool true) else schema
    if acc.2 != "" then setField schema "type" (.str acc.2) else deleteField schema "type"
  | _ => schema

def cleanGeminiFunctionParametersShallow : Json → Json
  | .obj fields =>
    let cleaned := normalizeGeminiSchemaTypeAndNullable cm (allowed fields)
    .obj (deleteField (deleteField (deleteField cleaned "properties") "items") "anyOf")
  | .arr _ => .arr []
  | v => v

section Children

variable (clean : Json → Json)

/-- `if v, ok := m[key].(T); ok { m[key] = .. }`, where `ok` says what the value is. -/
def cleanField (key : String) (ok : Json → Option Json) (fields : JsonMap) : JsonMap :=
  match ok (fieldOf fields key) with
  | some value => setField fields key value
  | none => fields

def cleanedProps : Json → Option Json
  | .obj props => some (.obj (props.map fun p => (p.1, clean p.2)))
  | _ => none

def cleanedItems : Json → Option Json
  | .obj items => some (clean (.obj items))
  | _ => none

/-- Of a list of items only the first stays. -/
def cleanedItemsArray : Json → Option Json
  | .arr (first :: _) => some (clean first)
  | _ => none

def cleanedNested : Json → Option Json
  | .arr nested => some (.arr (nested.map clean))
  | _ => none

def cleanChildren (fields : JsonMap) : JsonMap :=
  let fields := cleanField "properties" (cleanedProps clean) fields
  let fields := cleanField "items" (cleanedItems clean) fields
  let fields := cleanField "items" (cleanedItemsArray clean) fields
  cleanField "anyOf" (cleanedNested clean) fields

end Children

/-- The recursion with the levels that are left, `geminiFunctionSchemaMaxDepth - depth`. -/
def cleanGeminiFunctionParametersWithDepth : Nat → Json → Json
  | 0, params => cleanGeminiFunctionParametersShallow cm params
  | left + 1, .obj fields =>
    .obj (cleanChildren (cleanGeminiFunctionParametersWithDepth left)
      (normalizeGeminiSchemaTypeAndNullable cm (allowed fields)))
  | left + 1, .arr items => .arr (items.map (cleanGeminiFunctionParametersWithDepth left))
  | _ + 1, params => params

def cleanFunctionParameters (params : Json) : Json :=
  cleanGeminiFunctionParametersWithDepth cm geminiFunctionSchemaMaxDepth params

/-! ## What Gemini accepts -/

def knownTypes : List (String × String) :=
  [("object", "OBJECT"), ("array", "ARRAY"), ("string", "STRING"), ("integer", "INTEGER"),
    ("number", "NUMBER"), ("boolean", "BOOLEAN")]

/-- A type that is one of the six, however it is written, is written in upper case. -/
def Normalised (t : String) : Prop := ∀ known ∈ knownTypes, lowered cm t = known.1 → t = known.2

structure Supported (fields : JsonMap) : Prop where
  keys : ∀ f ∈ fields, f.1 ∈ geminiOpenAPISchemaAllowedFields
  type : ∀ t, fieldOf fields "type" = .str t → Normalised cm t

def propertyValues : Json → List Json
  | .obj props => props.map (·.2)
  | _ => []

def elements : Json → List Json
  | .arr items => items
  | _ => []

/-- The values of the properties, the items or their elements, and the alternatives. -/
def children (fields : JsonMap) : List Json :=
  propertyValues (fieldOf fields "properties") ++
    (fieldOf fields "items" :: elements (fieldOf fields "items")) ++
    elements (fieldOf fields "anyOf")

/-- The objects of a schema: itself and those of its children. -/
inductive Reached : Json → JsonMap → Prop
  | root {fields} : Reached (.obj fields) fields
  | child {fields v g} : v ∈ children fields → Reached v g → Reached (.obj fields) g

/-- Down to a number of levels, the properties of the one schema have the names of those of
the other. -/
def SameNames : Nat → Json → Json → Prop
  | left + 1, .obj fields, w => ∃ out, w = .obj out ∧
      (∀ props, fieldOf fields "properties" = .obj props →
        ∃ cleaned, fieldOf out "properties" = .obj cleaned ∧
          List.Forall₂ (fun p q => p.1 = q.1 ∧ SameNames left p.2 q.2) props cleaned) ∧
      (∀ items, fieldOf fields "items" = .obj items →
        SameNames left (.obj items) (fieldOf out "items")) ∧
      (∀ first rest, fieldOf fields "items" = .arr (first :: rest) →
        SameNames left first (fieldOf out "items")) ∧
      (∀ nested, fieldOf fields "anyOf" = .arr nested →
        ∃ cleaned, fieldOf out "anyOf" = .arr cleaned ∧
          List.Forall₂ (SameNames left) nested cleaned)
  | left + 1, .arr items, w =>
    ∃ cleaned, w = .arr cleaned ∧ List.Forall₂ (SameNames left) items cleaned
  | _, _, _ => True

/-! ## Fields -/

variable {fields : JsonMap} {key key' : String} {value : Json} {f : String × Json}

theorem fieldOf_filter {q : String × Json → Bool} (h : ∀ f, f.1 = key → q f = true) :
    fieldOf (fields.filter q) key = fieldOf fields key := by
  have hsame : (fun f : String × Json => decide (q f = true ∧ (f.1 == key) = true))
      = fun f => f.1 == key := by
    funext f
    by_cases hf : f.1 = key
    · simp [hf, h f hf]
    · simp [hf]
  rw [fieldOf, List.find?_filter, hsame]
  rfl

@[simp] theorem fieldOf_deleteField :
    fieldOf (deleteField fields key) key' = if key' = key then .null else fieldOf fields key' := by
  by_cases h : key' = key
  · have hnone : (deleteField fields key).find? (fun f => f.1 == key) = none := by
      rw [List.find?_eq_none]
      intro f hf
      simpa using (List.mem_filter.mp hf).2
    simp [fieldOf, h, hnone]
  · rw [if_neg h, deleteField, fieldOf_filter]
    rintro f rfl
    simpa using h

@[simp] theorem fieldOf_setField :
    fieldOf (setField fields key value) key' = if key' = key then value else fieldOf fields key' := by
  by_cases h : key' = key
  · simp [fieldOf, setField, h]
  · have hdelete := @fieldOf_deleteField fields key key'
    rw [if_neg h] at hdelete ⊢
    rw [← hdelete]
    simp [fieldOf, setField, deleteField, Ne.symm h]

theorem mem_deleteField (h : f ∈ deleteField fields key) : f ∈ fields := List.mem_of_mem_filter h

theorem mem_setField (h : f ∈ setField fields key value) : f.1 = key ∨ f ∈ fields := by
  rcases List.mem_cons.mp h with rfl | h
  · exact .inl rfl
  · exact .inr (mem_deleteField h)

/-- Every key is one Gemini knows. -/
def Allowed (fields : JsonMap) : Prop := ∀ f ∈ fields, f.1 ∈ geminiOpenAPISchemaAllowedFields

theorem allowed_allowed (fields : JsonMap) : Allowed (allowed fields) :=
  fun _ hf => List.contains_iff_mem.mp (List.mem_filter.mp hf).2

theorem Allowed.delete (h : Allowed fields) (key : String) : Allowed (deleteField fields key) :=
  fun f hf => h f (mem_deleteField hf)

theorem Allowed.set (h : Allowed fields) (hkey : key ∈ geminiOpenAPISchemaAllowedFields)
    (value : Json) : Allowed (setField fields key value) := by
  intro f hf
  rcases mem_setField hf with rfl | hf
  · exact hkey
  · exact h f hf

theorem fieldOf_allowed (hkey : key ∈ geminiOpenAPISchemaAllowedFields) :
    fieldOf (allowed fields) key = fieldOf fields key :=
  fieldOf_filter fun _ hf => List.contains_iff_mem.mpr (hf ▸ hkey)

/-! ## Types -/

variable {t : String} {known : String × String}

theorem lowered_known (h : known ∈ knownTypes) : lowered cm known.2 = known.1 := by
  have hlower : ∀ known ∈ knownTypes,
      String.ofList ((trimSpace known.2).toList.map Char.toLower) = known.1 := by
    decide
  have hascii : ∀ known ∈ knownTypes, ∀ c ∈ (trimSpace known.2).toList, c.toNat < 128 := by
    simp [knownTypes, trimSpace, isSpace]
  rw [lowered, ← hlower known h]
  congr 1
  exact List.map_congr_left fun c hc => cm.ascii c (hascii known h c hc)

attribute [local irreducible] trimSpace

theorem known_normalised (h : known ∈ knownTypes) : Normalised cm known.2 := by
  intro other hother hlow
  rw [lowered_known cm h] at hlow
  revert known other
  decide

theorem normalize_cases (t : String) :
    (∃ known ∈ knownTypes, normalize cm t = (known.2, false)) ∨ normalize cm t = ("", true) ∨
      (normalize cm t = (t, false) ∧ Normalised cm t) := by
  unfold normalize
  split
  · exact .inl ⟨("object", _), by decide, rfl⟩
  · exact .inl ⟨("array", _), by decide, rfl⟩
  · exact .inl ⟨("string", _), by decide, rfl⟩
  · exact .inl ⟨("integer", _), by decide, rfl⟩
  · exact .inl ⟨("number", _), by decide, rfl⟩
  · exact .inl ⟨("boolean", _), by decide, rfl⟩
  · exact .inr (.inl rfl)
  · rename_i hobject harray hstring hinteger hnumber hboolean _
    refine .inr (.inr ⟨rfl, fun known hknown hlow => ?_⟩)
    simp only [knownTypes, List.mem_cons, List.not_mem_nil, or_false] at hknown
    rcases hknown with rfl | rfl | rfl | rfl | rfl | rfl
    exacts [(hobject hlow).elim, (harray hlow).elim, (hstring hlow).elim, (hinteger hlow).elim,
      (hnumber hlow).elim, (hboolean hlow).elim]

theorem normalize_normalised (h : ¬ (normalize cm t).2 = true) :
    Normalised cm (normalize cm t).1 := by
  rcases normalize_cases cm t with ⟨known, hknown, heq⟩ | heq | ⟨heq, ht⟩
  · rw [heq]
    exact known_normalised cm hknown
  · simp [heq] at h
  · rw [heq]
    exact ht

theorem foldl_chooseType (typed : List Json) {acc : Bool × String} (h : Normalised cm acc.2) :
    Normalised cm (typed.foldl (chooseType cm) acc).2 := by
  induction typed generalizing acc with
  | nil => exact h
  | cons item rest ih =>
    refine ih ?_
    unfold chooseType
    split
    · split_ifs with hnull hempty
      · exact h
      · exact normalize_normalised cm hnull
      · exact h
    · exact h

theorem normalizeType_allowed (h : Allowed fields) :
    Allowed (normalizeGeminiSchemaTypeAndNullable cm fields) := by
  have hnullable : Allowed (setField fields "nullable" (.bool true)) := h.set (by decide) _
  unfold normalizeGeminiSchemaTypeAndNullable
  split
  · split_ifs
    · exact hnullable.delete _
    · exact h.set (by decide) _
  · dsimp only
    split_ifs
    · exact hnullable.set (by decide) _
    · exact h.set (by decide) _
    · exact hnullable.delete _
    · exact h.delete _
  · exact h

theorem normalizeType_normalised
    (h : fieldOf (normalizeGeminiSchemaTypeAndNullable cm fields) "type" = .str t) :
    Normalised cm t := by
  unfold normalizeGeminiSchemaTypeAndNullable at h
  split at h
  · split_ifs at h with hnull
    · simp at h
    · simp only [fieldOf_setField, if_true, Json.str.injEq] at h
      exact h ▸ normalize_normalised cm hnull
  · rename_i typed _
    have hempty : Normalised cm "" := by
      intro known hknown hlow
      revert known
      simp [knownTypes, lowered, trimSpace]
    have hchosen := @foldl_chooseType cm typed (false, "") hempty
    dsimp only at h
    split_ifs at h
    · simp only [fieldOf_setField, if_true, Json.str.injEq] at h
      exact h ▸ hchosen
    · simp only [fieldOf_setField, if_true, Json.str.injEq] at h
      exact h ▸ hchosen
    · simp at h
    · simp at h
  · rename_i hstr _
    exact absurd h (hstr t)

theorem normalizeType_other (hnull : key ≠ "nullable") (htype : key ≠ "type") :
    fieldOf (normalizeGeminiSchemaTypeAndNullable cm fields) key = fieldOf fields key := by
  unfold normalizeGeminiSchemaTypeAndNullable
  split
  · split_ifs <;> simp [hnull, htype]
  · dsimp only
    split_ifs <;> simp [hnull, htype]
  · rfl

/-! ## Children -/

@[simp] theorem fieldOf_cleanField {ok : Json → Option Json} :
    fieldOf (cleanField key ok fields) key'
      = if key' = key then (ok (fieldOf fields key)).getD (fieldOf fields key)
        else fieldOf fields key' := by
  unfold cleanField
  cases ok (fieldOf fields key) with
  | some value => simp
  | none =>
    by_cases h : key' = key
    · simp [h]
    · simp [h]

theorem Allowed.clean (h : Allowed fields) (hkey : key ∈ geminiOpenAPISchemaAllowedFields)
    (ok : Json → Option Json) : Allowed (cleanField key ok fields) := by
  unfold cleanField
  cases ok (fieldOf fields key) with
  | some value => exact h.set hkey value
  | none => exact h

theorem cleanChildren_allowed (clean : Json → Json) (h : Allowed fields) :
    Allowed (cleanChildren clean fields) :=
  (((h.clean (by decide) _).clean (by decide) _).clean (by decide) _).clean (by decide) _

/-! ## The objects that come out -/

def AllSupported (v : Json) : Prop := ∀ g, Reached v g → Supported cm g

/-- A value whose objects, and if it is a list, whose elements' objects are supported. -/
def Cleaned (v : Json) : Prop := AllSupported cm v ∧ ∀ e ∈ elements v, AllSupported cm e

variable {cm}

theorem AllSupported.obj (h : Supported cm fields)
    (hchildren : ∀ v ∈ children fields, AllSupported cm v) : AllSupported cm (.obj fields) := by
  intro g hg
  cases hg with
  | root => exact h
  | child hv hg => exact hchildren _ hv g hg

theorem cleaned_of_leaf {v : Json} (hobj : ∀ fields, v ≠ .obj fields)
    (helements : ∀ e ∈ elements v, AllSupported cm e) : Cleaned cm v := by
  refine ⟨fun g hg => ?_, helements⟩
  cases hg with
  | root => exact absurd rfl (hobj _)
  | child => exact absurd rfl (hobj _)

theorem cleaned_obj (h : AllSupported cm (.obj fields)) : Cleaned cm (.obj fields) :=
  ⟨h, fun _ he => nomatch he⟩

/-- The items, an object or the first of a list, are cleaned, and so are their elements
when the first of the list is a list itself. -/
theorem items_cleaned {clean : Json → Json} (hclean : ∀ v, Cleaned cm (clean v)) (items : Json) :
    Cleaned cm ((cleanedItemsArray clean ((cleanedItems clean items).getD items)).getD
      ((cleanedItems clean items).getD items)) := by
  have hfirst : ∀ w, Cleaned cm w → Cleaned cm ((cleanedItemsArray clean w).getD w) := by
    intro w hw
    unfold cleanedItemsArray
    split
    · exact hclean _
    · exact hw
  cases items with
  | obj fields => exact hfirst _ (hclean (.obj fields))
  | arr l =>
    cases l with
    | nil => exact cleaned_of_leaf (fun _ h => nomatch h) (fun _ h => nomatch h)
    | cons first rest => exact hclean first
  | _ => exact cleaned_of_leaf (fun _ h => nomatch h) (fun _ h => nomatch h)

theorem children_cleaned {clean : Json → Json} (hclean : ∀ v, Cleaned cm (clean v))
    {v : Json} (hv : v ∈ children (cleanChildren clean fields)) : AllSupported cm v := by
  simp only [children, cleanChildren, fieldOf_cleanField, List.mem_append, List.mem_cons,
    reduceIte, String.reduceEq] at hv
  rcases hv with (hprops | hitems) | hnested
  · cases hfield : fieldOf fields "properties" with
    | obj props =>
      simp only [hfield, cleanedProps, Option.getD_some, propertyValues, List.map_map,
        List.mem_map, Function.comp_apply] at hprops
      obtain ⟨p, _, rfl⟩ := hprops
      exact (hclean p.2).1
    | _ => simp [hfield, cleanedProps, propertyValues] at hprops
  · have hcleaned := items_cleaned hclean (fieldOf fields "items")
    rcases hitems with rfl | helement
    · exact hcleaned.1
    · exact hcleaned.2 v helement
  · cases hfield : fieldOf fields "anyOf" with
    | arr nested =>
      simp only [hfield, cleanedNested, Option.getD_some, elements, List.mem_map] at hnested
      obtain ⟨w, _, rfl⟩ := hnested
      exact (hclean w).1
    | _ => simp [hfield, cleanedNested, elements] at hnested

theorem cleanChildren_supported (clean : Json → Json) (fields : JsonMap) :
    Supported cm (cleanChildren clean
      (normalizeGeminiSchemaTypeAndNullable cm (allowed fields))) where
  keys := cleanChildren_allowed clean (normalizeType_allowed cm (allowed_allowed fields))
  type t h := by
    simp only [cleanChildren, fieldOf_cleanField, reduceIte, String.reduceEq] at h
    exact normalizeType_normalised cm h

theorem shallow_cleaned (v : Json) :
    Cleaned cm (cleanGeminiFunctionParametersShallow cm v) := by
  cases v with
  | obj fields =>
    refine cleaned_obj (AllSupported.obj ⟨?_, fun t h => ?_⟩ fun v hv => ?_)
    · exact (((normalizeType_allowed cm (allowed_allowed fields)).delete _).delete _).delete _
    · simp only [fieldOf_deleteField, reduceIte, String.reduceEq] at h
      exact normalizeType_normalised cm h
    · simp only [children, fieldOf_deleteField, reduceIte, String.reduceEq, propertyValues,
        elements, List.nil_append, List.append_nil, List.mem_singleton] at hv
      subst hv
      exact fun g hg => nomatch hg
  | _ => exact cleaned_of_leaf (fun _ h => nomatch h) (fun _ h => nomatch h)

theorem clean_cleaned (left : Nat) (v : Json) :
    Cleaned cm (cleanGeminiFunctionParametersWithDepth cm left v) := by
  induction left generalizing v with
  | zero => exact shallow_cleaned v
  | succ left ih =>
    cases v with
    | obj fields =>
      exact cleaned_obj (.obj (cleanChildren_supported _ fields) fun v => children_cleaned ih)
    | arr items =>
      refine cleaned_of_leaf (fun _ h => nomatch h) fun e he => ?_
      obtain ⟨item, _, rfl⟩ := List.mem_map.mp he
      exact (ih item).1
    | _ => exact cleaned_of_leaf (fun _ h => nomatch h) (fun _ h => nomatch h)

/-! ## Names -/

/-- The containers are looked up in what the filter and the normalisation left of them. -/
theorem container_kept (hkey : key ∈ ["properties", "items", "anyOf"]) :
    fieldOf (normalizeGeminiSchemaTypeAndNullable cm (allowed fields)) key
      = fieldOf fields key := by
  have hallowed : key ∈ geminiOpenAPISchemaAllowedFields ∧ key ≠ "nullable" ∧ key ≠ "type" := by
    revert key
    decide
  rw [normalizeType_other cm hallowed.2.1 hallowed.2.2, fieldOf_allowed hallowed.1]

theorem clean_sameNames (left : Nat) (v : Json) :
    SameNames left v (cleanGeminiFunctionParametersWithDepth cm left v) := by
  induction left generalizing v with
  | zero => cases v <;> trivial
  | succ left ih =>
    cases v with
    | obj fields =>
      have hitems := @container_kept cm fields "items" (by decide)
      refine ⟨_, rfl, fun props h => ?_, fun items h => ?_, fun first rest h => ?_,
        fun nested h => ?_⟩
      · have hprops := (@container_kept cm fields "properties" (by decide)).trans h
        refine ⟨_, by simp [cleanChildren, hprops, cleanedProps]; rfl, ?_⟩
        exact List.forall₂_map_right_iff.mpr (List.forall₂_same.mpr fun p _ => ⟨rfl, ih p.2⟩)
      · rw [h] at hitems
        have hobj : ∃ out, cleanGeminiFunctionParametersWithDepth cm left (.obj items) = .obj out := by
          cases left <;> exact ⟨_, rfl⟩
        obtain ⟨out, hout⟩ := hobj
        have hresult := ih (.obj items)
        rw [hout] at hresult
        simpa [cleanChildren, hitems, cleanedItems, cleanedItemsArray, hout] using hresult
      · rw [h] at hitems
        simpa [cleanChildren, hitems, cleanedItems, cleanedItemsArray] using ih first
      · have hnested := (@container_kept cm fields "anyOf" (by decide)).trans h
        refine ⟨_, by simp [cleanChildren, hnested, cleanedNested]; rfl, ?_⟩
        exact List.forall₂_map_right_iff.mpr (List.forall₂_same.mpr fun v _ => ih v)
    | arr items =>
      exact ⟨_, rfl, List.forall₂_map_right_iff.mpr (List.forall₂_same.mpr fun v _ => ih v)⟩
    | _ => trivial

/-- A cleaned schema has only supported objects, and its properties have their names down to
the depth limit. -/
theorem cleaned_supported (cm : CaseMap) (params : Json) :
    (∀ fields, Reached (cleanFunctionParameters cm params) fields → Supported cm fields) ∧
      SameNames geminiFunctionSchemaMaxDepth params (cleanFunctionParameters cm params) :=
  ⟨(clean_cleaned _ params).1, clean_sameNames _ params⟩

/-- `unicode.ToLower` of ASCII letters. -/
def asciiCase : CaseMap := ⟨Char.toLower, fun _ _ => rfl⟩

def tagsSchema : Json :=
  .obj [("type", .str "object"), ("$schema", .str "draft-07"),
    ("properties", .obj [("tags", .obj [("type", .arr [.str "array", .str "null"]),
      ("items", .obj [("type", .str " String"), ("const", .str "a")])])])]

theorem tagsSchema_cleaned :
    cleanFunctionParameters asciiCase tagsSchema = .obj [("properties", .obj [("tags",
        .obj [("items", .obj [("type", .str "STRING")]), ("type", .str "ARRAY"),
          ("nullable", .bool true)])]), ("type", .str "OBJECT")] ∧
      (∀ fields, Reached (cleanFunctionParameters asciiCase tagsSchema) fields →
        Supported asciiCase fields) ∧
      SameNames geminiFunctionSchemaMaxDepth tagsSchema
        (cleanFunctionParameters asciiCase tagsSchema) :=
  ⟨by with_unfolding_all rfl, cleaned_supported asciiCase tagsSchema⟩

end YouBox.GeminiSchema
