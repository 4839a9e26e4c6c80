import YouBox.GoJson

/-!
# Loading a configuration

`configToMap` writes the fields of a configuration as texts, and
`updateConfigFromMap` reads them back into the configuration in memory. Scalars
and maps are set anew; slices, structs and what a pointer points to are decoded
into the value that is there. `Loads` is the exact condition for the saved
configuration to be the one in memory afterwards (`reload_iff_loads`).
-/

namespace YouBox.Config

open GoJson Strconv

abbrev ConfigMap := Std.ExtTreeMap String String compare

/-- The texts of documents and of floating-point numbers. -/
structure Texts (H : Host) where
  render : Json H.Number → String
  parse : String → Option (Json H.Number)
  formatFloat : H.Real → String
  parseFloat : String → Option H.Real
  truncate : H.Real → Int64
  truncateUnsigned : H.Real → UInt64
  isNegative : H.Real → Bool

/-- What is written is read back, and only `null` is written as it is. -/
structure Texts.ReadsBack {H : Host} (txt : Texts H) (documents : List (Json H.Number)) :
    Prop where
  parse_render : ∀ j ∈ documents, txt.parse (txt.render j) = some j
  render_null : ∀ j ∈ documents, txt.render j = "null" ↔ j = .null
  parse_format : ∀ x, txt.parseFloat (txt.formatFloat x) = some x

variable {H : Host} (txt : Texts H)

/-! ## Writing -/

/-- The text of a field: nothing when `json.Marshal` fails, and no text for a kind that is
passed over. -/
def fieldText : (t : Ty) → t.Value H → Option (Option String)
  | .string, s => some (some s)
  | .bool, b => some (some (formatBool b))
  | .int, i => some (some (Int64.toInt i).repr)
  | .uint, n => some (some (UInt64.toNat n).repr)
  | .real, x => some (some (txt.formatFloat x))
  | .any, _ => some none
  | .pointer _, none => some (some "null")
  | .pointer elem, some v => (elem.encode H v).map fun j => some (txt.render j)
  | .map key elem, v => ((Ty.map key elem).encode H v).map fun j => some (txt.render j)
  | .slice elem, v => ((Ty.slice elem).encode H v).map fun j => some (txt.render j)
  | .rwMap key elem, v => ((Ty.rwMap key elem).encode H v).map fun j => some (txt.render j)
  | .struct fields, v => ((Ty.struct fields).encode H v).map fun j => some (txt.render j)

/-- The key of a field is the whole of its tag. -/
def tagKey (name : String) (omitEmpty : Bool) : String :=
  if omitEmpty then name ++ ",omitempty" else name

/-- `configToMap`, with what the loop has put into the result. -/
def configToMapFrom : (fs : Fields) → fs.Value H → ConfigMap → Option ConfigMap
  | .nil, _, result => some result
  | .cons name omitEmpty type rest, (v, vs), result =>
    match fieldText txt type v with
    | none => none
    | some none => configToMapFrom rest vs result
    | some (some text) => configToMapFrom rest vs (result.insert (tagKey name omitEmpty) text)

def configToMap (fs : Fields) (c : fs.Value H) : Option ConfigMap := configToMapFrom txt fs c ∅

/-! ## Reading -/

/-- A nil pointer is given something to point to before the text is decoded. -/
def updatePointer {α : Type} (decode : Json H.Number → α → α) (fresh : α) (old : Option α)
    (text : String) : Option α :=
  if text = "null" then none
  else
    let live := old.getD fresh
    some (((txt.parse text).map fun j => decode j live).getD live)

def updateField : (t : Ty) → t.Live H → String → t.Live H
  | .string, _, text => text
  | .bool, old, text => (parseBool text).getD old
  | .int, old, text =>
    match atoi text with
    | some i => Int64.ofInt i
    -- a number that was saved as a float
    | none => ((txt.parseFloat text).map txt.truncate).getD old
  | .uint, old, text =>
    match parseUint text with
    | some n => UInt64.ofNat n
    | none =>
      match txt.parseFloat text with
      | some x => if txt.isNegative x then old else txt.truncateUnsigned x
      | none => old
  | .real, old, text => (txt.parseFloat text).getD old
  | .any, old, _ => old
  | .pointer elem, old, text => updatePointer txt (elem.decode H) (elem.zero H Backed) old text
  | .map key elem, old, text =>
    match txt.parse text with
    | none => old
    | some j =>
      if (Ty.map key elem).accepts H j then (Ty.map key elem).decode H j none else old
  | .slice elem, old, text => ((txt.parse text).map ((Ty.slice elem).decode H · old)).getD old
  | .rwMap key elem, old, text =>
    ((txt.parse text).map ((Ty.rwMap key elem).decode H · old)).getD old
  | .struct fields, old, text =>
    ((txt.parse text).map ((Ty.struct fields).decode H · old)).getD old

def updateConfigFromMap : (fs : Fields) → fs.Live H → ConfigMap → fs.Live H
  | .nil, _, _ => ()
  | .cons name omitEmpty type rest, (old, olds), configMap =>
    ((configMap[tagKey name omitEmpty]?.map (updateField txt type old)).getD old,
      updateConfigFromMap rest olds configMap)

/-- What a node has in memory after it read what another one saved. -/
def reload (fs : Fields) (c0 : fs.Live H) (c : fs.Value H) : Option (fs.Live H) :=
  (configToMap txt fs c).map (updateConfigFromMap txt fs c0)

/-! ## When nothing of the old configuration is left -/

def fieldLoads : (t : Ty) → t.Live H → t.Value H → Prop
  | .string, _, _ | .bool, _, _ | .int, _, _ | .uint, _, _ | .real, _, _ => True
  | .any, old, new => Ty.any.view H old = new
  | .map key elem, _, new => (Ty.map key elem).Overwrites H none new
  | .pointer elem, old, new => (Ty.pointer elem).Overwrites H old new
  | .slice elem, old, new => (Ty.slice elem).Overwrites H old new
  | .rwMap key elem, old, new => (Ty.rwMap key elem).Overwrites H old new
  | .struct fields, old, new => (Ty.struct fields).Overwrites H old new

def Loads : (fs : Fields) → fs.Live H → fs.Value H → Prop
  | .nil, _, _ => True
  | .cons _ _ type rest, (old, olds), (new, news) => fieldLoads type old new ∧ Loads rest olds news

/-- The documents that the fields of a configuration are written as. -/
def documents : (fs : Fields) → fs.Value H → List (Json H.Number)
  | .nil, _ => []
  | .cons _ _ type rest, (v, vs) => (type.encode H v).toList ++ documents rest vs

def keys : Fields → List String
  | .nil => []
  | .cons name omitEmpty _ rest => tagKey name omitEmpty :: keys rest

/-! ## One field -/

/-- What the field holds when the text is read, or what it held when there is none. -/
def readField (t : Ty) (old : t.Live H) (text : Option String) : t.Live H :=
  (text.map (updateField txt t old)).getD old

theorem document_loads_iff {t : Ty} (hnamed : t.wellNamed = true) {old base : t.Live H}
    {new : t.Value H} {read : String → t.Live H}
    (hread : ∀ j, t.encode H new = some j → read (txt.render j) = t.decode H j base) :
    (∃ text, (t.encode H new).map (fun j => some (txt.render j)) = some text ∧
        t.view H ((text.map read).getD old) = new) ↔ t.Overwrites H base new := by
  rw [← encode_decode_iff H t hnamed]
  constructor
  · rintro ⟨text, htext, hview⟩
    obtain ⟨j, hj, rfl⟩ := Option.map_eq_some_iff.mp htext
    refine ⟨j, hj, ?_⟩
    rwa [Option.map_some, Option.getD_some, hread j hj] at hview
  · rintro ⟨j, hj, hview⟩
    refine ⟨some (txt.render j), by rw [hj]; rfl, ?_⟩
    rwa [Option.map_some, Option.getD_some, hread j hj]

theorem updatePointer_render {α : Type} {decode : Json H.Number → α → α} {fresh : α}
    {j : Json H.Number} (hparse : txt.parse (txt.render j) = some j)
    (hnull : txt.render j = "null" ↔ j = .null) (old : Option α) :
    updatePointer txt decode fresh old (txt.render j) = readPointer decode fresh j old := by
  unfold updatePointer
  by_cases hj : j = .null
  · rw [if_pos (hnull.mpr hj), hj]
    rfl
  · rw [if_neg fun h => hj (hnull.mp h), hparse]
    cases j with
    | null => exact absurd rfl hj
    | bool | num | str | arr | obj => rfl

theorem field_loads_iff {txt : Texts H} (t : Ty) (hnamed : t.wellNamed = true) (old : t.Live H)
    (new : t.Value H) (hread : txt.ReadsBack (t.encode H new).toList) :
    (∃ text, fieldText txt t new = some text ∧ t.view H (readField txt t old text) = new) ↔
      fieldLoads t old new := by
  have hparse : ∀ j, t.encode H new = some j → txt.parse (txt.render j) = some j := fun j hj =>
    hread.parse_render j (by simp [hj])
  match t, old, new with
  | .string, _, _ => exact ⟨fun _ => trivial, fun _ => ⟨_, rfl, rfl⟩⟩
  | .bool, old, b =>
    exact ⟨fun _ => trivial,
      fun _ => ⟨_, rfl, congrArg (Option.getD · old) (parseBool_formatBool b)⟩⟩
  | .int, old, i =>
    refine ⟨fun _ => trivial, fun _ => ⟨_, rfl, ?_⟩⟩
    have hatoi : atoi (Int64.toInt i).repr = some (Int64.toInt i) :=
      atoi_repr (Int64.le_toInt i) (Int64.toInt_lt i)
    simp only [readField, Option.map_some, updateField, hatoi]
    exact Int64.ofInt_toInt i
  | .uint, old, n =>
    refine ⟨fun _ => trivial, fun _ => ⟨_, rfl, ?_⟩⟩
    have hparse : parseUint (UInt64.toNat n).repr = some (UInt64.toNat n) :=
      parseUint_repr (UInt64.toNat_lt n)
    simp only [readField, Option.map_some, updateField, hparse]
    exact UInt64.ofNat_toNat
  | .real, old, x =>
    exact ⟨fun _ => trivial,
      fun _ => ⟨_, rfl, congrArg (Option.getD · old) (hread.parse_format x)⟩⟩
  | .any, old, new =>
    exact ⟨fun ⟨_, htext, hview⟩ => by obtain rfl := Option.some.inj htext; exact hview,
      fun hview => ⟨none, rfl, hview⟩⟩
  | .slice elem, old, new =>
    refine document_loads_iff txt hnamed fun j hj => ?_
    simp only [updateField, hparse j hj, Option.map_some, Option.getD_some]
  | .rwMap key elem, old, new =>
    refine document_loads_iff txt hnamed fun j hj => ?_
    simp only [updateField, hparse j hj, Option.map_some, Option.getD_some]
  | .struct fields, old, new =>
    refine document_loads_iff txt hnamed fun j hj => ?_
    simp only [updateField, hparse j hj, Option.map_some, Option.getD_some]
  | .map key elem, old, new =>
    refine document_loads_iff txt hnamed fun j hj => ?_
    simp only [updateField, hparse j hj]
    exact if_pos (accepts_encode H (.map key elem) hnamed new j hj)
  | .pointer elem, old, none => exact ⟨fun _ => trivial, fun _ => ⟨_, rfl, rfl⟩⟩
  | .pointer elem, old, some v =>
    show (∃ text, ((Ty.pointer elem).encode H (some v)).map (fun j => some (txt.render j))
        = some text ∧ _) ↔ (Ty.pointer elem).Overwrites H old (some v)
    refine document_loads_iff txt hnamed fun j hj => ?_
    exact updatePointer_render txt (hparse j hj) (hread.render_null j (by simp [hj])) old

/-! ## All fields -/

theorem configToMapFrom_other {fs : Fields} {c : fs.Value H} {result m : ConfigMap}
    (h : configToMapFrom txt fs c result = some m) {key : String} (hkey : key ∉ keys fs) :
    m[key]? = result[key]? := by
  match fs, c with
  | .nil, _ =>
    cases h
    rfl
  | .cons name omitEmpty type rest, (v, vs) =>
    simp only [keys, List.mem_cons, not_or] at hkey
    rw [configToMapFrom] at h
    split at h
    · simp at h
    · exact configToMapFrom_other h hkey.2
    · rw [configToMapFrom_other h hkey.2, Std.ExtTreeMap.getElem?_insert,
        if_neg (by simpa using Ne.symm hkey.1)]

theorem fields_reload_iff {txt : Texts H} (fs : Fields) (hnamed : fs.wellNamed = true)
    (hkeys : (keys fs).Nodup) (c0 : fs.Live H) (c : fs.Value H)
    (hread : txt.ReadsBack (documents fs c)) (result : ConfigMap)
    (hresult : ∀ key ∈ keys fs, result[key]? = none) :
    (∃ m, configToMapFrom txt fs c result = some m ∧
        fs.view H (updateConfigFromMap txt fs c0 m) = c) ↔ Loads fs c0 c := by
  match fs, c0, c with
  | .nil, _, _ => exact ⟨fun _ => trivial, fun _ => ⟨result, rfl, rfl⟩⟩
  | .cons name omitEmpty type rest, (old, olds), (new, news) =>
    simp only [Fields.wellNamed, Bool.and_eq_true] at hnamed
    obtain ⟨⟨-, htype⟩, hrest⟩ := hnamed
    obtain ⟨hkey, hkeysRest⟩ := List.nodup_cons.mp hkeys
    have hreadHead : txt.ReadsBack (type.encode H new).toList :=
      ⟨fun j hj => hread.parse_render j (List.mem_append_left _ hj),
        fun j hj => hread.render_null j (List.mem_append_left _ hj), hread.parse_format⟩
    have hreadRest : txt.ReadsBack (documents rest news) :=
      ⟨fun j hj => hread.parse_render j (List.mem_append_right _ hj),
        fun j hj => hread.render_null j (List.mem_append_right _ hj), hread.parse_format⟩
    have hhead := field_loads_iff type htype old new hreadHead
    have htail := fun result h =>
      fields_reload_iff rest hrest hkeysRest olds news hreadRest result h
    have hview : ∀ m : ConfigMap, (Fields.cons name omitEmpty type rest).view H
        (updateConfigFromMap txt (.cons name omitEmpty type rest) (old, olds) m)
        = (type.view H (readField txt type old m[tagKey name omitEmpty]?),
          rest.view H (updateConfigFromMap txt rest olds m)) := fun _ => rfl
    rw [Loads, ← hhead]
    cases htext : fieldText txt type new with
    | none => simp [configToMapFrom, htext]
    | some text =>
      -- what the rest of the loop starts from, and the text it leaves under this key
      obtain ⟨result', hresult', hstep, hfound⟩ : ∃ result' : ConfigMap,
          (∀ key ∈ keys rest, result'[key]? = none) ∧
            configToMapFrom txt (.cons name omitEmpty type rest) (new, news) result
              = configToMapFrom txt rest news result' ∧
            result'[tagKey name omitEmpty]? = text := by
        cases text with
        | none =>
          refine ⟨result, fun key hmem => hresult key (List.mem_cons_of_mem _ hmem), ?_,
            hresult _ (List.mem_cons_self ..)⟩
          rw [configToMapFrom, htext]
        | some text =>
          refine ⟨result.insert (tagKey name omitEmpty) text, fun key hmem => ?_, ?_, ?_⟩
          · rw [Std.ExtTreeMap.getElem?_insert,
              if_neg (by simpa using fun heq : tagKey name omitEmpty = key => hkey (heq ▸ hmem))]
            exact hresult key (List.mem_cons_of_mem _ hmem)
          · rw [configToMapFrom, htext]
          · simp
      rw [hstep, ← htail result' hresult']
      constructor
      · rintro ⟨m, hm, hshow⟩
        rw [hview, configToMapFrom_other txt hm hkey, hfound] at hshow
        obtain ⟨hold, holds⟩ := Prod.mk.inj hshow
        exact ⟨⟨text, rfl, hold⟩, m, hm, holds⟩
      · rintro ⟨⟨text', htext', hold⟩, m, hm, holds⟩
        cases htext'
        refine ⟨m, hm, ?_⟩
        rw [hview, configToMapFrom_other txt hm hkey, hfound]
        exact Prod.ext hold holds

theorem reload_iff_loads {txt : Texts H} (fs : Fields) (hnamed : fs.wellNamed = true)
    (hkeys : (keys fs).Nodup) (c0 : fs.Live H) (c : fs.Value H)
    (hread : txt.ReadsBack (documents fs c)) :
    (∃ c1, reload txt fs c0 c = some c1 ∧ fs.view H c1 = c) ↔ Loads fs c0 c := by
  rw [← fields_reload_iff fs hnamed hkeys c0 c hread ∅ (by simp)]
  constructor
  · rintro ⟨c1, hreload, hview⟩
    obtain ⟨m, hm, rfl⟩ := Option.map_eq_some_iff.mp hreload
    exact ⟨m, hm, hview⟩
  · rintro ⟨m, hm, hview⟩
    have hsaved : configToMap txt fs c = some m := hm
    exact ⟨_, by rw [reload, hsaved]; rfl, hview⟩

end YouBox.Config
