import YouBox.Strconv

/-!
# Decoding into a value that is already there

A Go type as reflection sees it, the values of such a type, and what
`json.Marshal` writes for a value and `json.Unmarshal` leaves of the value it
decodes into. A value in memory knows more than it shows: behind the elements of
a slice lie those that an earlier, longer slice left in the same array, and an
element that is decoded there starts from what it finds.

`Overwrites` says, place by place, when nothing of the old value is left; it is
exact (`encode_decode_iff`).
-/

namespace YouBox.GoJson

open Std (ExtTreeMap TransOrd LawfulEqOrd)
open Strconv

inductive Json (ν : Type) where
  | null
  | bool (b : Bool)
  | num (n : ν)
  | str (s : String)
  | arr (items : List (Json ν))
  | obj (fields : List (String × Json ν))

/-- Numbers and dynamic values: the number literals of JSON, the floating-point
numbers (of which not all have a literal) and the values of an interface. -/
structure Host where
  Number : Type
  Real : Type
  Any : Type
  ofInt : Int → Number
  toInt : Number → Option Int
  toInt_ofInt : ∀ i, toInt (ofInt i) = some i
  ofReal : Real → Option Number
  toReal : Number → Option Real
  toReal_ofReal : ∀ x n, ofReal x = some n → toReal n = some x
  zeroReal : Real
  isZero : Real → Bool
  nil : Any
  isNil : Any → Bool
  ofAny : Any → Option (Json Number)
  toAny : Json Number → Any

/-! ## Types -/

inductive KeyKind where
  | string
  | int

abbrev KeyKind.Key : KeyKind → Type
  | .string => String
  | .int => Int64

instance : (k : KeyKind) → DecidableEq k.Key
  | .string => inferInstanceAs (DecidableEq String)
  | .int => inferInstanceAs (DecidableEq Int64)

instance : (k : KeyKind) → Ord k.Key
  | .string => inferInstanceAs (Ord String)
  | .int => inferInstanceAs (Ord Int64)

instance : (k : KeyKind) → TransOrd k.Key
  | .string => inferInstanceAs (TransOrd String)
  | .int => inferInstanceAs (TransOrd Int64)

instance : (k : KeyKind) → LawfulEqOrd k.Key
  | .string => inferInstanceAs (LawfulEqOrd String)
  | .int => inferInstanceAs (LawfulEqOrd Int64)

def KeyKind.text : (k : KeyKind) → k.Key → String
  | .string, s => s
  | .int, i => i.toInt.repr

def KeyKind.parse : (k : KeyKind) → String → Option k.Key
  | .string, s => some s
  | .int, s => (atoi s).map Int64.ofInt

abbrev GoMap (k : KeyKind) (α : Type) := ExtTreeMap k.Key α compare

section Entries

variable {α β γ : Type} {key : KeyKind}

/-- The members that a map is written as. -/
def membersOf (write : β → Option γ) (m : GoMap key β) : Option (List (String × γ)) :=
  m.toList.mapM fun entry => (write entry.2).map (key.text entry.1, ·)

/-- The entries that members are read as. -/
def entriesOf (key : KeyKind) (read : γ → α) (members : List (String × γ)) :
    List (key.Key × α) :=
  members.filterMap fun entry => (key.parse entry.1).map (·, read entry.2)

end Entries

mutual
/-- `rwMap` is a map behind a lock, which is reached through a pointer and decodes
itself. -/
inductive Ty where
  | string
  | bool
  | int
  | uint
  | real
  | any
  | slice (elem : Ty)
  | map (key : KeyKind) (elem : Ty)
  | rwMap (key : KeyKind) (elem : Ty)
  | pointer (elem : Ty)
  | struct (fields : Fields)

inductive Fields where
  | nil
  | cons (name : String) (omitEmpty : Bool) (type : Ty) (rest : Fields)
end

/-! ## Values -/

/-- A slice in memory: what it shows, and what follows in its array. -/
structure Backed (α : Type) where
  elems : List α
  spare : List α

def Backed.array {α : Type} (s : Backed α) : List α := s.elems ++ s.spare

variable (H : Host)

section Values

variable (S : Type → Type)

mutual
def Ty.denote : Ty → Type
  | .string => String
  | .bool => Bool
  | .int => Int64
  | .uint => UInt64
  | .real => H.Real
  | .any => H.Any
  | .slice elem => Option (S elem.denote)
  | .map key elem => Option (GoMap key elem.denote)
  | .rwMap key elem => Option (GoMap key elem.denote)
  | .pointer elem => Option elem.denote
  | .struct fields => fields.denote

def Fields.denote : Fields → Type
  | .nil => Unit
  | .cons _ _ type rest => type.denote × rest.denote
end

mutual
def Ty.zero : (t : Ty) → t.denote H S
  | .string => ""
  | .bool => false
  | .int => (0 : Int64)
  | .uint => (0 : UInt64)
  | .real => H.zeroReal
  | .any => H.nil
  | .slice _ | .map _ _ | .rwMap _ _ | .pointer _ => none
  | .struct fields => fields.zero

def Fields.zero : (fs : Fields) → fs.denote H S
  | .nil => ()
  | .cons _ _ type rest => (type.zero, rest.zero)
end

end Values

abbrev Ty.Value (t : Ty) : Type := t.denote H List

abbrev Ty.Live (t : Ty) : Type := t.denote H Backed

abbrev Fields.Value (fs : Fields) : Type := fs.denote H List

abbrev Fields.Live (fs : Fields) : Type := fs.denote H Backed

mutual
/-- What a value in memory shows. -/
def Ty.view : (t : Ty) → t.Live H → t.Value H
  | .string, s => s
  | .bool, b => b
  | .int, i => i
  | .uint, n => n
  | .real, x => x
  | .any, d => d
  | .slice elem, s => Option.map (fun s : Backed (elem.Live H) => s.elems.map elem.view) s
  | .map key elem, m => Option.map (fun m : GoMap key (elem.Live H) => m.map fun _ => elem.view) m
  | .rwMap key elem, m =>
    Option.map (fun m : GoMap key (elem.Live H) => m.map fun _ => elem.view) m
  | .pointer elem, p => Option.map elem.view p
  | .struct fields, v => fields.view v

def Fields.view : (fs : Fields) → fs.Live H → fs.Value H
  | .nil, () => ()
  | .cons _ _ type rest, (v, vs) => (type.view v, rest.view vs)
end

/-! ## Writing -/

def Ty.isEmpty : (t : Ty) → t.Value H → Bool
  | .string, s => String.isEmpty s
  | .bool, b => !b
  | .int, i => Int64.toInt i == 0
  | .uint, n => UInt64.toNat n == 0
  | .real, x => H.isZero x
  | .any, d => H.isNil d
  | .slice _, s => (Option.getD s []).isEmpty
  | .map key elem, m => (Option.getD m (∅ : GoMap key (elem.Value H))).isEmpty
  | .rwMap _ _, _ => false
  | .pointer elem, p => Option.isNone (α := elem.Value H) p
  | .struct _, _ => false

mutual
def Ty.encode : (t : Ty) → t.Value H → Option (Json H.Number)
  | .string, s => some (.str s)
  | .bool, b => some (.bool b)
  | .int, i => some (.num (H.ofInt i.toInt))
  | .uint, n => some (.num (H.ofInt n.toNat))
  | .real, x => (H.ofReal x).map .num
  | .any, d => H.ofAny d
  | .slice _, none => some .null
  | .slice elem, some vs => (vs.mapM elem.encode).map .arr
  | .map _ _, none | .rwMap _ _, none => some .null
  | .map key elem, some m | .rwMap key elem, some m =>
    (@membersOf _ _ key elem.encode m).map .obj
  | .pointer _, none => some .null
  | .pointer elem, some v => elem.encode v
  | .struct fields, v => (fields.encode v).map .obj

def Fields.encode : (fs : Fields) → fs.Value H → Option (List (String × Json H.Number))
  | .nil, () => some []
  | .cons name omitEmpty type rest, (v, vs) =>
    if omitEmpty && type.isEmpty H v then rest.encode vs
    else do return (name, ← type.encode v) :: (← rest.encode vs)
end

/-! ## Reading -/

/-- The member of an object under a name. -/
def member {ν : Type} (members : List (String × Json ν)) (name : String) : Option (Json ν) :=
  members.lookup name

def toInt64 (n : H.Number) : Option Int64 := do
  let i ← H.toInt n
  if -(2 ^ 63) ≤ i ∧ i < 2 ^ 63 then some (Int64.ofInt i) else none

def toUInt64 (n : H.Number) : Option UInt64 := do
  let i ← H.toInt n
  if 0 ≤ i ∧ i < 2 ^ 64 then some (UInt64.ofNat i.toNat) else none

/-- Each item is decoded into what the array holds at its place, or into `fresh`. -/
def overlay {α β ι : Type} (f : ι → α → β) (fresh : α) : List ι → List α → List β
  | [], _ => []
  | i :: is, [] => f i fresh :: overlay f fresh is []
  | i :: is, a :: as => f i a :: overlay f fresh is as

/-- The array of a slice, to be decoded into. -/
def arrayOf {α : Type} (s : Option (Backed α)) : List α := (s.map Backed.array).getD []

section Kinds

variable {ν α : Type}

def readString (j : Json ν) (old : String) : String :=
  match j with
  | .str s => s
  | _ => old

def readBool (j : Json ν) (old : Bool) : Bool :=
  match j with
  | .bool b => b
  | _ => old

def readNumber (number : ν → Option α) (j : Json ν) (old : α) : α :=
  match j with
  | .num n => (number n).getD old
  | _ => old

def readSlice (read : Json ν → α → α) (fresh : α) (j : Json ν) (old : Option (Backed α)) :
    Option (Backed α) :=
  match j with
  | .null => none
  | .arr items =>
    some {
      elems := overlay read fresh items (arrayOf old)
      spare := if items.isEmpty then [] else (arrayOf old).drop items.length }
  | _ => old

def readMap {key : KeyKind} (read : Json ν → α) (j : Json ν) (old : Option (GoMap key α)) :
    Option (GoMap key α) :=
  match j with
  | .null => none
  | .obj members => some ((old.getD ∅).insertMany (entriesOf key read members))
  | _ => old

/-- The map is made anew before anything is decoded into it. -/
def readRWMap {key : KeyKind} (read : Json ν → α) (j : Json ν) : Option (GoMap key α) :=
  readMap read j (some ∅)

def readPointer (read : Json ν → α → α) (fresh : α) (j : Json ν) (old : Option α) : Option α :=
  match j with
  | .null => none
  | j => some (read j (old.getD fresh))

def readStruct (read : List (String × Json ν) → α → α) (j : Json ν) (old : α) : α :=
  match j with
  | .obj members => read members old
  | _ => old

/-- A document of one form, or `null`. -/
def fits (form : Json ν → Bool) : Json ν → Bool
  | .null => true
  | j => form j

def isString : Json ν → Bool
  | .str _ => true
  | _ => false

def isBool : Json ν → Bool
  | .bool _ => true
  | _ => false

def isNumber (number : ν → Option α) : Json ν → Bool
  | .num n => (number n).isSome
  | _ => false

def isArray (item : Json ν → Bool) : Json ν → Bool
  | .arr items => items.all item
  | _ => false

def isObject (members : List (String × Json ν) → Bool) : Json ν → Bool
  | .obj ms => members ms
  | _ => false

end Kinds

mutual
/-- What decoding leaves in a value; what does not fit is passed over. -/
def Ty.decode : (t : Ty) → Json H.Number → t.Live H → t.Live H
  | .string, j, old => readString j old
  | .bool, j, old => readBool j old
  | .int, j, old => readNumber (toInt64 H) j old
  | .uint, j, old => readNumber (toUInt64 H) j old
  | .real, j, old => readNumber H.toReal j old
  | .any, j, _ => H.toAny j
  | .slice elem, j, old => readSlice elem.decode (elem.zero H Backed) j old
  | .map key elem, j, old => @readMap _ _ key (elem.decode · (elem.zero H Backed)) j old
  | .rwMap key elem, j, _ => @readRWMap _ _ key (elem.decode · (elem.zero H Backed)) j
  | .pointer elem, j, old => readPointer elem.decode (elem.zero H Backed) j old
  | .struct fields, j, old => readStruct fields.decode j old

def Fields.decode : (fs : Fields) → List (String × Json H.Number) → fs.Live H → fs.Live H
  | .nil, _, () => ()
  | .cons name _ type rest, members, (old, olds) =>
    (((member members name).map fun j => type.decode j old).getD old, rest.decode members olds)
end

mutual
/-- Decoding reports no error. -/
def Ty.accepts : Ty → Json H.Number → Bool
  | .string, j => fits isString j
  | .bool, j => fits isBool j
  | .int, j => fits (isNumber (toInt64 H)) j
  | .uint, j => fits (isNumber (toUInt64 H)) j
  | .real, j => fits (isNumber H.toReal) j
  | .any, _ => true
  | .slice elem, j => fits (isArray elem.accepts) j
  | .map key elem, j | .rwMap key elem, j =>
    fits (isObject fun ms => ms.all fun m => (key.parse m.1).isSome && elem.accepts m.2) j
  | .pointer elem, j => fits elem.accepts j
  | .struct fields, j => fits (isObject fields.accepts) j

def Fields.accepts : Fields → List (String × Json H.Number) → Bool
  | .nil, _ => true
  | .cons name _ type rest, members =>
    ((member members name).all type.accepts) && rest.accepts members
end

/-! ## What is left of the old value -/

/-- A value that is written as `null`. -/
def Ty.isNull : (t : Ty) → t.Value H → Bool
  | .any, d => match H.ofAny d with
    | some .null => true
    | _ => false
  | .slice elem, s => Option.isNone (α := List (elem.Value H)) s
  | .map key elem, m | .rwMap key elem, m => Option.isNone (α := GoMap key (elem.Value H)) m
  | .pointer elem, p => match p with
    | none => true
    | some v => elem.isNull v
  | _, _ => false

mutual
/-- Nothing of the old value shows in what the encoding of the new one leaves. -/
def Ty.Overwrites : (t : Ty) → t.Live H → t.Value H → Prop
  | .string, _, _ | .bool, _, _ | .int, _, _ | .uint, _, _ => True
  | .real, _, x => (H.ofReal x).isSome
  | .any, _, d => ∃ j, H.ofAny d = some j ∧ H.toAny j = d
  | .slice _, _, none => True
  | .slice elem, old, some vs =>
    let array : List (elem.Live H) := arrayOf old
    ∀ (i : Nat) v, vs[i]? = some v → elem.Overwrites (array[i]?.getD (elem.zero H Backed)) v
  | .map _ _, _, none => True
  | .map key elem, old, some (m : GoMap key (elem.Value H)) =>
    (∀ k : key.Key, k ∈ Option.getD old (∅ : GoMap key (elem.Live H)) → k ∈ m) ∧
      ∀ (k : key.Key) v, m[k]? = some v → elem.Overwrites (elem.zero H Backed) v
  | .rwMap _ _, _, none => True
  | .rwMap key elem, _, some (m : GoMap key (elem.Value H)) =>
    ∀ (k : key.Key) v, m[k]? = some v → elem.Overwrites (elem.zero H Backed) v
  | .pointer _, _, none => True
  | .pointer elem, old, some v =>
    elem.isNull H v = false ∧ elem.Overwrites (Option.getD old (elem.zero H Backed)) v
  | .struct fields, old, new => fields.Overwrites old new

def Fields.Overwrites : (fs : Fields) → fs.Live H → fs.Value H → Prop
  | .nil, _, _ => True
  | .cons _ omitEmpty type rest, (old, olds), (new, news) =>
    (if omitEmpty && type.isEmpty H new then type.view H old = new
      else type.Overwrites old new) ∧ rest.Overwrites olds news
end

/-! ## Numbers and lists -/

theorem toInt64_ofInt (i : Int64) : toInt64 H (H.ofInt i.toInt) = some i := by
  have hlo := i.le_toInt
  have hhi := i.toInt_lt
  simp only [toInt64, H.toInt_ofInt, Option.bind_eq_bind, Option.bind_some]
  rw [if_pos ⟨by omega, by omega⟩, Int64.ofInt_toInt]

theorem toUInt64_ofInt (n : UInt64) : toUInt64 H (H.ofInt n.toNat) = some n := by
  have hlt : (n.toNat : Int) < 2 ^ 64 := Int.ofNat_lt.mpr n.toNat_lt
  unfold toUInt64
  rw [H.toInt_ofInt, Option.bind_eq_bind, Option.bind_some,
    if_pos ⟨Int.natCast_nonneg _, hlt⟩, Int.toNat_natCast, UInt64.ofNat_toNat]

theorem KeyKind.parse_text (k : KeyKind) (key : k.Key) : k.parse (k.text key) = some key := by
  cases k with
  | string => rfl
  | int =>
    simp only [KeyKind.parse, KeyKind.text]
    have hlo := Int64.le_toInt key
    have hhi := Int64.toInt_lt key
    rw [atoi_repr (by omega) (by omega)]
    simp

section Lists

variable {α β γ ι : Type}

/-- Written, decoded over an array and shown again, a list is what it was if each of
its elements is. -/
theorem mapM_overlay_iff (write : γ → Option ι) (read : ι → α → β) (shows : β → γ) (fresh : α)
    (vs : List γ) (as : List α) :
    (∃ js, vs.mapM write = some js ∧ (overlay read fresh js as).map shows = vs) ↔
      ∀ (i : Nat) v, vs[i]? = some v → ∃ j, write v = some j ∧ shows (read j (as[i]?.getD fresh)) = v := by
  induction vs generalizing as with
  | nil => simp [overlay]
  | cons v vs ih =>
    have hoverlay : ∀ j js, overlay read fresh (j :: js) as
        = read j (as[0]?.getD fresh) :: overlay read fresh js as.tail := by
      intro j js
      cases as <;> rfl
    have htail : ∀ i, as.tail[i]? = as[i + 1]? := by
      intro i
      cases as <;> simp
    constructor
    · rintro ⟨js, hjs, hshow⟩ i w hw
      simp only [List.mapM_cons, Option.bind_eq_bind, Option.bind_eq_some_iff,
        Option.pure_def, Option.some.injEq] at hjs
      obtain ⟨j, hj, rest, hrest, rfl⟩ := hjs
      rw [hoverlay, List.map_cons, List.cons.injEq] at hshow
      cases i with
      | zero =>
        obtain rfl : v = w := by simpa using hw
        exact ⟨j, hj, hshow.1⟩
      | succ i =>
        rw [← htail]
        exact (ih as.tail).mp ⟨rest, hrest, hshow.2⟩ i w (by simpa using hw)
    · intro hall
      obtain ⟨j, hj, hshow⟩ := hall 0 v (by simp)
      obtain ⟨js, hjs, hrest⟩ := (ih as.tail).mpr fun i w hw => by
        rw [htail]
        exact hall (i + 1) w (by simpa using hw)
      refine ⟨j :: js, by simp [hj, hjs], ?_⟩
      rw [hoverlay, List.map_cons, hshow, hrest]

theorem mapM_some_of_mem {write : γ → Option ι} {vs : List γ} {js : List ι}
    (h : vs.mapM write = some js) {v : γ} (hv : v ∈ vs) : ∃ j ∈ js, write v = some j := by
  induction vs generalizing js with
  | nil => simp at hv
  | cons w ws ih =>
    simp only [List.mapM_cons, Option.bind_eq_bind, Option.bind_eq_some_iff,
      Option.pure_def, Option.some.injEq] at h
    obtain ⟨j, hj, rest, hrest, rfl⟩ := h
    rcases List.mem_cons.mp hv with rfl | hmem
    · exact ⟨j, by simp, hj⟩
    · obtain ⟨k, hk, hwrite⟩ := ih hrest hmem
      exact ⟨k, by simp [hk], hwrite⟩

theorem mem_of_mapM {write : γ → Option ι} {vs : List γ} {js : List ι}
    (h : vs.mapM write = some js) {j : ι} (hj : j ∈ js) : ∃ v ∈ vs, write v = some j := by
  induction vs generalizing js with
  | nil =>
    obtain rfl : js = [] := by simpa using h.symm
    simp at hj
  | cons w ws ih =>
    simp only [List.mapM_cons, Option.bind_eq_bind, Option.bind_eq_some_iff,
      Option.pure_def, Option.some.injEq] at h
    obtain ⟨i, hi, rest, hrest, rfl⟩ := h
    rcases List.mem_cons.mp hj with rfl | hmem
    · exact ⟨w, by simp, hi⟩
    · obtain ⟨v, hv, hwrite⟩ := ih hrest hmem
      exact ⟨v, by simp [hv], hwrite⟩

theorem mapM_isSome {write : γ → Option ι} {vs : List γ}
    (h : ∀ v ∈ vs, ∃ j, write v = some j) : ∃ js, vs.mapM write = some js := by
  induction vs with
  | nil => exact ⟨[], rfl⟩
  | cons v vs ih =>
    obtain ⟨j, hj⟩ := h v (by simp)
    obtain ⟨js, hjs⟩ := ih fun w hw => h w (by simp [hw])
    exact ⟨j :: js, by simp [hj, hjs]⟩

end Lists

/-! ## Maps -/

section Maps

variable {α β γ : Type} {key : KeyKind}

theorem entriesOf_members (write : β → Option γ) (read : γ → α) {entries : List (key.Key × β)}
    {members : List (String × γ)}
    (h : (entries.mapM fun entry => (write entry.2).map (key.text entry.1, ·)) = some members) :
    entriesOf key read members
      = entries.filterMap fun entry => (write entry.2).map fun j => (entry.1, read j) := by
  induction entries generalizing members with
  | nil =>
    obtain rfl : members = [] := by simpa using h.symm
    rfl
  | cons entry entries ih =>
    simp only [List.mapM_cons, Option.bind_eq_bind, Option.bind_eq_some_iff,
      Option.pure_def, Option.some.injEq, Option.map_eq_some_iff] at h
    obtain ⟨_, ⟨j, hj, rfl⟩, rest, hrest, rfl⟩ := h
    rw [List.filterMap_cons, hj, Option.map_some, ← ih hrest]
    simp [entriesOf, KeyKind.parse_text]

/-- What a map is, put into another, key by key. -/
theorem insertMany_getElem? (write : β → Option γ) (read : γ → α) (old : GoMap key α)
    (m : GoMap key β) (hwrite : ∀ (k : key.Key) v, m[k]? = some v → (write v).isSome)
    (k : key.Key) :
    (old.insertMany (m.toList.filterMap fun entry =>
        (write entry.2).map fun j => (entry.1, read j)))[k]?
      = match m[k]? with
        | some v => (write v).map read
        | none => old[k]? := by
  cases hk : m[k]? with
  | some v =>
    obtain ⟨j, hj⟩ := Option.isSome_iff_exists.mp (hwrite k v hk)
    have hmem : (k, v) ∈ m.toList := ExtTreeMap.mem_toList_iff_getElem?_eq_some.mpr hk
    have hdistinct := (ExtTreeMap.distinct_keys_toList (t := m)).filterMap
      (fun entry => (write entry.2).map fun j => (entry.1, read j))
      (S := fun a b : key.Key × α => ¬ compare a.1 b.1 = .eq) fun a b hab c hc d hd => by
        obtain ⟨_, -, rfl⟩ := Option.map_eq_some_iff.mp hc
        obtain ⟨_, -, rfl⟩ := Option.map_eq_some_iff.mp hd
        exact hab
    simp only [hj, Option.map_some]
    refine ExtTreeMap.getElem?_insertMany_list_of_mem (k := k) (by simp) hdistinct ?_
    exact List.mem_filterMap.mpr ⟨(k, v), hmem, by simp [hj]⟩
  | none =>
    refine ExtTreeMap.getElem?_insertMany_list_of_contains_eq_false ?_
    rw [Bool.eq_false_iff, ne_eq, List.contains_iff_mem]
    rintro hmem
    obtain ⟨entry, hentry, rfl⟩ := List.mem_map.mp hmem
    obtain ⟨source, hsource, hmap⟩ := List.mem_filterMap.mp hentry
    obtain ⟨_, -, rfl⟩ := Option.map_eq_some_iff.mp hmap
    have hsome := ExtTreeMap.mem_toList_iff_getElem?_eq_some.mp hsource
    rw [hsome] at hk
    simp at hk

/-- Written, read into another and shown again, a map is what it was if the other has no
keys of its own and each of its values is. -/
theorem mapM_insertMany_iff (write : β → Option γ) (read : γ → α) (shows : α → β)
    (old : GoMap key α) (m : GoMap key β) :
    (∃ members, membersOf write m = some members ∧
        ((old.insertMany (entriesOf key read members)).map fun _ => shows) = m) ↔
      (∀ k, k ∈ old → k ∈ m) ∧
        ∀ (k : key.Key) v, m[k]? = some v → ∃ j, write v = some j ∧ shows (read j) = v := by
  constructor
  · rintro ⟨members, hmembers, hshow⟩
    have hwrite : ∀ (k : key.Key) v, m[k]? = some v → (write v).isSome := by
      intro k v hk
      obtain ⟨_, -, hentry⟩ :=
        mapM_some_of_mem hmembers (ExtTreeMap.mem_toList_iff_getElem?_eq_some.mpr hk)
      obtain ⟨j, hj, -⟩ := Option.map_eq_some_iff.mp hentry
      simp [hj]
    have hget : ∀ k : key.Key, m[k]? = Option.map shows
        (match m[k]? with | some v => (write v).map read | none => old[k]?) := by
      intro k
      conv_lhs => rw [← hshow]
      rw [ExtTreeMap.getElem?_map, entriesOf_members write read hmembers,
        insertMany_getElem? write read old m hwrite]
    constructor
    · intro k hk
      by_contra hnot
      have hnone : m[k]? = none := ExtTreeMap.getElem?_eq_none hnot
      have hold := hget k
      rw [hnone] at hold
      exact absurd hk (by simpa using hold.symm)
    · intro k v hk
      obtain ⟨j, hj⟩ := Option.isSome_iff_exists.mp (hwrite k v hk)
      have hvalue := hget k
      rw [hk] at hvalue
      exact ⟨j, hj, by simpa [hj] using hvalue.symm⟩
  · rintro ⟨hkeys, hvalues⟩
    have hwrite : ∀ (k : key.Key) v, m[k]? = some v → (write v).isSome := by
      intro k v hk
      obtain ⟨j, hj, -⟩ := hvalues k v hk
      simp [hj]
    obtain ⟨members, hmembers⟩ : ∃ members, membersOf write m = some members := by
      refine mapM_isSome fun entry hentry => ?_
      obtain ⟨j, hj⟩ := Option.isSome_iff_exists.mp
        (hwrite entry.1 entry.2 (ExtTreeMap.mem_toList_iff_getElem?_eq_some.mp hentry))
      exact ⟨_, by simp [hj]; rfl⟩
    refine ⟨members, hmembers, ?_⟩
    refine ExtTreeMap.ext_getElem? fun k => ?_
    rw [ExtTreeMap.getElem?_map, entriesOf_members write read hmembers,
      insertMany_getElem? write read old m hwrite]
    cases hk : m[k]? with
    | some v =>
      obtain ⟨j, hj, hshow⟩ := hvalues k v hk
      simp [hj, hshow]
    | none =>
      have hnot : k ∉ old := fun hold => by
        have hmem := hkeys k hold
        rw [ExtTreeMap.mem_iff_isSome_getElem?, hk] at hmem
        simp at hmem
      simp [hnot]

end Maps

/-! ## Structs -/

def Fields.names : Fields → List String
  | .nil => []
  | .cons name _ _ rest => name :: rest.names

mutual
/-- No struct in it has two fields of one name. -/
def Ty.wellNamed : Ty → Bool
  | .slice elem | .map _ elem | .rwMap _ elem | .pointer elem => elem.wellNamed
  | .struct fields => fields.wellNamed
  | _ => true

def Fields.wellNamed : Fields → Bool
  | .nil => true
  | .cons name _ type rest => !rest.names.contains name && type.wellNamed && rest.wellNamed
end

theorem member_encode {fs : Fields} {v : fs.Value H} {members : List (String × Json H.Number)}
    (h : fs.encode H v = some members) {name : String} (hname : name ∉ fs.names) :
    member members name = none := by
  match fs, v with
  | .nil, () =>
    obtain rfl : members = [] := by simpa [Fields.encode] using h.symm
    rfl
  | .cons own omitEmpty type rest, (v, vs) =>
    simp only [Fields.names, List.mem_cons, not_or] at hname
    rw [Fields.encode] at h
    split at h
    · exact member_encode h hname.2
    · simp only [Option.bind_eq_bind, Option.bind_eq_some_iff, Option.pure_def,
        Option.some.injEq] at h
      obtain ⟨j, -, ms, hms, rfl⟩ := h
      have hne : (name == own) = false := by simpa using hname.1
      rw [member, List.lookup_cons, hne]
      exact member_encode hms hname.2

theorem decode_congr {fs : Fields} {a b : List (String × Json H.Number)} (old : fs.Live H)
    (h : ∀ name ∈ fs.names, member a name = member b name) :
    fs.decode H a old = fs.decode H b old := by
  match fs, old with
  | .nil, () => rfl
  | .cons name omitEmpty type rest, (old, olds) =>
    simp only [Fields.names, List.mem_cons, forall_eq_or_imp] at h
    rw [Fields.decode, Fields.decode, h.1, decode_congr olds h.2]

theorem accepts_congr {fs : Fields} {a b : List (String × Json H.Number)}
    (h : ∀ name ∈ fs.names, member a name = member b name) :
    fs.accepts H a = fs.accepts H b := by
  match fs with
  | .nil => rfl
  | .cons name omitEmpty type rest =>
    simp only [Fields.names, List.mem_cons, forall_eq_or_imp] at h
    rw [Fields.accepts, Fields.accepts, h.1, accepts_congr h.2]

/-- A member under another name makes no difference. -/
theorem member_cons_of_ne {ν : Type} {members : List (String × Json ν)} {own name : String}
    {j : Json ν} (h : name ≠ own) : member ((own, j) :: members) name = member members name := by
  have hne : (name == own) = false := by simpa using h
  rw [member, List.lookup_cons, hne]
  rfl

theorem member_cons_self {ν : Type} {members : List (String × Json ν)} {own : String}
    {j : Json ν} : member ((own, j) :: members) own = some j := by
  simp [member]

/-! ## The round trip -/

theorem encode_null_iff : ∀ (t : Ty) (v : t.Value H),
    t.encode H v = some .null ↔ t.isNull H v = true
  | .string, _ | .bool, _ | .int, _ | .uint, _ => by simp [Ty.encode, Ty.isNull]
  | .real, x => by simp [Ty.encode, Ty.isNull]
  | .any, d => by
    simp only [Ty.encode, Ty.isNull]
    split
    case h_1 h => simp [h]
    case h_2 h => simpa using h
  | .slice _, none | .map _ _, none | .rwMap _ _, none | .pointer _, none => by
    simp [Ty.encode, Ty.isNull]
  | .slice _, some _ | .map _ _, some _ | .rwMap _ _, some _ => by
    simp [Ty.encode, Ty.isNull]
  | .pointer elem, some v => by
    simpa [Ty.encode, Ty.isNull] using encode_null_iff elem v
  | .struct _, _ => by simp [Ty.encode, Ty.isNull]

theorem pointer_iff {elem : Ty} (old : (Ty.pointer elem).Live H) (v : elem.Value H)
    (helem : (∃ j, elem.encode H v = some j ∧
        elem.view H (elem.decode H j (Option.getD old (elem.zero H Backed))) = v) ↔
      elem.Overwrites H (Option.getD old (elem.zero H Backed)) v) :
    (∃ j, (Ty.pointer elem).encode H (some v) = some j ∧
        (Ty.pointer elem).view H ((Ty.pointer elem).decode H j old) = some v) ↔
      (Ty.pointer elem).Overwrites H old (some v) := by
  have hdecode : ∀ j, j ≠ .null → (Ty.pointer elem).decode H j old
      = some (elem.decode H j (Option.getD old (elem.zero H Backed))) := by
    intro j hj
    cases j with
    | null => exact absurd rfl hj
    | bool | num | str | arr | obj => rfl
  rw [Ty.Overwrites, ← helem, Bool.eq_false_iff, ne_eq, ← encode_null_iff]
  constructor
  · rintro ⟨j, hj, hshow⟩
    have hnull : j ≠ .null := by
      rintro rfl
      simp [Ty.decode, readPointer, Ty.view] at hshow
    rw [hdecode j hnull] at hshow
    have hj' : elem.encode H v = some j := hj
    exact ⟨fun h => hnull (Option.some.inj (hj'.symm.trans h)), j, hj', Option.some.inj hshow⟩
  · rintro ⟨hnull, j, hj, hshow⟩
    refine ⟨j, hj, ?_⟩
    rw [hdecode j fun h => hnull (h ▸ hj)]
    exact congrArg some hshow

mutual
/-- The encoding of a value, decoded into another, makes it the first exactly when
nothing of the other is left. -/
theorem encode_decode_iff : ∀ (t : Ty), t.wellNamed = true → ∀ (old : t.Live H) (new : t.Value H),
    (∃ j, t.encode H new = some j ∧ t.view H (t.decode H j old) = new) ↔
      t.Overwrites H old new
  | .string, _, _, _ | .bool, _, _, _ => by
    simp [Ty.encode, Ty.decode, Ty.view, Ty.Overwrites, readString, readBool]
  | .int, _, old, i =>
    have hread : readNumber (toInt64 H) (.num (H.ofInt (Int64.toInt i))) old = i :=
      congrArg (Option.getD · old) (toInt64_ofInt H i)
    ⟨fun _ => trivial, fun _ => ⟨_, rfl, hread⟩⟩
  | .uint, _, old, n =>
    have hread : readNumber (toUInt64 H) (.num (H.ofInt (UInt64.toNat n))) old = n :=
      congrArg (Option.getD · old) (toUInt64_ofInt H n)
    ⟨fun _ => trivial, fun _ => ⟨_, rfl, hread⟩⟩
  | .real, _, old, x => by
    rw [Ty.Overwrites, Option.isSome_iff_exists]
    constructor
    · rintro ⟨j, hj, -⟩
      obtain ⟨n, hn, -⟩ := Option.map_eq_some_iff.mp hj
      exact ⟨n, hn⟩
    · rintro ⟨n, hn⟩
      refine ⟨.num n, by simp [Ty.encode, hn], ?_⟩
      exact congrArg (Option.getD · old) (H.toReal_ofReal x n hn)
  | .any, _, _, _ => Iff.rfl
  | .slice _, _, _, none | .map _ _, _, _, none | .rwMap _ _, _, _, none
  | .pointer _, _, _, none =>
    ⟨fun _ => trivial, fun _ => ⟨.null, rfl, rfl⟩⟩
  | .slice elem, hnamed, old, some vs => by
    have hlist := mapM_overlay_iff (elem.encode H) (elem.decode H) (elem.view H)
      (elem.zero H Backed) vs (arrayOf old)
    have helem := fun (i : Nat) v => encode_decode_iff elem hnamed
      ((arrayOf old)[i]?.getD (elem.zero H Backed)) v
    simp only [helem] at hlist
    rw [Ty.Overwrites, ← hlist]
    simp only [Ty.encode, Option.map_eq_some_iff]
    constructor
    · rintro ⟨_, ⟨js, hjs, rfl⟩, hshow⟩
      exact ⟨js, hjs, Option.some.inj hshow⟩
    · rintro ⟨js, hjs, hshow⟩
      exact ⟨.arr js, ⟨js, hjs, rfl⟩, congrArg some hshow⟩
  | .map key elem, hnamed, old, some m => by
    have hmap := mapM_insertMany_iff (elem.encode H) (elem.decode H · (elem.zero H Backed))
      (elem.view H) (Option.getD old (∅ : GoMap key (elem.Live H))) m
    have helem := fun v => encode_decode_iff elem hnamed (elem.zero H Backed) v
    simp only [helem] at hmap
    rw [Ty.Overwrites, ← hmap]
    simp only [Ty.encode, Option.map_eq_some_iff]
    constructor
    · rintro ⟨_, ⟨members, hmembers, rfl⟩, hshow⟩
      exact ⟨members, hmembers, Option.some.inj hshow⟩
    · rintro ⟨members, hmembers, hshow⟩
      exact ⟨.obj members, ⟨members, hmembers, rfl⟩, congrArg some hshow⟩
  | .rwMap key elem, hnamed, old, some m => by
    have hmap := mapM_insertMany_iff (elem.encode H) (elem.decode H · (elem.zero H Backed))
      (elem.view H) (∅ : GoMap key (elem.Live H)) m
    have helem := fun v => encode_decode_iff elem hnamed (elem.zero H Backed) v
    simp only [helem, ExtTreeMap.not_mem_empty, false_implies, implies_true, true_and] at hmap
    rw [Ty.Overwrites, ← hmap]
    simp only [Ty.encode, Option.map_eq_some_iff]
    constructor
    · rintro ⟨_, ⟨members, hmembers, rfl⟩, hshow⟩
      exact ⟨members, hmembers, Option.some.inj hshow⟩
    · rintro ⟨members, hmembers, hshow⟩
      exact ⟨.obj members, ⟨members, hmembers, rfl⟩, congrArg some hshow⟩
  | .pointer elem, hnamed, old, some v =>
    pointer_iff H old v (encode_decode_iff elem hnamed _ v)
  | .struct fields, hnamed, old, new => by
    rw [Ty.Overwrites, ← fields_encode_decode_iff fields hnamed old new]
    simp only [Ty.encode, Option.map_eq_some_iff]
    constructor
    · rintro ⟨_, ⟨members, hmembers, rfl⟩, hshow⟩
      exact ⟨members, hmembers, hshow⟩
    · rintro ⟨members, hmembers, hshow⟩
      exact ⟨.obj members, ⟨members, hmembers, rfl⟩, hshow⟩

theorem fields_encode_decode_iff : ∀ (fs : Fields), fs.wellNamed = true →
    ∀ (old : fs.Live H) (new : fs.Value H),
    (∃ members, fs.encode H new = some members ∧ fs.view H (fs.decode H members old) = new) ↔
      fs.Overwrites H old new
  | .nil, _, (), () => ⟨fun _ => trivial, fun _ => ⟨[], rfl, rfl⟩⟩
  | .cons name omitEmpty type rest, hnamed, (old, olds), (new, news) => by
    simp only [Fields.wellNamed, Bool.and_eq_true, Bool.not_eq_true'] at hnamed
    obtain ⟨⟨hfresh, htype⟩, hrest⟩ := hnamed
    have hname : name ∉ rest.names := by simpa using hfresh
    have hhead := encode_decode_iff type htype old new
    have htail := fields_encode_decode_iff rest hrest olds news
    rw [Fields.Overwrites, ← htail]
    by_cases homit : (omitEmpty && type.isEmpty H new) = true
    · -- a field that is left out stays as it was
      rw [Fields.encode, if_pos homit, if_pos homit]
      constructor
      · rintro ⟨members, hmembers, hshow⟩
        rw [Fields.decode, member_encode H hmembers hname] at hshow
        obtain ⟨hold, holds⟩ := Prod.mk.inj hshow
        exact ⟨hold, members, hmembers, holds⟩
      · rintro ⟨hold, members, hmembers, holds⟩
        refine ⟨members, hmembers, ?_⟩
        rw [Fields.decode, member_encode H hmembers hname]
        exact Prod.ext hold holds
    · rw [Fields.encode, if_neg homit, if_neg homit, ← hhead]
      have hothers : ∀ j members, rest.decode H ((name, j) :: members) olds
          = rest.decode H members olds := fun j members =>
        decode_congr H olds fun other hother =>
          member_cons_of_ne fun heq => hname (heq ▸ hother)
      constructor
      · rintro ⟨_, hencode, hshow⟩
        simp only [Option.bind_eq_bind, Option.bind_eq_some_iff, Option.pure_def,
          Option.some.injEq] at hencode
        obtain ⟨j, hj, members, hmembers, rfl⟩ := hencode
        rw [Fields.decode, member_cons_self, hothers] at hshow
        obtain ⟨hold, holds⟩ := Prod.mk.inj hshow
        exact ⟨⟨j, hj, hold⟩, members, hmembers, holds⟩
      · rintro ⟨⟨j, hj, hold⟩, members, hmembers, holds⟩
        refine ⟨(name, j) :: members, by simp [hj, hmembers], ?_⟩
        rw [Fields.decode, member_cons_self, hothers]
        exact Prod.ext hold holds
end

/-! ## No errors -/

theorem fits_of {ν : Type} {form : Json ν → Bool} {j : Json ν} (h : form j = true) :
    fits form j = true := by
  unfold fits
  split
  · rfl
  · exact h

theorem members_accepted {α : Type} {key : KeyKind} {write : α → Option (Json H.Number)}
    {form : Json H.Number → Bool} {m : GoMap key α} {members : List (String × Json H.Number)}
    (h : membersOf write m = some members) (hform : ∀ v j, write v = some j → form j = true) :
    (members.all fun entry => (key.parse entry.1).isSome && form entry.2) = true := by
  rw [List.all_eq_true]
  intro entry hentry
  obtain ⟨source, -, hwrite⟩ := mem_of_mapM h hentry
  obtain ⟨j, hj, rfl⟩ := Option.map_eq_some_iff.mp hwrite
  simp [KeyKind.parse_text, hform _ _ hj]

mutual
/-- What is written is read back without an error. -/
theorem accepts_encode : ∀ (t : Ty), t.wellNamed = true → ∀ (v : t.Value H) (j : Json H.Number),
    t.encode H v = some j → t.accepts H j = true
  | .string, _, _, _, h | .bool, _, _, _, h => by
    cases h
    rfl
  | .int, _, i, _, h => by
    cases h
    exact congrArg Option.isSome (toInt64_ofInt H i)
  | .uint, _, n, _, h => by
    cases h
    exact congrArg Option.isSome (toUInt64_ofInt H n)
  | .real, _, x, _, h => by
    obtain ⟨n, hn, rfl⟩ := Option.map_eq_some_iff.mp h
    exact congrArg Option.isSome (H.toReal_ofReal x n hn)
  | .any, _, _, _, _ => rfl
  | .slice _, _, none, _, h | .map _ _, _, none, _, h | .rwMap _ _, _, none, _, h
  | .pointer _, _, none, _, h => by
    cases h
    rfl
  | .slice elem, hnamed, some vs, _, h => by
    obtain ⟨js, hjs, rfl⟩ := Option.map_eq_some_iff.mp h
    refine fits_of (List.all_eq_true.mpr fun j hj => ?_)
    obtain ⟨v, -, hv⟩ := mem_of_mapM hjs hj
    exact accepts_encode elem hnamed v j hv
  | .map key elem, hnamed, some m, _, h | .rwMap key elem, hnamed, some m, _, h => by
    obtain ⟨members, hmembers, rfl⟩ := Option.map_eq_some_iff.mp h
    exact fits_of (members_accepted H hmembers fun v j hj => accepts_encode elem hnamed v j hj)
  | .pointer elem, hnamed, some v, j, h => fits_of (accepts_encode elem hnamed v j h)
  | .struct fields, hnamed, v, _, h => by
    obtain ⟨members, hmembers, rfl⟩ := Option.map_eq_some_iff.mp h
    exact fits_of (fields_accepts_encode fields hnamed v members hmembers)

theorem fields_accepts_encode : ∀ (fs : Fields), fs.wellNamed = true → ∀ (v : fs.Value H)
    (members : List (String × Json H.Number)),
    fs.encode H v = some members → fs.accepts H members = true
  | .nil, _, _, _, _ => rfl
  | .cons name omitEmpty type rest, hnamed, (v, vs), members, h => by
    simp only [Fields.wellNamed, Bool.and_eq_true, Bool.not_eq_true'] at hnamed
    obtain ⟨⟨hfresh, htype⟩, hrest⟩ := hnamed
    have hname : name ∉ rest.names := by simpa using hfresh
    rw [Fields.encode] at h
    rw [Fields.accepts]
    split at h
    · rw [member_encode H h hname, fields_accepts_encode rest hrest vs members h]
      rfl
    · simp only [Option.bind_eq_bind, Option.bind_eq_some_iff, Option.pure_def,
        Option.some.injEq] at h
      obtain ⟨j, hj, ms, hms, rfl⟩ := h
      have hothers : rest.accepts H ((name, j) :: ms) = rest.accepts H ms :=
        accepts_congr H fun other hother =>
          member_cons_of_ne fun heq => hname (heq ▸ hother)
      rw [member_cons_self, hothers, fields_accepts_encode rest hrest vs ms hms]
      simp [accepts_encode type htype v j hj]
end

end YouBox.GoJson
