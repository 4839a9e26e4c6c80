import YouBox.Volcengine

/-!
# Lengths in Volcengine frames

Which byte strings `NewMessageFromBytes` accepts. `Laid` is the layout a
frame declares: words as they come, and every length followed by exactly as
many bytes. The reader asks `bytes.Buffer` for the declared number and takes
what it is given. Behind a field that came up short nothing is left, so the
length of the next field cannot be read and the frame is rejected. Only the
payload has no field behind it (`accepted_iff`).
-/

namespace YouBox

namespace Volcengine

open Bytes

/-! ## The declared layout -/

/-- The fields that are a length and bytes. -/
def Field.isSized : Field → Bool
  | .sessionID | .connectID | .payload => true
  | .event | .sequence | .errorCode => false

/-- The event leaves the field out of the frame. -/
def Field.absent (e : Int32) : Field → Bool
  | .sessionID => readsNoSession e
  | .connectID => !readsConnect e
  | .event | .sequence | .errorCode | .payload => false

/-- The bytes of the fields, every length followed by as many bytes; `e` is the
event as far as it is known. -/
inductive Laid : Int32 → List Field → List UInt8 → Prop
  | nil {e} : Laid e [] []
  | event {e fs w rest} : Laid w.toInt32 fs rest → Laid e (.event :: fs) (be32 w ++ rest)
  | sequence {e fs w rest} : Laid e fs rest → Laid e (.sequence :: fs) (be32 w ++ rest)
  | errorCode {e fs w rest} : Laid e fs rest → Laid e (.errorCode :: fs) (be32 w ++ rest)
  | absent {e f fs rest} : f.absent e = true → Laid e fs rest → Laid e (f :: fs) rest
  | sized {e f fs size bytes rest} : f.isSized = true → f.absent e = false →
      bytes.length = size.toNat → Laid e fs rest →
      Laid e (f :: fs) (be32 size ++ (bytes ++ rest))

/-- The message as far as the header is read. -/
def headed (b₀ b₁ b₂ : UInt8) : Message :=
  { newMessage (b₁ >>> 4) (b₁ &&& 15) with
    version := b₀ >>> 4
    headerSize := b₀ &&& 15
    serialization := b₂ &&& 240
    compression := b₂ &&& 15 }

/-- The header of a frame is complete; behind it come the bytes `body`, where the
reader looks for the fields `fs` and then for the payload. -/
def Opens (data : List UInt8) (fs : List Field) (body : List UInt8) : Prop :=
  ∃ b₀ b₁ b₂ pad, data = b₀ :: b₁ :: b₂ :: (pad ++ body) ∧
    pad.length = padding (b₀ &&& 15) ∧
    (headed b₀ b₁ b₂).readers = .ok (fs ++ [.payload])

/-- Every length of the frame is followed by exactly as many bytes, and nothing
comes behind the payload. -/
def LengthChecked (data : List UInt8) : Prop :=
  ∃ fs body, Opens data fs body ∧ Laid 0 (fs ++ [.payload]) body

/-- The frame ends inside its payload: everything before it is there, and the
bytes behind its length are fewer than that. -/
def CutInPayload (data : List UInt8) : Prop :=
  ∃ fs pre size short, Opens data fs (pre ++ (be32 size ++ short)) ∧ Laid 0 fs pre ∧
    short.length < size.toNat

variable {fs : List Field} {buf' data : List UInt8} {m m' : Message}

theorem laid_payload {e : Int32} {pre bytes : List UInt8} {size : UInt32} (h : Laid e fs pre)
    (hlen : bytes.length = size.toNat) :
    Laid e (fs ++ [.payload]) (pre ++ (be32 size ++ bytes)) := by
  induction h with
  | @nil e =>
    have hlast : Laid e [.payload] (be32 size ++ (bytes ++ [])) := .sized rfl rfl hlen .nil
    rwa [List.append_nil] at hlast
  | event _ ih => rw [List.append_assoc]; exact .event ih
  | sequence _ ih => rw [List.append_assoc]; exact .sequence ih
  | errorCode _ ih => rw [List.append_assoc]; exact .errorCode ih
  | absent habs _ ih => exact .absent habs ih
  | sized hf habs hbytes _ ih =>
    rw [List.append_assoc, List.append_assoc]
    exact .sized hf habs hbytes ih

theorem laid_payload_inv {e : Int32} {body : List UInt8} (h : Laid e (fs ++ [.payload]) body) :
    ∃ pre size bytes, body = pre ++ (be32 size ++ bytes) ∧ Laid e fs pre ∧
      bytes.length = size.toNat := by
  induction fs generalizing e body with
  | nil =>
    cases h with
    | absent habs _ => cases habs
    | sized _ _ hlen hrest =>
      cases hrest
      exact ⟨[], _, _, by rw [List.append_nil]; rfl, .nil, hlen⟩
  | cons f fs ih =>
    cases h with
    | event hrest =>
      obtain ⟨pre, size, bytes, rfl, hpre, hlen⟩ := ih hrest
      exact ⟨_, size, bytes, (List.append_assoc ..).symm, .event hpre, hlen⟩
    | sequence hrest =>
      obtain ⟨pre, size, bytes, rfl, hpre, hlen⟩ := ih hrest
      exact ⟨_, size, bytes, (List.append_assoc ..).symm, .sequence hpre, hlen⟩
    | errorCode hrest =>
      obtain ⟨pre, size, bytes, rfl, hpre, hlen⟩ := ih hrest
      exact ⟨_, size, bytes, (List.append_assoc ..).symm, .errorCode hpre, hlen⟩
    | absent habs hrest =>
      obtain ⟨pre, size, bytes, rfl, hpre, hlen⟩ := ih hrest
      exact ⟨pre, size, bytes, rfl, .absent habs hpre, hlen⟩
    | sized hf habs hbytes hrest =>
      obtain ⟨pre, size, bytes, rfl, hpre, hlen⟩ := ih hrest
      refine ⟨_, size, bytes, ?_, .sized hf habs hbytes hpre, hlen⟩
      rw [List.append_assoc, List.append_assoc]

/-! ## Reading one field -/

/-- What the reader takes for a field, with the event before and after. A sized
field takes what there is. -/
inductive Took (e : Int32) : Field → List UInt8 → Int32 → List UInt8 → Prop
  | event {w rest} : Took e .event (be32 w ++ rest) w.toInt32 rest
  | sequence {w rest} : Took e .sequence (be32 w ++ rest) e rest
  | errorCode {w rest} : Took e .errorCode (be32 w ++ rest) e rest
  | absent {f buf} : f.absent e = true → Took e f buf e buf
  | sized {f size rest} : f.isSized = true → f.absent e = false →
      Took e f (be32 size ++ rest) e (rest.drop size.toNat)

variable {f : Field} {buf : List UInt8}

theorem readSized_took {p : UInt32 × List UInt8 × List UInt8} (h : readSized buf = .ok p) :
    ∃ rest, buf = be32 p.1 ++ rest ∧ p.2.2 = rest.drop p.1.toNat := by
  unfold readSized at h
  split at h
  · cases h
  · rename_i size rest hread
    obtain rfl := Except.ok.inj h
    exact ⟨rest, be32_of_read32 hread, rfl⟩

theorem took_of_sized (set : List UInt8 → Message)
    (hset : ∀ bytes, (set bytes).eventType = m.eventType) (hf : f.isSized = true)
    (habs : f.absent m.eventType = false)
    (h : (readSized buf).map (fun p => (if 0 < p.1 then set p.2.1 else m, p.2.2))
      = .ok (m', buf')) : Took m.eventType f buf m'.eventType buf' := by
  cases hr : readSized buf with
  | error e => rw [hr] at h; cases h
  | ok p =>
    rw [hr] at h
    obtain ⟨hm, rfl⟩ := Prod.mk.inj (Except.ok.inj h)
    obtain ⟨rest, rfl, hrest⟩ := readSized_took hr
    have hevent : m'.eventType = m.eventType := by
      rw [← hm]
      split
      · exact hset _
      · rfl
    rw [hevent, hrest]
    exact .sized hf habs

theorem took_of_read (h : m.read buf f = .ok (m', buf')) :
    Took m.eventType f buf m'.eventType buf' := by
  cases f with
  | event =>
    simp only [Message.read] at h
    split at h
    · cases h
    · rename_i hread
      cases h
      rw [be32_of_read32 hread]
      exact .event
  | sequence =>
    simp only [Message.read] at h
    split at h
    · cases h
    · rename_i hread
      cases h
      rw [be32_of_read32 hread]
      exact .sequence
  | errorCode =>
    simp only [Message.read] at h
    split at h
    · cases h
    · rename_i hread
      cases h
      rw [be32_of_read32 hread]
      exact .errorCode
  | sessionID =>
    simp only [Message.read] at h
    split at h
    · rename_i habs
      cases h
      exact .absent habs
    · rename_i hpres
      exact took_of_sized (fun x => { m with sessionID := x }) (fun _ => rfl) rfl
        (by simpa [Field.absent] using hpres) h
  | connectID =>
    simp only [Message.read] at h
    split at h
    · rename_i hpres
      exact took_of_sized (fun x => { m with connectID := x }) (fun _ => rfl) rfl
        (by simp [Field.absent, hpres]) h
    · rename_i habs
      cases h
      exact .absent (by simpa [Field.absent] using habs)
  | payload =>
    simp only [Message.read] at h
    exact took_of_sized (fun x => { m with payload := x }) (fun _ => rfl) rfl rfl h

theorem read_of_took {e' : Int32} (h : Took m.eventType f buf e' buf') :
    ∃ m', m.read buf f = .ok (m', buf') ∧ m'.eventType = e' := by
  have hsized : ∀ (size : UInt32) (rest : List UInt8),
      readSized (be32 size ++ rest) = .ok (size, rest.take size.toNat, rest.drop size.toNat) := by
    intro size rest
    simp only [readSized, read32_be32]
  cases h with
  | event => exact ⟨_, read_event _, rfl⟩
  | sequence => exact ⟨_, read_sequence _, rfl⟩
  | errorCode => exact ⟨_, read_errorCode _, rfl⟩
  | absent habs =>
    refine ⟨m, ?_, rfl⟩
    cases f with
    | sessionID =>
      have hno : readsNoSession m.eventType = true := habs
      simp only [Message.read, hno, if_true]
    | connectID =>
      have hno : readsConnect m.eventType = false := by simpa [Field.absent] using habs
      simp only [Message.read, hno, Bool.false_eq_true, if_false]
    | _ => cases habs
  | sized hf habs =>
    cases f with
    | sessionID =>
      have hyes : readsNoSession m.eventType = false := habs
      simp only [Message.read, hyes, Bool.false_eq_true, if_false, hsized, Except.map]
      refine ⟨_, rfl, ?_⟩
      split <;> rfl
    | connectID =>
      have hyes : readsConnect m.eventType = true := by simpa [Field.absent] using habs
      simp only [Message.read, hyes, if_true, hsized, Except.map]
      refine ⟨_, rfl, ?_⟩
      split <;> rfl
    | payload =>
      simp only [Message.read, hsized, Except.map]
      refine ⟨_, rfl, ?_⟩
      split <;> rfl
    | _ => cases hf

/-! ## Reading the fields -/

theorem readAll_append (m : Message) (buf : List UInt8) (fs gs : List Field) :
    m.readAll buf (fs ++ gs) =
      match m.readAll buf fs with
      | .error e => .error e
      | .ok (m', buf') => m'.readAll buf' gs := by
  induction fs generalizing m buf with
  | nil => rfl
  | cons f fs ih =>
    simp only [List.cons_append, Message.readAll]
    split
    · rfl
    · exact ih ..

theorem readAll_laid {pre : List UInt8} (tail : List UInt8) (h : Laid m.eventType fs pre) :
    ∃ m', m.readAll (pre ++ tail) fs = .ok (m', tail) := by
  have hstep : ∀ {m : Message} {f : Field} {fs : List Field} {buf buf' : List UInt8} {e' : Int32},
      Took m.eventType f buf e' buf' →
      (∀ {m' : Message}, m'.eventType = e' → ∃ m'', m'.readAll buf' fs = .ok (m'', tail)) →
      ∃ m'', m.readAll buf (f :: fs) = .ok (m'', tail) := by
    intro m f fs buf buf' e' htook hrest
    obtain ⟨m', hread, he⟩ := read_of_took htook
    obtain ⟨m'', hall⟩ := hrest he
    exact ⟨m'', by simp only [Message.readAll, hread, hall]⟩
  generalize he : m.eventType = e at h
  induction h generalizing m with
  | nil => exact ⟨m, rfl⟩
  | event _ ih => subst he; rw [List.append_assoc]; exact hstep .event ih
  | sequence _ ih => subst he; rw [List.append_assoc]; exact hstep .sequence ih
  | errorCode _ ih => subst he; rw [List.append_assoc]; exact hstep .errorCode ih
  | absent habs _ ih => subst he; exact hstep (.absent habs) ih
  | @sized _ f fs size bytes rest hf habs hlen _ ih =>
    subst he
    refine hstep ?_ ih
    have htook : Took m.eventType f (be32 size ++ (bytes ++ (rest ++ tail))) m.eventType
        ((bytes ++ (rest ++ tail)).drop size.toNat) := .sized hf habs
    rw [List.drop_left' hlen] at htook
    rw [List.append_assoc, List.append_assoc]
    exact htook

theorem readAll_nil {p : Message × List UInt8} : m.readAll [] (fs ++ [.payload]) ≠ .ok p := by
  induction fs generalizing m with
  | nil =>
    intro h
    simp only [List.nil_append, Message.readAll, Message.read, readSized_nil, Except.map] at h
    cases h
  | cons f fs ih =>
    intro h
    simp only [List.cons_append, Message.readAll] at h
    split at h
    · cases h
    · rename_i m' buf' hread
      have hempty : buf' = [] := by
        have htook := took_of_read hread
        generalize hb : ([] : List UInt8) = buf, m'.eventType = e' at htook
        cases htook with
        | absent _ => rfl
        | _ => cases hb
      rw [hempty] at h
      exact ih h

/-- What was read to the end is laid out as declared up to the payload, and the
payload has no more bytes than declared. -/
theorem laid_of_readAll (h : m.readAll buf (fs ++ [.payload]) = .ok (m', [])) :
    ∃ pre size pay, buf = pre ++ (be32 size ++ pay) ∧ Laid m.eventType fs pre ∧
      pay.length ≤ size.toNat := by
  induction fs generalizing m buf with
  | nil =>
    simp only [List.nil_append, Message.readAll] at h
    split at h
    · cases h
    · rename_i hread
      cases h
      have htook := took_of_read hread
      generalize hnil : ([] : List UInt8) = left, m'.eventType = e' at htook
      cases htook with
      | absent habs => cases habs
      | sized _ _ =>
        exact ⟨[], _, _, rfl, .nil, List.drop_eq_nil_iff.mp hnil.symm⟩
  | cons f fs ih =>
    simp only [List.cons_append, Message.readAll] at h
    split at h
    · cases h
    · rename_i m₁ buf₁ hread
      obtain ⟨pre, size, pay, hbuf, hpre, hlen⟩ := ih h
      have htook := took_of_read hread
      generalize m₁.eventType = e₁ at hpre htook
      cases htook with
      | event =>
        exact ⟨_, size, pay, by rw [hbuf, List.append_assoc], .event hpre, hlen⟩
      | sequence =>
        exact ⟨_, size, pay, by rw [hbuf, List.append_assoc], .sequence hpre, hlen⟩
      | errorCode =>
        exact ⟨_, size, pay, by rw [hbuf, List.append_assoc], .errorCode hpre, hlen⟩
      | absent habs => exact ⟨pre, size, pay, hbuf, .absent habs hpre, hlen⟩
      | @sized _ n rest hf habs =>
        -- a field that came up short leaves nothing for the payload
        have hfull : n.toNat ≤ rest.length := by
          by_contra hshort
          rw [List.drop_eq_nil_of_le (by omega)] at h
          exact readAll_nil h
        refine ⟨be32 n ++ (rest.take n.toNat ++ pre), size, pay, ?_,
          .sized hf habs (List.length_take_of_le hfull) hpre, hlen⟩
        rw [List.append_assoc, List.append_assoc, ← hbuf, List.take_append_drop]

theorem readAll_to_end_iff :
    (∃ m', m.readAll buf (fs ++ [.payload]) = .ok (m', [])) ↔
      ∃ pre size pay, buf = pre ++ (be32 size ++ pay) ∧ Laid m.eventType fs pre ∧
        pay.length ≤ size.toNat := by
  constructor
  · rintro ⟨m', h⟩
    exact laid_of_readAll h
  · rintro ⟨pre, size, pay, rfl, hpre, hlen⟩
    obtain ⟨m₁, hfields⟩ := readAll_laid (be32 size ++ pay) hpre
    have htook : Took m₁.eventType .payload (be32 size ++ pay) m₁.eventType
        (pay.drop size.toNat) := .sized rfl rfl
    rw [List.drop_eq_nil_of_le hlen] at htook
    obtain ⟨m₂, hread, -⟩ := read_of_took htook
    refine ⟨m₂, ?_⟩
    rw [readAll_append, hfields]
    simp only [Message.readAll, hread]

/-! ## Frames -/

theorem readers_payload {gs : List Field} (h : m.readers = .ok gs) :
    ∃ fs, gs = fs ++ [.payload] := by
  unfold Message.readers at h
  cases ht : m.typeFields with
  | error e => rw [ht] at h; cases h
  | ok fs =>
    rw [ht] at h
    exact ⟨_, (Except.ok.inj h).symm⟩

theorem opens_unique {body body' : List UInt8} {fs' : List Field} (h : Opens data fs body)
    (h' : Opens data fs' body') : fs' = fs ∧ body' = body := by
  obtain ⟨b₀, b₁, b₂, pad, rfl, hpad, hreaders⟩ := h
  obtain ⟨c₀, c₁, c₂, pad', hdata, hpad', hreaders'⟩ := h'
  simp only [List.cons.injEq] at hdata
  obtain ⟨rfl, rfl, rfl, hrest⟩ := hdata
  rw [hreaders] at hreaders'
  refine ⟨(List.append_cancel_right (Except.ok.inj hreaders')).symm, ?_⟩
  exact (List.append_inj_right hrest (hpad.trans hpad'.symm)).symm

/-- A frame is accepted when its header opens it, the fields are laid out as
declared, and the payload has at most the bytes it declares. -/
theorem newMessageFromBytes_ok_iff :
    (∃ m, newMessageFromBytes data = .ok m) ↔
      ∃ fs pre size pay, Opens data fs (pre ++ (be32 size ++ pay)) ∧ Laid 0 fs pre ∧
        pay.length ≤ size.toNat := by
  constructor
  · rintro ⟨m, h⟩
    unfold newMessageFromBytes at h
    split at h
    · rename_i b₀ b₁ b₂ rest
      simp only [Message.unmarshal] at h
      split at h
      · cases h
      · rename_i hpad
        split at h
        · cases h
        · rename_i gs hreaders
          obtain ⟨fs, rfl⟩ := readers_payload hreaders
          split at h
          · cases h
          · rename_i hall
            obtain ⟨pre, size, pay, hbody, hpre, hlen⟩ := laid_of_readAll hall
            refine ⟨fs, pre, size, pay, ⟨b₀, b₁, b₂, rest.take (padding (b₀ &&& 15)), ?_, ?_,
              hreaders⟩, hpre, hlen⟩
            · rw [← hbody, List.take_append_drop]
            · exact List.length_take_of_le (Nat.le_of_not_lt hpad)
          · cases h
    · cases h
  · rintro ⟨fs, pre, size, pay, ⟨b₀, b₁, b₂, pad, rfl, hpad, hreaders⟩, hpre, hlen⟩
    obtain ⟨m', hall⟩ := readAll_to_end_iff (m := headed b₀ b₁ b₂).mpr
      ⟨pre, size, pay, rfl, hpre, hlen⟩
    rw [headed] at hreaders hall
    refine ⟨m', ?_⟩
    simp only [newMessageFromBytes, Message.unmarshal]
    rw [if_neg (by rw [List.length_append, hpad]; omega), hreaders, List.drop_left' hpad]
    simp only [hall]

/-- The reader accepts the frames with exact lengths, and those that end inside
their payload. -/
theorem accepted_iff (data : List UInt8) :
    (∃ m, newMessageFromBytes data = .ok m) ↔ LengthChecked data ∨ CutInPayload data := by
  rw [newMessageFromBytes_ok_iff]
  constructor
  · rintro ⟨fs, pre, size, pay, hopens, hpre, hlen⟩
    rcases Nat.eq_or_lt_of_le hlen with hlen | hlen
    · exact .inl ⟨fs, _, hopens, laid_payload hpre hlen⟩
    · exact .inr ⟨fs, pre, size, pay, hopens, hpre, hlen⟩
  · rintro (⟨fs, body, hopens, hlaid⟩ | ⟨fs, pre, size, short, hopens, hpre, hlen⟩)
    · obtain ⟨pre, size, bytes, rfl, hpre, hlen⟩ := laid_payload_inv hlaid
      exact ⟨fs, pre, size, bytes, hopens, hpre, Nat.le_of_eq hlen⟩
    · exact ⟨fs, pre, size, short, hopens, hpre, Nat.le_of_lt hlen⟩

theorem not_checked_of_cut (h : CutInPayload data) : ¬ LengthChecked data := by
  rintro ⟨fs', body, hopens', hlaid⟩
  obtain ⟨fs, pre, size, short, hopens, hpre, hshort⟩ := h
  obtain ⟨rfl, rfl⟩ := opens_unique hopens hopens'
  obtain ⟨pre', size', bytes, hsplit, hpre', hlen⟩ := laid_payload_inv hlaid
  -- both splits are where the reader stands before the payload
  obtain ⟨m₁, h₁⟩ := readAll_laid (m := newMessage 0 0) (be32 size ++ short) hpre
  obtain ⟨m₂, h₂⟩ := readAll_laid (m := newMessage 0 0) (be32 size' ++ bytes) hpre'
  rw [← hsplit, h₁] at h₂
  have htail : be32 size ++ short = be32 size' ++ bytes := (Prod.mk.inj (Except.ok.inj h₂)).2
  have hwords := read32_be32 size short
  rw [htail, read32_be32] at hwords
  cases hwords
  omega

/-- **Frames are length-checked** exactly as long as they do not end inside
their payload. -/
theorem length_checked_iff (data : List UInt8) :
    (∀ m, newMessageFromBytes data = .ok m → LengthChecked data) ↔ ¬ CutInPayload data := by
  constructor
  · intro h hcut
    obtain ⟨m, hm⟩ := (accepted_iff data).mpr (.inr hcut)
    exact not_checked_of_cut hcut (h m hm)
  · intro hcut m hm
    exact ((accepted_iff data).mp ⟨m, hm⟩).resolve_right hcut

/-- A server response that declares five bytes of payload and has two. -/
theorem cut_payload_accepted :
    ¬ ∀ (data : List UInt8) (m : Message), newMessageFromBytes data = .ok m →
      LengthChecked data := by
  intro h
  have hcut : CutInPayload [0x11, 0x90, 0x10, 0, 0, 0, 0, 5, 0x68, 0x69] :=
    ⟨[], [], 5, [0x68, 0x69], ⟨0x11, 0x90, 0x10, [0], rfl, rfl, rfl⟩, .nil, by decide⟩
  obtain ⟨m, hm⟩ := (accepted_iff _).mpr (.inr hcut)
  exact not_checked_of_cut hcut (h _ m hm)

end Volcengine

end YouBox
