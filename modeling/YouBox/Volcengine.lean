import YouBox.Bytes

/-!
# Volcengine TTS frames

`Message.Marshal` and `NewMessageFromBytes`, byte by byte. Both sides compute
from the message type and the flag which optional fields a frame has
(`writers`, `readers`), each in a list of its own, and some fields look at the
event too.

The two lists disagree. The writer puts the event and the session id before the
error code, the reader expects them behind it; the connect id is read and never
written; and a `ConnectionFinished` event has its session id written where the
reader looks for the connect id. The header has a slip of its own: the reader
masks the serialization nibble and does not shift it back. `Carries` says which
fields a frame has, `RoundTrips` exactly which messages survive all this.
-/

namespace YouBox

namespace Volcengine

open Bytes

/-! ## Messages -/

structure Message where
  version : UInt8
  headerSize : UInt8
  msgType : UInt8
  msgTypeFlag : UInt8
  serialization : UInt8
  compression : UInt8
  eventType : Int32
  sessionID : List UInt8
  connectID : List UInt8
  sequence : Int32
  errorCode : UInt32
  payload : List UInt8
deriving DecidableEq

def msgTypeFlagPositiveSeq : UInt8 := 1
def msgTypeFlagNegativeSeq : UInt8 := 3
def msgTypeFlagWithEvent : UInt8 := 4

def msgTypeFullClientRequest : UInt8 := 1
def msgTypeAudioOnlyClient : UInt8 := 2
def msgTypeFullServerResponse : UInt8 := 9
def msgTypeAudioOnlyServer : UInt8 := 11
def msgTypeFrontEndResultServer : UInt8 := 12
def msgTypeError : UInt8 := 15

def eventStartConnection : Int32 := 1
def eventFinishConnection : Int32 := 2
def eventConnectionStarted : Int32 := 50
def eventConnectionFailed : Int32 := 51
def eventConnectionFinished : Int32 := 52

inductive FrameErr where
  /-- `data too short: expected at least 3 bytes, got ..` -/
  | tooShort (got : Nat)
  /-- `unsupported message type: ..` -/
  | unsupportedType (msgType : UInt8)
  /-- `session ID size (..) exceeds max(uint32)` -/
  | sessionTooLong (size : Nat)
  /-- `payload size (..) exceeds max(uint32)` -/
  | payloadTooLong (size : Nat)
  /-- `insufficient header bytes: expected .., got ..` -/
  | insufficientHeader (expected got : Nat)
  /-- `io.EOF` or `io.ErrUnexpectedEOF` -/
  | eof
  /-- `unexpected data after message: ..` -/
  | unexpectedData
deriving DecidableEq

def newMessage (msgType flag : UInt8) : Message :=
  ⟨1, 1, msgType, flag, 1, 0, 0, [], [], 0, 0, []⟩

/-! ## Fields -/

/-- The optional parts of a frame, as the closures of `writers` and `readers`. -/
inductive Field where
  | event
  | sessionID
  | connectID
  | sequence
  | errorCode
  | payload
deriving DecidableEq

def Message.withEvent (m : Message) : Bool := m.msgTypeFlag == msgTypeFlagWithEvent

def Message.sequenced (m : Message) : Bool :=
  m.msgTypeFlag == msgTypeFlagPositiveSeq || m.msgTypeFlag == msgTypeFlagNegativeSeq

/-- The middle part of both lists, which depends on the type. -/
def Message.typeFields (m : Message) : Except FrameErr (List Field) :=
  if m.msgType = msgTypeFullClientRequest ∨ m.msgType = msgTypeFullServerResponse ∨
      m.msgType = msgTypeFrontEndResultServer ∨ m.msgType = msgTypeAudioOnlyClient ∨
      m.msgType = msgTypeAudioOnlyServer then
    .ok (if m.sequenced then [.sequence] else [])
  else if m.msgType = msgTypeError then .ok [.errorCode]
  else .error (.unsupportedType m.msgType)

def Message.writers (m : Message) : Except FrameErr (List Field) :=
  m.typeFields.map (fun fs =>
    (if m.withEvent then [.event, .sessionID] else []) ++ fs ++ [.payload])

def Message.readers (m : Message) : Except FrameErr (List Field) :=
  m.typeFields.map (fun fs =>
    fs ++ (if m.withEvent then [.event, .sessionID, .connectID] else []) ++ [.payload])

/-- The events whose session id `writeSessionID` leaves out. -/
def writesNoSession (e : Int32) : Bool :=
  e == eventStartConnection || e == eventFinishConnection || e == eventConnectionStarted
    || e == eventConnectionFailed

/-- The events whose session id `readSessionID` does not look for. -/
def readsNoSession (e : Int32) : Bool :=
  e == eventStartConnection || e == eventFinishConnection || e == eventConnectionStarted
    || e == eventConnectionFailed || e == eventConnectionFinished

def readsConnect (e : Int32) : Bool :=
  e == eventConnectionStarted || e == eventConnectionFailed || e == eventConnectionFinished

/-! ## Marshal -/

/-- A length and the bytes. -/
def sized (tooLong : Nat → FrameErr) (bytes : List UInt8) : Except FrameErr (List UInt8) :=
  if 2 ^ 32 - 1 < bytes.length then .error (tooLong bytes.length)
  else .ok (be32 (UInt32.ofNat bytes.length) ++ bytes)

def Message.write (m : Message) : Field → Except FrameErr (List UInt8)
  | .event => .ok (be32 m.eventType.toUInt32)
  | .sessionID => if writesNoSession m.eventType then .ok [] else sized .sessionTooLong m.sessionID
  -- no writer for it in the source
  | .connectID => .ok []
  | .sequence => .ok (be32 m.sequence.toUInt32)
  | .errorCode => .ok (be32 m.errorCode)
  | .payload => sized .payloadTooLong m.payload

def Message.writeAll (m : Message) : List Field → Except FrameErr (List UInt8)
  | [] => .ok []
  | f :: fs =>
    match m.write f with
    | .error e => .error e
    | .ok bytes =>
      match m.writeAll fs with
      | .error e => .error e
      | .ok rest => .ok (bytes ++ rest)

/-- `4 * HeaderSize - 3`, where that is positive. -/
def padding (headerSize : UInt8) : Nat := 4 * headerSize.toNat - 3

def Message.header (m : Message) : List UInt8 :=
  [pack m.version m.headerSize, pack m.msgType m.msgTypeFlag, pack m.serialization m.compression]
    ++ List.replicate (padding m.headerSize) 0

def Message.marshal (m : Message) : Except FrameErr (List UInt8) :=
  match m.writers with
  | .error e => .error e
  | .ok fs => (m.writeAll fs).map (m.header ++ ·)

/-! ## Unmarshal -/

/-- `binary.Read` of a length, and `buf.Next`, which gives what is there. -/
def readSized (buf : List UInt8) : Except FrameErr (UInt32 × List UInt8 × List UInt8) :=
  match read32 buf with
  | none => .error .eof
  | some (size, rest) => .ok (size, rest.take size.toNat, rest.drop size.toNat)

def Message.read (m : Message) (buf : List UInt8) : Field → Except FrameErr (Message × List UInt8)
  | .event =>
    match read32 buf with
    | none => .error .eof
    | some (w, rest) => .ok ({ m with eventType := w.toInt32 }, rest)
  | .sessionID =>
    if readsNoSession m.eventType then .ok (m, buf)
    else
      (readSized buf).map (fun p =>
        (if 0 < p.1 then { m with sessionID := p.2.1 } else m, p.2.2))
  | .connectID =>
    if readsConnect m.eventType then
      (readSized buf).map (fun p =>
        (if 0 < p.1 then { m with connectID := p.2.1 } else m, p.2.2))
    else .ok (m, buf)
  | .sequence =>
    match read32 buf with
    | none => .error .eof
    | some (w, rest) => .ok ({ m with sequence := w.toInt32 }, rest)
  | .errorCode =>
    match read32 buf with
    | none => .error .eof
    | some (w, rest) => .ok ({ m with errorCode := w }, rest)
  | .payload =>
    (readSized buf).map (fun p =>
      (if 0 < p.1 then { m with payload := p.2.1 } else m, p.2.2))

def Message.readAll (m : Message) (buf : List UInt8) :
    List Field → Except FrameErr (Message × List UInt8)
  | [] => .ok (m, buf)
  | f :: fs =>
    match m.read buf f with
    | .error e => .error e
    | .ok (m', buf') => m'.readAll buf' fs

def Message.unmarshal (m : Message) (data : List UInt8) : Except FrameErr Message :=
  match data with
  | b₀ :: _ :: b₂ :: rest =>
    let m := { m with
      version := b₀ >>> 4
      headerSize := b₀ &&& 15
      -- the upper nibble stays where it is
      serialization := b₂ &&& 240
      compression := b₂ &&& 15 }
    if rest.length < padding m.headerSize then
      .error (.insufficientHeader (padding m.headerSize) rest.length)
    else
      match m.readers with
      | .error e => .error e
      | .ok fs =>
        match m.readAll (rest.drop (padding m.headerSize)) fs with
        | .error e => .error e
        | .ok (m', []) => .ok m'
        | .ok (_, _ :: _) => .error .unexpectedData
  | _ => .error .eof

def newMessageFromBytes (data : List UInt8) : Except FrameErr Message :=
  match data with
  | _ :: b₁ :: _ :: _ => (newMessage (b₁ >>> 4) (b₁ &&& 15)).unmarshal data
  | _ => .error (.tooShort data.length)

/-! ## What a frame carries -/

/-- `m'` is `m` in every field that the type, the flag and the event of `m` give
a place in the frame: those its `Marshal` writes and those its `Unmarshal`
reads. -/
structure Carries (m m' : Message) : Prop where
  header : m'.version = m.version ∧ m'.headerSize = m.headerSize ∧ m'.msgType = m.msgType ∧
    m'.msgTypeFlag = m.msgTypeFlag ∧ m'.serialization = m.serialization ∧
    m'.compression = m.compression
  event : m.withEvent = true → m'.eventType = m.eventType
  session : m.withEvent = true → writesNoSession m.eventType = false →
    m'.sessionID = m.sessionID
  connect : m.withEvent = true → readsConnect m.eventType = true → m'.connectID = m.connectID
  sequence : m.msgType ≠ msgTypeError → m.sequenced = true → m'.sequence = m.sequence
  errorCode : m.msgType = msgTypeError → m'.errorCode = m.errorCode
  payload : m'.payload = m.payload

/-- The frame of `m` is read back as `m`. -/
def ReadsBack (m : Message) (data : List UInt8) : Prop :=
  ∃ m', newMessageFromBytes data = .ok m' ∧ Carries m m'

/-- The header of `m` survives: every part fits its nibble, and the
serialization is the one value that masking without shifting gives back. -/
structure HeaderFits (m : Message) : Prop where
  version : Nibble m.version
  headerSize : Nibble m.headerSize
  msgTypeFlag : Nibble m.msgTypeFlag
  compression : Nibble m.compression
  serialization : m.serialization = 0

/-- The fields behind the header survive. Only an event can shift them. With an
error code in the frame, event and error code must be the same word, and then
the session id must look the same with that word before it and behind it. -/
def BodyFits (m : Message) : Prop :=
  m.withEvent = true →
    if m.msgType = msgTypeError then
      m.errorCode = m.eventType.toUInt32 ∧ readsConnect m.eventType = false ∧
        (writesNoSession m.eventType = true ∨
          (m.sessionID.length = m.errorCode.toNat ∧
            be32 m.errorCode ++ m.sessionID = m.sessionID ++ be32 m.errorCode))
    else
      readsConnect m.eventType = true →
        m.eventType = eventConnectionFinished ∧ m.sessionID = [] ∧ m.connectID = []

/-! ## Reading one field -/

variable {bytes : List UInt8} {m' : Message} {buf : List UInt8} {fs : List Field}
  {body : List UInt8} {e : Int32}

theorem sized_ok {tooLong : Nat → FrameErr} {enc : List UInt8} (h : sized tooLong bytes = .ok enc) :
    bytes.length < 2 ^ 32 ∧ enc = be32 (UInt32.ofNat bytes.length) ++ bytes := by
  unfold sized at h
  split at h
  · cases h
  · exact ⟨by omega, (Except.ok.inj h).symm⟩

theorem toNat_length (h : bytes.length < 2 ^ 32) :
    (UInt32.ofNat bytes.length).toNat = bytes.length := by
  rw [UInt32.toNat_ofNat', Nat.mod_eq_of_lt h]

theorem readSized_bytes (rest : List UInt8) (h : bytes.length < 2 ^ 32) :
    readSized (be32 (UInt32.ofNat bytes.length) ++ (bytes ++ rest))
      = .ok (UInt32.ofNat bytes.length, bytes, rest) := by
  simp only [readSized, read32_be32, toNat_length h, List.take_left, List.drop_left]

/-- Setting a field to what was read, or leaving it when nothing was, is the
same on an empty field. -/
theorem ite_size_pos {α : Type} (h : bytes.length < 2 ^ 32) (f : List UInt8 → α) (a : α)
    (ha : a = f []) :
    (if 0 < UInt32.ofNat bytes.length then f bytes else a) = f bytes := by
  cases bytes with
  | nil => exact ha
  | cons b bs =>
    refine if_pos ?_
    rw [UInt32.lt_iff_toNat_lt, toNat_length h]
    exact Nat.succ_pos _

section Read

variable {m : Message} {rest : List UInt8}

@[simp] theorem read_event (w : UInt32) :
    m.read (be32 w ++ rest) .event = .ok ({ m with eventType := w.toInt32 }, rest) := by
  simp only [Message.read, read32_be32]

@[simp] theorem read_sequence (w : UInt32) :
    m.read (be32 w ++ rest) .sequence = .ok ({ m with sequence := w.toInt32 }, rest) := by
  simp only [Message.read, read32_be32]

@[simp] theorem read_errorCode (w : UInt32) :
    m.read (be32 w ++ rest) .errorCode = .ok ({ m with errorCode := w }, rest) := by
  simp only [Message.read, read32_be32]

variable {bytes : List UInt8}

theorem read_sessionID (hread : readsNoSession m.eventType = false) (hm : m.sessionID = [])
    (hlen : bytes.length < 2 ^ 32) :
    m.read (be32 (UInt32.ofNat bytes.length) ++ (bytes ++ rest)) .sessionID
      = .ok ({ m with sessionID := bytes }, rest) := by
  simp only [Message.read, hread, readSized_bytes rest hlen, Except.map]
  rw [ite_size_pos hlen (fun x => { m with sessionID := x }) m (by rw [← hm])]
  rfl

theorem read_connectID (hread : readsConnect m.eventType = true) (hm : m.connectID = [])
    (hlen : bytes.length < 2 ^ 32) :
    m.read (be32 (UInt32.ofNat bytes.length) ++ (bytes ++ rest)) .connectID
      = .ok ({ m with connectID := bytes }, rest) := by
  simp only [Message.read, hread, readSized_bytes rest hlen, Except.map, if_true]
  rw [ite_size_pos hlen (fun x => { m with connectID := x }) m (by rw [← hm])]

theorem read_payload (hm : m.payload = []) (hlen : bytes.length < 2 ^ 32) :
    m.read (be32 (UInt32.ofNat bytes.length) ++ (bytes ++ rest)) .payload
      = .ok ({ m with payload := bytes }, rest) := by
  simp only [Message.read, readSized_bytes rest hlen, Except.map]
  rw [ite_size_pos hlen (fun x => { m with payload := x }) m (by rw [← hm])]

end Read

/-- What reading a field leaves alone. -/
structure SameHeader (m m' : Message) : Prop where
  version : m'.version = m.version
  headerSize : m'.headerSize = m.headerSize
  msgType : m'.msgType = m.msgType
  msgTypeFlag : m'.msgTypeFlag = m.msgTypeFlag
  serialization : m'.serialization = m.serialization
  compression : m'.compression = m.compression

variable {m : Message}

variable {b buf' pay rest : List UInt8} {n : Message}

theorem read_frame {f : Field} (h : m.read buf f = .ok (m', buf')) :
    SameHeader m m' ∧ (f ≠ .event → m'.eventType = m.eventType) ∧
      (f ≠ .errorCode → m'.errorCode = m.errorCode) ∧
      (f ≠ .sessionID → m'.sessionID = m.sessionID) := by
  have hsized : ∀ (g : UInt32 × List UInt8 × List UInt8 → Message),
      (readSized buf).map (fun p => (g p, p.2.2)) = .ok (m', buf') → ∃ p, m' = g p := by
    intro g hg
    cases hr : readSized buf with
    | error e => rw [hr] at hg; cases hg
    | ok p =>
      rw [hr] at hg
      exact ⟨p, (Prod.mk.inj (Except.ok.inj hg)).1.symm⟩
  cases f with
  | event =>
    simp only [Message.read] at h
    split at h
    · cases h
    · obtain ⟨rfl, -⟩ := Prod.mk.inj (Except.ok.inj h)
      exact ⟨⟨rfl, rfl, rfl, rfl, rfl, rfl⟩, fun hf => absurd rfl hf, fun _ => rfl, fun _ => rfl⟩
  | sequence =>
    simp only [Message.read] at h
    split at h
    · cases h
    · obtain ⟨rfl, -⟩ := Prod.mk.inj (Except.ok.inj h)
      exact ⟨⟨rfl, rfl, rfl, rfl, rfl, rfl⟩, fun _ => rfl, fun _ => rfl, fun _ => rfl⟩
  | errorCode =>
    simp only [Message.read] at h
    split at h
    · cases h
    · obtain ⟨rfl, -⟩ := Prod.mk.inj (Except.ok.inj h)
      exact ⟨⟨rfl, rfl, rfl, rfl, rfl, rfl⟩, fun _ => rfl, fun hf => absurd rfl hf, fun _ => rfl⟩
  | sessionID =>
    simp only [Message.read] at h
    split at h
    · obtain ⟨rfl, -⟩ := Prod.mk.inj (Except.ok.inj h)
      exact ⟨⟨rfl, rfl, rfl, rfl, rfl, rfl⟩, fun _ => rfl, fun _ => rfl, fun _ => rfl⟩
    · obtain ⟨p, rfl⟩ := hsized _ h
      split
      · exact ⟨⟨rfl, rfl, rfl, rfl, rfl, rfl⟩, fun _ => rfl, fun _ => rfl,
          fun hf => absurd rfl hf⟩
      · exact ⟨⟨rfl, rfl, rfl, rfl, rfl, rfl⟩, fun _ => rfl, fun _ => rfl, fun _ => rfl⟩
  | connectID =>
    simp only [Message.read] at h
    split at h
    · obtain ⟨p, rfl⟩ := hsized _ h
      split <;> exact ⟨⟨rfl, rfl, rfl, rfl, rfl, rfl⟩, fun _ => rfl, fun _ => rfl, fun _ => rfl⟩
    · obtain ⟨rfl, -⟩ := Prod.mk.inj (Except.ok.inj h)
      exact ⟨⟨rfl, rfl, rfl, rfl, rfl, rfl⟩, fun _ => rfl, fun _ => rfl, fun _ => rfl⟩
  | payload =>
    simp only [Message.read] at h
    obtain ⟨p, rfl⟩ := hsized _ h
    split <;> exact ⟨⟨rfl, rfl, rfl, rfl, rfl, rfl⟩, fun _ => rfl, fun _ => rfl, fun _ => rfl⟩

theorem readAll_frame (h : m.readAll buf fs = .ok (m', buf')) :
    SameHeader m m' ∧ (.event ∉ fs → m'.eventType = m.eventType) ∧
      (.errorCode ∉ fs → m'.errorCode = m.errorCode) ∧
      (.sessionID ∉ fs → m'.sessionID = m.sessionID) := by
  induction fs generalizing m buf with
  | nil =>
    obtain ⟨rfl, -⟩ := Prod.mk.inj (Except.ok.inj h)
    exact ⟨⟨rfl, rfl, rfl, rfl, rfl, rfl⟩, fun _ => rfl, fun _ => rfl, fun _ => rfl⟩
  | cons f fs ih =>
    unfold Message.readAll at h
    cases hr : m.read buf f with
    | error e => rw [hr] at h; cases h
    | ok p =>
      obtain ⟨m₁, buf₁⟩ := p
      rw [hr] at h
      obtain ⟨hh₁, hev₁, herr₁, hse₁⟩ := read_frame hr
      obtain ⟨hh₂, hev₂, herr₂, hse₂⟩ := ih h
      refine ⟨⟨hh₂.1.trans hh₁.1, hh₂.2.trans hh₁.2, hh₂.3.trans hh₁.3, hh₂.4.trans hh₁.4,
        hh₂.5.trans hh₁.5, hh₂.6.trans hh₁.6⟩, ?_, ?_, ?_⟩
      · intro hf
        obtain ⟨hne, hfs⟩ := not_or.mp (List.mem_cons.not.mp hf)
        exact (hev₂ hfs).trans (hev₁ (fun heq => hne heq.symm))
      · intro hf
        obtain ⟨hne, hfs⟩ := not_or.mp (List.mem_cons.not.mp hf)
        exact (herr₂ hfs).trans (herr₁ (fun heq => hne heq.symm))
      · intro hf
        obtain ⟨hne, hfs⟩ := not_or.mp (List.mem_cons.not.mp hf)
        exact (hse₂ hfs).trans (hse₁ (fun heq => hne heq.symm))

/-! ## The header -/

/-- The message `Unmarshal` starts to read the fields into, for a header that
survives. -/
def Message.blank (m : Message) : Message :=
  { newMessage m.msgType m.msgTypeFlag with
    version := m.version
    headerSize := m.headerSize
    serialization := m.serialization
    compression := m.compression }

@[simp] theorem blank_typeFields (m : Message) : m.blank.typeFields = m.typeFields := rfl

@[simp] theorem blank_withEvent (m : Message) : m.blank.withEvent = m.withEvent := rfl

/-- The fields of a frame that is read to its end. -/
def ReadsFields (m : Message) (body : List UInt8) (fs : List Field) : Prop :=
  ∃ m', m.blank.readAll body fs = .ok (m', []) ∧ Carries m m'

theorem typeFields_nibble (h : m.typeFields = .ok fs) : Nibble m.msgType := by
  unfold Message.typeFields at h
  split at h
  · rename_i htype
    rcases htype with ht | ht | ht | ht | ht <;> rw [ht] <;> decide
  · split at h
    · rename_i htype
      rw [htype]
      decide
    · cases h

theorem newMessageFromBytes_header {b₀ b₁ b₂ : UInt8}
    (h : newMessageFromBytes (b₀ :: b₁ :: b₂ :: rest) = .ok m') :
    m'.version = b₀ >>> 4 ∧ m'.headerSize = b₀ &&& 15 ∧ m'.msgType = b₁ >>> 4 ∧
      m'.msgTypeFlag = b₁ &&& 15 ∧ m'.serialization = b₂ &&& 240 ∧ m'.compression = b₂ &&& 15 := by
  simp only [newMessageFromBytes, Message.unmarshal] at h
  split at h
  · cases h
  · split at h
    · cases h
    · split at h
      · cases h
      · rename_i hall
        cases h
        obtain ⟨hh, -⟩ := readAll_frame hall
        exact ⟨hh.1, hh.2, hh.3, hh.4, hh.5, hh.6⟩
      · cases h

/-- A frame reads back exactly when its header survives and its fields read
back behind it. -/
theorem readsBack_iff (hfs : m.readers = .ok fs) :
    ReadsBack m (m.header ++ body) ↔ HeaderFits m ∧ ReadsFields m body fs := by
  obtain ⟨fs₀, hty⟩ : ∃ fs₀, m.typeFields = .ok fs₀ := by
    cases hty : m.typeFields with
    | error e => simp [Message.readers, hty, Except.map] at hfs
    | ok fs₀ => exact ⟨fs₀, rfl⟩
  have htype := typeFields_nibble hty
  -- with a header that fits, the bytes are taken apart as they were put together
  have hopen : HeaderFits m → newMessageFromBytes (m.header ++ body) =
      match m.blank.readAll body fs with
      | .error e => .error e
      | .ok (m', []) => .ok m'
      | .ok (_, _ :: _) => .error .unexpectedData := by
    intro hfit
    have hv := (pack_high_eq_iff m.version hfit.headerSize).mpr hfit.version
    have hh := (pack_low_eq_iff m.version m.headerSize).mpr hfit.headerSize
    have ht := (pack_high_eq_iff m.msgType hfit.msgTypeFlag).mpr htype
    have hf := (pack_low_eq_iff m.msgType m.msgTypeFlag).mpr hfit.msgTypeFlag
    have hs := (pack_masked_eq_iff m.serialization hfit.compression).mpr hfit.serialization
    have hc := (pack_low_eq_iff m.serialization m.compression).mpr hfit.compression
    simp only [Message.header, List.cons_append, List.nil_append, newMessageFromBytes,
      Message.unmarshal, hv, hh, ht, hf, hs, hc]
    rw [if_neg (by simp), List.drop_left' List.length_replicate]
    have hblank : m.blank.readers = .ok fs := hfs
    simp only [Message.blank] at hblank ⊢
    rw [hblank]
  constructor
  · rintro ⟨m', hread, hcar⟩
    have hhead := newMessageFromBytes_header (show newMessageFromBytes
      (pack m.version m.headerSize :: pack m.msgType m.msgTypeFlag
        :: pack m.serialization m.compression
        :: (List.replicate (padding m.headerSize) 0 ++ body)) = .ok m' from hread)
    obtain ⟨hv, hh, ht, hf, hs, hc⟩ := hhead
    obtain ⟨cv, ch, ct, cf, cs, cc⟩ := hcar.header
    have hh' := (pack_low_eq_iff _ _).mp (hh.symm.trans ch)
    have hf' := (pack_low_eq_iff _ _).mp (hf.symm.trans cf)
    have hc' := (pack_low_eq_iff _ _).mp (hc.symm.trans cc)
    have hfit : HeaderFits m :=
      ⟨(pack_high_eq_iff _ hh').mp (hv.symm.trans cv), hh', hf', hc',
        (pack_masked_eq_iff _ hc').mp (hs.symm.trans cs)⟩
    refine ⟨hfit, m', ?_, hcar⟩
    rw [hopen hfit] at hread
    split at hread
    · cases hread
    · rename_i hall
      cases hread
      exact hall
    · cases hread
  · rintro ⟨hfit, m', hall, hcar⟩
    exact ⟨m', by rw [hopen hfit, hall], hcar⟩

/-! ## The fields -/

theorem typeFields_ok (h : m.typeFields = .ok fs) :
    (m.msgType ≠ msgTypeError ∧ fs = if m.sequenced then [.sequence] else []) ∨
      (m.msgType = msgTypeError ∧ fs = [.errorCode]) := by
  unfold Message.typeFields at h
  split at h
  · rename_i htype
    refine Or.inl ⟨?_, (Except.ok.inj h).symm⟩
    rcases htype with ht | ht | ht | ht | ht <;> rw [ht] <;> decide
  · split at h
    · rename_i htype
      exact Or.inr ⟨htype, (Except.ok.inj h).symm⟩
    · cases h

theorem withEvent_not_sequenced (h : m.withEvent = true) : m.sequenced = false := by
  simp only [Message.withEvent, beq_iff_eq] at h
  simp only [Message.sequenced, h]
  decide

theorem writeAll_cons {f : Field} (h : m.writeAll (f :: fs) = .ok body) :
    ∃ bytes rest, m.write f = .ok bytes ∧ m.writeAll fs = .ok rest ∧ body = bytes ++ rest := by
  unfold Message.writeAll at h
  split at h
  · cases h
  · rename_i bytes hbytes
    split at h
    · cases h
    · rename_i rest hrest
      exact ⟨bytes, rest, hbytes, hrest, (Except.ok.inj h).symm⟩

theorem writeAll_payload (h : m.writeAll [.payload] = .ok body) :
    m.payload.length < 2 ^ 32 ∧ body = be32 (UInt32.ofNat m.payload.length) ++ (m.payload ++ []) := by
  obtain ⟨bytes, rest, hbytes, hrest, rfl⟩ := writeAll_cons h
  obtain ⟨hlen, rfl⟩ := sized_ok hbytes
  cases hrest
  exact ⟨hlen, by rw [List.append_assoc]⟩

theorem readAll_payload (hn : n.payload = []) (hb : m.writeAll [.payload] = .ok b) :
    n.readAll b [.payload] = .ok ({ n with payload := m.payload }, []) := by
  obtain ⟨hlen, rfl⟩ := writeAll_payload hb
  simp only [Message.readAll, read_payload hn hlen]

theorem readsFields_plain (hev : m.withEvent = false) (hty : m.typeFields = .ok fs)
    (hbody : m.writeAll (fs ++ [.payload]) = .ok body) : ReadsFields m body (fs ++ [.payload]) := by
  have hnoev : ¬ m.withEvent = true := by rw [hev]; exact Bool.false_ne_true
  rcases typeFields_ok hty with ⟨htype, rfl⟩ | ⟨htype, rfl⟩
  · cases hseq : m.sequenced with
    | false =>
      rw [hseq] at hbody
      have hread : m.blank.readAll body ([] ++ [.payload])
          = .ok ({ m.blank with payload := m.payload }, []) := readAll_payload rfl hbody
      refine ⟨_, hread, ⟨⟨rfl, rfl, rfl, rfl, rfl, rfl⟩, fun h => absurd h hnoev,
        fun h => absurd h hnoev, fun h => absurd h hnoev, fun _ h => ?_,
        fun h => absurd h htype, rfl⟩⟩
      rw [hseq] at h
      cases h
    | true =>
      rw [hseq] at hbody
      obtain ⟨bytes, rest, hbytes, hrest, rfl⟩ := writeAll_cons hbody
      cases hbytes
      have hread : m.blank.readAll (be32 m.sequence.toUInt32 ++ rest) ([.sequence] ++ [.payload])
          = .ok ({ m.blank with sequence := m.sequence, payload := m.payload }, []) := by
        simp only [List.cons_append, List.nil_append, Message.readAll, read_sequence,
          Int32.toInt32_toUInt32]
        exact readAll_payload rfl hrest
      exact ⟨_, hread, ⟨⟨rfl, rfl, rfl, rfl, rfl, rfl⟩, fun h => absurd h hnoev,
        fun h => absurd h hnoev, fun h => absurd h hnoev, fun _ _ => rfl,
        fun h => absurd h htype, rfl⟩⟩
  · obtain ⟨bytes, rest, hbytes, hrest, rfl⟩ := writeAll_cons hbody
    cases hbytes
    have hread : m.blank.readAll (be32 m.errorCode ++ rest) ([.errorCode] ++ [.payload])
        = .ok ({ m.blank with errorCode := m.errorCode, payload := m.payload }, []) := by
      simp only [List.cons_append, List.nil_append, Message.readAll, read_errorCode]
      exact readAll_payload rfl hrest
    exact ⟨_, hread, ⟨⟨rfl, rfl, rfl, rfl, rfl, rfl⟩, fun h => absurd h hnoev,
      fun h => absurd h hnoev, fun h => absurd h hnoev, fun h => absurd htype h, fun _ => rfl, rfl⟩⟩

/-! ### Events -/

theorem readsNoSession_of_not_connect (h : readsConnect e = false) :
    readsNoSession e = writesNoSession e := by
  simp only [readsConnect, Bool.or_eq_false_iff] at h
  simp only [readsNoSession, writesNoSession, h.2, Bool.or_false]

theorem writesNoSession_cases (h : readsConnect e = true) :
    (writesNoSession e = true ∧ readsNoSession e = true ∧ e ≠ eventConnectionFinished) ∨
      (e = eventConnectionFinished) := by
  simp only [readsConnect, Bool.or_eq_true, beq_iff_eq] at h
  rcases h with (rfl | rfl) | rfl
  · exact Or.inl ⟨by decide, by decide, by decide⟩
  · exact Or.inl ⟨by decide, by decide, by decide⟩
  · exact Or.inr rfl

theorem readSized_nil : readSized [] = .error .eof := rfl

/-- With a connect id to read and none written, the payload is taken for it and
there is none left. -/
theorem readAll_connect_stuck (hb : m.writeAll [.payload] = .ok b)
    (hread : readsConnect n.eventType = true) (hn : n.connectID = []) :
    n.readAll b [.connectID, .payload] = .error .eof := by
  obtain ⟨hlen, rfl⟩ := writeAll_payload hb
  rw [Message.readAll, read_connectID hread hn hlen]
  simp only [Message.readAll, Message.read, readSized_nil, Except.map]

theorem write_sessionID (h : m.write .sessionID = .ok bytes) :
    (writesNoSession m.eventType = true ∧ bytes = []) ∨
      (writesNoSession m.eventType = false ∧ m.sessionID.length < 2 ^ 32 ∧
        bytes = be32 (UInt32.ofNat m.sessionID.length) ++ m.sessionID) := by
  unfold Message.write at h
  cases hw : writesNoSession m.eventType with
  | true =>
    rw [hw] at h
    exact Or.inl ⟨rfl, (Except.ok.inj h).symm⟩
  | false =>
    rw [hw] at h
    obtain ⟨hlen, rfl⟩ := sized_ok h
    exact Or.inr ⟨rfl, hlen, rfl⟩

/-- The message as far as the event has been read. -/
def Message.blankEvent (m : Message) : Message := { m.blank with eventType := m.eventType }

theorem readAll_noConnect (h : readsConnect m.eventType = false) :
    m.readAll buf (.connectID :: fs) = m.readAll buf fs := by
  simp [Message.readAll, Message.read, h]

theorem readsFields_event (htype : m.msgType ≠ msgTypeError) (hev : m.withEvent = true)
    (hbody : m.writeAll [.event, .sessionID, .payload] = .ok body) :
    ReadsFields m body [.event, .sessionID, .connectID, .payload] ↔
      (readsConnect m.eventType = true →
        m.eventType = eventConnectionFinished ∧ m.sessionID = [] ∧ m.connectID = []) := by
  have hnoseq : ¬ m.sequenced = true := by
    rw [withEvent_not_sequenced hev]
    exact Bool.false_ne_true
  obtain ⟨bytes, rest, hbytes, hrest, rfl⟩ := writeAll_cons hbody
  cases hbytes
  obtain ⟨sess, pay, hsess, hpay, rfl⟩ := writeAll_cons hrest
  have hfirst : m.blank.readAll (be32 m.eventType.toUInt32 ++ (sess ++ pay))
      [.event, .sessionID, .connectID, .payload]
      = m.blankEvent.readAll (sess ++ pay)
          [.sessionID, .connectID, .payload] := by
    rw [Message.readAll, read_event, Int32.toInt32_toUInt32]
    rfl
  have hskip : readsNoSession m.eventType = true →
      m.blankEvent.readAll (sess ++ pay)
          [.sessionID, .connectID, .payload]
        = m.blankEvent.readAll (sess ++ pay)
          [.connectID, .payload] := by
    intro hno
    have hno' : readsNoSession m.blankEvent.eventType = true := hno
    simp only [Message.readAll, Message.read, hno', if_true]
  cases hcon : readsConnect m.eventType with
  | false =>
    refine iff_of_true ?_ (fun h => nomatch h)
    have hnocon : ¬ readsConnect m.eventType = true := by simp [hcon]
    have hsame := readsNoSession_of_not_connect hcon
    rcases write_sessionID hsess with ⟨hw, rfl⟩ | ⟨hw, hlen, rfl⟩
    · have hread : m.blank.readAll (be32 m.eventType.toUInt32 ++ ([] ++ pay))
          [.event, .sessionID, .connectID, .payload]
          = .ok ({ m.blankEvent with payload := m.payload }, []) := by
        rw [hfirst, hskip (hsame.trans hw)]
        exact (readAll_noConnect (m := m.blankEvent) hcon).trans (readAll_payload rfl hpay)
      exact ⟨_, hread, ⟨⟨rfl, rfl, rfl, rfl, rfl, rfl⟩, fun _ => rfl,
        fun _ h => absurd (hw.symm.trans h) (by decide), fun _ h => absurd h hnocon,
        fun _ h => absurd h hnoseq, fun h => absurd h htype, rfl⟩⟩
    · have hread : m.blank.readAll (be32 m.eventType.toUInt32 ++
          (be32 (UInt32.ofNat m.sessionID.length) ++ m.sessionID ++ pay))
          [.event, .sessionID, .connectID, .payload]
          = .ok ({ m.blankEvent with sessionID := m.sessionID, payload := m.payload }, []) := by
        rw [hfirst, List.append_assoc, Message.readAll,
          read_sessionID (m := m.blankEvent) (hsame.trans hw) rfl hlen]
        exact (readAll_noConnect (m := { m.blankEvent with sessionID := m.sessionID }) hcon).trans
          (readAll_payload rfl hpay)
      exact ⟨_, hread, ⟨⟨rfl, rfl, rfl, rfl, rfl, rfl⟩, fun _ => rfl, fun _ _ => rfl,
        fun _ h => absurd h hnocon, fun _ h => absurd h hnoseq,
        fun h => absurd h htype, rfl⟩⟩
  | true =>
    rcases writesNoSession_cases hcon with ⟨hw, hr, hne⟩ | hfin
    · -- 50 and 51: nothing but the payload is written
      refine iff_of_false ?_ (fun h => hne (h rfl).1)
      rintro ⟨m', hread, -⟩
      rcases write_sessionID hsess with ⟨-, rfl⟩ | ⟨hw', -, -⟩
      · rw [hfirst, hskip hr, List.nil_append, readAll_connect_stuck (n := m.blankEvent) hpay hcon rfl] at hread
        cases hread
      · rw [hw] at hw'
        cases hw'
    · -- 52: the session id arrives as the connect id
      have hr : readsNoSession m.eventType = true := by rw [hfin]; decide
      rcases write_sessionID hsess with ⟨hw, -⟩ | ⟨hw, hlen, rfl⟩
      · rw [hfin] at hw
        exact absurd hw (by decide)
      · have hread : m.blank.readAll (be32 m.eventType.toUInt32 ++
            (be32 (UInt32.ofNat m.sessionID.length) ++ m.sessionID ++ pay))
            [.event, .sessionID, .connectID, .payload]
            = .ok ({ m.blankEvent with connectID := m.sessionID, payload := m.payload }, []) := by
          rw [hfirst, hskip hr, List.append_assoc, Message.readAll, read_connectID (m := m.blankEvent) hcon rfl hlen]
          exact readAll_payload rfl hpay
        constructor
        · rintro ⟨m', hread', hcar⟩ -
          rw [hread] at hread'
          obtain ⟨rfl, -⟩ := Prod.mk.inj (Except.ok.inj hread')
          have hs : [] = m.sessionID := hcar.session hev hw
          have hc : m.sessionID = m.connectID := hcar.connect hev hcon
          exact ⟨hfin, hs.symm, hc.symm.trans hs.symm⟩
        · intro h
          obtain ⟨-, hs, hc⟩ := h rfl
          exact ⟨_, hread, ⟨⟨rfl, rfl, rfl, rfl, rfl, rfl⟩, fun _ => rfl, fun _ _ => hs.symm,
            fun _ _ => hs.trans hc.symm, fun _ h => absurd h hnoseq,
            fun h => absurd h htype, rfl⟩⟩

/-! ### Events in error frames -/

theorem readsNoSession_of_writes (h : writesNoSession e = true) :
    readsNoSession e = true := by
  simp only [writesNoSession] at h
  simp only [readsNoSession, h, Bool.true_or]

theorem readAll_noSession (h : readsNoSession m.eventType = true) :
    m.readAll buf (.sessionID :: fs) = m.readAll buf fs := by
  simp [Message.readAll, Message.read, h]

/-- A session id that is read from `session ++ w ++ ..` as itself, where its
length is `w`, commutes with the word `w`. -/
theorem commutes_of_read {session : List UInt8} {w size : UInt32} (hlen : session.length = w.toNat)
    (hpay : 4 ≤ pay.length) (hread : read32 (session ++ (be32 w ++ pay)) = some (size, rest))
    (hsess : (if 0 < size then rest.take size.toNat else []) = session) :
    be32 w ++ session = session ++ be32 w := by
  have hbuf := be32_of_read32 hread
  have hrest : rest.length = session.length + pay.length := by
    have := congrArg List.length hbuf
    simp only [List.length_append, be32_length] at this
    omega
  have hsize : size = w := by
    apply UInt32.toNat_inj.mp
    rw [← hlen, ← hsess]
    split
    · rename_i hpos
      rw [if_pos hpos] at hsess
      have := congrArg List.length hsess
      simp only [List.length_take] at this ⊢
      omega
    · rename_i hzero
      rw [UInt32.lt_iff_toNat_lt] at hzero
      simp only [UInt32.toNat_zero] at hzero
      simp only [List.length_nil]
      omega
  subst hsize
  have htake : rest.take size.toNat = session := by
    split at hsess
    · exact hsess
    · rename_i hzero
      rw [UInt32.lt_iff_toNat_lt] at hzero
      simp only [UInt32.toNat_zero] at hzero
      have hz : size.toNat = 0 := by omega
      rw [hz, List.take_zero]
      exact hsess
  have hsplit : rest = session ++ rest.drop size.toNat := by
    rw [← htake, List.take_append_drop]
  rw [hsplit, ← List.append_assoc, ← List.append_assoc] at hbuf
  refine (List.append_inj hbuf ?_).1.symm
  simp only [List.length_append, be32_length]
  omega

theorem writeAll_payload_length (h : m.writeAll [.payload] = .ok pay) : 4 ≤ pay.length := by
  obtain ⟨-, rfl⟩ := writeAll_payload h
  simp

section SameWord

variable {m n : Message} {pay : List UInt8} {w : UInt32}

/-- Where the length of the session id, the event and the error code are one
word, the session id is read as itself if it commutes with that word. -/
theorem readAll_session (hpay : m.writeAll [.payload] = .ok pay)
    (hlen : m.sessionID.length = w.toNat) (hread : readsNoSession n.eventType = false)
    (hcon : readsConnect n.eventType = false) (hs : n.sessionID = []) (hp : n.payload = [])
    (hcomm : be32 w ++ m.sessionID = m.sessionID ++ be32 w) :
    n.readAll (m.sessionID ++ (be32 w ++ pay)) [.sessionID, .connectID, .payload]
      = .ok ({ n with sessionID := m.sessionID, payload := m.payload }, []) := by
  have hw : UInt32.ofNat m.sessionID.length = w := by
    rw [hlen, UInt32.ofNat_toNat]
  have hlt : m.sessionID.length < 2 ^ 32 := by
    rw [hlen]
    exact w.toNat_lt
  rw [← List.append_assoc, ← hcomm, List.append_assoc, ← hw, Message.readAll,
    read_sessionID hread hs hlt]
  exact (readAll_noConnect (m := { n with sessionID := m.sessionID }) hcon).trans
    (readAll_payload hp hpay)

theorem commutes_of_readAll {m' : Message} (hpay : m.writeAll [.payload] = .ok pay)
    (hlen : m.sessionID.length = w.toNat) (hread : readsNoSession n.eventType = false)
    (hs : n.sessionID = [])
    (hall : n.readAll (m.sessionID ++ (be32 w ++ pay)) [.sessionID, .connectID, .payload]
      = .ok (m', [])) (hsess : m'.sessionID = m.sessionID) :
    be32 w ++ m.sessionID = m.sessionID ++ be32 w := by
  unfold Message.readAll at hall
  cases hr : read32 (m.sessionID ++ (be32 w ++ pay)) with
  | none =>
    simp only [Message.read, hread, readSized, hr, Except.map] at hall
    cases hall
  | some p =>
    obtain ⟨size, rest⟩ := p
    simp only [Message.read, hread, readSized, hr, Except.map] at hall
    refine commutes_of_read hlen (writeAll_payload_length hpay) hr ?_
    have hframe := (readAll_frame hall).2.2.2 (by decide)
    rw [← hsess, hframe]
    split
    · rfl
    · exact hs.symm

end SameWord

/-- The message as far as an error code and an event have been read. -/
def Message.blankError (m : Message) : Message :=
  { m.blankEvent with errorCode := m.errorCode }

theorem readsFields_error (htype : m.msgType = msgTypeError) (hev : m.withEvent = true)
    (hbody : m.writeAll [.event, .sessionID, .errorCode, .payload] = .ok body) :
    ReadsFields m body [.errorCode, .event, .sessionID, .connectID, .payload] ↔
      (m.errorCode = m.eventType.toUInt32 ∧ readsConnect m.eventType = false ∧
        (writesNoSession m.eventType = true ∨
          (m.sessionID.length = m.errorCode.toNat ∧
            be32 m.errorCode ++ m.sessionID = m.sessionID ++ be32 m.errorCode))) := by
  obtain ⟨evb, rest, hevb, hrest, rfl⟩ := writeAll_cons hbody
  cases hevb
  obtain ⟨sess, tail, hsess, htail, rfl⟩ := writeAll_cons hrest
  obtain ⟨errb, pay, herrb, hpay, rfl⟩ := writeAll_cons htail
  cases herrb
  have hcode : ∀ m', m.blank.readAll (be32 m.eventType.toUInt32 ++ (sess ++ (be32 m.errorCode ++ pay)))
      [.errorCode, .event, .sessionID, .connectID, .payload] = .ok (m', []) →
      m'.errorCode = m.eventType.toUInt32 := by
    intro m' hread
    rw [Message.readAll, read_errorCode] at hread
    exact (readAll_frame hread).2.2.1 (by decide)
  by_cases hword : m.errorCode = m.eventType.toUInt32
  swap
  · refine iff_of_false ?_ (fun h => hword h.1)
    rintro ⟨m', hread, hcar⟩
    exact hword ((hcar.errorCode htype).symm.trans (hcode m' hread))
  have hsecond : ∀ (v : UInt32) (tail : List UInt8), v = m.errorCode →
      m.blank.readAll (be32 m.eventType.toUInt32 ++ (be32 v ++ tail))
        [.errorCode, .event, .sessionID, .connectID, .payload]
      = m.blankError.readAll tail [.sessionID, .connectID, .payload] := by
    rintro v tail rfl
    rw [Message.readAll, read_errorCode]
    simp only
    rw [Message.readAll, read_event, hword, Int32.toInt32_toUInt32, ← hword]
    rfl
  rcases write_sessionID hsess with ⟨hw, rfl⟩ | ⟨hw, hlen, rfl⟩
  · -- no session id on either side
    have hopen := hsecond m.errorCode pay rfl
    rw [List.nil_append, ReadsFields, hopen,
      readAll_noSession (m := m.blankError) (readsNoSession_of_writes hw)]
    cases hcon : readsConnect m.eventType with
    | true =>
      refine iff_of_false ?_ (fun h => nomatch h.2.1)
      rintro ⟨m', hread, -⟩
      rw [readAll_connect_stuck (n := m.blankError) hpay hcon rfl] at hread
      cases hread
    | false =>
      refine iff_of_true ?_ ⟨hword, rfl, Or.inl hw⟩
      have hread : m.blankError.readAll pay [.connectID, .payload]
          = .ok ({ m.blankError with payload := m.payload }, []) :=
        (readAll_noConnect (m := m.blankError) hcon).trans (readAll_payload rfl hpay)
      exact ⟨_, hread, ⟨⟨rfl, rfl, rfl, rfl, rfl, rfl⟩, fun _ => rfl,
        fun _ h => absurd (hw.symm.trans h) (by decide), fun _ h => absurd (hcon.symm.trans h)
        (by decide), fun h => absurd htype h, fun _ => rfl, rfl⟩⟩
  · -- the length of the session id is read as the event
    have hlenw : UInt32.ofNat m.sessionID.length = m.errorCode ↔
        m.sessionID.length = m.errorCode.toNat := by
      rw [← UInt32.toNat_inj, toNat_length hlen]
    have hsame : ∀ m', m.blank.readAll (be32 m.eventType.toUInt32 ++
        (be32 (UInt32.ofNat m.sessionID.length) ++ m.sessionID ++ (be32 m.errorCode ++ pay)))
        [.errorCode, .event, .sessionID, .connectID, .payload] = .ok (m', []) →
        m'.eventType = m.eventType → m.sessionID.length = m.errorCode.toNat := by
      intro m' hread hev'
      rw [List.append_assoc, Message.readAll, read_errorCode] at hread
      simp only at hread
      rw [Message.readAll, read_event] at hread
      have hframe := (readAll_frame hread).2.1 (by decide)
      rw [hframe] at hev'
      simp only at hev'
      rw [← hlenw, hword, ← hev', UInt32.toUInt32_toInt32]
    by_cases hL : m.sessionID.length = m.errorCode.toNat
    swap
    · refine iff_of_false ?_ ?_
      · rintro ⟨m', hread, hcar⟩
        exact hL (hsame m' hread (hcar.event hev))
      · rintro ⟨-, -, hno | ⟨hlen', -⟩⟩
        · exact absurd (hw.symm.trans hno) (by decide)
        · exact hL hlen'
    have hopen := hsecond (UInt32.ofNat m.sessionID.length) (m.sessionID ++ (be32 m.errorCode ++ pay))
      (hlenw.mpr hL)
    rw [List.append_assoc, ReadsFields, hopen]
    cases hcon : readsConnect m.eventType with
    | true =>
      -- only 52 has a session id written and a connect id read
      refine iff_of_false ?_ (fun h => nomatch h.2.1)
      rintro ⟨m', hread, hcar⟩
      rcases writesNoSession_cases hcon with ⟨hno, -, -⟩ | hfin
      · exact absurd (hw.symm.trans hno) (by decide)
      · have hr : readsNoSession m.blankError.eventType = true := by
          show readsNoSession m.eventType = true
          rw [hfin]
          decide
        rw [readAll_noSession hr] at hread
        have hframe : m'.sessionID = [] := (readAll_frame hread).2.2.2 (by decide)
        have hempty : m.sessionID = [] := (hcar.session hev hw).symm.trans hframe
        rw [hempty, hword, hfin] at hL
        exact absurd hL (by decide)
    | false =>
      have hr : readsNoSession m.blankError.eventType = false :=
        (readsNoSession_of_not_connect hcon).trans hw
      constructor
      · rintro ⟨m', hread, hcar⟩
        exact ⟨hword, rfl, Or.inr ⟨hL, commutes_of_readAll (n := m.blankError) hpay hL hr rfl
          hread (hcar.session hev hw)⟩⟩
      · rintro ⟨-, -, hno | ⟨-, hcomm⟩⟩
        · exact absurd (hw.symm.trans hno) (by decide)
        · exact ⟨_, readAll_session (n := m.blankError) hpay hL hr hcon rfl rfl hcomm,
            ⟨⟨rfl, rfl, rfl, rfl, rfl, rfl⟩, fun _ => rfl, fun _ _ => rfl,
            fun _ h => absurd (hcon.symm.trans h) (by decide), fun h => absurd htype h,
            fun _ => rfl, rfl⟩⟩

/-! ## Frames -/

theorem marshal_ok {data : List UInt8} (h : m.marshal = .ok data) :
    ∃ fs body, m.typeFields = .ok fs ∧
      m.writeAll ((if m.withEvent then [.event, .sessionID] else []) ++ fs ++ [.payload]) = .ok body ∧
      data = m.header ++ body := by
  unfold Message.marshal Message.writers at h
  cases hty : m.typeFields with
  | error e => rw [hty] at h; cases h
  | ok fs =>
    rw [hty] at h
    simp only [Except.map] at h
    split at h
    · cases h
    · rename_i body hbody
      exact ⟨fs, body, rfl, hbody, (Except.ok.inj h).symm⟩

/-- **Frames round-trip**, for every message that `Marshal` accepts, exactly
when the header survives and no event shifts the fields. -/
theorem frame_round_trips_iff (m : Message) (data : List UInt8) (h : m.marshal = .ok data) :
    ReadsBack m data ↔ HeaderFits m ∧ BodyFits m := by
  obtain ⟨fs, body, hty, hbody, rfl⟩ := marshal_ok h
  have hreaders : m.readers = .ok
      (fs ++ (if m.withEvent then [.event, .sessionID, .connectID] else []) ++ [.payload]) := by
    unfold Message.readers
    rw [hty]
    rfl
  rw [readsBack_iff hreaders]
  refine and_congr_right (fun _ => ?_)
  cases hev : m.withEvent with
  | false =>
    rw [hev] at hbody
    simp only [Bool.false_eq_true, if_false, List.nil_append, List.append_nil] at hbody ⊢
    exact iff_of_true (readsFields_plain hev hty hbody)
      (fun hev' => absurd (hev.symm.trans hev') (by decide))
  | true =>
    rw [hev] at hbody
    rcases typeFields_ok hty with ⟨htype, rfl⟩ | ⟨htype, rfl⟩
    · rw [withEvent_not_sequenced hev] at hbody ⊢
      have hfields := readsFields_event htype hev hbody
      refine hfields.trans ?_
      simp only [BodyFits, hev, if_neg htype, forall_const]
    · have hfields := readsFields_error htype hev hbody
      refine hfields.trans ?_
      simp only [BodyFits, hev, if_pos htype, forall_const]

/-- What `FullClientRequest` sends, `{}` as its payload: the JSON serialization, 1,
comes back as 16. -/
theorem client_request_does_not_round_trip :
    ¬ ∀ (m : Message) (data : List UInt8), m.marshal = .ok data → ReadsBack m data := by
  intro h
  have hback := h { newMessage msgTypeFullClientRequest 0 with payload := [0x7b, 0x7d] }
    [0x11, 0x10, 0x10, 0, 0, 0, 0, 2, 0x7b, 0x7d] (by decide)
  obtain ⟨m', hread, hcar⟩ := hback
  have hm' : newMessageFromBytes [0x11, 0x10, 0x10, 0, 0, 0, 0, 2, 0x7b, 0x7d]
      = .ok { newMessage msgTypeFullClientRequest 0 with
          serialization := 16, payload := [0x7b, 0x7d] } := by decide
  rw [hm'] at hread
  cases hread
  exact absurd hcar.header.2.2.2.2.1 (by decide)

/-- A server response without a serialization: event 352, a session id and a
payload. -/
theorem raw_response_round_trips :
    ReadsBack { newMessage msgTypeFullServerResponse msgTypeFlagWithEvent with
        serialization := 0, eventType := 352, sessionID := [0x73, 0x31], payload := [1, 2, 3] }
      [0x11, 0x94, 0, 0, 0, 0, 1, 0x60, 0, 0, 0, 2, 0x73, 0x31, 0, 0, 0, 3, 1, 2, 3] :=
  (frame_round_trips_iff _ _ (by decide)).mpr
    ⟨⟨by decide, by decide, by decide, by decide, rfl⟩, fun _ h => absurd h (by decide)⟩

end Volcengine

end YouBox
