import YouBox.Progress
import YouBox.SubConsume

/-!
# The handler of a streamed answer

`StreamScannerHandler` and the three goroutines it starts, one step at a time: the
scanner reads the lines of the upstream's answer and puts their payloads into a
channel of ten, the data handler takes them out and hands them to `dataHandler`, and
the ping writes comments to the client in between. The caller waits for a timeout, for
`stopChan` or for its client to go, and then cleans up and waits for the three.

Nothing keeps the scheduler from any order of their steps, and nothing is assumed of
the upstream (reading it may fail or panic at any point), of the client or of
`dataHandler` but that it returns or panics.

What has been taken and what is still ahead is always a prefix of the payloads
(`StreamFlow`); the channels and flags that the goroutines end by follow from where
they stand (`StreamShape`), and from these that the caller returns.
-/

namespace YouBox.StreamScanner

/-! ## Lines -/

/-- What the scanner makes of a line. -/
inductive StreamLine where
  | skip
  | data (data : String)
  | done
deriving DecidableEq

def readStreamLine (line : String) : StreamLine :=
  if line.utf8ByteSize < 6 then .skip
  else if ¬ "data:".toList <+: line.toList ∧ ¬ "[DONE]".toList <+: line.toList then .skip
  else
    let data := trimSpace (String.ofList (line.toList.drop 5))
    if data = "" then .skip
    else if "[DONE]".toList <+: data.toList then .done
    else .data data

/-- The payloads of an answer, up to the line that ends it. -/
def payloads : List String → List String
  | [] => []
  | line :: rest =>
    match readStreamLine line with
    | .skip => payloads rest
    | .data data => data :: payloads rest
    | .done => []

/-! ## The goroutines -/

inductive StreamEndReason where
  | done | timeout | clientGone | scannerErr | handlerStop | eof | panic | pingFail
deriving DecidableEq

/-- `StreamStatus`, with the number of its errors. -/
structure StreamStatus where
  endReason : Option StreamEndReason
  errorCount : Nat

def StreamStatus.setEndReason (reason : StreamEndReason) (s : StreamStatus) : StreamStatus :=
  { s with endReason := s.endReason.or (some reason) }

def StreamStatus.recordError (s : StreamStatus) : StreamStatus :=
  { s with errorCount := s.errorCount + 1 }

/-- What `dataHandler` calls on its `StreamResult`. -/
inductive StreamCall where
  | error
  | stop (err : Bool)
  | done
deriving DecidableEq

def StreamCall.stops : StreamCall → Bool
  | .error => false
  | .stop _ | .done => true

def StreamStatus.call (s : StreamStatus) : StreamCall → StreamStatus
  | .error => s.recordError
  | .stop err => (if err then s.recordError else s).setEndReason .handlerStop
  | .done => s.setEndReason .done

inductive ScannerPc where
  | scan
  | check (line : String)
  | send (data : String)
  | closeData
  | panicked
  | recovered
  | stop
  | gone
deriving DecidableEq

/-- `call` stands for a `dataHandler` that has still to make these calls, `early` for a
loop that was left before `dataChan` came to its end. -/
inductive HandlerPc where
  | receive
  | lock (data : String)
  | call (calls : List StreamCall) (panics stopped : Bool)
  | panicked
  | stop (early : Bool)
  | gone (early : Bool)
deriving DecidableEq

inductive PingPc where
  | idle
  | lock
  | write
  | failed (panicked : Bool)
  | stop
  | gone
deriving DecidableEq

/-- The caller: its select, the cases that name a reason, the statements of `cleanup`. -/
inductive CallerPc where
  | select
  | timedOut
  | clientLeft
  | cancel
  | stop
  | closeBody
  | stopTickers
  | wait
  | returned
deriving DecidableEq

structure Stream where
  /-- The lines of the answer that have not been scanned. -/
  lines : List String
  bodyClosed : Bool
  cancelled : Bool
  stopped : Bool
  dataChan : List String
  dataClosed : Bool
  status : StreamStatus
  receivedResponseCount : Nat
  writeMutex : Bool
  ticking : Bool
  clientGone : Bool
  /-- What `dataHandler` has been called with. -/
  handled : List String
  scanner : ScannerPc
  handler : HandlerPc
  ping : PingPc
  caller : CallerPc

/-- A step of the scanner; `eof` and `fails` are a `Scan` that returns false. -/
inductive ScannerEvent where
  | line | eof | fails | panics | check | send | leave | exit

def Stream.scannerNext (s : Stream) : ScannerEvent → Option Stream
  | .line =>
    match s.scanner, s.lines with
    | .scan, line :: rest => some { s with lines := rest, scanner := .check line }
    | _, _ => none
  | .eof =>
    if s.scanner = .scan ∧ s.lines = [] then
      some { s with status := s.status.setEndReason .eof, scanner := .closeData }
    else none
  | .fails =>
    if s.scanner = .scan then
      some { s with status := s.status.setEndReason .scannerErr, scanner := .closeData }
    else none
  | .panics => if s.scanner = .scan then some { s with scanner := .panicked } else none
  | .check =>
    match s.scanner with
    | .check line =>
      if s.stopped ∨ s.cancelled then some { s with scanner := .closeData }
      else match readStreamLine line with
        | .skip => some { s with scanner := .scan }
        | .data data =>
          some { s with
            receivedResponseCount := s.receivedResponseCount + 1
            scanner := .send data }
        | .done =>
          some { s with status := s.status.setEndReason .done, scanner := .closeData }
    | _ => none
  | .send =>
    match s.scanner with
    | .send data =>
      if s.dataChan.length < 10 then
        some { s with dataChan := s.dataChan ++ [data], scanner := .scan }
      else none
    | _ => none
  | .leave =>
    match s.scanner with
    | .send _ => if s.stopped ∨ s.cancelled then some { s with scanner := .closeData } else none
    | _ => none
  | .exit =>
    match s.scanner with
    | .closeData => some { s with dataClosed := true, scanner := .stop }
    -- the channel is closed before the panic is looked at
    | .panicked => some { s with dataClosed := true, scanner := .recovered }
    | .recovered => some { s with status := s.status.setEndReason .panic, scanner := .stop }
    | .stop => some { s with stopped := true, scanner := .gone }
    | _ => none

/-- A step of the data handler. What `dataHandler` will do is known when it starts. -/
inductive HandlerEvent where
  | receive | start (calls : List StreamCall) (panics : Bool) | call | exit

def Stream.handlerNext (s : Stream) : HandlerEvent → Option Stream
  | .receive =>
    match s.handler, s.dataChan with
    | .receive, data :: rest => some { s with dataChan := rest, handler := .lock data }
    | .receive, [] => if s.dataClosed then some { s with handler := .stop false } else none
    | _, _ => none
  | .start calls panics =>
    match s.handler with
    | .lock data =>
      if s.writeMutex then none
      else some { s with
        writeMutex := true
        handled := s.handled ++ [data]
        handler := .call calls panics false }
    | _ => none
  | .call =>
    match s.handler with
    | .call (c :: calls) panics stopped =>
      some { s with status := s.status.call c, handler := .call calls panics (stopped || c.stops) }
    | .call [] true _ => some { s with writeMutex := false, handler := .panicked }
    | .call [] false stopped =>
      some { s with writeMutex := false, handler := if stopped then .stop true else .receive }
    | _ => none
  | .exit =>
    match s.handler with
    | .panicked => some { s with status := s.status.setEndReason .panic, handler := .stop true }
    | .stop early => some { s with stopped := true, handler := .gone early }
    | _ => none

/-- A step of the ping; a write may panic. -/
inductive PingEvent where
  | tick | leave | lock | sent | fails | panics | exit

def Stream.pingNext (s : Stream) : PingEvent → Option Stream
  | .tick => if s.ping = .idle ∧ s.ticking then some { s with ping := .lock } else none
  | .leave => if s.ping = .idle then some { s with ping := .gone } else none
  | .lock =>
    if s.ping = .lock ∧ ¬ s.writeMutex then some { s with writeMutex := true, ping := .write }
    else none
  | .sent => if s.ping = .write then some { s with writeMutex := false, ping := .idle } else none
  | .fails =>
    if s.ping = .write then some { s with writeMutex := false, ping := .failed false } else none
  | .panics =>
    if s.ping = .write then some { s with writeMutex := false, ping := .failed true } else none
  | .exit =>
    match s.ping with
    | .failed true => some { s with status := s.status.setEndReason .panic, ping := .stop }
    | .failed false => some { s with status := s.status.setEndReason .pingFail, ping := .gone }
    | .stop => some { s with stopped := true, ping := .gone }
    | _ => none

/-- A step of the caller; a timeout may come at any time. -/
inductive CallerEvent where
  | timeout | stopped | clientGone | next

def Stream.callerNext (s : Stream) : CallerEvent → Option Stream
  | .timeout => if s.caller = .select then some { s with caller := .timedOut } else none
  | .stopped => if s.caller = .select ∧ s.stopped then some { s with caller := .cancel } else none
  | .clientGone =>
    if s.caller = .select ∧ s.clientGone then some { s with caller := .clientLeft }
    else none
  | .next =>
    match s.caller with
    | .timedOut => some { s with status := s.status.setEndReason .timeout, caller := .cancel }
    | .clientLeft =>
      some { s with status := s.status.setEndReason .clientGone, caller := .cancel }
    | .cancel => some { s with cancelled := true, caller := .stop }
    | .stop => some { s with stopped := true, caller := .closeBody }
    | .closeBody => some { s with bodyClosed := true, caller := .stopTickers }
    | .stopTickers => some { s with ticking := false, caller := .wait }
    | .wait =>
      match s.scanner, s.handler, s.ping with
      | .gone, .gone _, .gone => some { s with caller := .returned }
      | _, _, _ => none
    | _ => none

inductive StreamEvent where
  | scanner (e : ScannerEvent)
  | handler (e : HandlerEvent)
  | ping (e : PingEvent)
  | caller (e : CallerEvent)
  | clientLeaves

def Stream.next (s : Stream) : StreamEvent → Option Stream
  | .scanner e => s.scannerNext e
  | .handler e => s.handlerNext e
  | .ping e => s.pingNext e
  | .caller e => s.callerNext e
  | .clientLeaves => if s.clientGone then none else some { s with clientGone := true }

def StreamStep (s s' : Stream) : Prop := ∃ e, s.next e = some s'

abbrev StreamRun : Stream → Stream → Prop := Relation.ReflTransGen StreamStep

/-- The goroutines have been started; without pings there is none for them. -/
def streamStart (lines : List String) (pingEnabled : Bool) : Stream where
  lines := lines
  bodyClosed := false
  cancelled := false
  stopped := false
  dataChan := []
  dataClosed := false
  status := ⟨none, 0⟩
  receivedResponseCount := 0
  writeMutex := false
  ticking := pingEnabled
  clientGone := false
  handled := []
  scanner := .scan
  handler := .receive
  ping := if pingEnabled then .idle else .gone
  caller := .select

/-! ## In order and complete -/

def ScannerPc.scanning : ScannerPc → Bool
  | .scan | .check _ | .send _ => true
  | _ => false

def HandlerPc.inHand : HandlerPc → List String
  | .lock data => [data]
  | _ => []

/-- `dataHandler` has ended the stream itself, or panicked. -/
def HandlerPc.quits : HandlerPc → Bool
  | .call _ _ stopped => stopped
  | .panicked => true
  | .stop early | .gone early => early
  | _ => false

/-- The payloads that the scanner has sent. -/
def Stream.taken (s : Stream) : List String := s.handled ++ s.handler.inHand ++ s.dataChan

/-- The payloads that it will send, as long as it goes on. -/
def Stream.ahead (s : Stream) : List String :=
  match s.scanner with
  | .scan => payloads s.lines
  | .check line => payloads (line :: s.lines)
  | .send data => data :: payloads s.lines
  | _ => []

/-- The answer came to its end, and the handler took it all. -/
def Stream.Whole (s : Stream) : Prop :=
  s.status.endReason = some .eof ∨ (s.status.endReason = some .done ∧ s.handler.quits = false)

/-- What is taken, of the payloads of a whole answer. -/
structure StreamFlow (all : List String) (s : Stream) : Prop where
  taken : s.taken <+: all
  scanning : s.scanner.scanning = true → s.taken ++ s.ahead = all
  whole : s.Whole → s.scanner.scanning = false ∧ s.taken = all

variable {s s' : Stream} {all lines : List String} {reason r : StreamEndReason}

theorem endReason_set {status : StreamStatus} :
    (status.setEndReason reason).endReason = some r
      ↔ status.endReason = some r ∨ (status.endReason = none ∧ reason = r) := by
  cases h : status.endReason <;> simp [StreamStatus.setEndReason, h]

theorem call_whole (c : StreamCall) {status : StreamStatus} {stopped : Bool}
    (h : (status.call c).endReason = some .eof ∨
      ((status.call c).endReason = some .done ∧ (stopped || c.stops) = false)) :
    status.endReason = some .eof ∨ (status.endReason = some .done ∧ stopped = false) := by
  cases c with
  | error => simpa [StreamStatus.call, StreamStatus.recordError, StreamCall.stops] using h
  | stop err =>
    cases err <;> refine Or.inl ?_ <;>
      simpa [StreamStatus.call, StreamStatus.recordError, StreamCall.stops, endReason_set] using h
  | done =>
    refine Or.inl ?_
    simpa [StreamStatus.call, StreamCall.stops, endReason_set] using h

namespace StreamFlow

theorem not_whole (h : StreamFlow all s) (hscan : s.scanner.scanning = true) : ¬ s.Whole := by
  intro hw
  rw [(h.whole hw).1] at hscan
  cases hscan

theorem goOn (h : StreamFlow all s) (hscan : s.scanner.scanning = true)
    (htaken : s'.taken ++ s'.ahead = s.taken ++ s.ahead) (hstatus : s'.status = s.status)
    (hhandler : s'.handler = s.handler) : StreamFlow all s' := by
  have hall : s'.taken ++ s'.ahead = all := htaken.trans (h.scanning hscan)
  refine ⟨⟨_, hall⟩, fun _ => hall, fun hw => absurd ?_ (h.not_whole hscan)⟩
  simpa only [Stream.Whole, hstatus, hhandler] using hw

theorem leave (h : StreamFlow all s) (hscan : s.scanner.scanning = true)
    (hout : s'.scanner.scanning = false) (htaken : s'.taken = s.taken)
    (hwhole : s'.Whole → s.Whole ∨ s.ahead = []) : StreamFlow all s' := by
  refine ⟨htaken ▸ h.taken, fun hin => absurd hin (by simp [hout]), ?_⟩
  intro hw
  refine ⟨hout, ?_⟩
  have hall := h.scanning hscan
  rcases hwhole hw with hwas | hahead
  · exact absurd hwas (h.not_whole hscan)
  · rw [htaken, ← hall, hahead, List.append_nil]

theorem others (h : StreamFlow all s) (hscanner : s'.scanner = s.scanner)
    (hlines : s'.lines = s.lines) (htaken : s'.taken = s.taken) (hwhole : s'.Whole → s.Whole) :
    StreamFlow all s' := by
  have hahead : s'.ahead = s.ahead := by simp only [Stream.ahead, hscanner, hlines]
  refine ⟨htaken ▸ h.taken, ?_, ?_⟩
  · rw [hscanner, htaken, hahead]
    exact h.scanning
  · intro hw
    rw [hscanner, htaken]
    exact h.whole (hwhole hw)

theorem scanner {e : ScannerEvent} (h : StreamFlow all s) (hs : s.scannerNext e = some s') :
    StreamFlow all s' := by
  cases e with
  | line =>
    simp only [Stream.scannerNext] at hs
    split at hs
    · rename_i line rest hpc hlines
      cases hs
      exact h.goOn (by simp [hpc, ScannerPc.scanning])
        (by simp [Stream.taken, Stream.ahead, hpc, hlines]) rfl rfl
    · cases hs
  | eof =>
    simp only [Stream.scannerNext, Option.ite_none_right_eq_some] at hs
    obtain ⟨⟨hpc, hlines⟩, hs⟩ := hs
    cases hs
    exact h.leave (by simp [hpc, ScannerPc.scanning]) rfl rfl fun _ =>
      Or.inr (by simp [Stream.ahead, hpc, hlines, payloads])
  | fails =>
    simp only [Stream.scannerNext, Option.ite_none_right_eq_some] at hs
    obtain ⟨hpc, hs⟩ := hs
    cases hs
    refine h.leave (by simp [hpc, ScannerPc.scanning]) rfl rfl fun hw => Or.inl ?_
    simpa [Stream.Whole, endReason_set] using hw
  | panics =>
    simp only [Stream.scannerNext, Option.ite_none_right_eq_some] at hs
    obtain ⟨hpc, hs⟩ := hs
    cases hs
    exact h.leave (by simp [hpc, ScannerPc.scanning]) rfl rfl Or.inl
  | check =>
    simp only [Stream.scannerNext] at hs
    split at hs
    · rename_i line hpc
      have hscan : s.scanner.scanning = true := by simp [hpc, ScannerPc.scanning]
      split at hs
      · cases hs
        exact h.leave hscan rfl rfl fun hw => Or.inl hw
      · split at hs
        · rename_i hline
          cases hs
          exact h.goOn hscan (by simp [Stream.taken, Stream.ahead, hpc, payloads, hline]) rfl rfl
        · rename_i data hline
          cases hs
          exact h.goOn hscan (by simp [Stream.taken, Stream.ahead, hpc, payloads, hline]) rfl rfl
        · rename_i hline
          cases hs
          exact h.leave hscan rfl rfl fun _ =>
            Or.inr (by simp [Stream.ahead, hpc, payloads, hline])
    · cases hs
  | send =>
    simp only [Stream.scannerNext] at hs
    split at hs
    · rename_i data hpc
      split at hs
      · cases hs
        exact h.goOn (by simp [hpc, ScannerPc.scanning])
          (by simp [Stream.taken, Stream.ahead, hpc]) rfl rfl
      · cases hs
    · cases hs
  | leave =>
    simp only [Stream.scannerNext] at hs
    split at hs
    · rename_i data hpc
      split at hs
      · cases hs
        exact h.leave (by simp [hpc, ScannerPc.scanning]) rfl rfl fun hw => Or.inl hw
      · cases hs
    · cases hs
  | exit =>
    simp only [Stream.scannerNext] at hs
    split at hs
    · cases hs
      exact ⟨h.taken, fun hin => absurd hin Bool.false_ne_true, fun hw => ⟨rfl, (h.whole hw).2⟩⟩
    · cases hs
      exact ⟨h.taken, fun hin => absurd hin Bool.false_ne_true, fun hw => ⟨rfl, (h.whole hw).2⟩⟩
    · cases hs
      refine ⟨h.taken, fun hin => absurd hin Bool.false_ne_true, fun hw => ⟨rfl, (h.whole ?_).2⟩⟩
      simpa [Stream.Whole, endReason_set] using hw
    · cases hs
      exact ⟨h.taken, fun hin => absurd hin Bool.false_ne_true, fun hw => ⟨rfl, (h.whole hw).2⟩⟩
    · cases hs

theorem handler {e : HandlerEvent} (h : StreamFlow all s) (hs : s.handlerNext e = some s') :
    StreamFlow all s' := by
  cases e with
  | receive =>
    simp only [Stream.handlerNext] at hs
    split at hs
    · rename_i data rest hpc hchan
      cases hs
      exact h.others rfl rfl (by simp [Stream.taken, HandlerPc.inHand, hpc, hchan])
        (by simp [Stream.Whole, HandlerPc.quits, hpc])
    · rename_i hpc hchan
      split at hs
      · cases hs
        exact h.others rfl rfl (by simp [Stream.taken, HandlerPc.inHand, hpc])
          (by simp [Stream.Whole, HandlerPc.quits, hpc])
      · cases hs
    · cases hs
  | start calls panics =>
    simp only [Stream.handlerNext] at hs
    split at hs
    · rename_i data hpc
      split at hs
      · cases hs
      · cases hs
        exact h.others rfl rfl (by simp [Stream.taken, HandlerPc.inHand, hpc])
          (by simp [Stream.Whole, HandlerPc.quits, hpc])
    · cases hs
  | call =>
    simp only [Stream.handlerNext] at hs
    split at hs
    · rename_i c calls panics stopped hpc
      cases hs
      refine h.others rfl rfl (by simp [Stream.taken, HandlerPc.inHand, hpc]) ?_
      simp only [Stream.Whole, HandlerPc.quits, hpc]
      exact call_whole c
    · rename_i hpc
      cases hs
      exact h.others rfl rfl (by simp [Stream.taken, HandlerPc.inHand, hpc])
        (by simp +contextual [Stream.Whole, HandlerPc.quits, hpc])
    · rename_i stopped hpc
      cases hs
      refine h.others rfl rfl ?_ ?_
      · cases stopped <;> simp [Stream.taken, HandlerPc.inHand, hpc]
      · cases stopped <;> simp [Stream.Whole, HandlerPc.quits, hpc]
    · cases hs
  | exit =>
    simp only [Stream.handlerNext] at hs
    split at hs
    · rename_i hpc
      cases hs
      exact h.others rfl rfl (by simp [Stream.taken, HandlerPc.inHand, hpc])
        (by simp +contextual [Stream.Whole, HandlerPc.quits, hpc, endReason_set])
    · rename_i early hpc
      cases hs
      exact h.others rfl rfl (by simp [Stream.taken, HandlerPc.inHand, hpc])
        (by simp [Stream.Whole, HandlerPc.quits, hpc])
    · cases hs

theorem named (h : StreamFlow all s) (hscanner : s'.scanner = s.scanner)
    (hlines : s'.lines = s.lines) (htaken : s'.taken = s.taken) (hhandler : s'.handler = s.handler)
    (hstatus : s'.status = s.status ∨ ∃ r, r ≠ .eof ∧ r ≠ .done ∧
      s'.status = s.status.setEndReason r) : StreamFlow all s' := by
  refine h.others hscanner hlines htaken ?_
  simp only [Stream.Whole, hhandler]
  rcases hstatus with hsame | ⟨r, heof, hdone, hset⟩
  · rw [hsame]
    exact id
  · simp only [hset, endReason_set, heof, hdone, and_false, or_false]
    exact id

theorem ping {e : PingEvent} (h : StreamFlow all s) (hs : s.pingNext e = some s') :
    StreamFlow all s' := by
  cases e with
  | exit =>
    simp only [Stream.pingNext] at hs
    split at hs
    · cases hs
      exact h.named rfl rfl rfl rfl (Or.inr ⟨.panic, nofun, nofun, rfl⟩)
    · cases hs
      exact h.named rfl rfl rfl rfl (Or.inr ⟨.pingFail, nofun, nofun, rfl⟩)
    · cases hs
      exact h.named rfl rfl rfl rfl (Or.inl rfl)
    · cases hs
  | tick | leave | lock | sent | fails | panics =>
    simp only [Stream.pingNext, Option.ite_none_right_eq_some] at hs
    obtain ⟨-, hs⟩ := hs
    cases hs
    exact h.named rfl rfl rfl rfl (Or.inl rfl)

theorem caller {e : CallerEvent} (h : StreamFlow all s) (hs : s.callerNext e = some s') :
    StreamFlow all s' := by
  cases e with
  | timeout | stopped | clientGone =>
    simp only [Stream.callerNext, Option.ite_none_right_eq_some] at hs
    obtain ⟨-, hs⟩ := hs
    cases hs
    exact h.named rfl rfl rfl rfl (Or.inl rfl)
  | next =>
    simp only [Stream.callerNext] at hs
    split at hs
    · cases hs
      exact h.named rfl rfl rfl rfl (Or.inr ⟨.timeout, nofun, nofun, rfl⟩)
    · cases hs
      exact h.named rfl rfl rfl rfl (Or.inr ⟨.clientGone, nofun, nofun, rfl⟩)
    all_goals try split at hs
    all_goals cases hs <;> exact h.named rfl rfl rfl rfl (Or.inl rfl)

theorem step {e : StreamEvent} (h : StreamFlow all s) (hs : s.next e = some s') :
    StreamFlow all s' := by
  cases e with
  | scanner e => exact h.scanner hs
  | handler e => exact h.handler hs
  | ping e => exact h.ping hs
  | caller e => exact h.caller hs
  | clientLeaves =>
    simp only [Stream.next] at hs
    split at hs
    · cases hs
    · cases hs
      exact h.named rfl rfl rfl rfl (Or.inl rfl)

theorem run {pingEnabled : Bool} (h : StreamRun (streamStart lines pingEnabled) s) :
    StreamFlow (payloads lines) s := by
  induction h with
  | refl =>
    refine ⟨List.nil_prefix, fun _ => rfl, fun hw => ?_⟩
    simp [Stream.Whole, streamStart] at hw
  | tail _ hlast ih =>
    obtain ⟨e, hs⟩ := hlast
    exact ih.step hs

end StreamFlow

/-! ## Who writes, and what is closed -/

def HandlerPc.writes : HandlerPc → Bool
  | .call .. => true
  | _ => false

/-- How far the caller has come with `cleanup`. -/
def CallerPc.cleaned : CallerPc → Nat
  | .closeBody => 1
  | .stopTickers => 2
  | .wait | .returned => 3
  | _ => 0

/-- What the channels and flags say about where the goroutines are. -/
structure StreamShape (s : Stream) : Prop where
  closed : s.dataClosed = true ↔
    s.scanner = .recovered ∨ s.scanner = .stop ∨ s.scanner = .gone
  drained : s.handler = .stop false ∨ s.handler = .gone false →
    s.dataChan = [] ∧ s.dataClosed = true
  mutex : s.writeMutex = (s.handler.writes || decide (s.ping = .write))
  alone : ¬ (s.handler.writes = true ∧ s.ping = .write)
  stopped : 1 ≤ s.caller.cleaned → s.stopped = true
  body : 2 ≤ s.caller.cleaned → s.bodyClosed = true
  tickers : 3 ≤ s.caller.cleaned → s.ticking = false
  ended : s.caller = .returned →
    s.scanner = .gone ∧ (∃ early, s.handler = .gone early) ∧ s.ping = .gone

def ScannerPc.ended : ScannerPc → Bool
  | .closeData | .stop | .gone => true
  | _ => false

/-- Somebody is at a point that is only reached for a reason. -/
def Stream.Ending (s : Stream) : Prop :=
  s.stopped = true ∨ s.cancelled = true ∨ s.scanner.ended = true ∨
    (∃ early, s.handler = .stop early ∨ s.handler = .gone early) ∨
    (∃ calls panics, s.handler = .call calls panics true) ∨ s.ping = .stop ∨
    (s.caller ≠ .select ∧ s.caller ≠ .timedOut ∧ s.caller ≠ .clientLeft)

theorem StreamShape.step {e : StreamEvent} (h : StreamShape s) (hs : s.next e = some s') :
    StreamShape s' := by
  obtain ⟨hclosed, hdrained, hmutex, halone, hstopped, hbody, htickers, hended⟩ := h
  cases e with
  | scanner e =>
    cases e <;> simp only [Stream.next, Stream.scannerNext] at hs <;> (repeat' split at hs) <;>
      cases hs <;> constructor <;> grind
  | handler e =>
    cases e <;> simp only [Stream.next, Stream.handlerNext] at hs <;> (repeat' split at hs) <;>
      cases hs <;> constructor <;> grind [HandlerPc.writes]
  | ping e =>
    cases e <;> simp only [Stream.next, Stream.pingNext] at hs <;> (repeat' split at hs) <;>
      cases hs <;> constructor <;> grind
  | caller e =>
    cases e <;> simp only [Stream.next, Stream.callerNext] at hs <;> (repeat' split at hs) <;>
      cases hs <;> constructor <;> grind [CallerPc.cleaned]
  | clientLeaves =>
    simp only [Stream.next] at hs
    split at hs <;> cases hs
    exact ⟨hclosed, hdrained, hmutex, halone, hstopped, hbody, htickers, hended⟩

theorem endReason_step {e : StreamEvent} (hs : s.next e = some s')
    (h : s.status.endReason = some r) : s'.status.endReason = some r := by
  have hset : ∀ reason, (s.status.setEndReason reason).endReason = some r :=
    fun reason => endReason_set.mpr (Or.inl h)
  have hcall : ∀ c, (s.status.call c).endReason = some r := by
    intro c
    cases c with
    | error => exact h
    | stop err => cases err <;> exact hset _
    | done => exact hset _
  cases e with
  | scanner e =>
    cases e <;> simp only [Stream.next, Stream.scannerNext] at hs <;> (repeat' split at hs) <;>
      cases hs <;> first | exact h | exact hset _
  | handler e =>
    cases e <;> simp only [Stream.next, Stream.handlerNext] at hs <;> (repeat' split at hs) <;>
      cases hs <;> first | exact h | exact hset _ | exact hcall _
  | ping e =>
    cases e <;> simp only [Stream.next, Stream.pingNext] at hs <;> (repeat' split at hs) <;>
      cases hs <;> first | exact h | exact hset _
  | caller e =>
    cases e <;> simp only [Stream.next, Stream.callerNext] at hs <;> (repeat' split at hs) <;>
      cases hs <;> first | exact h | exact hset _
  | clientLeaves =>
    simp only [Stream.next] at hs
    split at hs <;> cases hs
    exact h

theorem set_ne_none {status : StreamStatus} : (status.setEndReason reason).endReason ≠ none := by
  cases h : status.endReason <;> simp [StreamStatus.setEndReason, h]

theorem call_ne_none {status : StreamStatus} {c : StreamCall} (h : c.stops = true) :
    (status.call c).endReason ≠ none := by
  cases c with
  | error => cases h
  | stop err => cases err <;> exact set_ne_none
  | done => exact set_ne_none

/-- The reason is known, or the scanner is just about to give it. -/
def Stream.Named (s : Stream) : Prop := s.status.endReason ≠ none ∨ s.scanner = .recovered

theorem named_step {e : StreamEvent} (hs : s.next e = some s') (h : s.Named) : s'.Named := by
  rcases h with hreason | hrecovered
  · obtain ⟨r, hr⟩ := Option.ne_none_iff_exists'.mp hreason
    exact Or.inl (by rw [endReason_step hs hr]; exact Option.some_ne_none r)
  unfold Stream.Named
  cases e with
  | scanner e =>
    cases e <;> simp [Stream.next, Stream.scannerNext, hrecovered] at hs
    subst hs
    exact Or.inl set_ne_none
  | handler e =>
    cases e <;> simp only [Stream.next, Stream.handlerNext] at hs <;> (repeat' split at hs) <;>
      cases hs <;> exact Or.inr hrecovered
  | ping e =>
    cases e <;> simp only [Stream.next, Stream.pingNext] at hs <;> (repeat' split at hs) <;>
      cases hs <;> exact Or.inr hrecovered
  | caller e =>
    cases e <;> simp only [Stream.next, Stream.callerNext] at hs <;> (repeat' split at hs) <;>
      cases hs <;> exact Or.inr hrecovered
  | clientLeaves =>
    simp only [Stream.next] at hs
    split at hs <;> cases hs
    exact Or.inr hrecovered

theorem ending_step {e : StreamEvent} (hs : s.next e = some s') (hshape : StreamShape s)
    (h : s.Ending → s.Named) (hending : s'.Ending) : s'.Named := by
  obtain ⟨hclosed, -, -, -, -, -, -, -⟩ := hshape
  by_cases hwas : s.Ending
  · exact named_step hs (h hwas)
  unfold Stream.Ending at hwas hending
  unfold Stream.Named
  cases e with
  | scanner e =>
    cases e <;> simp only [Stream.next, Stream.scannerNext] at hs <;> (repeat' split at hs) <;>
      cases hs <;> grind [set_ne_none, ScannerPc.ended]
  | handler e =>
    cases e <;> simp only [Stream.next, Stream.handlerNext] at hs <;> (repeat' split at hs) <;>
      cases hs <;> grind [set_ne_none, call_ne_none, ScannerPc.ended]
  | ping e =>
    cases e <;> simp only [Stream.next, Stream.pingNext] at hs <;> (repeat' split at hs) <;>
      cases hs <;> grind [set_ne_none]
  | caller e =>
    cases e <;> simp only [Stream.next, Stream.callerNext] at hs <;> (repeat' split at hs) <;>
      cases hs <;> grind [set_ne_none]
  | clientLeaves =>
    simp only [Stream.next] at hs
    split at hs <;> cases hs
    exact absurd hending hwas

/-! ## The caller returns -/

/-- The steps that come by themselves: a `Scan` returns once the body is closed, and the
ping's select once one of its channels is. -/
def Stream.due (s : Stream) : StreamEvent → Prop
  | .scanner .line | .scanner .eof | .scanner .fails | .scanner .panics => s.bodyClosed = true
  | .ping .leave => s.stopped = true ∨ s.cancelled = true ∨ s.clientGone = true
  | .ping .tick | .caller .timeout | .clientLeaves => False
  | _ => True

def StreamDue (s s' : Stream) : Prop := ∃ e, s.due e ∧ s.next e = some s'

def ScannerPc.left : ScannerPc → Nat
  | .send _ => 6
  | .scan => 5
  | .check _ => 4
  | .panicked => 3
  | .closeData | .recovered => 2
  | .stop => 1
  | .gone => 0

def HandlerPc.left : HandlerPc → Nat
  | .lock _ => 6
  | .call .. => 5
  | .receive | .panicked => 2
  | .stop _ => 1
  | .gone _ => 0

def HandlerPc.calls : HandlerPc → Nat
  | .call calls _ _ => calls.length
  | _ => 0

def PingPc.left : PingPc → Nat
  | .lock => 5
  | .write => 4
  | .idle => 3
  | .failed _ => 2
  | .stop => 1
  | .gone => 0

/-- What is left to do once the caller waits: steps, and in them calls. -/
def Stream.left (s : Stream) : ℕ ×ₗ ℕ :=
  toLex (7 * s.scanner.left + 6 * s.dataChan.length + s.handler.left + s.ping.left
    + (if s.caller = .returned then 0 else 1) + (if s.clientGone then 0 else 1), s.handler.calls)

theorem left_step {e : StreamEvent} (hshape : StreamShape s) (hwait : s.caller = .wait)
    (hs : s.next e = some s') :
    (s'.caller = .wait ∨ s'.caller = .returned) ∧ s'.left < s.left := by
  obtain ⟨-, -, -, -, hstopped, -, htickers, -⟩ := hshape
  rw [hwait] at hstopped htickers
  have hstopped := hstopped (by decide)
  have htickers := htickers (by decide)
  cases e with
  | scanner e =>
    cases e <;> simp only [Stream.next, Stream.scannerNext] at hs <;> (repeat' split at hs) <;>
      cases hs <;> simp_all [Stream.left, Prod.Lex.toLex_lt_toLex, ScannerPc.left]
    omega
  | handler e =>
    cases e <;> simp only [Stream.next, Stream.handlerNext] at hs <;> (repeat' split at hs) <;>
      cases hs <;> simp_all [Stream.left, Prod.Lex.toLex_lt_toLex, HandlerPc.left, HandlerPc.calls]
    omega
  | ping e =>
    cases e <;> simp only [Stream.next, Stream.pingNext] at hs <;> (repeat' split at hs) <;>
      cases hs <;> simp_all [Stream.left, Prod.Lex.toLex_lt_toLex, PingPc.left]
  | caller e =>
    cases e <;> simp only [Stream.next, Stream.callerNext] at hs <;> (repeat' split at hs) <;>
      cases hs <;> simp_all [Stream.left, Prod.Lex.toLex_lt_toLex]
  | clientLeaves =>
    simp only [Stream.next] at hs
    split at hs <;> cases hs
    simp_all [Stream.left, Prod.Lex.toLex_lt_toLex]

theorem exists_due (hshape : StreamShape s) (hwait : s.caller = .wait) :
    ∃ s', StreamDue s s' := by
  obtain ⟨hclosed, -, hmutex, -, hstopped, hbody, -, -⟩ := hshape
  rw [hwait] at hstopped hbody
  have hstopped := hstopped (by decide)
  have hbody := hbody (by decide)
  have of_next : ∀ e, s.due e → (s.next e).isSome = true → ∃ s', StreamDue s s' := by
    intro e hdue hnext
    obtain ⟨s', hs⟩ := Option.isSome_iff_exists.mp hnext
    exact ⟨s', e, hdue, hs⟩
  cases hscanner : s.scanner with
  | scan =>
    exact of_next (.scanner .fails) hbody (by simp [Stream.next, Stream.scannerNext, hscanner])
  | check line =>
    exact of_next (.scanner .check) trivial
      (by simp [Stream.next, Stream.scannerNext, hscanner, hstopped])
  | send data =>
    exact of_next (.scanner .leave) trivial
      (by simp [Stream.next, Stream.scannerNext, hscanner, hstopped])
  | closeData | panicked | recovered | stop =>
    exact of_next (.scanner .exit) trivial (by simp [Stream.next, Stream.scannerNext, hscanner])
  | gone =>
    have hclosed := hclosed.mpr (Or.inr (Or.inr hscanner))
    cases hhandler : s.handler with
    | receive =>
      refine of_next (.handler .receive) trivial ?_
      cases hchan : s.dataChan <;>
        simp [Stream.next, Stream.handlerNext, hhandler, hchan, hclosed]
    | lock data =>
      by_cases hping : s.ping = .write
      · exact of_next (.ping .sent) trivial (by simp [Stream.next, Stream.pingNext, hping])
      · refine of_next (.handler (.start [] false)) trivial ?_
        simp [Stream.next, Stream.handlerNext, hhandler, hmutex, HandlerPc.writes, hping]
    | call calls panics stopped =>
      refine of_next (.handler .call) trivial ?_
      cases calls <;> cases panics <;> simp [Stream.next, Stream.handlerNext, hhandler]
    | panicked | stop early =>
      exact of_next (.handler .exit) trivial (by simp [Stream.next, Stream.handlerNext, hhandler])
    | gone early =>
      cases hping : s.ping with
      | idle =>
        refine of_next (.ping .leave) (Or.inl hstopped) ?_
        simp [Stream.next, Stream.pingNext, hping]
      | lock =>
        refine of_next (.ping .lock) trivial ?_
        simp [Stream.next, Stream.pingNext, hping, hmutex, hhandler, HandlerPc.writes]
      | write => exact of_next (.ping .sent) trivial (by simp [Stream.next, Stream.pingNext, hping])
      | failed panicked =>
        refine of_next (.ping .exit) trivial ?_
        cases panicked <;> simp [Stream.next, Stream.pingNext, hping]
      | stop => exact of_next (.ping .exit) trivial (by simp [Stream.next, Stream.pingNext, hping])
      | gone =>
        refine of_next (.caller .next) trivial ?_
        simp [Stream.next, Stream.callerNext, hwait, hscanner, hhandler, hping]

/-- The steps of the caller until it waits. -/
def CallerPc.before : CallerPc → Nat
  | .select => 6
  | .timedOut | .clientLeft => 5
  | .cancel => 4
  | .stop => 3
  | .closeBody => 2
  | .stopTickers => 1
  | .wait | .returned => 0

theorem caller_moves (h : 0 < s.caller.before) :
    ∃ s', StreamStep s s' ∧ s'.caller.before < s.caller.before := by
  cases hcaller : s.caller with
  | select =>
    refine ⟨_, ⟨.caller .timeout, by simp only [Stream.next, Stream.callerNext, hcaller]; rfl⟩, ?_⟩
    simp [CallerPc.before]
  | timedOut | clientLeft | cancel | stop | closeBody | stopTickers =>
    refine ⟨_, ⟨.caller .next, by simp only [Stream.next, Stream.callerNext, hcaller]; rfl⟩, ?_⟩
    simp [CallerPc.before]
  | wait | returned => simp [hcaller, CallerPc.before] at h

theorem wait_of_before (h : s.caller.before = 0) (hreturned : ¬ s.caller = .returned) :
    s.caller = .wait := by
  cases hcaller : s.caller <;> simp_all [CallerPc.before]

theorem exists_wait : ∃ s', StreamRun s s' ∧ s'.caller.before = 0 := by
  induction hn : s.caller.before using Nat.strong_induction_on generalizing s with
  | _ n ih =>
    obtain hzero | hpos := Nat.eq_zero_or_pos s.caller.before
    · exact ⟨s, Relation.ReflTransGen.refl, hzero⟩
    · obtain ⟨s', hs, hlt⟩ := caller_moves hpos
      obtain ⟨t, ht, hwait⟩ := ih _ (hn ▸ hlt) rfl
      exact ⟨t, Relation.ReflTransGen.head hs ht, hwait⟩

/-! ## Runs -/

variable {pingEnabled : Bool}

theorem shape_run (h : StreamRun (streamStart lines pingEnabled) s) : StreamShape s := by
  induction h with
  | refl =>
    refine ⟨by simp [streamStart], by simp [streamStart], ?_, ?_, ?_, ?_, ?_, ?_⟩ <;>
      cases pingEnabled <;> simp [streamStart, HandlerPc.writes, CallerPc.cleaned]
  | tail _ hlast ih =>
    obtain ⟨e, hs⟩ := hlast
    exact ih.step hs

theorem ending_run (h : StreamRun (streamStart lines pingEnabled) s) :
    s.Ending → s.Named := by
  induction h with
  | refl =>
    intro hending
    cases pingEnabled <;> simp [Stream.Ending, streamStart, ScannerPc.ended] at hending
  | tail hrun hlast ih =>
    obtain ⟨e, hs⟩ := hlast
    exact ending_step hs (shape_run hrun) ih

theorem streamRun_of_events (events : List StreamEvent) {s s' : Stream}
    (h : events.foldlM Stream.next s = some s') : StreamRun s s' := by
  induction events generalizing s with
  | nil =>
    cases h
    exact Relation.ReflTransGen.refl
  | cons e rest ih =>
    simp only [List.foldlM_cons, Option.bind_eq_bind, Option.bind_eq_some_iff] at h
    obtain ⟨t, ht, hrest⟩ := h
    exact Relation.ReflTransGen.head ⟨e, ht⟩ (ih hrest)

def demoLines : List String := ["data: hi", ": ping", "data: [DONE]"]

/-- The scanner reads these to the end, `dataHandler` is called once and notes an error, the
caller sees `stopChan` and cleans up. -/
def demoEvents : List StreamEvent :=
  [.scanner .line, .scanner .check, .scanner .send, .scanner .line, .scanner .check,
    .handler .receive, .handler (.start [.error] false), .scanner .line, .scanner .check,
    .scanner .exit, .scanner .exit, .handler .call, .handler .call, .handler .receive,
    .handler .exit, .caller .stopped, .caller .next, .caller .next, .caller .next, .caller .next]

theorem demo_waits : ∃ s, StreamRun (streamStart demoLines false) s ∧ s.caller = .wait ∧
    s.stopped = true :=
  ⟨_, streamRun_of_events demoEvents rfl, rfl, rfl⟩

theorem demo_returned : ∃ s, StreamRun (streamStart demoLines false) s ∧ s.caller = .returned ∧
    s.status.endReason = some .done ∧ s.handler.quits = false :=
  ⟨_, streamRun_of_events (demoEvents ++ [.caller .next]) rfl, rfl, rfl, rfl⟩

/-- **Payloads in order.** What `dataHandler` has been called with is always a prefix of
the payloads of the answer, and once the caller has returned it is all of them, if the
answer came to its end and `dataHandler` neither stopped the stream nor panicked. -/
theorem handled_in_order (h : StreamRun (streamStart lines pingEnabled) s) :
    s.handled <+: payloads lines ∧
      (s.caller = .returned → s.status.endReason = some .eof ∨ s.status.endReason = some .done →
        s.handler.quits = false → s.handled = payloads lines) := by
  have hflow := StreamFlow.run h
  have hshape := shape_run h
  refine ⟨?_, ?_⟩
  · refine List.IsPrefix.trans ?_ hflow.taken
    exact (List.prefix_append _ _).trans (List.prefix_append _ _)
  · intro hreturned hreason hquits
    obtain ⟨-, ⟨early, hhandler⟩, -⟩ := hshape.ended hreturned
    rw [hhandler] at hquits
    obtain rfl : early = false := hquits
    obtain ⟨hchan, -⟩ := hshape.drained (Or.inr hhandler)
    have hwhole : s.Whole := hreason.imp_right fun hdone => ⟨hdone, by rw [hhandler]; rfl⟩
    obtain ⟨-, hall⟩ := hflow.whole hwhole
    simpa [Stream.taken, hhandler, HandlerPc.inHand, hchan] using hall

theorem demo_in_order : ∃ s, StreamRun (streamStart demoLines false) s ∧
    s.handled <+: payloads demoLines ∧ s.handled = payloads demoLines := by
  obtain ⟨s, hrun, hreturned, hreason, hquits⟩ := demo_returned
  obtain ⟨horder, hall⟩ := handled_in_order hrun
  exact ⟨s, hrun, horder, hall hreturned (Or.inr hreason) hquits⟩

/-- **The caller returns.** From every state some run lets it return, and once it waits for
the goroutines nothing can keep it from it: each of them ends, whatever the upstream, the
client and the scheduler do. -/
theorem stream_returns (h : StreamRun (streamStart lines pingEnabled) s) :
    (∃ s', StreamRun s s' ∧ s'.caller = .returned) ∧
      (s.caller = .wait →
        Progress.Inevitable StreamDue StreamStep (fun s => s.caller = .returned) s) := by
  have hwaits : ∀ s, StreamShape s → s.caller.before = 0 →
      Progress.Inevitable StreamDue StreamStep (fun s => s.caller = .returned) s := by
    intro s hshape hbefore
    refine Progress.inevitable_of_measure (fun s => StreamShape s ∧ s.caller.before = 0)
      Stream.left ?_ ?_ ⟨hshape, hbefore⟩
    · rintro s s' ⟨hshape, hbefore⟩ hreturned ⟨e, hs⟩
      obtain ⟨hcaller, hlt⟩ := left_step hshape (wait_of_before hbefore hreturned) hs
      exact ⟨⟨hshape.step hs, by obtain hc | hc := hcaller <;> rw [hc] <;> rfl⟩, hlt⟩
    · rintro s ⟨hshape, hbefore⟩ hreturned
      exact exists_due hshape (wait_of_before hbefore hreturned)
  refine ⟨?_, fun hwait => hwaits s (shape_run h) (by rw [hwait]; rfl)⟩
  obtain ⟨t, ht, hbefore⟩ := exists_wait (s := s)
  obtain ⟨s', hs', hreturned⟩ := (hwaits t (shape_run (h.trans ht)) hbefore).reaches
    fun ⟨e, _, hs⟩ => ⟨e, hs⟩
  exact ⟨s', ht.trans hs', hreturned⟩

theorem demo_returns : ∃ s, StreamRun (streamStart demoLines false) s ∧
    Progress.Inevitable StreamDue StreamStep (fun s => s.caller = .returned) s := by
  obtain ⟨s, hrun, hwait, -⟩ := demo_waits
  exact ⟨s, hrun, (stream_returns hrun).2 hwait⟩

/-- **One end reason.** When `stopChan` is closed, an end reason has been given, unless the
scanner has panicked and is just about to give it; when the caller has returned there is
one, and a reason that was given is never replaced. -/
theorem end_reason_kept (h : StreamRun (streamStart lines pingEnabled) s) :
    (s.stopped = true → s.status.endReason ≠ none ∨ s.scanner = .recovered) ∧
      (s.caller = .returned → s.status.endReason ≠ none) ∧
      ∀ r, s.status.endReason = some r → ∀ s', StreamRun s s' → s'.status.endReason = some r := by
  refine ⟨fun hstopped => ending_run h (Or.inl hstopped), fun hreturned => ?_,
    fun r hr s' hrun => ?_⟩
  · have hscanner := ((shape_run h).ended hreturned).1
    refine (ending_run h (Or.inr (Or.inr (Or.inl ?_)))).resolve_right ?_ <;> rw [hscanner]
    · rfl
    · exact ScannerPc.noConfusion
  · induction hrun with
    | refl => exact hr
    | tail _ hlast ih =>
      obtain ⟨e, hs⟩ := hlast
      exact endReason_step hs ih

theorem demo_end_reason : ∃ s, StreamRun (streamStart demoLines false) s ∧
    s.caller = .returned ∧ s.status.endReason ≠ none ∧
      ∀ s', StreamRun s s' → s'.status.endReason = some .done := by
  obtain ⟨s, hrun, hreturned, hdone, -⟩ := demo_returned
  obtain ⟨-, hreason, hkept⟩ := end_reason_kept hrun
  exact ⟨s, hrun, hreturned, hreason hreturned, hkept .done hdone⟩

/-- **Writes to the client.** `dataHandler` and the ping never write at the same time, and
after the caller has returned nobody does anything more. -/
theorem writes_alone (h : StreamRun (streamStart lines pingEnabled) s) :
    ¬ (s.handler.writes = true ∧ s.ping = .write) ∧
      (s.caller = .returned → ∀ e s', s.next e = some s' → e = .clientLeaves) := by
  have hshape := shape_run h
  refine ⟨hshape.alone, ?_⟩
  intro hreturned e s' hs
  obtain ⟨hscanner, ⟨early, hhandler⟩, hping⟩ := hshape.ended hreturned
  cases e with
  | scanner e => cases e <;> simp [Stream.next, Stream.scannerNext, hscanner] at hs
  | handler e => cases e <;> simp [Stream.next, Stream.handlerNext, hhandler] at hs
  | ping e => cases e <;> simp [Stream.next, Stream.pingNext, hping] at hs
  | caller e => cases e <;> simp [Stream.next, Stream.callerNext, hreturned] at hs
  | clientLeaves => rfl

theorem demo_writes : ∃ s, StreamRun (streamStart demoLines false) s ∧
    ∀ e s', s.next e = some s' → e = .clientLeaves := by
  obtain ⟨s, hrun, hreturned, -⟩ := demo_returned
  exact ⟨s, hrun, (writes_alone hrun).2 hreturned⟩

end YouBox.StreamScanner
