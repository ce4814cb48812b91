import RtMessage.Header
import RtMessage.Json
import RtMessage.Lib.Loop
import RtMessage.Os

/- `rtConnection`: the client side of the library.

   Sending, connecting and re-registering call each other: a send that fails with
   `EPIPE` or `ENOTCONN` reconnects, and reconnecting sends a SUBSCRIBE for every
   listener. The recursion is on a bound, `fuel`, that also bounds the loops; a
   result other than `outOfFuel` does not depend on it.

   The callbacks of the application are named by a number and have no effect on
   the connection; the library's own, `onInboxMessage`, has the effect it has in
   the source. The part of `rtConnection_ReadUntil` that could return
   `RT_ERROR_TIMEOUT` is compiled out, so the timeout only bounds the wait of
   `rtConnection_SendRequest`.

   Not modelled are the texts of the endpoints that `rtConnection_ConnectAndRegister`
   logs, which a unix path of 57 bytes or more carries out of their 64-byte buffers
   (`address_text_round_trip`), and the `fd_set` that `rtConnection_ReadUntil` fills and
   does not use. So endpoints are those whose text fits, and descriptors those that fit
   a set. -/
namespace RtMessage
open Lib

def RTMSG_LISTENERS_MAX : Nat := 64
abbrev RTMSG_SEND_BUFFER_SIZE : Nat := 8192

inductive AddressFamily where
  | unspec | inet | inet6 | unix
  deriving DecidableEq, Repr

inductive RtMessageCallback where
  | onInboxMessage
  | user (id : Nat)
  deriving DecidableEq, Repr

structure RtListener where
  inUse : Bool
  expression : Bytes
  subscriptionId : UInt32
  callback : Option RtMessageCallback
  deriving DecidableEq, Repr

def RtListener.free : RtListener := ⟨false, [], 0, none⟩

structure RtConnection where
  fd : Option Nat
  remoteFamily : AddressFamily
  sendBuffer : CArray RTMSG_SEND_BUFFER_SIZE
  recvBuffer : CArray RTMSG_SEND_BUFFER_SIZE
  sequenceNumber : UInt32
  inboxName : Bytes
  listeners : List RtListener
  listeners_size : listeners.length = RTMSG_LISTENERS_MAX
  response : Option CJson

/-- The connection that `rtConnection_CreateWithConfig` sets up before it connects. -/
def rtConnectionInit (remoteFamily : AddressFamily) (inboxName : Bytes) : RtConnection where
  fd := none
  remoteFamily := remoteFamily
  sendBuffer := .zero RTMSG_SEND_BUFFER_SIZE
  recvBuffer := .zero RTMSG_SEND_BUFFER_SIZE
  sequenceNumber := 1
  inboxName := inboxName.take (RTMSG_HEADER_MAX_TOPIC_LENGTH - 1)
  listeners := List.replicate RTMSG_LISTENERS_MAX .free
  listeners_size := List.length_replicate
  response := none

/-- A connection on socket 0, before its first listener. -/
def openConnection : RtConnection :=
  { rtConnectionInit .unix (ascii "app.INBOX.1") with fd := some 0 }

/-- A connection on socket 0 with one listener, which has the subscription id 1. -/
def listeningConnection : RtConnection :=
  { openConnection with
    listeners := openConnection.listeners.set 0 ⟨true, ascii "A.B", 1, some (.user 0)⟩
    listeners_size := by rw [List.length_set, openConnection.listeners_size] }

/-- A callback as it was made: the listener's slot, the header, and the bytes. -/
structure CallbackCall where
  slot : Nat
  callback : RtMessageCallback
  hdr : RtMessageHeader
  buff : Bytes
  n : UInt32
  deriving DecidableEq, Repr

/-- `next_id`, a static of the process, is passed along. -/
def rtConnectionGetNextSubscriptionId (nextId : UInt32) : UInt32 × UInt32 := (nextId, nextId + 1)

def rtConnectionShouldReregister (e : RtError) : Bool :=
  e == rtErrorFromErrno .ENOTCONN || e == rtErrorFromErrno .EPIPE

/-- Starting the daemon reports success whatever `system` returns. -/
def rtConnectionEnsureRoutingDaemon : RtError := .ok

def rtSocketStorageGetLength (family : AddressFamily) : Except Fault Unit :=
  if family = .unspec then .error .abort else .ok ()

/-- What a call on a connection returns. -/
abbrev ConResult := Except Fault (RtError × RtConnection × Os)

/-! Connecting. -/

def subscribeTopic : Bytes := ascii "_RTROUTED.INBOX.SUBSCRIBE"

/-- The message that asks the router for a route. -/
def subscribeMessage (expression : Bytes) (id : UInt32) : CJson :=
  rtMessageSetInt32 (rtMessageSetString rtMessageCreate (ascii "topic") expression)
    (ascii "route_id") (toInt32 id)

structure ConnectState where
  retry : Nat
  connected : Bool
  os : Os

/-- `while (retry <= 3)`, left by `break` once connected. -/
def ConnectState.goesOn (s : ConnectState) : Bool := s.retry ≤ 3 && !s.connected

/-- One turn of the connect loop: only `ECONNREFUSED` counts as a retry. -/
def connectTurn (s : ConnectState) : Except Fault ConnectState :=
  match s.os.connect with
  | (none, os) => .ok { s with connected := true, os }
  | (some .ECONNREFUSED, os) => .ok { s with retry := s.retry + 1, os }
  | (some _, os) => .ok { s with os }

/-- The subscriptions sent again. Sending leaves the listeners as they are. -/
def registerListeners (sendMessage : RtConnection → CJson → Bytes → Os → ConResult) :
    List RtListener → RtConnection → Os → Except Fault (RtConnection × Os)
  | [], con, os => .ok (con, os)
  | l :: rest, con, os =>
    if l.inUse then do
      let (_, con, os) ←
        sendMessage con (subscribeMessage l.expression l.subscriptionId) subscribeTopic os
      registerListeners sendMessage rest con os
    else registerListeners sendMessage rest con os

/-- How the connect loop ended is not looked at. -/
def rtConnectionConnectAndRegister
    (sendMessage : RtConnection → CJson → Bytes → Os → ConResult) (fuel : Nat)
    (con : RtConnection) (os : Os) : ConResult := do
  rtSocketStorageGetLength con.remoteFamily
  match os.socket with
  | (.error e, os) => return (rtErrorFromErrno e, { con with fd := none }, os)
  | (.ok sock, os) =>
    let con := { con with fd := some sock }
    let s ← loop .outOfFuel ConnectState.goesOn connectTurn fuel ⟨0, false, os⟩
    let (con, os) ← registerListeners sendMessage con.listeners con s.os
    return (.ok, con, os)

/-! Sending. -/

/-- The header of a frame to be sent, before encoding. The topics are cut at 127
    bytes; the reply topic's length field is not. -/
def sendHeader (con : RtConnection) (topic : Bytes) (n : UInt32) (replyTopic : Option Bytes)
    (flags : UInt32) : RtMessageHeader :=
  let t := rtMessageHeaderInit.topic.strncpy topic 127 (by decide)
  { rtMessageHeaderInit with
    payloadLength := n
    topic := t
    topicLength := UInt32.ofNat t.str.length
    replyTopic := match replyTopic with
      | some r => rtMessageHeaderInit.replyTopic.strncpy r 127 (by decide)
      | none => rtMessageHeaderInit.replyTopic
    replyTopicLength := match replyTopic with
      | some r => UInt32.ofNat r.length
      | none => 0
    sequenceNumber := con.sequenceNumber
    flags := flags }

/-- `err` after a `send` of `len` bytes: kept if all were taken. -/
def sendError (err : RtError) (len : Nat) : Except Errno Nat → RtError
  | .ok k => if k = len then err else .fail
  | .error e => rtErrorFromErrno e

/-- The sends of one attempt: the header, and the payload if no error is left in `err`. -/
def attemptSends (call : Nat) (header : RtMessageHeader) (buff data : Bytes) (err : RtError)
    (fd : Option Nat) (os : Os) : RtError × Os :=
  let (sent, os) := os.send fd call .header data
  let err := sendError err header.headerLength.toNat sent
  if err = .ok then
    let (sent, os) := os.send fd call .payload (buff.take header.payloadLength.toNat)
    (sendError err header.payloadLength.toNat sent, os)
  else (err, os)

/-- What follows an attempt to send or to receive: a connection that was lost is made
    again, and the error is that of making it. -/
def reregister (reconnect : RtConnection → Os → ConResult) (err : RtError)
    (con : RtConnection) (os : Os) : ConResult :=
  if err ≠ .ok && rtConnectionShouldReregister err then
    if rtConnectionEnsureRoutingDaemon = .ok then reconnect con os
    else .ok (rtConnectionEnsureRoutingDaemon, con, os)
  else .ok (err, con, os)

/-- The retry loop, with `left` attempts after this one. The error of an attempt is
    still there in the next one, so a retry sends the header and not the payload. -/
def sendAttempts (reconnect : RtConnection → Os → ConResult) (call : Nat)
    (header : RtMessageHeader) (buff : Bytes) :
    Nat → RtError → RtConnection → Os → ConResult
  | left, err, con, os => do
    let data ← con.sendBuffer.read 0 header.headerLength.toNat
    let (err, os) := attemptSends call header buff data err con.fd os
    let (err, con, os) ← reregister reconnect err con os
    if err = .ok then return (err, con, os)
    match left with
    | 0 => return (err, con, os)
    | left+1 => sendAttempts reconnect call header buff left err con os

def rtConnectionSendInternal (J : CJsonLib) : Nat → RtConnection → Bytes → Bytes →
    Option Bytes → UInt32 → Os → ConResult
  | 0, _, _, _, _, _, _ => .error .outOfFuel
  | fuel+1, con, topic, buff, replyTopic, flags, os => do
    let (call, os) := os.beginCall
    let header := sendHeader con topic (UInt32.ofNat buff.length) replyTopic flags
    let con := { con with sequenceNumber := con.sequenceNumber + 1 }
    let (header, encoded) := rtMessageHeaderEncode header
    let sendBuffer ← con.sendBuffer.write 0 encoded
    let con := { con with sendBuffer }
    let sendMessage con m topic os :=
      rtConnectionSendInternal J fuel con topic (rtMessageToByteArray J m) none 0 os
    sendAttempts (rtConnectionConnectAndRegister sendMessage fuel) call header buff 2 .ok con os

def rtConnectionSendBinary (J : CJsonLib) (fuel : Nat) (con : RtConnection) (topic p : Bytes)
    (os : Os) : ConResult :=
  rtConnectionSendInternal J fuel con topic p none 0 os

def rtConnectionSendMessage (J : CJsonLib) (fuel : Nat) (con : RtConnection) (msg : CJson)
    (topic : Bytes) (os : Os) : ConResult :=
  rtConnectionSendBinary J fuel con topic (rtMessageToByteArray J msg) os

def rtConnectionSendResponse (J : CJsonLib) (fuel : Nat) (con : RtConnection)
    (requestHdr : RtMessageHeader) (res : CJson) (os : Os) : ConResult :=
  rtConnectionSendInternal J fuel con requestHdr.replyTopic.str (rtMessageToByteArray J res)
    (some requestHdr.topic.str) rtMessageFlagsResponse os

/-! The error reply the router sends to a requester. -/

def noRouteMessage : CJson :=
  let msg := rtMessageSetString rtMessageCreate (ascii "name") (ascii " ")
  let msg := rtMessageSetString msg (ascii "value") (ascii " ")
  let msg := rtMessageSetString msg (ascii "status_msg")
    (ascii "No Route found for this Parameter")
  let msg := rtMessageSetInt32 msg (ascii "status") 1
  rtMessageAddMessage rtMessageCreate (ascii "result") msg

def noRouteTopic : Bytes := ascii "NO.ROUTE.RESPONSE"

/-- `t_con`: every field zero but the descriptor and the buffers. -/
def errorConnection (fd : Nat) : RtConnection :=
  { rtConnectionInit .unspec [] with fd := some fd, sequenceNumber := 0 }

def rtConnectionSendErrorMessageToCaller (J : CJsonLib) (fuel : Nat) (fd : Nat)
    (requestHeader : RtMessageHeader) (os : Os) : Except Fault (RtError × Os) := do
  let topic ← rtMessageHeaderInit.topic.strcpy noRouteTopic
  let replyTopic ← rtMessageHeaderInit.replyTopic.strcpy requestHeader.replyTopic.str
  let newHeader := { rtMessageHeaderInit with topic, replyTopic }
  let (_, _, os) ← rtConnectionSendResponse J fuel (errorConnection fd) newHeader noRouteMessage os
  return (.ok, os)

/-! Listeners. -/

/-- The state of a process that a call on one of its connections sees. -/
structure AddResult where
  err : RtError
  con : RtConnection
  nextId : UInt32
  os : Os

def rtConnectionAddListener (J : CJsonLib) (fuel : Nat) (con : RtConnection)
    (expression : Bytes) (callback : RtMessageCallback) (nextId : UInt32) (os : Os) :
    Except Fault AddResult :=
  match con.listeners.findIdx? (fun l => !l.inUse) with
  | none => .ok ⟨rtErrorFromErrno .ENOMEM, con, nextId, os⟩
  | some i => do
    let (id, nextId) := rtConnectionGetNextSubscriptionId nextId
    let con := { con with
      listeners := con.listeners.set i ⟨true, expression, id, some callback⟩
      listeners_size := by simp [con.listeners_size] }
    let (_, con, os) ←
      rtConnectionSendMessage J fuel con (subscribeMessage expression id) subscribeTopic os
    return ⟨.ok, con, nextId, os⟩

/-! Receiving. -/

structure ReadState where
  bytesRead : Nat
  /-- the error the read has ended with -/
  err : Option RtError
  buffer : CArray RTMSG_SEND_BUFFER_SIZE
  os : Os

def ReadState.goesOn (count : Int) (s : ReadState) : Bool :=
  (s.bytesRead : Int) < count && s.err.isNone

/-- One turn of the read loop: `count` bytes are wanted at index `off`. -/
def readTurn (fd : Option Nat) (off : Nat) (count : Int) (s : ReadState) :
    Except Fault ReadState := do
  match ← s.os.recv fd (count - s.bytesRead).toNat with
  | (.ok [], os) => return { s with err := some (rtErrorFromErrno .ENOTCONN), os }
  | (.ok bs, os) =>
    let buffer ← s.buffer.write (off + s.bytesRead) bs
    return { s with bytesRead := s.bytesRead + bs.length, buffer, os }
  | (.error .EINTR, os) => return { s with os }
  | (.error e, os) => return { s with err := some (rtErrorFromErrno e), os }

def rtConnectionReadUntil (fuel : Nat) (con : RtConnection) (off : Nat) (count : Int)
    (os : Os) : ConResult := do
  let s ← loop .outOfFuel (ReadState.goesOn count) (readTurn con.fd off count) fuel
    ⟨0, none, con.recvBuffer, os⟩
  return (s.err.getD .ok, { con with recvBuffer := s.buffer }, s.os)

/-- What a receive attempt leaves: the header may be that of an earlier frame. -/
structure Received where
  err : RtError
  hdr : RtMessageHeader
  con : RtConnection
  os : Os

/-- The chained reads of one attempt: the length, the header, the payload. -/
def receiveAttempt (fuel : Nat) (hdr : RtMessageHeader) (con : RtConnection) (os : Os) :
    Except Fault Received := do
  let (err, con, os) ← rtConnectionReadUntil fuel con 0 4 os
  if err ≠ .ok then return ⟨err, hdr, con, os⟩
  let (headerLength, _) ← rtEncoderDecodeUInt16 (con.recvBuffer.data.drop 2)
  let hdr := { hdr with headerLength }
  let (err, con, os) ← rtConnectionReadUntil fuel con 4 ((headerLength.toNat : Int) - 4) os
  if err ≠ .ok then return ⟨err, hdr, con, os⟩
  let hdr ← rtMessageHeaderDecode hdr con.recvBuffer.data
  let (err, con, os) ← rtConnectionReadUntil fuel con hdr.headerLength.toNat
    (toInt32 hdr.payloadLength) os
  if err ≠ .ok then return ⟨err, hdr, con, os⟩
  -- help out json parsers and other string parses
  let recvBuffer ← con.recvBuffer.write (hdr.headerLength.toUInt32 + hdr.payloadLength).toNat [0]
  return ⟨.ok, hdr, { con with recvBuffer }, os⟩

/-- The receive loop, with `left` attempts after this one. The header is not
    initialised again, and a reconnect puts its own result in `err`. -/
def receiveLoop (reconnect : RtConnection → Os → ConResult) (fuel : Nat) :
    Nat → RtMessageHeader → RtConnection → Os → Except Fault Received
  | left, hdr, con, os => do
    let r ← receiveAttempt fuel hdr con os
    let (err, con, os) ← reregister reconnect r.err r.con r.os
    if err = .ok then return ⟨err, r.hdr, con, os⟩
    match left with
    | 0 => return ⟨err, r.hdr, con, os⟩
    | left+1 => receiveLoop reconnect fuel left r.hdr con os

/-- The search for the listener of a frame: the listeners as it leaves them and the
    index it stops at. A reply to a request without a route clears the id of every
    listener it passes. -/
def findListener (noRoute : Bool) (controlData : UInt32) :
    List RtListener → List RtListener × Option Nat
  | [] => ([], none)
  | l :: rest =>
    let l := if noRoute then { l with subscriptionId := 0 } else l
    if l.inUse && l.subscriptionId == controlData then (l :: rest, some 0)
    else
      let (rest, i) := findListener noRoute controlData rest
      (l :: rest, i.map (· + 1))

theorem findListener_length (noRoute : Bool) (controlData : UInt32) (ls : List RtListener) :
    (findListener noRoute controlData ls).1.length = ls.length := by
  induction ls with
  | nil => rfl
  | cons l rest ih =>
    simp only [findListener]
    generalize (if noRoute = true then { l with subscriptionId := 0 } else l) = l'
    split <;> simp [ih]

def onInboxMessage (J : CJsonLib) (hdr : RtMessageHeader) (p : Bytes) (con : RtConnection) :
    RtConnection :=
  if hdr.flags &&& rtMessageFlagsResponse ≠ 0 then
    { con with response := rtMessageFromBytes J p }
  else con

/-- The end of a dispatch: a frame is handed to its listener. -/
def deliverFrame (J : CJsonLib) (hdr : RtMessageHeader) (con : RtConnection) :
    Except Fault (RtConnection × Option CallbackCall) :=
  let found := findListener (strstr hdr.replyTopic.str noRouteTopic) hdr.controlData con.listeners
  let con := { con with
    listeners := found.1
    listeners_size := by rw [findListener_length, con.listeners_size] }
  match found.2.bind fun i => con.listeners[i]?.map (i, ·) with
  | none => .ok (con, none)
  | some (i, l) =>
    let p := con.recvBuffer.data.drop hdr.headerLength.toNat
    match l.callback with
    | none => .error .undefinedBehaviour
    | some cb =>
      let call := ⟨i, cb, hdr, p.take hdr.payloadLength.toNat, hdr.payloadLength⟩
      match cb with
      | .onInboxMessage => .ok (onInboxMessage J hdr p con, some call)
      | .user _ => .ok (con, some call)

/-- What `rtConnection_TimedDispatch` returns, with the callback it made. -/
structure Dispatched where
  err : RtError
  con : RtConnection
  os : Os
  call : Option CallbackCall

/-- The error of the receive loop is not returned. -/
def rtConnectionTimedDispatch (J : CJsonLib) (fuel : Nat) (con : RtConnection) (os : Os) :
    Except Fault Dispatched := do
  let sendMessage con m topic os := rtConnectionSendMessage J fuel con m topic os
  let r ← receiveLoop (rtConnectionConnectAndRegister sendMessage fuel) fuel 4
    rtMessageHeaderInit con os
  if r.err = .ok then
    let (con, call) ← deliverFrame J r.hdr r.con
    return ⟨.ok, con, r.os, call⟩
  return ⟨.ok, r.con, r.os, none⟩

/-! Requests. -/

structure RequestState where
  now : Nat
  /-- the error or the response the wait has ended with -/
  result : Option (RtError × Option CJson)
  con : RtConnection
  os : Os

/-- The wait that began at `start` is not over. `timeout` is in milliseconds. -/
def RequestState.goesOn (start : Nat) (timeout : Int) (s : RequestState) : Bool :=
  decide ((s.now : Int) - start < timeout.tdiv 1000) && s.result.isNone

/-- One turn of the wait for a response. -/
def requestTurn (J : CJsonLib) (fuel : Nat) (s : RequestState) : Except Fault RequestState := do
  let d ← rtConnectionTimedDispatch J fuel s.con s.os
  if d.err ≠ .timeout && d.err ≠ .ok then
    return { s with result := some (d.err, none), con := d.con, os := d.os }
  match d.con.response with
  | some res =>
    return { s with result := some (.ok, some res), con := { d.con with response := none },
                    os := d.os }
  | none =>
    let (now, os) := d.os.time
    return { s with now, con := d.con, os }

/-- The returned error, and what is stored in `*res`. -/
def rtConnectionSendRequest (J : CJsonLib) (fuel : Nat) (con : RtConnection) (req : CJson)
    (topic : Bytes) (timeout : Int) (os : Os) :
    Except Fault (RtError × Option CJson × RtConnection × Os) := do
  let (err, con, os) ← rtConnectionSendInternal J fuel con topic (rtMessageToByteArray J req)
    (some con.inboxName) rtMessageFlagsRequest os
  if err ≠ .ok then return (err, none, con, os)
  let (start, os) := os.time
  let s ← loop .outOfFuel (RequestState.goesOn start timeout) (requestTurn J fuel) fuel
    ⟨start, none, con, os⟩
  let (err, res) := s.result.getD (.timeout, none)
  return (err, res, s.con, s.os)

end RtMessage
