import RtMessage.Connection

/- `rtrouted`: the route table, the dispatch of a message to its routes, and the
   incremental reader of a client's stream.

   Clients, routes and subscriptions are heap objects; `ptr` is their address, and
   `nextPtr` the next address the allocator returns. A route is either one of the
   router's own (a null subscription) or a client's, with the subscription
   that `rtRouted_ForwardMessage` is called with.

   The dispatch loop is written for any way of forwarding, over any state `ε` the
   forwarding uses: with `rtRoutedForwardMessage` over the operating system it is
   the router's. -/
namespace RtMessage
open Lib

abbrev RTMSG_CLIENT_READ_BUFFER_SIZE : Nat := 8192
abbrev RTMSG_MAX_EXPRESSION_LEN : Nat := 128

inductive RtConnectionState where
  | readHeaderPreamble | readHeader | readPayload
  deriving DecidableEq, Repr

structure RtConnectedClient where
  ptr : Nat
  fd : Nat
  readBuffer : CArray RTMSG_CLIENT_READ_BUFFER_SIZE
  state : RtConnectionState
  bytesRead : Int
  bytesToRead : Int
  header : RtMessageHeader
  deriving DecidableEq, Repr

structure RtSubscription where
  ptr : Nat
  id : UInt32
  client : Nat
  deriving DecidableEq, Repr

/-- The handler of a route, with its subscription. -/
inductive RtRouteTarget where
  | onMessage
  | printMessage
  | forwardMessage (subscription : RtSubscription)
  deriving DecidableEq, Repr

structure RtRouteEntry where
  ptr : Nat
  target : RtRouteTarget
  expression : CArray RTMSG_MAX_EXPRESSION_LEN
  deriving DecidableEq, Repr

/-- The client a route belongs to. -/
def RtRouteEntry.owner (e : RtRouteEntry) : Option Nat :=
  match e.target with
  | .forwardMessage sub => some sub.client
  | _ => none

structure RtRouted (ε : Type) where
  clients : List RtConnectedClient
  routes : List RtRouteEntry
  nextPtr : Nat
  env : ε

/-! Topics. -/

/-- The matching loop on what is left of the topic and of the expression. Every turn
    uses up a character of the expression, so its length bounds the turns. -/
def topicMatchLoop : Nat → Bytes → Bytes → Bool
  | 0, t, e => t.isEmpty && e.isEmpty
  | left+1, t, e =>
    if t.isEmpty || e.isEmpty then t.isEmpty && e.isEmpty
    else
      let (t, e) := if e.head? = some 42 then (t.dropWhile (· != 46), e.tail) else (t, e)
      let (t, e) := if e.head? = some 62 then ([], e.tail) else (t, e)
      if t.isEmpty && e.isEmpty then true
      else if t.head? ≠ e.head? then t.isEmpty && e.isEmpty
      else topicMatchLoop left t.tail e.tail

def rtRoutedIsTopicMatch (topic exp : Bytes) : Bool := topicMatchLoop exp.length topic exp

example : rtRoutedIsTopicMatch (ascii "A.B.C") (ascii "A.*.C") = true := by decide
example : rtRoutedIsTopicMatch (ascii "A.B.C.FOO.BAR") (ascii "A.B.C.*") = false := by decide

/-! The route table. -/

def rtRoutedAddRoute {ε : Type} (exp : Option Bytes) (id : UInt32) (client : Nat)
    (r : RtRouted ε) : Except Fault (RtRouted ε) :=
  match exp with
  | none => .error .undefinedBehaviour
  | some exp =>
    let route : RtRouteEntry :=
      { ptr := r.nextPtr + 1
        target := .forwardMessage ⟨r.nextPtr, id, client⟩
        expression := .pad RTMSG_MAX_EXPRESSION_LEN (exp.take RTMSG_MAX_EXPRESSION_LEN) }
    .ok { r with routes := r.routes ++ [route], nextPtr := r.nextPtr + 2 }

/-- `rtVector_RemoveItem` of an item that is in the vector. -/
def removeItem (routes : List RtRouteEntry) (route : RtRouteEntry) : List RtRouteEntry :=
  routes.eraseP (fun e => e.ptr == route.ptr)

structure ClearState where
  i : Nat
  routes : List RtRouteEntry

def ClearState.goesOn (s : ClearState) : Bool := decide (s.i < s.routes.length)

def clearTurn (clnt : Nat) (s : ClearState) : Except Fault ClearState :=
  match s.routes[s.i]? with
  | none => .error .undefinedBehaviour
  | some route =>
    if route.owner = some clnt then .ok { s with routes := removeItem s.routes route }
    else .ok { s with i := s.i + 1 }

/-- Every turn passes a route or removes one, so the size of the table bounds them. -/
def rtRoutedClearClientRoutes (clnt : Nat) (routes : List RtRouteEntry) :
    Except Fault (List RtRouteEntry) := do
  let s ← loop .outOfFuel ClearState.goesOn (clearTurn clnt) routes.length ⟨0, routes⟩
  return s.routes

/-! Handlers. -/

def helloTopic : Bytes := ascii "_RTROUTED.INBOX.HELLO"

/-- A parsed control message and its string member; the length is not looked at, and a
    message that does not parse is a null pointer. -/
def controlMessage (J : CJsonLib) (name buff : Bytes) : Except Fault (CJson × Option Bytes) :=
  match rtMessageFromBytes J buff with
  | none => .error .undefinedBehaviour
  | some m => .ok (m, (rtMessageGetString m name).getD none)

def rtRoutedOnMessage {ε : Type} (J : CJsonLib) (sender : Nat) (hdr : RtMessageHeader)
    (buff : Bytes) (r : RtRouted ε) : Except Fault (RtError × RtRouted ε) :=
  if hdr.topic.str = subscribeTopic then do
    let (m, expression) ← controlMessage J (ascii "topic") buff
    let routeId := (rtMessageGetInt32 m (ascii "route_id")).getD 0
    let r ← rtRoutedAddRoute expression (toUInt32 routeId) sender r
    return (.ok, r)
  else if hdr.topic.str = helloTopic then do
    let (_, inbox) ← controlMessage J (ascii "inbox") buff
    let r ← rtRoutedAddRoute inbox 0 sender r
    return (.ok, r)
  else return (.ok, r)

/-- What a forward returns when a send of it fails. -/
def forwardError : Errno → RtError
  | .EBADF => rtErrorFromErrno .EBADF
  | _ => .fail

/-- The payload is `n` bytes at `buff`. The bytes encoded into the subscriber's
    `send_buffer` are sent from it at once, so the buffer itself is left out. -/
def rtRoutedForwardMessage (clients : List RtConnectedClient) (hdr : RtMessageHeader)
    (buff : Bytes) (n : Nat) (sub : RtSubscription) (os : Os) :
    Except Fault (RtError × Os) := do
  let (call, os) := os.beginCall
  let topic ← rtMessageHeaderInit.topic.strcpy hdr.topic.str
  let replyTopic ← rtMessageHeaderInit.replyTopic.strcpy hdr.replyTopic.str
  let (_, encoded) := rtMessageHeaderEncode
    { version := hdr.version
      headerLength := hdr.headerLength
      sequenceNumber := hdr.sequenceNumber
      controlData := sub.id
      payloadLength := hdr.payloadLength
      topicLength := hdr.topicLength
      replyTopicLength := hdr.replyTopicLength
      flags := hdr.flags
      topic, replyTopic }
  match clients.find? (fun k => k.ptr == sub.client) with
  | none => .error .undefinedBehaviour
  | some client =>
    match os.send (some client.fd) call .header encoded with
    | (.error errno, os) => return (forwardError errno, os)
    | (.ok _, os) =>
      if n ≤ buff.length then
        match os.send (some client.fd) call .payload (buff.take n) with
        | (.error errno, os) => return (forwardError errno, os)
        | (.ok _, os) => return (.ok, os)
      else .error .undefinedBehaviour

/-! Dispatch. -/

/-- The message being dispatched: its sender, its header, and the sender's read buffer
    from the payload on. -/
structure Message where
  sender : Nat
  hdr : RtMessageHeader
  buff : Bytes

/-- A way of forwarding a message to a client's route. -/
abbrev Forward (ε : Type) :=
  Message → RtSubscription → RtRouted ε → Except Fault (RtError × ε)

def messageHandler {ε : Type} (J : CJsonLib) (forward : Forward ε) (msg : Message)
    (route : RtRouteEntry) (r : RtRouted ε) : Except Fault (RtError × RtRouted ε) :=
  match route.target with
  | .onMessage => rtRoutedOnMessage J msg.sender msg.hdr msg.buff r
  | .printMessage => .ok (.ok, r)
  | .forwardMessage sub => do
    let (err, env) ← forward msg sub r
    return (err, { r with env })

structure DispatchState (ε : Type) where
  i : Nat
  n : Nat
  matchFound : Bool
  routed : RtRouted ε

def DispatchState.goesOn {ε : Type} (s : DispatchState ε) : Bool := decide (s.i < s.n)

/-- One turn of the dispatch loop. A route is passed on `RT_OK` only; on `EBADF` it is the
    sender whose routes are cleared. -/
def dispatchTurn {ε : Type} (J : CJsonLib) (forward : Forward ε) (msg : Message)
    (s : DispatchState ε) : Except Fault (DispatchState ε) :=
  match s.routed.routes[s.i]? with
  | none => .error .undefinedBehaviour
  | some route =>
    if rtRoutedIsTopicMatch msg.hdr.topic.str route.expression.str then do
      let (err, routed) ← messageHandler J forward msg route s.routed
      if err = .ok then
        return { s with i := s.i + 1, matchFound := true, routed }
      else if err = rtErrorFromErrno .EBADF then do
        let routes ← rtRoutedClearClientRoutes msg.sender routed.routes
        return { s with n := routes.length, matchFound := true, routed := { routed with routes } }
      else return { s with matchFound := true, routed }
    else return { s with i := s.i + 1 }

/-- The loop over the routes; the result tells whether one matched. -/
def dispatchLoop {ε : Type} (J : CJsonLib) (forward : Forward ε) (fuel : Nat) (msg : Message)
    (r : RtRouted ε) : Except Fault (Bool × RtRouted ε) := do
  let s ← loop .outOfFuel DispatchState.goesOn (dispatchTurn J forward msg) fuel
    ⟨0, r.routes.length, false, r⟩
  return (s.matchFound, s.routed)

def forwardMessage : Forward Os := fun msg sub r =>
  rtRoutedForwardMessage r.clients msg.hdr msg.buff msg.hdr.payloadLength.toNat sub r.env

/-- The message a client's reader has completed. -/
def RtConnectedClient.message (clnt : RtConnectedClient) : Message :=
  ⟨clnt.ptr, clnt.header, clnt.readBuffer.data.drop clnt.header.headerLength.toNat⟩

def rtRouterDispatchMessageFromClient (J : CJsonLib) (fuel : Nat) (clnt : RtConnectedClient)
    (r : RtRouted Os) : Except Fault (RtRouted Os) := do
  let (matchFound, r) ← dispatchLoop J forwardMessage fuel clnt.message r
  if !matchFound && rtMessageHeaderIsRequest clnt.header then do
    let (_, env) ← rtConnectionSendErrorMessageToCaller J fuel clnt.fd clnt.header r.env
    return { r with env }
  else return r

/-! Reading. -/

def rtConnectedClientInit (ptr fd : Nat) : RtConnectedClient where
  ptr := ptr
  fd := fd
  readBuffer := .zero RTMSG_CLIENT_READ_BUFFER_SIZE
  state := .readHeaderPreamble
  bytesRead := 0
  bytesToRead := 4
  header := rtMessageHeaderInit

/-- A length handed to `recv`, converted to `size_t`. -/
def toSize (n : Int) : Nat := (n % 2^64).toNat

/-- What the reader does with the bytes just stored; the flag says that a message is
    complete. `bytes_to_read += payload_length` is an addition of `uint32_t`. -/
def readerTurn (clnt : RtConnectedClient) : Except Fault (RtConnectedClient × Bool) :=
  if clnt.bytesRead ≠ clnt.bytesToRead then .ok (clnt, false)
  else
    match clnt.state with
    | .readHeaderPreamble => do
      let (headerLength, _) ← rtEncoderDecodeUInt16 (clnt.readBuffer.data.drop 2)
      return ({ clnt with
        bytesToRead := clnt.bytesToRead + ((headerLength.toNat : Int) - 4)
        state := .readHeader }, false)
    | .readHeader => do
      let header ← rtMessageHeaderDecode clnt.header clnt.readBuffer.data
      return ({ clnt with
        header
        bytesToRead := toInt32 (toUInt32 clnt.bytesToRead + header.payloadLength)
        state := .readPayload }, false)
    | .readPayload => .ok (clnt, true)

/-- Received bytes are stored behind those read before. -/
def storeBytes (clnt : RtConnectedClient) (bs : Bytes) :
    Except Fault (RtConnectedClient × Bool) := do
  let readBuffer ← clnt.readBuffer.write clnt.bytesRead.toNat bs
  readerTurn { clnt with readBuffer, bytesRead := clnt.bytesRead + bs.length }

/-- The reader as it is when a message has been dispatched. -/
def readerReset (clnt : RtConnectedClient) : RtConnectedClient :=
  { clnt with bytesToRead := 4, bytesRead := 0, state := .readHeaderPreamble,
              header := rtMessageHeaderInit }

def rtConnectedClientRead (J : CJsonLib) (fuel : Nat) (clnt : RtConnectedClient)
    (r : RtRouted Os) : Except Fault (RtError × RtConnectedClient × RtRouted Os) := do
  match ← r.env.recv (some clnt.fd) (toSize (clnt.bytesToRead - clnt.bytesRead)) with
  | (.error e, env) => return (rtErrorFromErrno e, clnt, { r with env })
  | (.ok [], env) => return (.streamClosed, clnt, { r with env })
  | (.ok bs, env) =>
    let (clnt, complete) ← storeBytes clnt bs
    if complete then do
      let r ← rtRouterDispatchMessageFromClient J fuel clnt { r with env }
      return (.ok, readerReset clnt, r)
    else return (.ok, clnt, { r with env })

/-! The main loop. -/

/-- The internal route. -/
def internalRoute (ptr : Nat) : RtRouteEntry :=
  ⟨ptr, .onMessage, .pad RTMSG_MAX_EXPRESSION_LEN (ascii "_RTROUTED.>")⟩

/-- `rtConnectedClient_Destroy`, for a client that is no longer in the vector. -/
def rtConnectedClientDestroy (clnt : RtConnectedClient) (r : RtRouted Os) :
    Except Fault (RtRouted Os) := do
  let routes ← rtRoutedClearClientRoutes clnt.ptr r.routes
  return { r with routes }

/-- The main loop serves the client at address `ptr`, whose descriptor is readable. -/
def serveClient (J : CJsonLib) (fuel : Nat) (ptr : Nat) (r : RtRouted Os) :
    Except Fault (RtRouted Os) :=
  match r.clients.find? (fun k => k.ptr == ptr) with
  | none => .ok r
  | some clnt => do
    let (err, clnt, r) ← rtConnectedClientRead J fuel clnt r
    if err ≠ .ok then
      rtConnectedClientDestroy clnt { r with clients := r.clients.eraseP (fun k => k.ptr == ptr) }
    else
      return { r with clients := r.clients.map fun k => if k.ptr = ptr then clnt else k }

end RtMessage
