import Mathlib.Data.Stream.Defs
import RtMessage.Base

/- The operating system as the code sees it. Each system call takes its answer
   from a stream of its own, so a statement about every `Os` is a statement about
   every sequence of answers. A socket is named by the order in which it was
   created and its name is not used again, so that what a closed socket took
   stays apart from what the next one takes; descriptor -1 is `none`.

   `calls`, `sent` and `received` are bookkeeping of the model. Every frame a
   sender sets out to write gets the next value of `calls`, and every `send` is
   recorded with the frame it belongs to. -/
namespace RtMessage

/-- What a `send` answers: all bytes taken, at most `k` of them, or -1. -/
inductive SendResult where
  | complete
  | short (k : Nat)
  | error (e : Errno)
  deriving DecidableEq, Repr

/-- The value returned for `len` bytes. -/
def SendResult.reply (len : Nat) : SendResult → Except Errno Nat
  | .complete => .ok len
  | .short k => .ok (min k len)
  | .error e => .error e

/-- How many of `len` bytes the socket took. -/
def SendResult.taken (len : Nat) : SendResult → Nat
  | .complete => len
  | .short k => min k len
  | .error _ => 0

/-- What a `recv` answers: at most `k+1` of the bytes that have arrived, the end
    of the stream, or -1. -/
inductive RecvResult where
  | data (k : Nat)
  | eof
  | error (e : Errno)
  deriving DecidableEq, Repr

inductive FramePart where
  | header | payload
  deriving DecidableEq, Repr

structure SendEvent where
  call : Nat
  sock : Nat
  part : FramePart
  data : Bytes
  result : SendResult
  deriving DecidableEq, Repr

/-- A `recv` and what it returned; zero bytes is the end of the stream. -/
structure RecvEvent where
  sock : Nat
  reply : Except Errno Nat
  deriving DecidableEq, Repr

structure Os where
  sends : Stream' SendResult
  recvs : Stream' RecvResult
  /-- `socket` and `connect`: `none` is success -/
  sockets : Stream' (Option Errno)
  connects : Stream' (Option Errno)
  /-- what `time(NULL)` returns -/
  clock : Stream' Nat
  /-- the name of the next socket -/
  nextSock : Nat
  /-- the bytes that have arrived on a socket and have not been read -/
  input : Nat → Bytes
  calls : Nat
  sent : List SendEvent
  received : List RecvEvent

def SendEvent.taken (e : SendEvent) : Bytes := e.data.take (e.result.taken e.data.length)

/-- The bytes a socket took, in order. -/
def wire (sock : Nat) (evs : List SendEvent) : Bytes :=
  evs.flatMap fun e => if e.sock = sock then e.taken else []

namespace Os

/-- Socket 0 is open, nothing has arrived and nothing was sent; `sends` is what the sends
    to come answer, and every other call succeeds. -/
def idle (sends : Stream' SendResult) : Os where
  sends := sends
  recvs := Stream'.const (.data 8191)
  sockets := Stream'.const none
  connects := Stream'.const none
  clock := Stream'.const 0
  nextSock := 1
  input := fun _ => []
  calls := 0
  sent := []
  received := []

/-- A number for the next frame to be written. -/
def beginCall (os : Os) : Nat × Os := (os.calls, { os with calls := os.calls + 1 })

def send (os : Os) (fd : Option Nat) (call : Nat) (part : FramePart) (data : Bytes) :
    Except Errno Nat × Os :=
  match fd with
  | none => (.error .EBADF, os)
  | some sock =>
    let r := os.sends.head
    (r.reply data.length,
      { os with sends := os.sends.tail, sent := os.sent ++ [⟨call, sock, part, data, r⟩] })

/-- `recv` of at most `len` bytes; no bytes is the value 0. -/
def recv (os : Os) (fd : Option Nat) (len : Nat) : Except Fault (Except Errno Bytes × Os) :=
  match fd with
  | none => .ok (.error .EBADF, os)
  | some sock =>
    if len = 0 then .ok (.ok [], os)
    else
      let os' := { os with recvs := os.recvs.tail }
      match os.recvs.head with
      | .data k =>
        let bs := (os.input sock).take (min (k+1) len)
        if bs = [] then .error .blocked
        else .ok (.ok bs, { os' with
          input := Function.update os.input sock ((os.input sock).drop bs.length)
          received := os.received ++ [⟨sock, .ok bs.length⟩] })
      | .eof => .ok (.ok [], { os' with received := os.received ++ [⟨sock, .ok 0⟩] })
      | .error e => .ok (.error e, { os' with received := os.received ++ [⟨sock, .error e⟩] })

def socket (os : Os) : Except Errno Nat × Os :=
  let os' := { os with sockets := os.sockets.tail }
  match os.sockets.head with
  | none => (.ok os.nextSock, { os' with nextSock := os.nextSock + 1 })
  | some e => (.error e, os')

def connect (os : Os) : Option Errno × Os :=
  (os.connects.head, { os with connects := os.connects.tail })

def time (os : Os) : Nat × Os := (os.clock.head, { os with clock := os.clock.tail })

end Os

@[simp] theorem wire_nil (sock : Nat) : wire sock [] = [] := rfl

@[simp] theorem wire_append (sock : Nat) (a b : List SendEvent) :
    wire sock (a ++ b) = wire sock a ++ wire sock b := by simp [wire]

@[simp] theorem wire_cons (sock : Nat) (e : SendEvent) (evs : List SendEvent) :
    wire sock (e :: evs) = (if e.sock = sock then e.taken else []) ++ wire sock evs := rfl

@[simp] theorem SendEvent.taken_complete (call sock : Nat) (part : FramePart) (data : Bytes) :
    (SendEvent.mk call sock part data .complete).taken = data := by
  simp [SendEvent.taken, SendResult.taken]

end RtMessage
