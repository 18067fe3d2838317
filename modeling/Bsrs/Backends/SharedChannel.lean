import Bsrs.Library.Run
import Bsrs.Library.Stutter
import Bsrs.Library.Tally

/-! The cached CA channel every backend for one PV shares, and the single owner of its puts. -/

namespace Bsrs.Backends

open Library

variable {ν ε : Type}

/-- A put's outcome as its waiters see it. -/
abbrev PutResult (ε : Type) := Except ε Unit

/-- The trailing put-callback still to be sent. A waiter is the oneshot of one `put_callback`. -/
structure Trailing (ν : Type) where
  value : ν
  waiters : List Nat
deriving DecidableEq

inductive PutSlot (ν : Type) where
  | idle
  | busy (next : Option (Trailing ν))
deriving DecidableEq

/-- A write on the circuit, and a put-callback's answer once there is one. -/
inductive CaWrite (ν ε : Type) where
  | plain (value : ν)
  | notify (value : ν) (answer : Option (PutResult ε))

def CaWrite.value : CaWrite ν ε → ν
  | .plain value => value
  | .notify value _ => value

/-- Where a `drive` task is. A put-callback in flight is named by its place on the circuit. -/
inductive Drive (ε : Type) where
  /-- At `done.await`. -/
  | awaiting (done : Nat) (waiters : List Nat)
  /-- Past the await, and not yet in the lock. -/
  | settling (r : PutResult ε) (waiters : List Nat)
  /-- In `answer`, with what the loop goes on with then. -/
  | answering (r : PutResult ε) (waiters : List Nat) (next : Option (Except ε Nat × List Nat))
  | returned

/-- A PV's channel, with its circuit. The rest is an observer's: the values of the puts that the
client took, where on the circuit each waiter's own write is, what each waiter was sent, and the
errors with which the client refused a trailing put-callback. -/
structure SharedChannel (ν ε : Type) where
  puts : PutSlot ν
  circuit : List (CaWrite ν ε)
  drives : List (Drive ε)
  accepted : List ν
  written : List Nat
  answers : List (Nat × PutResult ε)
  refused : List ε

/-- `sent` is what the client makes of the write: it is on the circuit, or refused. -/
inductive ChannelAction (ν ε : Type) where
  | putCallback (value : ν) (sent : Except ε Unit)
  | putNoCallback (value : ν) (sent : Except ε Unit)
  /-- A put-callback in flight is answered: by the server, or by the client when the circuit goes. -/
  | answered (done : Nat) (r : PutResult ε)
  /-- A `drive` task goes on; should it send a trailing put-callback now, the client says `sent`. -/
  | go (task : Nat) (sent : Except ε Unit)

namespace SharedChannel

def new : SharedChannel ν ε := ⟨.idle, [], [], [], [], [], []⟩

/-- A put that the client takes. -/
def take (channel : SharedChannel ν ε) (write : CaWrite ν ε) : SharedChannel ν ε :=
  { channel with
    circuit := channel.circuit ++ [write]
    accepted := channel.accepted ++ [write.value] }

/-- A waiter for the write about to be made, whose number is the next one. -/
def await (channel : SharedChannel ν ε) : SharedChannel ν ε :=
  { channel with written := channel.written ++ [channel.circuit.length] }

def putCallback (channel : SharedChannel ν ε) (value : ν) : Except ε Unit → SharedChannel ν ε
  | .error _ => channel
  | .ok () =>
      let tx := channel.written.length
      match channel.puts with
      | .idle =>
          { channel.await.take (.notify value none) with
            puts := .busy none
            drives := channel.drives ++ [.awaiting channel.circuit.length [tx]] }
      | .busy next =>
          { channel.await.take (.plain value) with
            puts := match next with
              | some trailing => .busy (some ⟨value, trailing.waiters ++ [tx]⟩)
              | none => .busy (some ⟨value, [tx]⟩) }

def putNoCallback (channel : SharedChannel ν ε) (value : ν) : Except ε Unit → SharedChannel ν ε
  | .error _ => channel
  | .ok () =>
      { channel.take (.plain value) with
        puts := match channel.puts with
          | .busy (some trailing) => .busy (some ⟨value, trailing.waiters⟩)
          | puts => puts }

def answered (channel : SharedChannel ν ε) (done : Nat) (r : PutResult ε) :
    Option (SharedChannel ν ε) :=
  match channel.circuit[done]? with
  | some (.notify value none) =>
      some { channel with circuit := channel.circuit.set done (.notify value (some r)) }
  | _ => none

/-- The task is now at `drive`. -/
def resume (channel : SharedChannel ν ε) (task : Nat) (drive : Drive ε) : SharedChannel ν ε :=
  { channel with drives := channel.drives.set task drive }

/-- What `drive` does in the lock, the put-callback before being answered with `r`. -/
def settle (channel : SharedChannel ν ε) (task : Nat) (r : PutResult ε) (waiters : List Nat)
    (sent : Except ε Unit) : SharedChannel ν ε :=
  match channel.puts, sent with
  | .busy (some trailing), .ok () =>
      ({ channel with
        puts := .busy none
        circuit := channel.circuit ++ [.notify trailing.value none] } : SharedChannel ν ε).resume task
          (.answering r waiters (some (.ok channel.circuit.length, trailing.waiters)))
  | .busy (some trailing), .error e =>
      ({ channel with
        puts := .idle
        refused := channel.refused ++ [e] } : SharedChannel ν ε).resume task
          (.answering r waiters (some (.error e, trailing.waiters)))
  | _, _ => ({ channel with puts := .idle } : SharedChannel ν ε).resume task (.answering r waiters none)

def go (channel : SharedChannel ν ε) (task : Nat) (sent : Except ε Unit) :
    Drive ε → Option (SharedChannel ν ε)
  | .awaiting done waiters =>
      match channel.circuit[done]? with
      | some (.notify _ (some r)) => some (channel.resume task (.settling r waiters))
      | _ => none
  | .settling r waiters => some (channel.settle task r waiters sent)
  | .answering r (w :: rest) next =>
      some ({ channel with answers := channel.answers ++ [(w, r)] }.resume task
        (.answering r rest next))
  | .answering _ [] none => some (channel.resume task .returned)
  | .answering _ [] (some (.ok done, waiters)) => some (channel.resume task (.awaiting done waiters))
  | .answering _ [] (some (.error e, waiters)) =>
      some (channel.resume task (.answering (.error e) waiters none))
  | .returned => none

def step (channel : SharedChannel ν ε) : ChannelAction ν ε → Option (SharedChannel ν ε)
  | .putCallback value sent => some (channel.putCallback value sent)
  | .putNoCallback value sent => some (channel.putNoCallback value sent)
  | .answered done r => channel.answered done r
  | .go task sent => (channel.drives[task]?).bind (channel.go task sent)

end SharedChannel

end Bsrs.Backends
