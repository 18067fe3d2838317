import Bsrs.Qs.Serve

namespace Bsrs.Qs

namespace Server

/-- The rep thread goes on with the request in its hands, and no other party moves. -/
def settle (config : Config) (outside : Outside) : Nat → Server → Server
  | 0, server => server
  | stretches + 1, server =>
      match server.rep with
      | .handle handler =>
          let (next, rep) := server.advance config outside handler
          settle config outside stretches { next with rep }
      | _ => server

/-- The request as the rep thread takes it up. -/
def receive (config : Config) (server : Server) (request : Request) : Server :=
  { server with
    rep := .handle (dispatch config server request)
    minted := server.minted + mintedBy request.params }

/-- A request handled from its dispatch to its answer; no request asks the outside twice. -/
def handle (config : Config) (outside : Outside) (server : Server) (request : Request) : Server :=
  (server.receive config request).settle config outside 12

end Server

/-- What holds at the dispatch and is kept by every stretch holds at the answer. -/
theorem Server.settle_holds (config : Config) (outside : Outside) (holds : Server → Prop)
    (kept : ∀ server handler, server.rep = .handle handler → holds server →
      holds { (server.advance config outside handler).1 with
        rep := (server.advance config outside handler).2 }) (stretches : Nat) {server : Server}
    (initial : holds server) : holds (server.settle config outside stretches) := by
  induction stretches generalizing server with
  | zero => exact initial
  | succ stretches ih =>
      cases place : server.rep with
      | handle handler =>
          simp only [Server.settle, place]
          exact ih (kept server handler place initial)
      | _ => simpa only [Server.settle, place] using initial

end Bsrs.Qs
