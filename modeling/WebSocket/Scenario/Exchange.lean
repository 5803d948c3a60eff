import WebSocket.Connection.World

/-!
Runs of a handshake alone, over a stream whose behaviour is laid down.
-/

namespace WebSocket

structure ExchangeReport where
  result : Except Error (Response × Bytes)
  sent : Bytes
  flushes : Nat
  elapsed : Nat

def ExchangeReport.run (config : Config) (stream : Stream) (timeout : Nat) (request : Request) :
    ExchangeReport :=
  let script := (Connection.exchange config.limits timeout request).bind fun result =>
    .done (Report.exchanged result)
  let world : World := { setup := { config }, hub := { stream } }
  let ended := ((world.begin script false).settle World.plenty).finish World.plenty 0 1
  { result :=
      match ended.reportOf 0 with
      | some (.exchanged result) => result
      | _ => .error .cancelled
    sent := ended.hub.stream.written
    flushes := ended.hub.stream.flushes
    elapsed := ended.hub.now }

end WebSocket
