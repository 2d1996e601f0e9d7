import SessionEngine.Tls.Channel
import SessionEngine.Tls.Engine

/-! Channels over the engine of this library. -/

namespace SessionEngine.Tls

/-- A fault that a write meets is told as malformed data. -/
instance : RecordEngine Engine where
  accept e data := match e.accept data with
    | .ok (n, e) => (.ok n, e)
    | .error cause => (.error cause, e)
  process := Engine.process
  drain e := (none, e.drain)
  write e data := match e.write data with
    | .ok e => (.ok (), e)
    | .error fault => (.error ⟨.invalidData, fault.message⟩, e)
  emit := Engine.emit
  closeNotify := Engine.closeNotify
  handshaking := Engine.handshaking
  version := Engine.version

def Channel.client (policy : Policy) (host : String) (session seed : Nat) :
    Except ConfigFault (Channel Engine) :=
  (Engine.client policy host seed).map fun e => .ofEngine e session .client

def Channel.server (policy : Policy) (session seed : Nat) : Except ConfigFault (Channel Engine) :=
  (Engine.server policy seed).map fun e => .ofEngine e session .server

end SessionEngine.Tls
