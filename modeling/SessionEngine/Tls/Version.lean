import SessionEngine.Text.Blank
import SessionEngine.Tls.Fault

/-! Protocol versions and the names by which a configuration asks for them. -/

namespace SessionEngine.Tls

/-- The protocol versions that can be spoken. -/
inductive Version where
  | tls12
  | tls13
  deriving DecidableEq, Repr, Inhabited

def Version.name : Version → String
  | .tls12 => "TLSv1_2"
  | .tls13 => "TLSv1_3"

/-- What a configuration may ask for: any version, or one. -/
inductive Protocol where
  | any
  | only (version : Version)
  deriving DecidableEq, Repr, Inhabited

namespace Protocol

/-- The name of a choice. -/
def name : Protocol → String
  | .any => "Any"
  | .only .tls12 => "Tls12"
  | .only .tls13 => "Tls13"

/-- The versions of a choice, best first. -/
def versions : Protocol → List Version
  | .any => [.tls13, .tls12]
  | .only version => [version]

/-- Two names that differ at most in the case of ASCII letters. -/
def sameName (a b : String) : Bool := a.toList.map Char.toLower == b.toList.map Char.toLower

/-- The choice that `text` names, white space around it and the case of ASCII letters aside. -/
def parse (text : String) : Except ConfigFault Protocol :=
  let name := Text.trim text
  if name.isEmpty || sameName name "SSL" || sameName name "TLS" then .ok .any
  else if sameName name "TLSv1.2" then .ok (.only .tls12)
  else if sameName name "TLSv1.3" then .ok (.only .tls13)
  else .error (.unsupportedProtocol name)

end Protocol

end SessionEngine.Tls
