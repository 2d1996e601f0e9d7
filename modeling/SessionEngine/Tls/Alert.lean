/-! The alerts of TLS: their numbers on the wire and the names that error texts use. -/

namespace SessionEngine.Tls

/-- What an alert says, by its number on the wire. -/
structure Alert where
  code : UInt8
  deriving DecidableEq, Repr, Inhabited

namespace Alert

/-- The sender will write no more. -/
def closeNotify : Alert := ⟨0⟩
/-- A message came out of turn. -/
def unexpectedMessage : Alert := ⟨10⟩
/-- A record does not open under the keys in force. -/
def badRecordMac : Alert := ⟨20⟩
/-- The peer could not agree on the parameters. -/
def handshakeFailure : Alert := ⟨40⟩
/-- The certificate cannot be used as it is. -/
def badCertificate : Alert := ⟨42⟩
/-- The certificate was refused for an unnamed reason. -/
def certificateUnknown : Alert := ⟨46⟩
/-- A field is at odds with the others or with what was agreed on. -/
def illegalParameter : Alert := ⟨47⟩
/-- No trusted authority vouches for the certificate. -/
def unknownCA : Alert := ⟨48⟩
/-- A message does not parse. -/
def decodeError : Alert := ⟨50⟩
/-- A signature or the end of a handshake does not fit. -/
def decryptError : Alert := ⟨51⟩
def protocolVersion : Alert := ⟨70⟩
/-- The user gave up. -/
def userCanceled : Alert := ⟨90⟩
def missingExtension : Alert := ⟨109⟩
/-- An extension is there that was not asked for. -/
def unsupportedExtension : Alert := ⟨110⟩
/-- A certificate was required and none was sent. -/
def certificateRequired : Alert := ⟨116⟩

def names : List (UInt8 × String) :=
  [(0, "CloseNotify"), (10, "UnexpectedMessage"), (20, "BadRecordMac"), (21, "DecryptionFailed"),
   (22, "RecordOverflow"), (30, "DecompressionFailure"), (40, "HandshakeFailure"),
   (41, "NoCertificate"), (42, "BadCertificate"), (43, "UnsupportedCertificate"),
   (44, "CertificateRevoked"), (45, "CertificateExpired"), (46, "CertificateUnknown"),
   (47, "IllegalParameter"), (48, "UnknownCA"), (49, "AccessDenied"), (50, "DecodeError"),
   (51, "DecryptError"), (60, "ExportRestriction"), (70, "ProtocolVersion"),
   (71, "InsufficientSecurity"), (80, "InternalError"), (86, "InappropriateFallback"),
   (90, "UserCanceled"), (100, "NoRenegotiation"), (109, "MissingExtension"),
   (110, "UnsupportedExtension"), (111, "CertificateUnobtainable"), (112, "UnrecognisedName"),
   (113, "BadCertificateStatusResponse"), (114, "BadCertificateHashValue"),
   (115, "UnknownPSKIdentity"), (116, "CertificateRequired"), (120, "NoApplicationProtocol"),
   (121, "EncryptedClientHelloRequired")]

/-- `n` in lower-case hexadecimal, without leading zeros. -/
def hex (n : UInt8) : String := String.ofList (Nat.toDigits 16 n.toNat)

/-- The name of an alert; one without a name is written with its number. -/
def name (alert : Alert) : String :=
  (names.lookup alert.code).getD s!"AlertDescription(0x{hex alert.code})"

end Alert

end SessionEngine.Tls
