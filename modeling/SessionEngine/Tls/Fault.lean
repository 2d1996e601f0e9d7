import SessionEngine.Bytes
import SessionEngine.Tls.Alert

/-! What can go wrong in TLS: faults of the record and handshake protocol, of certificates, of a
handshake as a whole, and of the configuration. Each fault has one text. -/

namespace SessionEngine.Tls

/-- How received bytes fail to be a message. -/
inductive Corruption where
  | invalidContentType
  | unknownProtocolVersion
  | invalidEmptyPayload
  | messageTooLarge
  | handshakePayloadTooLarge
  | certificatePayloadTooLarge
  /-- Fewer bytes follow than a length says. -/
  | messageTooShort
  | missingData (field : String)
  | trailingData (field : String)
  | emptyList (field : String)
  | emptyValue
  | emptyTicket
  | noSignatureSchemes
  | unexpectedMessage (name : String)
  | invalidChange
  | invalidServerName
  | invalidStatusType
  | unsupportedCompression
  | duplicateExtension (number : Nat)
  | unknownCertificateExtension
  | unknownRetryExtension
  /-- The extension that has to be the last one is not. -/
  | keyNotLast
  | missingKeyExchange
  | invalidKeyParameters
  deriving DecidableEq, Repr, Inhabited

/-- The written form of a corruption. -/
def Corruption.text : Corruption → String
  | .invalidContentType => "InvalidContentType"
  | .unknownProtocolVersion => "UnknownProtocolVersion"
  | .invalidEmptyPayload => "InvalidEmptyPayload"
  | .messageTooLarge => "MessageTooLarge"
  | .handshakePayloadTooLarge => "HandshakePayloadTooLarge"
  | .certificatePayloadTooLarge => "CertificatePayloadTooLarge"
  | .messageTooShort => "MessageTooShort"
  | .missingData field => s!"MissingData(\"{field}\")"
  | .trailingData field => s!"TrailingData(\"{field}\")"
  | .emptyList field => s!"IllegalEmptyList(\"{field}\")"
  | .emptyValue => "IllegalEmptyValue"
  | .emptyTicket => "EmptyTicketValue"
  | .noSignatureSchemes => "NoSignatureSchemes"
  | .unexpectedMessage name => s!"UnexpectedMessage(\"{name}\")"
  | .invalidChange => "InvalidCcs"
  | .invalidServerName => "InvalidServerName"
  | .invalidStatusType => "InvalidCertificateStatusType"
  | .unsupportedCompression => "UnsupportedCompression"
  | .duplicateExtension number => s!"DuplicateExtension({number})"
  | .unknownCertificateExtension => "UnknownCertificateExtension"
  | .unknownRetryExtension => "UnknownHelloRetryRequestExtension"
  | .keyNotLast => "PreSharedKeyIsNotFinalExtension"
  | .missingKeyExchange => "MissingKeyExchange"
  | .invalidKeyParameters => "InvalidDhParams"

/-- The alert that tells the peer about a corruption. -/
def Corruption.alert : Corruption → Alert
  | .duplicateExtension _ | .keyNotLast => .illegalParameter
  | .unknownRetryExtension => .unsupportedExtension
  | .certificatePayloadTooLarge => .badCertificate
  | _ => .decodeError

/-- What keeps two sides from agreeing on how to speak. -/
inductive Incompatibility where
  /-- The client insists on compression. -/
  | compression
  /-- The client does not say by which schemes it takes signatures. -/
  | schemesUnnamed
  /-- A hello that names versions names none that is spoken. -/
  | versionsOffered
  /-- A hello that names no versions is of one that is too old. -/
  | versionOffered
  /-- The one version that is spoken has to be named in a hello, and none is. -/
  | versionsUnnamed
  | groups
  | suites
  | points
  | schemes
  | shareUnnamed
  /-- The server picked a version that nobody speaks here. -/
  | versionUnknown
  /-- The server picked a version that is not to be spoken. -/
  | versionDisabled
  deriving DecidableEq, Repr, Inhabited

def Incompatibility.name : Incompatibility → String
  | .compression => "NullCompressionRequired"
  | .schemesUnnamed => "SignatureAlgorithmsExtensionRequired"
  | .versionsOffered => "Tls12NotOfferedOrEnabled"
  | .versionOffered => "Tls12NotOffered"
  | .versionsUnnamed => "SupportedVersionsExtensionRequired"
  | .groups => "NoKxGroupsInCommon"
  | .suites => "NoCipherSuitesInCommon"
  | .points => "UncompressedEcPointsRequired"
  | .schemes => "NoSignatureSchemesInCommon"
  | .shareUnnamed => "KeyShareExtensionRequired"
  | .versionUnknown => "ServerDoesNotSupportTls12Or13"
  | .versionDisabled => "ServerTlsVersionIsDisabledByOurConfig"

/-- The alert that tells the peer about an incompatibility. -/
def Incompatibility.alert : Incompatibility → Alert
  | .compression | .points => .illegalParameter
  | .versionsOffered | .versionOffered | .versionsUnnamed | .versionUnknown | .versionDisabled =>
    .protocolVersion
  | .schemesUnnamed | .groups | .suites | .schemes | .shareUnnamed => .handshakeFailure

/-- What a peer does against the rules. -/
inductive Misbehaviour where
  /-- Records of another type come between the parts of a message. -/
  | interleaved
  /-- Data that was not waited for comes between the parts of a message. -/
  | interleavedEarlyData
  | emptyRecords
  | warnings
  | change
  /-- Keys change while a message is under way. -/
  | unaligned
  | serverName
  | serverNameChanged
  | hashChanged
  | compressions
  | sharesTwice
  | compressorsTwice
  | earlyDataAgain
  | retryRefused
  | keyModesMissing
  | bindersMismatched
  | keyShare
  | versionOddlySelected
  | compressionSelected
  | extensionUnasked
  | extensionUnprotected
  | pointsSelected
  | suiteUnoffered
  | suiteUnusable
  | suiteChanged
  | shareMissing
  | shareOfOtherGroup
  | downgrade
  | sessionEchoed
  | retryOfOfferedGroup
  | retryForNothing
  | retryOfOtherSession
  | retryOfOtherVersion
  | retryOfOtherSuite
  | retryOfOtherGroup
  | retryOfHiddenHello
  | keyExchangeScheme
  | keyExchangeGroup
  | schemeUnadvertised
  deriving DecidableEq, Repr, Inhabited

def Misbehaviour.name : Misbehaviour → String
  | .interleaved => "MessageInterleavedWithHandshakeMessage"
  | .interleavedEarlyData => "RejectedEarlyDataInterleavedWithHandshakeMessage"
  | .emptyRecords => "TooManyEmptyFragments"
  | .warnings => "TooManyWarningAlertsReceived"
  | .change => "IllegalMiddleboxChangeCipherSpec"
  | .unaligned => "KeyEpochWithPendingFragment"
  | .serverName => "ServerNameMustContainOneHostName"
  | .serverNameChanged => "ServerNameDifferedOnRetry"
  | .hashChanged => "HandshakeHashVariedAfterRetry"
  | .compressions => "OfferedIncorrectCompressions"
  | .sharesTwice => "OfferedDuplicateKeyShares"
  | .compressorsTwice => "OfferedDuplicateCertificateCompressions"
  | .earlyDataAgain => "EarlyDataAttemptedInSecondClientHello"
  | .retryRefused => "RefusedToFollowHelloRetryRequest"
  | .keyModesMissing => "MissingPskModesExtension"
  | .bindersMismatched => "PskExtensionWithMismatchedIdsAndBinders"
  | .keyShare => "InvalidKeyShare"
  | .versionOddlySelected => "SelectedTls12UsingTls13VersionExtension"
  | .compressionSelected => "SelectedUnofferedCompression"
  | .extensionUnasked => "UnsolicitedServerHelloExtension"
  | .extensionUnprotected => "UnexpectedCleartextExtension"
  | .pointsSelected => "ServerHelloMustOfferUncompressedEcPoints"
  | .suiteUnoffered => "SelectedUnofferedCipherSuite"
  | .suiteUnusable => "SelectedUnusableCipherSuiteForVersion"
  | .suiteChanged => "SelectedDifferentCipherSuiteAfterRetry"
  | .shareMissing => "MissingKeyShare"
  | .shareOfOtherGroup => "WrongGroupForKeyShare"
  | .downgrade => "AttemptedDowngradeToTls12WhenTls13IsSupported"
  | .sessionEchoed => "ServerEchoedCompatibilitySessionId"
  | .retryOfOfferedGroup => "IllegalHelloRetryRequestWithOfferedGroup"
  | .retryForNothing => "IllegalHelloRetryRequestWithNoChanges"
  | .retryOfOtherSession => "IllegalHelloRetryRequestWithWrongSessionId"
  | .retryOfOtherVersion => "IllegalHelloRetryRequestWithUnsupportedVersion"
  | .retryOfOtherSuite => "IllegalHelloRetryRequestWithUnofferedCipherSuite"
  | .retryOfOtherGroup => "IllegalHelloRetryRequestWithUnofferedNamedGroup"
  | .retryOfHiddenHello => "IllegalHelloRetryRequestWithInvalidEch"
  | .keyExchangeScheme => "SignedKxWithWrongAlgorithm"
  | .keyExchangeGroup => "SelectedUnofferedKxGroup"
  | .schemeUnadvertised => "SignedHandshakeWithUnadvertisedSigScheme"

/-- The alert that tells the peer about its misbehaviour, which may be none. -/
def Misbehaviour.alert? : Misbehaviour → Option Alert
  | .interleaved | .interleavedEarlyData | .emptyRecords | .warnings | .serverNameChanged
  | .keyExchangeScheme | .keyExchangeGroup => none
  | .change | .unaligned => some .unexpectedMessage
  | .keyModesMissing | .shareMissing => some .missingExtension
  | .extensionUnasked | .extensionUnprotected | .retryOfHiddenHello => some .unsupportedExtension
  | .pointsSelected | .suiteUnoffered => some .handshakeFailure
  | _ => some .illegalParameter

/-- Why a certificate is refused. -/
inductive CertificateFault where
  /-- The bytes are no certificate. -/
  | badEncoding
  | unsupportedVersion
  /-- An extension that must not be passed over is not known. -/
  | unsupportedExtension
  /-- An extension is there twice. -/
  | invalidExtension
  /-- The part that is signed names another algorithm than the signature does. -/
  | algorithmMismatch
  | badSignature
  /-- A signature by the algorithm `signature` was claimed for a key of the kind `key`. -/
  | unsuitableKey (signature key : Bytes)
  /-- No chain leads to a trusted authority. -/
  | unknownIssuer
  /-- A certificate of an authority stands where one of a peer belongs. -/
  | authorityAsPeer
  /-- The peer was called `expected`, and the certificate speaks for `presented` only. -/
  | wrongName (expected : String) (presented : List String)
  deriving DecidableEq, Repr, Inhabited

/-- A list of alternatives: commas between them and `or` before the last. -/
def alternatives : List String → String
  | [] => ""
  | [one] => one
  | [one, other] => s!"{one} or {other}"
  | one :: rest => s!"{one}, {alternatives rest}"

def CertificateFault.message : CertificateFault → String
  | .badEncoding => "BadEncoding"
  | .unsupportedVersion => "Other(OtherError(UnsupportedCertVersion))"
  | .unsupportedExtension => "Other(OtherError(UnsupportedCriticalExtension))"
  | .invalidExtension => "Other(OtherError(ExtensionValueInvalid))"
  | .algorithmMismatch => "Other(OtherError(SignatureAlgorithmMismatch))"
  | .badSignature => "BadSignature"
  | .unsuitableKey signature key =>
    "UnsupportedSignatureAlgorithmForPublicKeyContext \x7b " ++
      s!"signature_algorithm_id: {signature.listing}, public_key_algorithm_id: {key.listing} \x7d"
  | .unknownIssuer => "UnknownIssuer"
  | .authorityAsPeer => "Other(OtherError(CaUsedAsEndEntity))"
  | .wrongName expected presented =>
    let validity := match presented with
      | [] => "is not valid for any names (according to its subjectAltName extension)"
      | names => s!"is only valid for {alternatives names}"
    s!"certificate not valid for name \"{expected}\"; certificate {validity}"

/-- The alert that tells the peer about a certificate fault. -/
def CertificateFault.alert : CertificateFault → Alert
  | .badEncoding | .wrongName .. => .badCertificate
  | .badSignature | .unsuitableKey .. => .decryptError
  | .unknownIssuer => .unknownCA
  | .unsupportedVersion | .unsupportedExtension | .invalidExtension | .algorithmMismatch
  | .authorityAsPeer => .certificateUnknown

/-- A fault of the protocol, found by one side. -/
inductive Fault where
  | corrupt (how : Corruption)
  /-- A record of another type than the one in turn. -/
  | unexpectedRecord (got : String) (wanted : List String)
  /-- A handshake message of another type than the one in turn. -/
  | unexpectedHandshake (got : String) (wanted : List String)
  /-- A record that does not open under the keys in force. -/
  | undecryptable
  | incompatible (why : Incompatibility)
  | misbehaved (how : Misbehaviour)
  | alerted (alert : Alert)
  | certificate (fault : CertificateFault)
  | noCertificates
  | general (text : String)
  deriving DecidableEq, Repr, Inhabited

/-- The text of a protocol fault. -/
def Fault.message : Fault → String
  | .corrupt how => s!"received corrupt message of type {how.text}"
  | .unexpectedRecord got wanted =>
    s!"received unexpected message: got {got} when expecting " ++ " or ".intercalate wanted
  | .unexpectedHandshake got wanted =>
    s!"received unexpected handshake message: got {got} when expecting " ++ " or ".intercalate wanted
  | .undecryptable => "cannot decrypt peer's message"
  | .incompatible why => s!"peer is incompatible: {why.name}"
  | .misbehaved how => s!"peer misbehaved: {how.name}"
  | .alerted alert => s!"received fatal alert: {alert.name}"
  | .certificate fault => s!"invalid peer certificate: {fault.message}"
  | .noCertificates => "peer sent no certificates"
  | .general text => s!"unexpected error: {text}"

/-- The alert that a side sends when it finds a fault, where the place where it is found asks for no
other; some faults are kept to itself. -/
def Fault.alert? : Fault → Option Alert
  | .corrupt how => some how.alert
  | .unexpectedRecord .. => some .unexpectedMessage
  | .unexpectedHandshake .. => some .unexpectedMessage
  | .undecryptable => some .badRecordMac
  | .incompatible why => some why.alert
  | .misbehaved how => how.alert?
  | .alerted _ => none
  | .certificate fault => some fault.alert
  | .noCertificates => some .certificateRequired
  | .general _ => none

/-- Why a handshake did not complete. -/
inductive HandshakeFault where
  | protocol (fault : Fault)
  | timedOut (millis : Nat)
  | hungUp
  /-- The stream failed, or a failure of another kind was met on the way. -/
  | other (text : String)
  deriving DecidableEq, Repr, Inhabited

def HandshakeFault.message : HandshakeFault → String
  | .protocol fault => fault.message
  | .timedOut millis => s!"timed out after {millis} ms"
  | .hungUp => "peer closed the connection during the handshake"
  | .other text => text

/-- Why key material is unusable. -/
inductive KeyFault where
  | unparsable
  | mismatch
  deriving DecidableEq, Repr, Inhabited

def KeyFault.message : KeyFault → String
  | .unparsable => (Fault.general "failed to parse private key as RSA, ECDSA, or EdDSA").message
  | .mismatch => "keys may not be consistent: KeyMismatch"

/-- Why an identity, a certificate chain with its key, cannot be used. -/
inductive IdentityFault where
  | key (fault : KeyFault)
  | certificate (fault : CertificateFault)
  deriving DecidableEq, Repr, Inhabited

def IdentityFault.message : IdentityFault → String
  | .key fault => fault.message
  | .certificate fault => (Fault.certificate fault).message

/-- Why TLS cannot be set up. -/
inductive ConfigFault where
  | unsupportedProtocol (name : String)
  /-- A certificate without a key, or a key without a certificate. -/
  | unpaired
  /-- A file that cannot be used. -/
  | file (path reason : String)
  | authority (fault : CertificateFault)
  | identity (fault : IdentityFault)
  | serverName (host : String)
  | noIdentity
  | other (text : String)
  deriving DecidableEq, Repr, Inhabited

def ConfigFault.message : ConfigFault → String
  | .unsupportedProtocol name => s!"unsupported protocol '{name}'"
  | .unpaired => "certificate and key must be given together"
  | .file path reason => s!"{path}: {reason}"
  | .authority fault => s!"invalid CA certificate: {(Fault.certificate fault).message}"
  | .identity fault => s!"client certificate: {fault.message}"
  | .serverName host => s!"invalid server name '{host}'"
  | .noIdentity => "server side needs a certificate and key"
  | .other text => text

end SessionEngine.Tls
