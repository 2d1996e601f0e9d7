import SessionEngine.Text.Base64

/-! PEM: sections of base64 between a line that begins and a line that ends them, with any text
around. The main statement is `lines_flatten`: cutting a text into lines loses nothing. -/

namespace SessionEngine.Tls.Pem

/-- The kinds of section that are known. -/
inductive Kind where
  | certificate
  | publicKey
  | rsaPrivateKey
  | privateKey
  | ecPrivateKey
  | revocationList
  | certificateRequest
  | helloConfig
  deriving DecidableEq, Repr, Inhabited

def Kind.label : Kind → String
  | .certificate => "CERTIFICATE"
  | .publicKey => "PUBLIC KEY"
  | .rsaPrivateKey => "RSA PRIVATE KEY"
  | .privateKey => "PRIVATE KEY"
  | .ecPrivateKey => "EC PRIVATE KEY"
  | .revocationList => "X509 CRL"
  | .certificateRequest => "CERTIFICATE REQUEST"
  | .helloConfig => "ECHCONFIG"

/-- All kinds of section. -/
def Kind.all : List Kind :=
  [.certificate, .publicKey, .rsaPrivateKey, .privateKey, .ecPrivateKey, .revocationList,
   .certificateRequest, .helloConfig]

/-- The label of a private key under a password. -/
def encryptedLabel : String := "ENCRYPTED PRIVATE KEY"

def Kind.ofLabel? (label : Bytes) : Option Kind :=
  Kind.all.find? fun kind => Bytes.ofString kind.label == label

/-- A section that was read whole. -/
structure Section where
  label : Bytes
  content : Bytes
  deriving DecidableEq, Repr

/-- Why a text cannot be read to its end. -/
inductive Fault where
  /-- The text ends within a section. -/
  | unterminated (label : Bytes)
  /-- A line starts like the beginning of a section and does not end like one. -/
  | illegalStart (line : Bytes)
  | base64 (fault : Text.Base64.Fault)
  deriving DecidableEq, Repr, Inhabited

/-- The text of a fault. -/
def Fault.message : Fault → String
  | .unterminated label => s!"missing section end marker: {label.listing}"
  | .illegalStart line => s!"illegal section start: {line.listing}"
  | .base64 fault => s!"base64 decode error: {fault.text}"

/-- Whether a byte ends a line; a line feed after a carriage return is a line of its own. -/
def endsLine (b : UInt8) : Bool := b == 10 || b == 13

/-- The lines of `text`, each with the byte that ends it; `line` holds the bytes read of the first
one, last byte first. -/
def linesFrom (line : Bytes) : Bytes → List Bytes
  | [] => if line.isEmpty then [] else [line.reverse]
  | b :: rest => if endsLine b then (b :: line).reverse :: linesFrom [] rest else linesFrom (b :: line) rest

def lines (text : Bytes) : List Bytes := linesFrom [] text

theorem flatten_linesFrom (line text : Bytes) :
    (linesFrom line text).flatten = line.reverse ++ text := by
  induction text generalizing line with
  | nil => unfold linesFrom; split <;> simp_all
  | cons b rest ih => unfold linesFrom; split <;> simp [ih]

/-- Cutting a text into lines loses nothing. -/
theorem lines_flatten (text : Bytes) : (lines text).flatten = text := by
  rw [lines, flatten_linesFrom]
  rfl

def hyphen : UInt8 := 45

/-- What a line that begins a section starts with. -/
def beginMark : Bytes := Bytes.ofString "-----BEGIN "

/-- What a line that ends the section `label` starts with. -/
def endMark (label : Bytes) : Bytes := Bytes.ofString "-----END " ++ label ++ Bytes.ofString "-----"

/-- The label in `rest`, the part of a line after the mark that begins a section: what stands before
five hyphens at the end, blanks and line ends among and after them aside. -/
def label? (rest : Bytes) : Option Bytes :=
  let filler (b : UInt8) := b == hyphen || b == 32 || endsLine b
  let tail := rest.reverse.takeWhile filler
  let body := (rest.reverse.dropWhile filler).reverse
  if tail.count hyphen = 5 then some (body ++ tail.reverse.takeWhile (· ≠ hyphen)) else none

/-- The sections in `lines` and the fault that ends the reading, if any. `opened` is the label of the
section that is open, and `text` the base64 read of it. Bad base64 is a fault in a section of a
known kind; a section of another kind is then skipped. -/
def sectionsFrom (opened : Option Bytes) (text : Bytes) :
    List Bytes → List Section × Option Fault
  | [] => ([], opened.map .unterminated)
  | line :: rest =>
    match Bytes.after? beginMark line with
    | some tail =>
      match label? tail with
      | none => ([], some (.illegalStart line))
      | some label => sectionsFrom (some label) text rest
    | none =>
      match opened with
      | none => sectionsFrom none text rest
      | some label =>
        if (Bytes.after? (endMark label) line).isNone then
          sectionsFrom opened (text ++ line) rest
        else match Text.Base64.decode text with
          | .error fault =>
            if (Kind.ofLabel? label).isNone then sectionsFrom none [] rest
            else ([], some (.base64 fault))
          | .ok content =>
            let (sections, fault) := sectionsFrom none [] rest
            (⟨label, content⟩ :: sections, fault)

/-- The sections in `text` and the fault that ends the reading, if any. -/
def sections (text : Bytes) : List Section × Option Fault := sectionsFrom none [] (lines text)

/-- The characters to a line of base64. -/
def width : Nat := 64

/-- What follows the first mark of a section's beginning, with a line feed or nothing before it. -/
def afterBegin? : (atLineStart : Bool) → Bytes → Option Bytes
  | true, text =>
    match Bytes.after? beginMark text, text with
    | some rest, _ => some rest
    | none, b :: rest => if b = 0 then none else afterBegin? (b == 10) rest
    | none, [] => none
  | false, b :: rest => if b = 0 then none else afterBegin? (b == 10) rest
  | false, [] => none
  termination_by _ text => text.length

def withoutLineEnd? (text : Bytes) : Option Bytes :=
  match text.reverse with
  | 10 :: 13 :: rest => some rest.reverse
  | b :: rest => if endsLine b then some rest.reverse else none
  | [] => none

/-- `text` without the line end at its start, if there is one. -/
def afterLineEnd? : Bytes → Option Bytes
  | 13 :: 10 :: rest => some rest
  | b :: rest => if endsLine b then some rest else none
  | [] => none

theorem length_lt_of_afterLineEnd? {text rest : Bytes} (h : afterLineEnd? text = some rest) :
    rest.length < text.length := by
  unfold afterLineEnd? at h
  split at h
  · simp only [Option.some.injEq] at h
    simp only [← h, List.length_cons]
    omega
  · split at h
    · simp only [Option.some.injEq] at h
      simp only [← h, List.length_cons]
      omega
    · simp at h
  · simp at h

/-- The rows of `text` put together, all of them but the last of full width. -/
def joinRows? (text : Bytes) : Option Bytes :=
  if text.length ≤ width then some ((withoutLineEnd? text).getD text)
  else
    match h : afterLineEnd? (text.drop width) with
    | none => none
    | some rest =>
      have : rest.length < text.length := by
        have := length_lt_of_afterLineEnd? h
        rw [List.length_drop] at this
        omega
      (joinRows? rest).map (text.take width ++ ·)
  termination_by text.length

/-- The content of the section `label`, if it is the first one and `text` ends with it, read
strictly. -/
def sole? (label : String) (text : Bytes) : Option Bytes := do
  let rest ← afterBegin? true text
  let rest ← afterLineEnd? (← Bytes.after? (Bytes.ofString (label ++ "-----")) rest)
  let tail := (withoutLineEnd? rest).getD rest
  let before ← Bytes.after? (endMark (Bytes.ofString label)).reverse tail.reverse
  Text.Base64.decodeStrict? (← joinRows? (← withoutLineEnd? before.reverse))

/-- A section in its written form. -/
def encode (label : String) (content : Bytes) : Bytes :=
  let rows := Bytes.pieces width (Text.Base64.encode content)
  Bytes.ofString s!"-----BEGIN {label}-----\n" ++ (rows.map (· ++ [Bytes.newline])).flatten ++
    Bytes.ofString s!"-----END {label}-----\n"

end SessionEngine.Tls.Pem
