import SessionEngine.Framing.Split

/-! Length framing: a message is a header of four bytes, which write the length of the body
big-endian, and the body. The main statements are `find_frame_append`, by which every written frame
is found again whatever follows it, and `find_eq_error_iff`, which says which data is refused. -/

namespace SessionEngine.Length

/-- The bytes of a header. -/
def headerLength : Nat := 4

/-- The longest body that is accepted unless another limit is given: 16 MiB. -/
def defaultLimit : Nat := 16 * 1024 * 1024

/-- The frame around `body`: its length modulo `UInt32.size` and the body itself. -/
def frame (body : Bytes) : Bytes := Bytes.word body.length ++ body

/-- The body length that the header of `data` announces. -/
def announced (data : Bytes) : Nat := Bytes.bigEndian (data.take headerLength)

/-- The answer of length framing about `data` when bodies may have up to `limit` bytes: an announced
length over the limit is refused as soon as the header is there. -/
def find (limit : Nat) (data : Bytes) : Except SplitFault Split :=
  if data.length < headerLength then .ok .needMore
  else if limit < announced data then .error (.frameTooLarge (announced data) limit)
  else if data.length < headerLength + announced data then .ok .needMore
  else .ok (.complete (headerLength + announced data))

theorem announced_frame_append (body rest : Bytes) :
    announced (frame body ++ rest) = body.length % UInt32.size := by
  have : (frame body ++ rest).take headerLength = Bytes.word body.length := by
    rw [frame, List.append_assoc]
    exact List.take_left' rfl
  rw [announced, this, Bytes.bigEndian_word]

/-- A frame whose body the limit admits is found whole, whatever follows it. -/
theorem find_frame_append {limit : Nat} {body : Bytes} (rest : Bytes)
    (hlimit : body.length ≤ limit) (hword : body.length < UInt32.size) :
    find limit (frame body ++ rest) = .ok (.complete (frame body).length) := by
  have ha := announced_frame_append body rest
  rw [Nat.mod_eq_of_lt hword] at ha
  have hlen : (frame body).length = headerLength + body.length := by simp [frame, headerLength]
  have h1 : ¬ (frame body ++ rest).length < headerLength := by
    rw [List.length_append, hlen]; omega
  have h2 : ¬ (frame body ++ rest).length < headerLength + body.length := by
    rw [List.length_append, hlen]; omega
  rw [find, if_neg h1, ha, if_neg (by omega), if_neg h2, hlen]

/-- Data is refused exactly when its header is there and announces a body over the limit. -/
theorem find_eq_error_iff {limit : Nat} {data : Bytes} {fault : SplitFault} :
    find limit data = .error fault ↔
      headerLength ≤ data.length ∧ limit < announced data ∧
        fault = .frameTooLarge (announced data) limit := by
  unfold find
  split
  next h => exact ⟨fun h' => by simp at h', fun h' => absurd h'.1 (by omega)⟩
  next h =>
    split
    next hbig =>
      exact ⟨fun h' => ⟨by omega, hbig, by simpa using h'.symm⟩, fun h' => by rw [h'.2.2]⟩
    next hbig =>
      split <;> exact ⟨fun h' => by simp at h', fun h' => absurd h'.2.1 hbig⟩

end SessionEngine.Length
